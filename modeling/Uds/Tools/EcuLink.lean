import Uds.Ecusim.Runs
import Uds.Tools.Client
/-!
# The client and the simulator

A reliable transport between `UdsClient` and the C simulator: a request that is
sent is dispatched at once, and what the dispatch answers waits to be received.
-/

namespace Uds.Tools

open Uds.Base Uds.Core Uds.Ecusim

/-- The far end of the client's transport. -/
structure EcuLink where
  sim : EcuSimulator
  /-- How many requests have been dispatched. -/
  dispatched : Nat
  /-- The responses that have not been received yet. -/
  responses : List (List UInt8)

/-- The transport, where the `n`-th dispatch reads its clock and random bytes
from `envs n`. -/
def ecuTransport (envs : Nat → Env) : Transport EcuLink where
  send req := ⟨fun link =>
    let out := ecusimDispatch link.sim (envs link.dispatched) req ecusimMaxPdu
    (.ok (),
      { sim := out.1
        dispatched := link.dispatched + 1
        responses := link.responses ++ (if out.2.length > 0 then [out.2] else []) })⟩
  recv := ⟨fun link =>
    match link.responses with
    | [] => (.error .udsTimeoutError, link)
    | resp :: rest => (.ok resp, { link with responses := rest })⟩

/-- A service that succeeds answers the client's request. -/
theorem request_served (svc : Service) {envs : Nat → Env} {sim sim' : EcuSimulator} {n : Nat}
    {args resp : List UInt8}
    (hserve : serve sim (envs n) (svc.sid :: args) ecusimMaxPdu svc = (sim', .ok resp))
    (hpos : resp.head? = some (svc.sid + 0x40)) :
    (request (ecuTransport envs) (svc.sid :: args)).run ⟨sim, n, []⟩ =
      (.ok resp, ⟨sim', n + 1, []⟩) := by
  have hdispatch : ecusimDispatch sim (envs n) (svc.sid :: args) ecusimMaxPdu = (sim', resp) := by
    rw [ecusimDispatch_sid, hserve]
    rfl
  have hlen : resp.length > 0 := by
    cases resp with
    | nil => cases hpos
    | cons b resp => exact Nat.succ_pos _
  have hsend : ((ecuTransport envs).send (svc.sid :: args)).run ⟨sim, n, []⟩ =
      (.ok (), ⟨sim', n + 1, [resp]⟩) := by
    simp only [ecuTransport, hdispatch, if_pos hlen, List.nil_append]
  apply request_run _ hsend rfl
  rw [hpos]
  intro hnrc
  exact sid_add_ne svc (Option.some.inj hnrc)

section Answered

variable {envs : Nat → Env} {data resp : List UInt8} {sim : EcuSimulator} {n : Nat}
  {link : EcuLink}

theorem awaitResponse_empty (attempts : Nat) :
    (awaitResponse (ecuTransport envs) data attempts).run ⟨sim, n, []⟩ ≠ (.ok resp, link) := by
  cases attempts with
  | zero => exact Py.run_raise_ne
  | succ attempts =>
      intro h
      obtain ⟨response, s₁, hrecv, -⟩ := Py.run_bind_ok h
      cases hrecv

/-- What a request returns is the answer of its own dispatch. -/
theorem request_answered
    (h : (request (ecuTransport envs) data).run ⟨sim, n, []⟩ = (.ok resp, link)) :
    ecusimDispatch sim (envs n) data ecusimMaxPdu = (link.sim, resp) ∧
      link = ⟨link.sim, n + 1, []⟩ := by
  obtain ⟨_, s₁, hsend, hawait⟩ := Py.run_bind_ok h
  cases hsend
  cases hout : ecusimDispatch sim (envs n) data ecusimMaxPdu with
  | mk sim' answer =>
      rw [hout] at hawait
      by_cases hlen : answer.length > 0
      · rw [if_pos hlen] at hawait
        obtain ⟨response, s₂, hrecv, hrest⟩ := Py.run_bind_ok hawait
        cases hrecv
        split at hrest
        · split at hrest
          · exact absurd hrest (awaitResponse_empty _)
          · exact absurd hrest (Py.run_raise_ne)
        · cases hrest
          exact ⟨rfl, rfl⟩
      · rw [if_neg hlen] at hawait
        exact absurd hawait (awaitResponse_empty _)

/-- Behind a positive response there is a service that succeeded. -/
theorem serve_of_request (svc : Service) {args : List UInt8}
    (h : (request (ecuTransport envs) (svc.sid :: args)).run ⟨sim, n, []⟩ = (.ok resp, link))
    (hpos : resp.head? = some (svc.sid + 0x40)) :
    serve sim (envs n) (svc.sid :: args) ecusimMaxPdu svc = (link.sim, .ok resp) ∧
      link = ⟨link.sim, n + 1, []⟩ := by
  obtain ⟨hdispatch, hlink⟩ := request_answered h
  refine ⟨?_, hlink⟩
  have hstep : ecusimStep sim ⟨envs n, svc.sid :: args⟩ = (link.sim, resp) := hdispatch
  have hturn : Positive svc (turn ecusimStep sim ⟨envs n, svc.sid :: args⟩) := by
    refine ⟨rfl, ?_⟩
    change (ecusimStep sim ⟨envs n, svc.sid :: args⟩).2.head? = _
    rw [hstep, hpos]
  have hok := serve_of_positive hturn
  rw [hstep] at hok
  rw [ecusimDispatch_sid] at hdispatch
  have hsim := congrArg Prod.fst hdispatch
  exact Prod.ext hsim hok

end Answered

end Uds.Tools
