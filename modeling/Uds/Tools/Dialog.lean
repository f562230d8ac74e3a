import Uds.Ecusim.ResponseFormat
import Uds.Tools.EcuLink
import Uds.Tools.Requests
/-!
# Programs that use the client

A program makes requests and goes on with their results, exceptions included.  It runs
over a transport, or as an agent on the bus over `IsoTpTransport`.
-/

namespace Uds.Tools

open Uds.Base Uds.Can Uds.Ecusim

/-- A program that makes requests, and sends what has no response. -/
inductive Dialog (α : Type) where
  | ret (a : α)
  | request (data : List UInt8) (next : PyResult → Dialog α)
  | send (data : List UInt8) (next : Except PyError Unit → Dialog α)

namespace Dialog

variable {α β σ : Type}

def bind : Dialog α → (α → Dialog β) → Dialog β
  | ret a, k => k a
  | request data next, k => request data fun result => (next result).bind k
  | send data next, k => send data fun result => (next result).bind k

/-- A program that may raise, and then the rest of the program. -/
def andThen (d : Dialog (Except PyError α)) (k : α → Dialog (Except PyError β)) :
    Dialog (Except PyError β) :=
  d.bind fun result => match result with
    | .ok a => k a
    | .error e => ret (.error e)

/-- The program over a transport. -/
def run (transport : Transport σ) : Dialog α → σ → α × σ
  | ret a, s => (a, s)
  | request data next, s =>
    let out := (Tools.request transport data).run s
    (next out.1).run transport out.2
  | send data next, s =>
    let out := (transport.send data).run s
    (next out.1).run transport out.2

/-- The program on the bus. -/
def onBus (tp : IsoTpTransport) : Dialog α → Agent CanFrame α
  | ret a => .ret a
  | request data next => (requestOnBus tp data).bind fun result => (next result).onBus tp
  | send data next => (Tools.onBus tp (tp.send data)).bind fun result => (next result).onBus tp

theorem run_bind (transport : Transport σ) (d : Dialog α) (k : α → Dialog β) (s : σ) :
    (d.bind k).run transport s = (k (d.run transport s).1).run transport (d.run transport s).2 := by
  induction d generalizing s with
  | ret a => rfl
  | request data next ih => exact ih _ _
  | send data next ih => exact ih _ _

/-- A program on the bus keeps to the identifiers of its transport. -/
theorem recvsOnly_onBus (tp : IsoTpTransport) (d : Dialog α) :
    UsesIds tp.txId tp.rxId (d.onBus tp) := by
  induction d with
  | ret a => exact .ret a
  | request data next ih => exact (recvsOnly_requestOnBus tp data).bind ih
  | send data next ih => exact (pySendsOnly_send tp data).bind ih

end Dialog

/-! ## A server that answers at once -/

/-- What `_request` makes of the only answer that it gets; `[]` is no answer. -/
def outcome (resp : List UInt8) : PyResult :=
  if resp = [] then .error .udsTimeoutError
  else if resp.length ≥ 3 ∧ resp.getD 0 0 = sidNrc then
    -- after a pending response nothing more comes
    if resp.getD 2 0 = nrcResponsePending then .error .udsTimeoutError
    else .error (.udsNrcError (resp.getD 2 0) (resp.getD 1 0) "")
  else .ok resp

namespace Dialog

variable {α S : Type} (answer : S → List UInt8 → S × List UInt8)

/-- The program against a server that answers a message with at most one other. -/
def play : Dialog α → S → α × S
  | ret a, s => (a, s)
  | request data next, s =>
    let out := answer s data
    (next (outcome out.2)).play out.1
  | send data next, s =>
    let out := answer s data
    (next (.ok ())).play out.1

/-- All messages of the program have the length of a PDU, and what it sends without
awaiting a response has none. -/
def Fits : Dialog α → S → Prop
  | ret _, _ => True
  | request data next, s =>
    (1 ≤ data.length ∧ data.length ≤ 4095) ∧
      (next (outcome (answer s data).2)).Fits (answer s data).1
  | send data next, s =>
    (1 ≤ data.length ∧ data.length ≤ 4095) ∧ (answer s data).2 = [] ∧
      (next (.ok ())).Fits (answer s data).1

variable {answer} {β : Type}

theorem Fits.bind {d : Dialog α} {k : α → Dialog β} {s : S} (hd : d.Fits answer s)
    (hk : (k (d.play answer s).1).Fits answer (d.play answer s).2) :
    (d.bind k).Fits answer s := by
  induction d generalizing s with
  | ret a => exact hk
  | request data next ih => exact ⟨hd.1, ih _ hd.2 hk⟩
  | send data next ih => exact ⟨hd.1, hd.2.1, ih _ hd.2.2 hk⟩

end Dialog

/-- The C simulator with the number of its dispatches. -/
def ecuAnswer (envs : Nat → Env) (s : EcuSimulator × Nat) (req : List UInt8) :
    (EcuSimulator × Nat) × List UInt8 :=
  let out := ecusimDispatch s.1 (envs s.2) req ecusimMaxPdu
  ((out.1, s.2 + 1), out.2)

/-- A response fits into the buffer of the simulator. -/
theorem length_ecuAnswer_le (envs : Nat → Env) (s : EcuSimulator × Nat) (req : List UInt8) :
    (ecuAnswer envs s req).2.length ≤ 4095 :=
  length_ecusimDispatch_le s.1 (envs s.2) req

section Link

variable {α : Type} (envs : Nat → Env)

theorem awaitResponse_none (data : List UInt8) (attempts : Nat) (sim : EcuSimulator) (n : Nat) :
    (awaitResponse (ecuTransport envs) data (attempts + 1)).run ⟨sim, n, []⟩ =
      (.error .udsTimeoutError, ⟨sim, n, []⟩) := by
  unfold awaitResponse
  exact Py.run_bind_error rfl

/-- A request at the link ends as the answer says. -/
theorem request_outcome (data : List UInt8) (sim : EcuSimulator) (n : Nat) :
    (request (ecuTransport envs) data).run ⟨sim, n, []⟩ =
      (outcome (ecuAnswer envs (sim, n) data).2,
        ⟨(ecuAnswer envs (sim, n) data).1.1, n + 1, []⟩) := by
  have hsend : ((ecuTransport envs).send data).run ⟨sim, n, []⟩ =
      (.ok (), ⟨(ecuAnswer envs (sim, n) data).1.1, n + 1,
        if (ecuAnswer envs (sim, n) data).2.length > 0 then [(ecuAnswer envs (sim, n) data).2]
        else []⟩) := rfl
  rw [request, Py.run_bind hsend]
  generalize (ecuAnswer envs (sim, n) data).1.1 = sim'
  generalize (ecuAnswer envs (sim, n) data).2 = resp
  unfold outcome
  by_cases hempty : resp = []
  · rw [if_pos hempty, if_neg (by rw [hempty]; exact Nat.lt_irrefl 0)]
    exact awaitResponse_none envs data maxPendingRetries sim' (n + 1)
  · rw [if_neg hempty, if_pos (List.length_pos_iff.mpr hempty)]
    have hrecv : ((ecuTransport envs).recv).run ⟨sim', n + 1, [resp]⟩ =
        (.ok resp, ⟨sim', n + 1, []⟩) := rfl
    rw [awaitResponse, Py.run_bind hrecv]
    by_cases hnrc : resp.length ≥ 3 ∧ resp.getD 0 0 = sidNrc
    · rw [if_pos hnrc, if_pos hnrc]
      by_cases hpending : resp.getD 2 0 = nrcResponsePending
      · rw [if_pos hpending, if_pos hpending]
        exact awaitResponse_none envs data 2 sim' (n + 1)
      · rw [if_neg hpending, if_neg hpending]
        rfl
    · rw [if_neg hnrc, if_neg hnrc]
      rfl

/-- A dialog at the link is one with the answers of the simulator. -/
theorem run_ecuTransport (d : Dialog α) {s : EcuSimulator × Nat}
    (hfits : d.Fits (ecuAnswer envs) s) :
    d.run (ecuTransport envs) ⟨s.1, s.2, []⟩ =
      ((d.play (ecuAnswer envs) s).1,
        ⟨(d.play (ecuAnswer envs) s).2.1, (d.play (ecuAnswer envs) s).2.2, []⟩) := by
  induction d generalizing s with
  | ret a => rfl
  | request data next ih =>
      rw [Dialog.run, request_outcome]
      exact ih _ hfits.2
  | send data next ih =>
      obtain ⟨-, hnone, hrest⟩ := hfits
      have hsend : ((ecuTransport envs).send data).run ⟨s.1, s.2, []⟩ =
          (.ok (), ⟨(ecuAnswer envs s data).1.1, s.2 + 1,
            if (ecuAnswer envs s data).2.length > 0 then [(ecuAnswer envs s data).2] else []⟩) :=
        rfl
      rw [hnone, if_neg (by exact Nat.lt_irrefl 0)] at hsend
      rw [Dialog.run, hsend]
      exact ih _ hrest

end Link

end Uds.Tools
