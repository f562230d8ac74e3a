import Mathlib.Data.List.Perm.Basic
import Uds.Base.Machine
import Uds.Ecusim.ResponseFormat
import Uds.Tools.Client
/-!
# Matching answers to requests

`UdsClient` on a bus whose replies, each one message of the transport, arrive in
any order and after any delay.  A reply on the bus carries the number of the
request that it answers; the client sees the payload only.
-/

namespace Uds.Tools

open Uds.Base Uds.Core Uds.Ecusim

/-! ## The ECU -/

/-- `resp` is a negative or a positive response to `data`. -/
def IsReply (data resp : List UInt8) : Prop :=
  ∃ sid, data.head? = some sid ∧
    ((∃ nrc, resp = [sidNrc, sid, nrc]) ∨ (resp.head? = some (sid + 0x40) ∧ sid + 0x40 ≠ sidNrc))

/-- What `_request` takes for a negative response. -/
def IsNegative (resp : List UInt8) : Prop := resp.length ≥ 3 ∧ resp.getD 0 0 = sidNrc

/-- RESPONSE_PENDING, as `_request` sees it. -/
def Pending (resp : List UInt8) : Prop := IsNegative resp ∧ resp.getD 2 0 = nrcResponsePending

instance (resp : List UInt8) : Decidable (IsNegative resp) := inferInstanceAs (Decidable (_ ∧ _))

instance (resp : List UInt8) : Decidable (Pending resp) := inferInstanceAs (Decidable (_ ∧ _))

theorem IsReply.of_negative {data resp : List UInt8} (h : IsReply data resp)
    (hneg : IsNegative resp) :
    ∃ sid, data.head? = some sid ∧ resp = [sidNrc, sid, resp.getD 2 0] := by
  obtain ⟨sid, hdata, ⟨nrc, rfl⟩ | ⟨hhead, hne⟩⟩ := h
  · exact ⟨sid, hdata, rfl⟩
  · cases resp with
    | nil => cases hhead
    | cons b resp =>
        have hb : b = sid + 0x40 := Option.some.inj hhead
        exact absurd (hb.symm.trans hneg.2) hne

theorem IsReply.of_positive {data resp : List UInt8} (h : IsReply data resp)
    (hpos : ¬IsNegative resp) :
    ∃ sid, data.head? = some sid ∧ resp.head? = some (sid + 0x40) := by
  obtain ⟨sid, hdata, ⟨nrc, rfl⟩ | ⟨hhead, -⟩⟩ := h
  · exact absurd ⟨Nat.le_refl 3, rfl⟩ hpos
  · exact ⟨sid, hdata, hhead⟩

section Await

variable {σ : Type} {transport : Transport σ} {data resp : List UInt8} {s s' : σ}

theorem awaitResponse_pending (attempts : Nat) (hrecv : transport.recv.run s = (.ok resp, s'))
    (h : Pending resp) :
    (awaitResponse transport data (attempts + 1)).run s =
      (awaitResponse transport data attempts).run s' := by
  obtain ⟨⟨hlen, hhead⟩, hnrc⟩ := h
  rw [awaitResponse, Py.run_bind hrecv, if_pos ⟨hlen, hhead⟩, if_pos hnrc]

theorem awaitResponse_negative (attempts : Nat) (hrecv : transport.recv.run s = (.ok resp, s'))
    (hneg : IsNegative resp) (hnot : ¬Pending resp) :
    (awaitResponse transport data (attempts + 1)).run s =
      (.error (.udsNrcError (resp.getD 2 0) (resp.getD 1 0) ""), s') := by
  have hnrc : resp.getD 2 0 ≠ nrcResponsePending := fun hnrc => hnot ⟨hneg, hnrc⟩
  obtain ⟨hlen, hhead⟩ := hneg
  rw [awaitResponse, Py.run_bind hrecv, if_pos ⟨hlen, hhead⟩, if_neg hnrc]
  rfl

theorem awaitResponse_positive (attempts : Nat) (hrecv : transport.recv.run s = (.ok resp, s'))
    (hpos : ¬IsNegative resp) :
    (awaitResponse transport data (attempts + 1)).run s = (.ok resp, s') := by
  have hnot : ¬(resp.length ≥ 3 ∧ resp.getD 0 0 = sidNrc) := hpos
  rw [awaitResponse, Py.run_bind hrecv, if_neg hnot, Py.run_pure]

end Await

/-- An ECU answers a request with any number of replies. -/
structure Ecu (σ : Type) where
  serve : σ → List UInt8 → σ × List (List UInt8)
  isReply : ∀ s data, ∀ resp ∈ (serve s data).2, IsReply data resp

theorem isReply_ecusimDispatch {sim : EcuSimulator} {env : Env} {data : List UInt8} {n : Nat}
    (h : (ecusimDispatch sim env data n).2 ≠ []) :
    IsReply data (ecusimDispatch sim env data n).2 := by
  cases data with
  | nil => exact absurd rfl h
  | cons sid args =>
      rcases ecusimDispatch_format sim env sid args n h with ⟨nrc, -, hresp⟩ | ⟨svc, rfl, hecho, -⟩
      · exact ⟨sid, rfl, Or.inl ⟨nrc, hresp⟩⟩
      · obtain ⟨params, more, rest, -, -, hresp⟩ := hecho
        refine ⟨svc.sid, rfl, Or.inr ⟨?_, sid_add_ne svc⟩⟩
        rw [hresp]
        rfl

/-- The simulator; its `n`-th dispatch reads its clock and random bytes from
`envs n`. -/
def ecusim (envs : Nat → Env) : Ecu (EcuSimulator × Nat) where
  serve s data :=
    let out := ecusimDispatch s.1 (envs s.2) data ecusimMaxPdu
    ((out.1, s.2 + 1), if out.2.length > 0 then [out.2] else [])
  isReply := by
    intro s data resp hresp
    simp only at hresp
    split at hresp
    case isTrue hlen =>
      rw [List.mem_singleton.mp hresp]
      exact isReply_ecusimDispatch (List.ne_nil_of_length_pos hlen)
    case isFalse => cases hresp

/-! ## The bus -/

structure Reply where
  /-- The number of the request that the ECU was serving. -/
  request : Nat
  payload : List UInt8

structure Bus (σ : Type) where
  ecu : σ
  /-- How many requests the ECU has served. -/
  served : Nat
  /-- How often the transport has been called. -/
  calls : Nat
  inFlight : List Reply
  /-- The reply that the client has received last. -/
  received : Option Reply

def Bus.init {σ : Type} (s : σ) : Bus σ := ⟨s, 0, 0, [], none⟩

/-- What becomes of a call of the transport. -/
inductive Outcome where
  /-- A sent request is served; a receiver gets the reply at this position. -/
  | completed (i : Nat)
  | timeout
  /-- The frames of the reply at this position are not those that are awaited. -/
  | unexpected (i : Nat) (message : String)

section Bus

variable {σ : Type} (ecu : Ecu σ)

/-- The ECU serves `data`, and its replies are on their way. -/
def Bus.serve (bus : Bus σ) (data : List UInt8) : Bus σ :=
  let out := ecu.serve bus.ecu data
  { bus with
      ecu := out.1
      served := bus.served + 1
      calls := bus.calls + 1
      inFlight := bus.inFlight ++ out.2.map (Reply.mk bus.served) }

/-- The transport over the bus; `sched` decides what becomes of each call. -/
def busTransport (sched : Bus σ → Outcome) : Transport (Bus σ) where
  send data := ⟨fun bus =>
    match sched bus with
    | .completed _ => (.ok (), bus.serve ecu data)
    | .timeout => (.error .udsTimeoutError, { bus with calls := bus.calls + 1 })
    | .unexpected i message =>
      (.error (.udsProtocolError message),
        { bus with calls := bus.calls + 1, inFlight := bus.inFlight.eraseIdx i })⟩
  recv := ⟨fun bus =>
    match sched bus with
    | .completed i =>
      match bus.inFlight[i]? with
      | some r =>
        (.ok r.payload,
          { bus with
              calls := bus.calls + 1
              inFlight := bus.inFlight.eraseIdx i
              received := some r })
      | none => (.error .udsTimeoutError, { bus with calls := bus.calls + 1 })
    | .timeout => (.error .udsTimeoutError, { bus with calls := bus.calls + 1 })
    | .unexpected i message =>
      (.error (.udsProtocolError message),
        { bus with calls := bus.calls + 1, inFlight := bus.inFlight.eraseIdx i })⟩

/-- A result of `_request`, and the reply that was received last. -/
abbrev Answer := Except PyError (List UInt8) × Option Reply

/-- One call of `_request`. -/
def clientStep (sched : Bus σ → Outcome) (bus : Bus σ) (data : List UInt8) : Bus σ × Answer :=
  let out := (request (busTransport ecu sched) data).run bus
  (out.2, out.1, out.2.received)

end Bus

/-! ## Matching -/

/-- What is returned, or raised as `UdsNrcError`, is a reply from `own` to `data`. -/
def Matches (own : Reply → Prop) (data : List UInt8) : Answer → Prop
  | (.ok resp, received) =>
    (∃ r, received = some r ∧ own r ∧ r.payload = resp) ∧
      ∃ sid, data.head? = some sid ∧ resp.head? = some (sid + 0x40)
  | (.error (.udsNrcError nrc serviceId _), received) =>
    (∃ r, received = some r ∧ own r ∧ r.payload = [sidNrc, serviceId, nrc]) ∧
      data.head? = some serviceId
  | (.error _, _) => True

section Client

variable {σ : Type} (ecu : Ecu σ)

/-- A reply that the ECU gives to `data`, sent on this bus. -/
def Own (bus : Bus σ) (data : List UInt8) (r : Reply) : Prop :=
  r.request = bus.served ∧ r.payload ∈ (ecu.serve bus.ecu data).2

def Matched (x : Turn (Bus σ) (List UInt8) Answer) : Prop :=
  Matches (Own ecu x.pre x.input) x.input x.output

/-- No reply is left on the bus but RESPONSE_PENDING, and that not so often that
the client gives up the next request because of it. -/
def Clear (bus : Bus σ) (data : List UInt8) : Prop :=
  bus.inFlight = [] ∨
    (∀ r ∈ bus.inFlight, Pending r.payload) ∧
      bus.inFlight.length + (ecu.serve bus.ecu data).2.countP (Pending ·) ≤ maxPendingRetries

theorem matches_error {own : Reply → Prop} {data : List UInt8} {e : PyError}
    {received : Option Reply} (h : e = .udsTimeoutError ∨ ∃ m, e = .udsProtocolError m) :
    Matches own data (.error e, received) := by
  rcases h with rfl | ⟨m, rfl⟩
  · trivial
  · trivial

theorem send_completed {sched : Bus σ → Outcome} {bus : Bus σ} {i : Nat} (data : List UInt8)
    (hsched : sched bus = .completed i) :
    ((busTransport ecu sched).send data).run bus = (.ok (), bus.serve ecu data) := by
  simp only [busTransport, hsched]

theorem recv_completed {sched : Bus σ → Outcome} {bus : Bus σ} {i : Nat} {r : Reply}
    (hsched : sched bus = .completed i) (hget : bus.inFlight[i]? = some r) :
    (busTransport ecu sched).recv.run bus =
      (.ok r.payload,
        { bus with
            calls := bus.calls + 1
            inFlight := bus.inFlight.eraseIdx i
            received := some r }) := by
  simp only [busTransport, hsched, hget]

theorem recv_cases (sched : Bus σ → Outcome) (bus : Bus σ) :
    (∃ e bus', (busTransport ecu sched).recv.run bus = (.error e, bus') ∧
        (e = .udsTimeoutError ∨ ∃ m, e = .udsProtocolError m)) ∨
      ∃ r bus', (busTransport ecu sched).recv.run bus = (.ok r.payload, bus') ∧
        (r :: bus'.inFlight).Perm bus.inFlight ∧ bus'.received = some r := by
  cases hsched : sched bus with
  | timeout =>
      refine Or.inl ⟨.udsTimeoutError, { bus with calls := bus.calls + 1 }, ?_, Or.inl rfl⟩
      simp only [busTransport, hsched]
  | unexpected i m =>
      refine Or.inl ⟨.udsProtocolError m,
        { bus with calls := bus.calls + 1, inFlight := bus.inFlight.eraseIdx i }, ?_,
        Or.inr ⟨m, rfl⟩⟩
      simp only [busTransport, hsched]
  | completed i =>
      cases hget : bus.inFlight[i]? with
      | none =>
          refine Or.inl ⟨.udsTimeoutError, { bus with calls := bus.calls + 1 }, ?_, Or.inl rfl⟩
          simp only [busTransport, hsched, hget]
      | some r =>
          obtain ⟨hi, rfl⟩ := List.getElem?_eq_some_iff.mp hget
          exact Or.inr ⟨bus.inFlight[i], _, recv_completed ecu hsched hget,
            List.getElem_cons_eraseIdx_perm hi, rfl⟩

/-- While an answer is awaited, every other reply is RESPONSE_PENDING; either
there are too few of these to give up, or all of them are the ECU's answer. -/
structure Waiting (own : Reply → Prop) (attempts : Nat) (bus : Bus σ) : Prop where
  pending : ∀ r ∈ bus.inFlight, own r ∨ Pending r.payload
  enough : bus.inFlight.countP (Pending ·.payload) < attempts ∨
    (∀ r ∈ bus.inFlight, own r) ∧
      (attempts ≤ maxPendingRetries → ∃ r, bus.received = some r ∧ own r ∧ Pending r.payload)

theorem Waiting.next {own : Reply → Prop} {attempts : Nat} {bus bus' : Bus σ} {r : Reply}
    (h : Waiting own (attempts + 1) bus) (hperm : (r :: bus'.inFlight).Perm bus.inFlight)
    (hreceived : bus'.received = some r) (hpending : Pending r.payload) :
    Waiting own attempts bus' := by
  have hmem (r' : Reply) (hr' : r' ∈ bus'.inFlight) : r' ∈ bus.inFlight :=
    hperm.subset (List.mem_cons_of_mem r hr')
  refine ⟨fun r' hr' => h.pending r' (hmem r' hr'), ?_⟩
  rcases h.enough with hcount | ⟨hall, -⟩
  · apply Or.inl
    rw [← hperm.countP_eq, List.countP_cons_of_pos (by simpa using hpending)] at hcount
    omega
  · have hr : own r := hall r (hperm.subset List.mem_cons_self)
    exact Or.inr ⟨fun r' hr' => hall r' (hmem r' hr'), fun _ => ⟨r, hreceived, hr, hpending⟩⟩

theorem awaitResponse_matches (sched : Bus σ → Outcome) {own : Reply → Prop} {data : List UInt8}
    (hown : ∀ r, own r → IsReply data r.payload) (attempts : Nat) {bus : Bus σ}
    (h : Waiting own attempts bus) :
    Matches own data
      (((awaitResponse (busTransport ecu sched) data attempts).run bus).1,
        ((awaitResponse (busTransport ecu sched) data attempts).run bus).2.received) := by
  induction attempts generalizing bus with
  | zero =>
      rcases h.enough with hcount | ⟨-, hlast⟩
      · exact absurd hcount (Nat.not_lt_zero _)
      · obtain ⟨r, hreceived, hr, hpending⟩ := hlast (Nat.zero_le _)
        obtain ⟨sid, hdata, hpayload⟩ := (hown r hr).of_negative hpending.1
        rw [hpending.2] at hpayload
        have hhead : data.headD 0 = sid := by rw [List.headD_eq_head?_getD, hdata, Option.getD_some]
        change Matches own data
          (.error (.udsNrcError nrcResponsePending (data.headD 0) _), bus.received)
        rw [hhead]
        exact ⟨⟨r, hreceived, hr, hpayload⟩, hdata⟩
  | succ attempts ih =>
      rcases recv_cases ecu sched bus with ⟨e, bus', hrun, he⟩ | ⟨r, bus', hrun, hperm, hreceived⟩
      · rw [awaitResponse, Py.run_bind_error hrun]
        exact matches_error he
      · by_cases hpending : Pending r.payload
        · rw [awaitResponse_pending attempts hrun hpending]
          exact ih (h.next hperm hreceived hpending)
        · -- a reply that is not pending is the ECU's answer
          have hr : own r := (h.pending r (hperm.subset List.mem_cons_self)).resolve_right hpending
          by_cases hneg : IsNegative r.payload
          · obtain ⟨sid, hdata, hpayload⟩ := (hown r hr).of_negative hneg
            have hsid : r.payload.getD 1 0 = sid := by
              rw [hpayload]
              rfl
            rw [awaitResponse_negative attempts hrun hneg hpending, hsid]
            exact ⟨⟨r, hreceived, hr, hpayload⟩, hdata⟩
          · rw [awaitResponse_positive attempts hrun hneg]
            exact ⟨⟨r, hreceived, hr, rfl⟩, (hown r hr).of_positive hneg⟩

theorem Clear.waiting {bus : Bus σ} {data : List UInt8} (h : Clear ecu bus data) :
    Waiting (Own ecu bus data) (maxPendingRetries + 1) (bus.serve ecu data) := by
  have hnew : ∀ r ∈ (ecu.serve bus.ecu data).2.map (Reply.mk bus.served), Own ecu bus data r := by
    intro r hr
    obtain ⟨payload, hpayload, rfl⟩ := List.mem_map.mp hr
    exact ⟨rfl, hpayload⟩
  have hflight : (bus.serve ecu data).inFlight =
      bus.inFlight ++ (ecu.serve bus.ecu data).2.map (Reply.mk bus.served) := rfl
  rcases h with hempty | ⟨hpending, hcount⟩
  · rw [hempty, List.nil_append] at hflight
    rw [← hflight] at hnew
    exact ⟨fun r hr => Or.inl (hnew r hr),
      Or.inr ⟨hnew, fun hle => absurd hle (Nat.not_succ_le_self _)⟩⟩
  · constructor
    · intro r hr
      rcases List.mem_append.mp hr with hold | hown
      · exact Or.inr (hpending r hold)
      · exact Or.inl (hnew r hown)
    · apply Or.inl
      have hold := List.countP_le_length (p := (Pending ·.payload)) (l := bus.inFlight)
      rw [hflight, List.countP_append, List.countP_map]
      change _ + (ecu.serve bus.ecu data).2.countP (Pending ·) < _
      omega

theorem clientStep_matched (sched : Bus σ → Outcome) {bus : Bus σ} {data : List UInt8}
    (h : Clear ecu bus data) : Matched ecu (turn (clientStep ecu sched) bus data) := by
  have hown (r : Reply) (hr : Own ecu bus data r) : IsReply data r.payload :=
    ecu.isReply _ _ _ hr.2
  change Matches (Own ecu bus data) data
    (((request (busTransport ecu sched) data).run bus).1,
      ((request (busTransport ecu sched) data).run bus).2.received)
  rw [request]
  cases hsched : sched bus with
  | completed i =>
      rw [Py.run_bind (send_completed ecu data hsched)]
      exact awaitResponse_matches ecu sched hown _ (h.waiting ecu)
  | timeout =>
      have hsend : ((busTransport ecu sched).send data).run bus =
          (.error .udsTimeoutError, { bus with calls := bus.calls + 1 }) := by
        simp only [busTransport, hsched]
      rw [Py.run_bind_error hsend]
      exact matches_error (Or.inl rfl)
  | unexpected i m =>
      have hsend : ((busTransport ecu sched).send data).run bus = (.error (.udsProtocolError m),
          { bus with calls := bus.calls + 1, inFlight := bus.inFlight.eraseIdx i }) := by
        simp only [busTransport, hsched]
      rw [Py.run_bind_error hsend]
      exact matches_error (Or.inr ⟨m, rfl⟩)

/-! ### The condition is exact -/

/-- The replies in flight answer requests that have been served. -/
def Bus.Fresh (bus : Bus σ) : Prop := ∀ r ∈ bus.inFlight, r.request < bus.served

theorem Bus.Fresh.of_subset {bus bus' : Bus σ} (h : bus.Fresh) (hserved : bus'.served = bus.served)
    (hsubset : bus'.inFlight ⊆ bus.inFlight) : bus'.Fresh := by
  intro r hr
  rw [hserved]
  exact h r (hsubset hr)

theorem send_fresh (sched : Bus σ → Outcome) (data : List UInt8) :
    ((busTransport ecu sched).send data).Preserves Bus.Fresh := by
  intro bus h
  unfold busTransport
  cases hsched : sched bus with
  | completed i =>
      simp only [hsched]
      intro r hr
      rcases List.mem_append.mp hr with hold | hnew
      · exact Nat.lt_succ_of_lt (h r hold)
      · obtain ⟨payload, -, rfl⟩ := List.mem_map.mp hnew
        exact Nat.lt_succ_self _
  | timeout =>
      simp only [hsched]
      exact h
  | unexpected i m =>
      simp only [hsched]
      exact h.of_subset rfl (List.eraseIdx_subset ..)

theorem recv_fresh (sched : Bus σ → Outcome) :
    (busTransport ecu sched).recv.Preserves Bus.Fresh := by
  intro bus h
  unfold busTransport
  cases hsched : sched bus with
  | completed i =>
      simp only [hsched]
      cases bus.inFlight[i]? with
      | none => exact h
      | some r => exact h.of_subset rfl (List.eraseIdx_subset ..)
  | timeout =>
      simp only [hsched]
      exact h
  | unexpected i m =>
      simp only [hsched]
      exact h.of_subset rfl (List.eraseIdx_subset ..)

theorem fresh_of_mem_turns {sched : Bus σ → Outcome} {s₀ : σ} {requests : List (List UInt8)}
    {x : Turn (Bus σ) (List UInt8) Answer}
    (hx : x ∈ turnsFrom (clientStep ecu sched) (.init s₀) requests) : x.pre.Fresh := by
  obtain ⟨h, h', heq⟩ := List.append_of_mem hx
  obtain ⟨before, i, after, -, -, rfl, -⟩ := turnsFrom_eq_append_cons _ heq
  have hreach : Reachable (clientStep ecu sched) (.init s₀)
      (runFrom (clientStep ecu sched) (.init s₀) before) := ⟨before, rfl⟩
  apply hreach.invariant _ Bus.Fresh
  · intro r hr
    cases hr
  · intro bus data hbus
    exact request_preserves (send_fresh ecu sched data) (recv_fresh ecu sched) bus hbus

/-- Take the first reply in flight in the call `last`, and before it any other
that is pending. -/
def pendingLast (last : Nat) (bus : Bus σ) : Outcome :=
  if bus.calls = last then .completed 0
  else .completed (bus.inFlight.tail.findIdx (Pending ·.payload) + 1)

/-- The client gives up on the first reply in flight: induction on the attempts
before the last one. -/
theorem awaitResponse_pendingLast (data : List UInt8) {last attempts : Nat} {bus : Bus σ}
    {r : Reply} {rest : List Reply} (hflight : bus.inFlight = r :: rest) (hr : Pending r.payload)
    (hcalls : bus.calls + attempts = last) (hcount : attempts ≤ rest.countP (Pending ·.payload)) :
    ∃ nrc serviceId message bus',
      (awaitResponse (busTransport ecu (pendingLast last)) data (attempts + 1)).run bus =
        (.error (.udsNrcError nrc serviceId message), bus') ∧ bus'.received = some r := by
  induction attempts generalizing bus rest with
  | zero =>
      have hsched : pendingLast last bus = .completed 0 := if_pos hcalls
      have hget : bus.inFlight[0]? = some r := by rw [hflight]; rfl
      rw [awaitResponse_pending 0 (recv_completed ecu hsched hget) hr]
      exact ⟨_, _, _, _, rfl, rfl⟩
  | succ attempts ih =>
      have hne : bus.calls ≠ last := by omega
      let j := rest.findIdx (Pending ·.payload)
      have hsched : pendingLast last bus = .completed (j + 1) := by
        rw [pendingLast, if_neg hne, hflight, List.tail_cons]
      have hj : j < rest.length := by
        apply List.findIdx_lt_length_of_exists
        exact List.countP_pos_iff.mp (by omega)
      have hpending : Pending rest[j].payload := by
        apply of_decide_eq_true
        exact @List.findIdx_getElem _ (fun r : Reply => decide (Pending r.payload)) rest hj
      have hget : bus.inFlight[j + 1]? = some rest[j] := by
        rw [hflight, List.getElem?_cons_succ, List.getElem?_eq_getElem hj]
      have hperm : (rest[j] :: rest.eraseIdx j).Perm rest := List.getElem_cons_eraseIdx_perm hj
      rw [awaitResponse_pending _ (recv_completed ecu hsched hget) hpending]
      have hflight' : bus.inFlight.eraseIdx (j + 1) = r :: rest.eraseIdx j := by
        rw [hflight, List.eraseIdx_cons_succ]
      apply ih hflight'
      · change bus.calls + 1 + attempts = last
        omega
      · rw [← hperm.countP_eq, List.countP_cons_of_pos (by simpa using hpending)] at hcount
        omega

theorem own_of_matches {own : Reply → Prop} {data : List UInt8} {answer : Answer} {r : Reply}
    (h : Matches own data answer) (hreceived : answer.2 = some r)
    (hend : (∃ resp, answer.1 = .ok resp) ∨
      ∃ nrc serviceId message, answer.1 = .error (.udsNrcError nrc serviceId message)) :
    own r := by
  obtain ⟨result, received⟩ := answer
  obtain rfl : received = some r := hreceived
  rcases hend with ⟨resp, rfl⟩ | ⟨nrc, serviceId, message, rfl⟩
  · obtain ⟨⟨r', hr', hown, -⟩, -⟩ := h
    rwa [Option.some.inj hr']
  · obtain ⟨⟨r', hr', hown, -⟩, -⟩ := h
    rwa [Option.some.inj hr']

theorem request_final (data : List UInt8) {bus : Bus σ} {r : Reply} {i : Nat}
    (hget : bus.inFlight[i]? = some r) (hfinal : ¬Pending r.payload) :
    let answer := (clientStep ecu (fun _ => .completed i) bus data).2
    answer.2 = some r ∧ ((∃ resp, answer.1 = .ok resp) ∨
      ∃ nrc serviceId message, answer.1 = .error (.udsNrcError nrc serviceId message)) := by
  have hget' : (bus.serve ecu data).inFlight[i]? = some r := by
    change (bus.inFlight ++ _)[i]? = some r
    rw [List.getElem?_append_left (List.getElem?_eq_some_iff.mp hget).1, hget]
  have hrecv : (busTransport ecu fun _ => .completed i).recv.run (bus.serve ecu data) = _ :=
    recv_completed ecu rfl hget'
  simp only [clientStep]
  rw [request, Py.run_bind (send_completed ecu data rfl)]
  by_cases hneg : IsNegative r.payload
  · rw [awaitResponse_negative _ hrecv hneg hfinal]
    exact ⟨rfl, Or.inr ⟨_, _, _, rfl⟩⟩
  · rw [awaitResponse_positive _ hrecv hneg]
    exact ⟨rfl, Or.inl ⟨_, rfl⟩⟩

theorem request_pending (data : List UInt8) {bus : Bus σ} {r : Reply} {rest : List Reply}
    (hflight : bus.inFlight = r :: rest) (hpending : ∀ r ∈ bus.inFlight, Pending r.payload)
    (hcount : maxPendingRetries <
      bus.inFlight.length + (ecu.serve bus.ecu data).2.countP (Pending ·)) :
    let answer := (clientStep ecu (pendingLast (bus.calls + 1 + maxPendingRetries)) bus data).2
    answer.2 = some r ∧
      ∃ nrc serviceId message, answer.1 = .error (.udsNrcError nrc serviceId message) := by
  let new := (ecu.serve bus.ecu data).2.map (Reply.mk bus.served)
  have hr : r ∈ bus.inFlight := by
    rw [hflight]
    exact List.mem_cons_self
  have hserved : (bus.serve ecu data).inFlight = r :: (rest ++ new) := by
    change bus.inFlight ++ new = _
    rw [hflight, List.cons_append]
  have hmany : maxPendingRetries ≤ (rest ++ new).countP (Pending ·.payload) := by
    have hall : rest.countP (Pending ·.payload) = rest.length := by
      apply List.countP_eq_length.mpr
      intro r' hr'
      apply decide_eq_true
      apply hpending
      rw [hflight]
      exact List.mem_cons_of_mem r hr'
    have hown : new.countP (Pending ·.payload) =
        (ecu.serve bus.ecu data).2.countP (Pending ·) := List.countP_map
    rw [hflight, List.length_cons] at hcount
    rw [List.countP_append, hall, hown]
    omega
  have hsched : pendingLast (bus.calls + 1 + maxPendingRetries) bus =
      .completed (bus.inFlight.tail.findIdx (Pending ·.payload) + 1) := if_neg (by omega)
  have hcalls : (bus.serve ecu data).calls + maxPendingRetries =
      bus.calls + 1 + maxPendingRetries := rfl
  obtain ⟨nrc, serviceId, message, bus', hrun, hreceived⟩ :=
    awaitResponse_pendingLast ecu data hserved (hpending r hr) hcalls hmany
  simp only [clientStep]
  rw [request, Py.run_bind (send_completed ecu data hsched), hrun]
  exact ⟨hreceived, nrc, serviceId, message, rfl⟩

/-- A request is answered by its own reply in every order of arrival if and only
if the bus is clear. -/
theorem matched_iff_clear {bus : Bus σ} {data : List UInt8} (hfresh : bus.Fresh) :
    (∀ sched, Matched ecu (turn (clientStep ecu sched) bus data)) ↔ Clear ecu bus data := by
  constructor
  · intro hmatched
    have hstale (r : Reply) (hr : r ∈ bus.inFlight) : ¬Own ecu bus data r := by
      intro hown
      have hlt := hfresh r hr
      rw [hown.1] at hlt
      exact Nat.lt_irrefl _ hlt
    have hpending : ∀ r ∈ bus.inFlight, Pending r.payload := by
      intro r hr
      by_contra hfinal
      obtain ⟨i, hget⟩ := List.mem_iff_getElem?.mp hr
      obtain ⟨hreceived, hend⟩ := request_final ecu data hget hfinal
      exact hstale r hr (own_of_matches (hmatched _) hreceived hend)
    cases hflight : bus.inFlight with
    | nil => exact Or.inl hflight
    | cons r rest =>
        refine Or.inr ⟨hpending, ?_⟩
        by_contra hcount
        obtain ⟨hreceived, hend⟩ :=
          request_pending ecu data hflight hpending (Nat.not_le.mp hcount)
        have hr : r ∈ bus.inFlight := by
          rw [hflight]
          exact List.mem_cons_self
        exact hstale r hr (own_of_matches (hmatched _) hreceived (Or.inr hend))
  · intro hclear sched
    exact clientStep_matched ecu sched hclear

/-! ## Writing an identifier -/

/-- The request of `UdsDidService.write`. -/
def writeRequest (didId : Nat) (data : List UInt8) : List UInt8 :=
  [0x2E] ++ bytesBE 2 didId ++ data

/-- `UdsDidService.write`. -/
def write (transport : Transport σ) (didId : Nat) (data : List UInt8) : Py σ Unit := do
  let did ← toBytes didId 2
  let _ ← request transport ([0x2E] ++ did ++ data)
  pure ()

/-- The ECU answers the write positively. -/
def WriteAccepted (s : σ) (didId : Nat) (data : List UInt8) : Prop :=
  ∃ resp ∈ (ecu.serve s (writeRequest didId data)).2, resp.head? = some 0x6E

theorem write_ok {transport : Transport σ} {didId : Nat} {data : List UInt8} {s s' : σ}
    (h : (write transport didId data).run s = (.ok (), s')) :
    didId < 256 ^ 2 ∧
      ∃ resp, (request transport (writeRequest didId data)).run s = (.ok resp, s') := by
  obtain ⟨did, s₁, hdid, hrest⟩ := Py.run_bind_ok h
  by_cases hlt : didId < 256 ^ 2
  · rw [toBytes_run hlt] at hdid
    cases hdid
    obtain ⟨resp, s₂, hrequest, hpure⟩ := Py.run_bind_ok hrest
    cases hpure
    exact ⟨hlt, resp, hrequest⟩
  · rw [toBytes, if_neg hlt] at hdid
    exact absurd hdid Py.run_raise_ne

theorem write_accepted {sched : Bus σ → Outcome} {bus bus' : Bus σ} {didId : Nat}
    {data : List UInt8} (hclear : Clear ecu bus (writeRequest didId data))
    (h : (write (busTransport ecu sched) didId data).run bus = (.ok (), bus')) :
    WriteAccepted ecu bus.ecu didId data := by
  obtain ⟨-, resp, hrequest⟩ := write_ok h
  have hmatched := clientStep_matched ecu sched hclear
  change Matches (Own ecu bus (writeRequest didId data)) (writeRequest didId data)
    (((request (busTransport ecu sched) (writeRequest didId data)).run bus).1,
      ((request (busTransport ecu sched) (writeRequest didId data)).run bus).2.received) at hmatched
  rw [hrequest] at hmatched
  obtain ⟨⟨r, -, hown, rfl⟩, sid, hsid, hhead⟩ := hmatched
  obtain rfl : 0x2E = sid := Option.some.inj hsid
  exact ⟨r.payload, hown.2, hhead⟩

/-- `_request` and `write` can be trusted in a run that finds the bus clear at
every request; at a request that does not, some order of arrival deceives it. -/
theorem request_matched (sched : Bus σ → Outcome) (s₀ : σ) (requests : List (List UInt8)) :
    ((∀ x ∈ turnsFrom (clientStep ecu sched) (.init s₀) requests, Clear ecu x.pre x.input) →
      ∀ x ∈ turnsFrom (clientStep ecu sched) (.init s₀) requests,
        Matched ecu x ∧
          ∀ didId data bus', x.input = writeRequest didId data →
            (write (busTransport ecu sched) didId data).run x.pre = (.ok (), bus') →
              WriteAccepted ecu x.pre.ecu didId data) ∧
      ∀ x ∈ turnsFrom (clientStep ecu sched) (.init s₀) requests,
        (∀ sched', Matched ecu (turn (clientStep ecu sched') x.pre x.input)) ↔
          Clear ecu x.pre x.input := by
  constructor
  · intro hclear x hx
    constructor
    · rw [eq_turn_of_mem _ hx]
      exact clientStep_matched ecu sched (hclear x hx)
    · intro didId data bus' hinput hwrite
      have hclear' := hclear x hx
      rw [hinput] at hclear'
      exact write_accepted ecu hclear' hwrite
  · intro x hx
    exact matched_iff_clear ecu (fresh_of_mem_turns ecu hx)

end Client

/-! ## Against the simulator -/

theorem did_of_bytes {didId : Nat} (h : didId < 256 ^ 2) :
    ((UInt8.ofNat (didId / 256)).toUInt16 <<< 8) ||| (UInt8.ofNat didId).toUInt16 =
      UInt16.ofNat didId := by
  apply UInt16.toNat_inj.mp
  rw [toNat_did, UInt8.toNat_ofNat', UInt8.toNat_ofNat', UInt16.toNat_ofNat']
  omega

/-- What the simulator accepts it stores. -/
theorem didReg_of_writeAccepted {envs : Nat → Env} {s : EcuSimulator × Nat} {didId : Nat}
    {data : List UInt8} (hdid : didId < 256 ^ 2)
    (h : WriteAccepted (ecusim envs) s didId data) :
    ((ecusim envs).serve s (writeRequest didId data)).1.1.didReg =
      didStore data (UInt16.ofNat didId) s.1.didReg := by
  obtain ⟨sim, n⟩ := s
  let i : Input := ⟨envs n, writeRequest didId data⟩
  have hresp : (ecusimStep sim i).2.head? = some 0x6E := by
    obtain ⟨resp, hmem, hhead⟩ := h
    simp only [ecusim] at hmem
    split at hmem
    · rwa [List.mem_singleton.mp hmem] at hhead
    · cases hmem
  have hpos : Positive .writeDataByIdentifier (turn ecusimStep sim i) := ⟨rfl, hresp⟩
  have hok := serve_of_positive hpos
  have hstep : ((ecusim envs).serve (sim, n) (writeRequest didId data)).1.1 =
      (serve sim (envs n) (writeRequest didId data) ecusimMaxPdu .writeDataByIdentifier).1 := rfl
  have hserve : serve sim (envs n) (writeRequest didId data) ecusimMaxPdu
      .writeDataByIdentifier = if (writeRequest didId data).length < 4 then (sim, badLength) else
        let out := udsSvcWriteDid sim.didReg (UInt16.ofNat didId) data sim.session.type.code
          (udsCoreSecIsUnlocked sim.security 0x01) ecusimMaxPdu
        ({ sim with didReg := out.1 }, out.2) := by
    rw [← did_of_bytes hdid]
    rfl
  change (serve sim (envs n) (writeRequest didId data) ecusimMaxPdu
    .writeDataByIdentifier).2 = _ at hok
  rw [hserve] at hok
  rw [hstep, hserve]
  by_cases hlen : (writeRequest didId data).length < 4
  · rw [if_pos hlen] at hok
    cases hok
  · rw [if_neg hlen] at hok ⊢
    obtain ⟨entry, -, -, -, -, -, hstored⟩ := udsSvcWriteDid_ok hok
    exact hstored

section Stale

def quietEnvs : Nat → Env := fun _ => ⟨fun _ => .zero, fun _ => 0⟩

/-- A bus with a simulator that has just started. -/
def freshBus : Bus (EcuSimulator × Nat) := .init (ecusimInit 0x01 .zero, 0)

/-- In an extended session, a write that is accepted and one that is refused. -/
def twoWrites : List (List UInt8) :=
  [[0x10, 0x03], writeRequest 0x0101 [0x01, 0x02, 0x03, 0x04], writeRequest 0xF191 [0x00]]

/-- Every reply arrives in time. -/
theorem request_matched_twoWrites :
    ∀ x ∈ turnsFrom (clientStep (ecusim quietEnvs) fun _ => .completed 0) freshBus twoWrites,
      Matched (ecusim quietEnvs) x ∧
        ∀ didId data bus', x.input = writeRequest didId data →
          (write (busTransport (ecusim quietEnvs) fun _ => .completed 0) didId data).run x.pre =
              (.ok (), bus') →
            WriteAccepted (ecusim quietEnvs) x.pre.ecu didId data := by
  apply (request_matched (ecusim quietEnvs) (fun _ => .completed 0) _ twoWrites).1
  intro x hx
  apply Or.inl
  rcases List.mem_cons.mp hx with rfl | hx
  · rfl
  · rcases List.mem_cons.mp hx with rfl | hx
    · rfl
    · obtain rfl := List.mem_singleton.mp hx
      rfl

/-- The reply to the second request is late. -/
def lateReply (bus : Bus (EcuSimulator × Nat)) : Outcome :=
  if bus.calls = 3 then .timeout else .completed 0

theorem write_stale :
    ∃ x ∈ turnsFrom (clientStep (ecusim quietEnvs) lateReply) freshBus twoWrites,
      x.input = writeRequest 0xF191 [0x00] ∧ ¬Matched (ecusim quietEnvs) x ∧
        (∃ bus', (write (busTransport (ecusim quietEnvs) lateReply) 0xF191 [0x00]).run x.pre =
          (.ok (), bus')) ∧
          ¬WriteAccepted (ecusim quietEnvs) x.pre.ecu 0xF191 [0x00] := by
  have hlast : ∀ x y z : Turn (Bus (EcuSimulator × Nat)) (List UInt8) Answer, z ∈ [x, y, z] := by
    intro x y z
    simp
  refine ⟨_, hlast _ _ _, rfl, ?_, ⟨_, rfl⟩, ?_⟩
  · rintro ⟨⟨r, hr, hown, -⟩, -⟩
    cases hr
    exact absurd hown.1 (by decide)
  · rintro ⟨resp, hresp, hhead⟩
    obtain rfl := List.mem_singleton.mp hresp
    cases hhead

end Stale

end Uds.Tools
