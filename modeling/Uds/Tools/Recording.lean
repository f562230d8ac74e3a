import Uds.Base.Plan
import Uds.Base.Proc
import Uds.Tools.Matching
/-!
# What passes through a transport

A transport can be recorded, whatever is behind it.  The log of a request shows one message
and what `_request` got while it waited; a service that makes its requests by a plan leaves
the log of a conversation, also when it raises.
-/

namespace Uds.Tools

open Uds.Base

/-- The state behind a transport, and a log of the calls made of it. -/
structure Recorded (σ : Type) where
  state : σ
  log : List (Event (List UInt8) PyError)

/-- The transport, with a log. -/
def recorded {σ : Type} (transport : Transport σ) : Transport (Recorded σ) where
  send data := ⟨fun s =>
    let out := (transport.send data).run s.state
    (out.1, ⟨out.2, s.log ++ [.sent data out.1]⟩)⟩
  recv := ⟨fun s =>
    let out := transport.recv.run s.state
    (out.1, ⟨out.2, s.log ++ [.recvd out.1]⟩)⟩

section Logs

variable {σ α β : Type}

/-- What the code adds to the log where it returns, and where it raises. -/
def Logs (x : Py (Recorded σ) α) (returned : α → List (Event (List UInt8) PyError) → Prop)
    (raised : List (Event (List UInt8) PyError) → Prop) : Prop :=
  ∀ s, match x.run s with
  | (.ok a, s') => ∃ l, s'.log = s.log ++ l ∧ returned a l
  | (.error _, s') => ∃ l, s'.log = s.log ++ l ∧ raised l

variable {returned : α → List (Event (List UInt8) PyError) → Prop}
  {raised : List (Event (List UInt8) PyError) → Prop}

theorem logs_pure {a : α} (h : returned a []) :
    Logs (pure a : Py (Recorded σ) α) returned raised :=
  fun _ => ⟨[], (List.append_nil _).symm, h⟩

theorem logs_raise (e : PyError) (h : raised []) :
    Logs (Py.raise e : Py (Recorded σ) α) returned raised :=
  fun _ => ⟨[], (List.append_nil _).symm, h⟩

theorem Logs.mono {x : Py (Recorded σ) α}
    {returned' : α → List (Event (List UInt8) PyError) → Prop}
    {raised' : List (Event (List UInt8) PyError) → Prop} (hx : Logs x returned raised)
    (hreturned : ∀ a l, returned a l → returned' a l) (hraised : ∀ l, raised l → raised' l) :
    Logs x returned' raised' := by
  intro s
  have hrun := hx s
  revert hrun
  split
  · exact fun ⟨l, hlog, hl⟩ => ⟨l, hlog, hreturned _ l hl⟩
  · exact fun ⟨l, hlog, hl⟩ => ⟨l, hlog, hraised l hl⟩

theorem logs_call (x : Recorded σ → Except PyError α × σ)
    (entry : Except PyError α → Event (List UInt8) PyError) :
    Logs ⟨fun s => ((x s).1, ⟨(x s).2, s.log ++ [entry (x s).1]⟩)⟩
      (fun a l => l = [entry (.ok a)]) fun l => ∃ e, l = [entry (.error e)] := by
  intro s
  dsimp only
  cases (x s).1 with
  | ok a => exact ⟨_, rfl, rfl⟩
  | error e => exact ⟨_, rfl, e, rfl⟩

theorem logs_send (transport : Transport σ) (data : List UInt8) :
    Logs ((recorded transport).send data) (fun u l => l = [.sent data (.ok u)])
      fun l => ∃ e, l = [.sent data (.error e)] :=
  logs_call (fun s => (transport.send data).run s.state) (Event.sent data)

theorem logs_recv (transport : Transport σ) :
    Logs (recorded transport).recv (fun resp l => l = [.recvd (.ok resp)])
      fun l => ∃ e, l = [.recvd (.error e)] :=
  logs_call (fun s => transport.recv.run s.state) Event.recvd

theorem Logs.bind {x : Py (Recorded σ) α} {f : α → Py (Recorded σ) β}
    {returned' : β → List (Event (List UInt8) PyError) → Prop}
    {raised' : List (Event (List UInt8) PyError) → Prop} (hx : Logs x returned raised)
    (hraised : ∀ l, raised l → raised' l)
    (hf : ∀ a l, returned a l →
      Logs (f a) (fun b l' => returned' b (l ++ l')) fun l' => raised' (l ++ l')) :
    Logs (x >>= f) returned' raised' := by
  intro s
  have hfirst := hx s
  cases hrun : x.run s with
  | mk result s₁ =>
      rw [hrun] at hfirst
      cases result with
      | error e =>
          obtain ⟨l, hlog, hl⟩ := hfirst
          rw [Py.run_bind_error hrun]
          exact ⟨l, hlog, hraised l hl⟩
      | ok a =>
          obtain ⟨l, hlog, hl⟩ := hfirst
          have hsecond := hf a l hl s₁
          rw [Py.run_bind hrun]
          revert hsecond
          split
          · rintro ⟨l', hlog', hl'⟩
            exact ⟨l ++ l', by rw [hlog', hlog, List.append_assoc], hl'⟩
          · rintro ⟨l', hlog', hl'⟩
            exact ⟨l ++ l', by rw [hlog', hlog, List.append_assoc], hl'⟩

end Logs

/-! ## Requests -/

/-- What the `for` loop of `_request` gets within so many attempts: the response that it
returns, or none. -/
inductive Awaited : Nat → List (Event (List UInt8) PyError) → Option (List UInt8) → Prop where
  | exhausted : Awaited 0 [] none
  | raised (attempts : Nat) (e : PyError) : Awaited (attempts + 1) [.recvd (.error e)] none
  | pending {attempts : Nat} {resp : List UInt8} {l : List (Event (List UInt8) PyError)}
      {out : Option (List UInt8)} (hpending : Pending resp) (hrest : Awaited attempts l out) :
      Awaited (attempts + 1) (.recvd (.ok resp) :: l) out
  | negative (attempts : Nat) {resp : List UInt8} (hneg : IsNegative resp)
      (hfinal : ¬Pending resp) : Awaited (attempts + 1) [.recvd (.ok resp)] none
  | positive (attempts : Nat) {resp : List UInt8} (hpos : ¬IsNegative resp) :
      Awaited (attempts + 1) [.recvd (.ok resp)] (some resp)

theorem Awaited.offered {attempts : Nat} {l : List (Event (List UInt8) PyError)}
    {out : Option (List UInt8)} (h : Awaited attempts l out) : offered l = [] := by
  induction h with
  | pending _ _ ih => rw [offered_cons_recvd, ih]
  | exhausted | raised | negative | positive => rfl

/-- How long a response to a message has to be for the service that awaits it. -/
def responseBytes (m resp : List UInt8) : Nat :=
  if m.head? = some 0x10 then 6
  else if m.head? = some 0x27 then 2
  else if m.head? = some 0x34 ∨ m.head? = some 0x35 then 2 + (resp.getD 1 0).toNat / 16
  else 1

/-- The client over the log of its transport. -/
def client : Manner (List UInt8) (List UInt8) (Event (List UInt8) PyError) where
  Answered m resp l := ∃ l', l = .sent m (.ok ()) :: l' ∧
    Awaited (maxPendingRetries + 1) l' (some resp)
  Failed m l := (∃ e, l = [.sent m (.error e)]) ∨
    ∃ l', l = .sent m (.ok ()) :: l' ∧ Awaited (maxPendingRetries + 1) l' none
  Accepts m resp :=
    resp.head? = some (m.headD 0 + 0x40) ∧ responseBytes m resp ≤ resp.length
  said := offered
  said_append := fun _ _ => List.filterMap_append
  said_answered := by
    rintro m resp l ⟨l', rfl, h⟩
    rw [offered_cons_sent, h.offered]
  said_failed := by
    rintro m l (⟨e, rfl⟩ | ⟨l', rfl, h⟩)
    · rfl
    · rw [offered_cons_sent, h.offered]

section Services

variable {σ α β : Type} {transport : Transport σ}

theorem logs_awaitResponse (transport : Transport σ) (data : List UInt8) (attempts : Nat) :
    Logs (awaitResponse (recorded transport) data attempts)
      (fun resp l => Awaited attempts l (some resp)) fun l => Awaited attempts l none := by
  induction attempts with
  | zero => exact logs_raise _ .exhausted
  | succ attempts ih =>
      refine (logs_recv transport).bind ?_ ?_
      · rintro l ⟨e, rfl⟩
        exact .raised attempts e
      · rintro resp l rfl
        by_cases hneg : resp.length ≥ 3 ∧ resp.getD 0 0 = sidNrc
        · rw [if_pos hneg]
          by_cases hnrc : resp.getD 2 0 = nrcResponsePending
          · rw [if_pos hnrc]
            exact ih.mono (fun _ _ hl => .pending ⟨hneg, hnrc⟩ hl)
              fun _ hl => .pending ⟨hneg, hnrc⟩ hl
          · rw [if_neg hnrc]
            exact logs_raise _ (.negative attempts hneg fun h => hnrc h.2)
        · rw [if_neg hneg]
          exact logs_pure (.positive attempts hneg)

theorem logs_request (transport : Transport σ) (data : List UInt8) :
    Logs (request (recorded transport) data) (client.Answered data) (client.Failed data) := by
  refine (logs_send transport data).bind ?_ ?_
  · rintro l ⟨e, rfl⟩
    exact Or.inl ⟨e, rfl⟩
  · rintro u l rfl
    exact (logs_awaitResponse transport data (maxPendingRetries + 1)).mono
      (fun _ l hl => ⟨l, rfl, hl⟩) fun l hl => Or.inr ⟨l, rfl, hl⟩

/-! ## Services -/

variable {plan : Plan (List UInt8) (List UInt8)} {rs : List (List UInt8)}

/-- The service goes on with the plan after the responses `rs`: as far as `post` says, or,
if it raises, to the end of a conversation. -/
def Performs (plan : Plan (List UInt8) (List UInt8)) (x : Py (Recorded σ) α)
    (rs : List (List UInt8)) (post : α → List (List UInt8) → Prop) : Prop :=
  Logs x (fun a l => ∃ rs', Progress client plan rs rs' l ∧ post a rs')
    fun l => ConversationFrom client plan rs l false

theorem performs_pure {post : α → List (List UInt8) → Prop} {a : α} (h : post a rs) :
    Performs plan (pure a : Py (Recorded σ) α) rs post :=
  logs_pure ⟨rs, .refl rs, h⟩

/-- The next message cannot be sent. -/
theorem performs_raise {post : α → List (List UInt8) → Prop} (e : PyError)
    (hnext : (plan rs)[rs.length]? = some none) :
    Performs plan (Py.raise e : Py (Recorded σ) α) rs post :=
  logs_raise e (Ending.unsendable hnext).conversation

theorem Performs.mono {x : Py (Recorded σ) α} {mid post : α → List (List UInt8) → Prop}
    (h : Performs plan x rs mid) (hpost : ∀ a rs', mid a rs' → post a rs') :
    Performs plan x rs post :=
  Logs.mono h (fun a _ ⟨rs', hprogress, hmid⟩ => ⟨rs', hprogress, hpost a rs' hmid⟩) fun _ hl => hl

theorem Performs.after {x : Py (Recorded σ) α} {post : α → List (List UInt8) → Prop}
    {rs' : List (List UInt8)} {l : List (Event (List UInt8) PyError)}
    (h : Performs plan x rs' post) (hprogress : Progress client plan rs rs' l) :
    Logs x (fun a l' => ∃ rs', Progress client plan rs rs' (l ++ l') ∧ post a rs')
      fun l' => ConversationFrom client plan rs (l ++ l') false :=
  Logs.mono h (fun _ _ ⟨rs'', hmore, hpost⟩ => ⟨rs'', hprogress.trans hmore, hpost⟩)
    fun _ hend => hprogress.conversation hend

theorem Performs.bind {x : Py (Recorded σ) α} {f : α → Py (Recorded σ) β}
    {mid : α → List (List UInt8) → Prop} {post : β → List (List UInt8) → Prop}
    (hx : Performs plan x rs mid) (hf : ∀ a rs', mid a rs' → Performs plan (f a) rs' post) :
    Performs plan (x >>= f) rs post := by
  refine Logs.bind hx (fun _ hl => hl) ?_
  rintro a l ⟨rs', hprogress, hmid⟩
  exact (hf a rs' hmid).after hprogress

/-- A request, after which the service raises if the response is not acceptable. -/
theorem performs_request {m : List UInt8} {f : List UInt8 → Py (Recorded σ) α}
    {post : α → List (List UInt8) → Prop} (hnext : (plan rs)[rs.length]? = some (some m))
    (hrefused : ∀ resp, ¬client.Accepts m resp → ∃ e, f resp = Py.raise e)
    (haccepted : ∀ resp, client.Accepts m resp → Performs plan (f resp) (rs ++ [resp]) post) :
    Performs plan (request (recorded transport) m >>= f) rs post := by
  refine (logs_request transport m).bind ?_ ?_
  · exact fun l hl => (Ending.failed hnext hl).conversation
  · intro resp l hl
    by_cases haccepts : client.Accepts m resp
    · exact (haccepted resp haccepts).after (.single hnext hl haccepts)
    · obtain ⟨e, he⟩ := hrefused resp haccepts
      rw [he]
      apply logs_raise
      rw [List.append_nil]
      exact (Ending.refused hnext hl haccepts).conversation

theorem Performs.conversation {x : Py (Recorded σ) α}
    (h : Performs plan x [] fun _ rs => (plan rs).length = rs.length) (s : σ) :
    Conversation client plan (x.run ⟨s, []⟩).2.log (x.run ⟨s, []⟩).1.isOk := by
  have hrun := h ⟨s, []⟩
  cases hx : x.run ⟨s, []⟩ with
  | mk result s' =>
      rw [hx] at hrun
      cases result with
      | error e =>
          obtain ⟨l, hlog, hend⟩ := hrun
          change Conversation client plan s'.log false
          rw [hlog]
          exact hend
      | ok a =>
          obtain ⟨l, hlog, rs, hprogress, hdone⟩ := hrun
          have hend := hprogress.conversation (Ending.finished hdone).conversation
          change Conversation client plan s'.log true
          rw [List.append_nil] at hend
          rw [hlog]
          exact hend

end Services

end Uds.Tools
