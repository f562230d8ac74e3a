import Mathlib.Data.List.Infix
import Mathlib.Data.List.TakeWhile
/-!
# Processes that exchange messages

A process halts with a value, offers one message and learns whether the medium
took it, or waits for one message.  Programs with blocking receives become
values of this type; their environment answers every action.  `Steps` records
the partial runs of a process, whatever the answers are, and `exec` is the one
run in which two given streams supply the answers.
-/

namespace Uds.Base

/-- A sequential process over messages `M` with failures `E` and result `α`. -/
inductive Proc (M E α : Type) where
  | ret (a : α)
  | send (m : M) (k : Except E Unit → Proc M E α)
  | recv (k : Except E M → Proc M E α)

/-- One action of a process together with the answer it got. -/
inductive Event (M E : Type) where
  | sent (m : M) (r : Except E Unit)
  | recvd (r : Except E M)

namespace Event

variable {M E : Type}

def isSent : Event M E → Bool
  | sent _ _ => true
  | recvd _ => false

def isRecvd : Event M E → Bool
  | sent _ _ => false
  | recvd _ => true

/-- The message an action offered, accepted or not. -/
def offer? : Event M E → Option M
  | sent m _ => some m
  | recvd _ => none

/-- The message an action handed over to the medium. -/
def accept? : Event M E → Option M
  | sent m (.ok _) => some m
  | _ => none

/-- The message an action took from the medium. -/
def deliver? : Event M E → Option M
  | recvd (.ok m) => some m
  | _ => none

/-- The answer to a receive. -/
def answer? : Event M E → Option (Except E M)
  | sent _ _ => none
  | recvd r => some r

end Event

variable {M E α : Type}

/-- The messages a trace offers, in order. -/
def offered (tr : List (Event M E)) : List M := tr.filterMap Event.offer?

/-- The messages the medium accepted, in order. -/
def accepted (tr : List (Event M E)) : List M := tr.filterMap Event.accept?

/-- The messages received, in order. -/
def delivered (tr : List (Event M E)) : List M := tr.filterMap Event.deliver?

/-- The answers to the receives, in order. -/
def answers (tr : List (Event M E)) : List (Except E M) := tr.filterMap Event.answer?

/-- How many receives a trace performs, failed ones included. -/
def recvCount (tr : List (Event M E)) : Nat := tr.countP Event.isRecvd

section Projections

variable (tr : List (Event M E)) (m : M) (r : Except E Unit) (a : Except E M)

@[simp] theorem isSent_sent : (Event.sent m r : Event M E).isSent = true := rfl

@[simp] theorem isSent_recvd : (Event.recvd a : Event M E).isSent = false := rfl

@[simp] theorem isRecvd_sent : (Event.sent m r : Event M E).isRecvd = false := rfl

@[simp] theorem isRecvd_recvd : (Event.recvd a : Event M E).isRecvd = true := rfl

@[simp] theorem accepted_nil : accepted ([] : List (Event M E)) = [] := rfl

@[simp] theorem offered_snoc_sent : offered (tr ++ [.sent m r]) = offered tr ++ [m] := by
  simp [offered, Event.offer?]

@[simp] theorem offered_snoc_recvd : offered (tr ++ [.recvd a]) = offered tr := by
  simp [offered, Event.offer?]

@[simp] theorem accepted_snoc_ok :
    accepted (tr ++ [.sent m (.ok ())]) = accepted tr ++ [m] := by
  simp [accepted, Event.accept?]

@[simp] theorem accepted_snoc_error (e : E) :
    accepted (tr ++ [.sent m (.error e)]) = accepted tr := by
  simp [accepted, Event.accept?]

@[simp] theorem accepted_snoc_recvd : accepted (tr ++ [.recvd a]) = accepted tr := by
  simp [accepted, Event.accept?]

@[simp] theorem delivered_snoc_sent : delivered (tr ++ [.sent m r]) = delivered tr := by
  simp [delivered, Event.deliver?]

@[simp] theorem delivered_snoc_ok :
    delivered (tr ++ [.recvd (.ok m)]) = delivered tr ++ [m] := by
  simp [delivered, Event.deliver?]

@[simp] theorem delivered_snoc_error (e : E) :
    delivered (tr ++ [.recvd (.error e)]) = delivered tr := by
  simp [delivered, Event.deliver?]

@[simp] theorem recvCount_snoc_sent : recvCount (tr ++ [.sent m r]) = recvCount tr := by
  simp [recvCount, Event.isRecvd]

@[simp] theorem recvCount_snoc_recvd :
    recvCount (tr ++ [.recvd a]) = recvCount tr + 1 := by
  simp [recvCount, Event.isRecvd]

@[simp] theorem offered_cons_sent : offered (.sent m r :: tr) = m :: offered tr := rfl

@[simp] theorem offered_cons_recvd : offered (.recvd a :: tr) = offered tr := rfl

@[simp] theorem answers_cons_sent : answers (.sent m r :: tr) = answers tr := rfl

@[simp] theorem answers_cons_recvd : answers (.recvd a :: tr) = a :: answers tr := rfl

@[simp] theorem recvCount_cons_sent : recvCount (.sent m r :: tr) = recvCount tr := by
  simp [recvCount]

@[simp] theorem recvCount_cons_recvd : recvCount (.recvd a :: tr) = recvCount tr + 1 :=
  List.countP_cons_of_pos rfl

@[simp] theorem delivered_cons_sent : delivered (.sent m r :: tr) = delivered tr := rfl

@[simp] theorem delivered_cons_ok :
    delivered (.recvd (.ok m) :: tr) = m :: delivered tr := rfl

/-- Every action is a send or a receive. -/
theorem length_eq_offered_add_recvCount : tr.length = (offered tr).length + recvCount tr := by
  induction tr with
  | nil => rfl
  | cons e tr ih =>
      cases e with
      | sent m r =>
          rw [offered_cons_sent, recvCount_cons_sent, List.length_cons, List.length_cons, ih]
          omega
      | recvd r =>
          rw [offered_cons_recvd, recvCount_cons_recvd, List.length_cons, ih]
          omega

variable {tr m} in
theorem mem_delivered_of_answers (h : .ok m ∈ answers tr) : m ∈ delivered tr := by
  obtain ⟨e, he, hans⟩ := List.mem_filterMap.mp h
  refine List.mem_filterMap.mpr ⟨e, he, ?_⟩
  cases e with
  | sent => cases hans
  | recvd r =>
      obtain rfl : r = .ok m := by simpa [Event.answer?] using hans
      rfl

/-- When no receive failed, the answers are the messages received. -/
theorem answers_eq_of_ok (h : ∀ r ∈ answers tr, ∃ m, r = .ok m) :
    answers tr = (delivered tr).map .ok := by
  induction tr with
  | nil => rfl
  | cons e tr ih =>
      cases e with
      | sent m r => exact ih h
      | recvd r =>
          obtain ⟨m, rfl⟩ := h r (by simp)
          have hrest := ih fun r hr => h r (by simp [hr])
          simp [hrest]

end Projections

/-! ## Partial runs -/

/-- One action. -/
inductive Step : Proc M E α → Event M E → Proc M E α → Prop
  | send (m : M) (k : Except E Unit → Proc M E α) (r : Except E Unit) :
      Step (.send m k) (.sent m r) (k r)
  | recv (k : Except E M → Proc M E α) (r : Except E M) :
      Step (.recv k) (.recvd r) (k r)

/-- `Steps p tr q`: after the actions `tr` the process `p` has become `q`. -/
inductive Steps (p : Proc M E α) : List (Event M E) → Proc M E α → Prop
  | nil : Steps p [] p
  | snoc {tr : List (Event M E)} {q q' : Proc M E α} {e : Event M E} :
      Steps p tr q → Step q e q' → Steps p (tr ++ [e]) q'

/-- A property of (trace, process) pairs that every action preserves holds at
the end of every partial run. -/
theorem Steps.invariant (I : List (Event M E) → Proc M E α → Prop) {p q : Proc M E α}
    {tr : List (Event M E)} (h : Steps p tr q) (hinit : I [] p)
    (hstep : ∀ tr q e q', I tr q → Step q e q' → I (tr ++ [e]) q') : I tr q := by
  induction h with
  | nil => exact hinit
  | snoc _ hs ih => exact hstep _ _ _ _ ih hs

theorem Steps.cons {p p' q : Proc M E α} {e : Event M E} {tr : List (Event M E)}
    (hs : Step p e p') (h : Steps p' tr q) : Steps p (e :: tr) q := by
  induction h with
  | nil => exact .snoc .nil hs
  | snoc _ hs' ih => exact .snoc ih hs'

theorem Steps.of_append {p q : Proc M E α} {tr tr' : List (Event M E)}
    (h : Steps p (tr ++ tr') q) : ∃ p', Steps p tr p' ∧ Steps p' tr' q := by
  induction tr' using List.reverseRecOn generalizing q with
  | nil => exact ⟨q, by simpa using h, .nil⟩
  | append_singleton tr' e ih =>
      rw [← List.append_assoc] at h
      generalize htr : tr ++ tr' ++ [e] = full at h
      cases h with
      | nil => simp at htr
      | snoc hq hs =>
          obtain ⟨rfl, he⟩ := List.append_inj' htr rfl
          obtain rfl := List.singleton_inj.mp he
          obtain ⟨p', hp, hq'⟩ := ih hq
          exact ⟨p', hp, .snoc hq' hs⟩

theorem Steps.of_nil {p q : Proc M E α} (h : Steps p [] q) : q = p := by
  generalize htr : ([] : List (Event M E)) = tr at h
  cases h with
  | nil => rfl
  | snoc => simp at htr

theorem Steps.of_cons {p q : Proc M E α} {e : Event M E} {tr : List (Event M E)}
    (h : Steps p (e :: tr) q) : ∃ p', Step p e p' ∧ Steps p' tr q := by
  obtain ⟨p', hp, hrest⟩ := Steps.of_append (show Steps p ([e] ++ tr) q from h)
  generalize he : [e] = one at hp
  cases hp with
  | nil => simp at he
  | snoc hp hs =>
      rw [← List.nil_append [e]] at he
      obtain ⟨rfl, hlast⟩ := List.append_inj' he rfl
      obtain rfl := List.singleton_inj.mp hlast
      rw [hp.of_nil] at hs
      exact ⟨p', hs, hrest⟩

/-- A halted process has no further actions. -/
theorem Steps.eq_nil_of_ret {a : α} {q : Proc M E α} {tr : List (Event M E)}
    (h : Steps (.ret a) tr q) : tr = [] ∧ q = .ret a := by
  induction h with
  | nil => exact ⟨rfl, rfl⟩
  | snoc _ hs ih =>
      rw [ih.2] at hs
      cases hs

/-- Every message that the process offers satisfies `out`, whatever the answers are. -/
inductive Proc.Offers (out : M → Prop) : Proc M E α → Prop
  | ret (a : α) : Offers out (.ret a)
  | send {m : M} {k : Except E Unit → Proc M E α} : out m → (∀ r, Offers out (k r)) →
      Offers out (.send m k)
  | recv {k : Except E M → Proc M E α} : (∀ r, Offers out (k r)) → Offers out (.recv k)

theorem Steps.offers {out : M → Prop} {p q : Proc M E α} {tr : List (Event M E)}
    (h : Steps p tr q) (hp : p.Offers out) : ∀ m ∈ accepted tr, out m := by
  have hall : (∀ m ∈ accepted tr, out m) ∧ q.Offers out := by
    apply h.invariant (fun tr q => (∀ m ∈ accepted tr, out m) ∧ q.Offers out)
    · exact ⟨fun m hm => absurd hm List.not_mem_nil, hp⟩
    · rintro tr q e q' ⟨hsent, hq⟩ hs
      cases hs with
      | send m k r =>
          cases hq with
          | send hm hk =>
              refine ⟨?_, hk r⟩
              cases r with
              | error e =>
                  rw [accepted_snoc_error]
                  exact hsent
              | ok =>
                  rw [accepted_snoc_ok]
                  intro m' hm'
                  rcases List.mem_append.mp hm' with hm' | hm'
                  · exact hsent m' hm'
                  · rw [List.mem_singleton.mp hm']
                    exact hm
      | recv k r =>
          cases hq with
          | recv hk =>
              rw [accepted_snoc_recvd]
              exact ⟨hsent, hk r⟩
  exact hall.1

/-! ## The run under given answers -/

namespace Proc

/-- One action under the given answers, and what is left to run. -/
def answer : Proc M E α → Except E M → Except E Unit → Option (Event M E) × Proc M E α
  | ret a, _, _ => (none, ret a)
  | send m k, _, r => (some (.sent m r), k r)
  | recv k, r, _ => (some (.recvd r), k r)

theorem step_answer {p : Proc M E α} (r : Except E M) (r' : Except E Unit)
    (h : ∀ a, p ≠ ret a) : ∃ e, (p.answer r r').1 = some e ∧ Step p e (p.answer r r').2 := by
  cases p with
  | ret a => exact absurd rfl (h a)
  | send m k => exact ⟨_, rfl, .send m k r'⟩
  | recv k => exact ⟨_, rfl, .recv k r⟩

theorem of_answer {P : α → Prop} {p : Proc M E α} (r : Except E M) (r' : Except E Unit)
    (h : ∀ tr a, Steps p tr (.ret a) → P a) :
    ∀ tr a, Steps (p.answer r r').2 tr (.ret a) → P a := by
  intro tr a hrest
  cases p with
  | ret b => exact h tr a hrest
  | send m k => exact h _ a (hrest.cons (.send m k r'))
  | recv k => exact h _ a (hrest.cons (.recv k r))

/-- Run a process to its end: `ins` answers the receives, `outs` the sends, in
order.  The result is the trace with the value the process halts with. -/
def exec : Proc M E α → (Nat → Except E M) → (Nat → Except E Unit) →
    List (Event M E) × α
  | ret a, _, _ => ([], a)
  | send m k, ins, outs =>
      let rest := (k (outs 0)).exec ins (fun n => outs (n + 1))
      (.sent m (outs 0) :: rest.1, rest.2)
  | recv k, ins, outs =>
      let rest := (k (ins 0)).exec (fun n => ins (n + 1)) outs
      (.recvd (ins 0) :: rest.1, rest.2)

variable (ins : Nat → Except E M) (outs : Nat → Except E Unit)

@[simp] theorem exec_ret (a : α) : (ret a : Proc M E α).exec ins outs = ([], a) := rfl

theorem exec_send (m : M) (k : Except E Unit → Proc M E α) :
    (send m k).exec ins outs =
      (.sent m (outs 0) :: ((k (outs 0)).exec ins (fun n => outs (n + 1))).1,
        ((k (outs 0)).exec ins (fun n => outs (n + 1))).2) := rfl

theorem exec_recv (k : Except E M → Proc M E α) :
    (recv k).exec ins outs =
      (.recvd (ins 0) :: ((k (ins 0)).exec (fun n => ins (n + 1)) outs).1,
        ((k (ins 0)).exec (fun n => ins (n + 1)) outs).2) := rfl

theorem exec_steps (p : Proc M E α) :
    Steps p (p.exec ins outs).1 (.ret (p.exec ins outs).2) := by
  induction p generalizing ins outs with
  | ret a => exact .nil
  | send m k ih =>
      rw [exec_send]
      exact Steps.cons (.send m k (outs 0)) (ih _ _ _)
  | recv k ih =>
      rw [exec_recv]
      exact Steps.cons (.recv k (ins 0)) (ih _ _ _)

theorem answers_exec (p : Proc M E α) :
    answers (p.exec ins outs).1 = (List.range (recvCount (p.exec ins outs).1)).map ins := by
  induction p generalizing ins outs with
  | ret a => rfl
  | send m k ih => simp [exec_send, ih]
  | recv k ih => simp [exec_recv, ih, List.range_succ_eq_map]

end Proc

theorem Steps.exists_exec [Inhabited E] {p : Proc M E α} {a : α} {tr : List (Event M E)}
    (h : Steps p tr (.ret a)) : ∃ ins outs, p.exec ins outs = (tr, a) := by
  induction tr generalizing p with
  | nil =>
      cases h.of_nil
      exact ⟨fun _ => .error default, fun _ => .ok (), rfl⟩
  | cons e tr ih =>
      obtain ⟨p', hs, hrest⟩ := h.of_cons
      obtain ⟨ins, outs, hexec⟩ := ih hrest
      cases hs with
      | send m k r =>
          refine ⟨ins, fun n => n.casesOn r outs, ?_⟩
          simp [Proc.exec_send, hexec]
      | recv k r =>
          refine ⟨fun n => n.casesOn r ins, outs, ?_⟩
          simp [Proc.exec_recv, hexec]

end Uds.Base
