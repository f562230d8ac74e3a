import Uds.Base.Proc
/-!
# Processes that pick out messages

An agent is a process whose receives test each message: one that fails the test
is dropped and the agent keeps waiting, until its deadline.  This is a loop that
reads from a shared medium and continues on everything that is not for it.  Such
a loop has no state beside the deadline, so nothing of a dropped message remains.
-/

namespace Uds.Base

/-- A process over messages `M` with result `α`; `recv` waits for a message that
`accepts` lets through, `expired` is what follows when the deadline passes. -/
inductive Agent (M α : Type) where
  | ret (a : α)
  | send (m : M) (next : Agent M α)
  | recv (accepts : M → Bool) (k : M → Agent M α) (expired : Agent M α)

namespace Agent

variable {M α : Type}

/-- The agent, and then what `k` does with its result. -/
def bind {β : Type} : Agent M α → (α → Agent M β) → Agent M β
  | ret a, k => k a
  | send m next, k => send m (next.bind k)
  | recv accepts f expired, k => recv accepts (fun m => (f m).bind k) (expired.bind k)

@[simp] theorem ret_bind {β : Type} (a : α) (k : α → Agent M β) : (ret a).bind k = k a := rfl

theorem bind_assoc {β γ : Type} (p : Agent M α) (f : α → Agent M β) (g : β → Agent M γ) :
    (p.bind f).bind g = p.bind fun a => (f a).bind g := by
  induction p with
  | ret a => rfl
  | send m next ih => exact congrArg (send m) ih
  | recv accepts k expired ihk ihe =>
      simp only [bind, ihe]
      exact congrArg (recv accepts · _) (funext ihk)

/-- What follows when the deadline of the next receive passes. -/
def overdue : Agent M α → Option (Agent M α)
  | recv _ _ expired => some expired
  | _ => none

/-- The result when exactly the messages `ms` arrive, and then nothing more. -/
def feed : Agent M α → List M → α
  | ret a, _ => a
  | send _ next, ms => next.feed ms
  | recv accepts k expired, ms =>
    match ms.dropWhile fun m => !accepts m with
    | [] => expired.feed []
    | m :: ms => (k m).feed ms

@[simp] theorem feed_ret (a : α) (ms : List M) : (ret a : Agent M α).feed ms = a := rfl

@[simp] theorem feed_send (m : M) (next : Agent M α) (ms : List M) :
    (send m next).feed ms = next.feed ms := rfl

theorem feed_recv_cons (accepts : M → Bool) (k : M → Agent M α) (expired : Agent M α) {m : M}
    (h : accepts m = true) (ms : List M) :
    (recv accepts k expired).feed (m :: ms) = (k m).feed ms := by
  simp only [feed, List.dropWhile_cons, h, Bool.not_true, Bool.false_eq_true, if_false]

/-- All that the agent sends satisfies `out`, and it lets through only what
satisfies `mine`. -/
inductive Confined (out mine : M → Prop) : Agent M α → Prop
  | ret (a : α) : Confined out mine (ret a)
  | send {m : M} {next : Agent M α} : out m → Confined out mine next →
      Confined out mine (send m next)
  | recv {accepts : M → Bool} {k : M → Agent M α} {expired : Agent M α} :
      (∀ m, accepts m = true → mine m) → (∀ m, accepts m = true → Confined out mine (k m)) →
      Confined out mine expired → Confined out mine (recv accepts k expired)

theorem Confined.bind {β : Type} {out mine : M → Prop} {p : Agent M α} {k : α → Agent M β}
    (hp : Confined out mine p) (hk : ∀ a, Confined out mine (k a)) :
    Confined out mine (p.bind k) := by
  induction hp with
  | ret a => exact hk a
  | send hm _ ih => exact .send hm ih
  | recv haccepts _ _ ihk ihe => exact .recv haccepts ihk ihe

theorem Confined.mono {out mine out' mine' : M → Prop} {p : Agent M α} (h : Confined out mine p)
    (hout : ∀ m, out m → out' m) (hmine : ∀ m, mine m → mine' m) : Confined out' mine' p := by
  induction h with
  | ret a => exact .ret a
  | send hm _ ih => exact .send (hout _ hm) ih
  | recv haccepts _ _ ihk ihe => exact .recv (fun m hm => hmine m (haccepts m hm)) ihk ihe

theorem Confined.overdue {out mine : M → Prop} {p p' : Agent M α} (h : Confined out mine p)
    (hp : p.overdue = some p') : Confined out mine p' := by
  cases h with
  | ret a => cases hp
  | send hm hnext => cases hp
  | recv haccepts hk hexpired =>
      cases hp
      exact hexpired

/-- Some run of the agent sends the messages `ms` and returns `a`. -/
inductive Runs : Agent M α → List M → α → Prop
  | ret (a : α) : Runs (ret a) [] a
  | send {m : M} {next : Agent M α} {ms : List M} {a : α} : Runs next ms a →
      Runs (send m next) (m :: ms) a
  | recv {accepts : M → Bool} {k : M → Agent M α} {expired : Agent M α} {m : M} {ms : List M}
      {a : α} : accepts m = true → Runs (k m) ms a → Runs (recv accepts k expired) ms a
  | expire {accepts : M → Bool} {k : M → Agent M α} {expired : Agent M α} {ms : List M}
      {a : α} : Runs expired ms a → Runs (recv accepts k expired) ms a

theorem Confined.of_runs {out mine : M → Prop} {p : Agent M α} (h : Confined out mine p)
    {ms : List M} {a : α} (hrun : Runs p ms a) : ∀ m ∈ ms, out m := by
  induction hrun with
  | ret a => exact fun m hm => absurd hm List.not_mem_nil
  | send _ ih =>
      cases h with
      | send hm hnext =>
          intro m' hm'
          rcases List.mem_cons.mp hm' with rfl | hm'
          · exact hm
          · exact ih hnext m' hm'
  | recv haccepts _ ih =>
      cases h with
      | recv _ hk _ => exact ih (hk _ haccepts)
  | expire _ ih =>
      cases h with
      | recv _ _ hexpired => exact ih hexpired

/-- Every result that the agent can return satisfies `P`. -/
def Every (P : α → Prop) : Agent M α → Prop
  | ret a => P a
  | send _ next => next.Every P
  | recv _ k expired => (∀ m, (k m).Every P) ∧ expired.Every P

theorem Every.bind {β : Type} {P : α → Prop} {Q : β → Prop} {p : Agent M α} {k : α → Agent M β}
    (hp : p.Every P) (hk : ∀ a, P a → (k a).Every Q) : (p.bind k).Every Q := by
  induction p with
  | ret a => exact hk a hp
  | send m next ih => exact ih hp
  | recv accepts f expired ihf ihe => exact ⟨fun m => ihf m (hp.1 m), ihe hp.2⟩

end Agent

/-- A process whose receives let through what `accepts` does; every send succeeds,
and a deadline that passes is the failure `timeout`. -/
def Proc.agent {M E α : Type} (accepts : M → Bool) (timeout : E) : Proc M E α → Agent M α
  | .ret a => .ret a
  | .send m k => .send m ((k (.ok ())).agent accepts timeout)
  | .recv k =>
    .recv accepts (fun m => (k (.ok m)).agent accepts timeout)
      ((k (.error timeout)).agent accepts timeout)

theorem Proc.Offers.agent {M E α : Type} {out mine : M → Prop} {accepts : M → Bool} {timeout : E}
    {p : Proc M E α} (h : p.Offers out) (hmine : ∀ m, accepts m = true → mine m) :
    (p.agent accepts timeout).Confined out mine := by
  induction h with
  | ret a => exact .ret a
  | send hm _ ih => exact .send hm (ih _)
  | recv _ ih => exact .recv hmine (fun m _ => ih _) (ih _)

end Uds.Base
