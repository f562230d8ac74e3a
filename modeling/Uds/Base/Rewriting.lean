import Mathlib.Logic.Relation
/-!
# Terminating rewriting with the diamond property

When every two steps out of a configuration can be joined by one step on each
side, all maximal runs have the same length and the same end.  One terminating
run therefore decides every run: this is how a statement about all schedules
of a deterministic network follows from one convenient schedule.
-/

namespace Uds.Base

variable {σ : Type}

/-- `RunN r n a b`: exactly `n` steps of `r` lead from `a` to `b`. -/
inductive RunN (r : σ → σ → Prop) : Nat → σ → σ → Prop
  | refl (a : σ) : RunN r 0 a a
  | head {n : Nat} {a b c : σ} : r a b → RunN r n b c → RunN r (n + 1) a c

/-- No step leaves `a`. -/
def Normal (r : σ → σ → Prop) (a : σ) : Prop := ∀ b, ¬r a b

/-- Two different steps out of one configuration are joined by one step each. -/
def Diamond (r : σ → σ → Prop) : Prop :=
  ∀ a b c, r a b → r a c → b = c ∨ ∃ d, r b d ∧ r c d

theorem exists_runN {r : σ → σ → Prop} {a b : σ} (h : Relation.ReflTransGen r a b) :
    ∃ n, RunN r n a b := by
  induction h using Relation.ReflTransGen.head_induction_on with
  | refl => exact ⟨0, .refl b⟩
  | head hs _ ih =>
      obtain ⟨n, hn⟩ := ih
      exact ⟨n + 1, .head hs hn⟩

theorem Diamond.absorb {r : σ → σ → Prop} (hd : Diamond r) {n : Nat} {a a' d : σ}
    (h : RunN r (n + 1) a d) (hnf : Normal r d) (hs : r a a') : RunN r n a' d := by
  induction n generalizing a a' with
  | zero =>
      obtain _ | ⟨h1, h0⟩ := h
      cases h0
      rcases hd _ _ _ h1 hs with rfl | ⟨e, he, -⟩
      · exact .refl _
      · exact absurd he (hnf e)
  | succ n ih =>
      obtain _ | ⟨h1, hrest⟩ := h
      rcases hd _ _ _ h1 hs with rfl | ⟨e, he, hae⟩
      · exact hrest
      · exact .head hae (ih hrest he)

/-- `Inevitable r Q a`: every maximal run of `r` from `a` is finite and ends in
a configuration that satisfies `Q`. -/
inductive Inevitable (r : σ → σ → Prop) (Q : σ → Prop) : σ → Prop
  | done {a : σ} : Normal r a → Q a → Inevitable r Q a
  | step {a : σ} : (∃ b, r a b) → (∀ b, r a b → Inevitable r Q b) → Inevitable r Q a

theorem Inevitable.of_stuck {r : σ → σ → Prop} {Q : σ → Prop} {a b : σ}
    (h : Inevitable r Q a) (hab : Relation.ReflTransGen r a b) (hb : Normal r b) : Q b := by
  induction h with
  | done hn hq =>
      rcases hab.cases_head with rfl | ⟨c, hac, -⟩
      · exact hq
      · exact absurd hac (hn c)
  | step hex _ ih =>
      rcases hab.cases_head with rfl | ⟨c, hac, hcb⟩
      · obtain ⟨c, hc⟩ := hex
        exact absurd hc (hb c)
      · exact ih c hac hcb

/-- `r` with the steps of `t` added where `r` is stuck. -/
def OrWhenStuck (r t : σ → σ → Prop) (a b : σ) : Prop :=
  r a b ∨ (Normal r a ∧ t a b)

/-- What is inevitable where a run of `r` gets stuck is inevitable from its start. -/
theorem Diamond.inevitable_of_stuck {r t : σ → σ → Prop} {Q : σ → Prop} (hd : Diamond r) {a d : σ}
    (h : Relation.ReflTransGen r a d) (hr : Normal r d)
    (hq : Inevitable (OrWhenStuck r t) Q d) : Inevitable (OrWhenStuck r t) Q a := by
  obtain ⟨n, hn⟩ := exists_runN h
  clear h
  induction n generalizing a with
  | zero =>
      cases hn
      exact hq
  | succ n ih =>
      obtain _ | ⟨hab, hrest⟩ := hn
      refine .step ⟨_, Or.inl hab⟩ ?_
      rintro c (hc | ⟨hstuck, -⟩)
      · exact ih (hd.absorb (.head hab hrest) hr hc)
      · exact absurd hab (hstuck _)

/-- A run of `r` to a configuration where neither relation has a step makes
that configuration's properties inevitable. -/
theorem Diamond.inevitable {r t : σ → σ → Prop} {Q : σ → Prop} (hd : Diamond r) {a d : σ}
    (h : Relation.ReflTransGen r a d) (hr : Normal r d) (ht : Normal t d) (hq : Q d) :
    Inevitable (OrWhenStuck r t) Q a := by
  apply hd.inevitable_of_stuck h hr
  refine .done ?_ hq
  rintro b (hb | ⟨-, hb⟩)
  · exact hr b hb
  · exact ht b hb

theorem Inevitable.exists_stuck {r t : σ → σ → Prop} {Q : σ → Prop} {a : σ}
    (h : Inevitable (OrWhenStuck r t) Q a) :
    ∃ d, Relation.ReflTransGen r a d ∧ Normal r d ∧ Inevitable (OrWhenStuck r t) Q d := by
  induction h with
  | @done a hn hq => exact ⟨a, .refl, fun b hb => hn b (Or.inl hb), .done hn hq⟩
  | @step a hex hall ih =>
      by_cases hn : Normal r a
      · exact ⟨a, .refl, hn, .step hex hall⟩
      · obtain ⟨b, hb⟩ : ∃ b, r a b := by simpa [Normal] using hn
        obtain ⟨d, hrun, hd, hend⟩ := ih b (Or.inl hb)
        exact ⟨d, .head hb hrun, hd, hend⟩

/-- What is inevitable after a run of `r` is inevitable from its start. -/
theorem Diamond.inevitable_of_run {r t : σ → σ → Prop} {Q : σ → Prop} (hd : Diamond r) {a b : σ}
    (hrun : Relation.ReflTransGen r a b) (h : Inevitable (OrWhenStuck r t) Q b) :
    Inevitable (OrWhenStuck r t) Q a := by
  obtain ⟨d, hbd, hn, hend⟩ := h.exists_stuck
  exact hd.inevitable_of_stuck (hrun.trans hbd) hn hend

/-- One terminating run of a relation with the diamond property decides all. -/
theorem Diamond.inevitable_eq {r : σ → σ → Prop} (hd : Diamond r) {a d : σ}
    (h : Relation.ReflTransGen r a d) (hn : Normal r d) : Inevitable r (fun c => c = d) a := by
  obtain ⟨n, hrun⟩ := exists_runN h
  clear h
  induction n generalizing a with
  | zero =>
      cases hrun
      exact .done hn rfl
  | succ n ih =>
      obtain _ | ⟨hab, hrest⟩ := hrun
      exact .step ⟨_, hab⟩ fun c hc => ih (hd.absorb (.head hab hrest) hn hc)

theorem Inevitable.mono {r : σ → σ → Prop} {P Q : σ → Prop} (hPQ : ∀ a, P a → Q a) {a : σ}
    (h : Inevitable r P a) : Inevitable r Q a := by
  induction h with
  | done hn hp => exact .done hn (hPQ _ hp)
  | step hex _ ih => exact .step hex ih

theorem Inevitable.of_run {r : σ → σ → Prop} {Q : σ → Prop} {a b : σ} (h : Inevitable r Q a)
    (hab : Relation.ReflTransGen r a b) : Inevitable r Q b := by
  induction hab with
  | refl => exact h
  | tail _ hs ih =>
      cases ih with
      | done hn => exact absurd hs (hn _)
      | step _ hall => exact hall _ hs

theorem Inevitable.reached {r : σ → σ → Prop} {Q : σ → Prop} {a : σ} (h : Inevitable r Q a) :
    ∃ b, Relation.ReflTransGen r a b ∧ Q b := by
  induction h with
  | done _ hq => exact ⟨_, .refl, hq⟩
  | step hex _ ih =>
      obtain ⟨b, hab⟩ := hex
      obtain ⟨c, hbc, hq⟩ := ih b hab
      exact ⟨c, .head hab hbc, hq⟩

theorem Inevitable.of_weight {r : σ → σ → Prop} {Q I : σ → Prop} (weight : σ → Nat)
    (hnormal : ∀ a, I a → Normal r a → Q a)
    (hstep : ∀ a a', I a → r a a' → Inevitable r Q a' ∨ (I a' ∧ weight a' < weight a))
    {a : σ} (ha : I a) : Inevitable r Q a := by
  induction hw : weight a using Nat.strongRecOn generalizing a with
  | ind w ih =>
      subst hw
      by_cases hn : Normal r a
      · exact .done hn (hnormal a ha hn)
      · refine .step (by simpa [Normal] using hn) ?_
        intro a' hs
        rcases hstep a a' ha hs with hend | ⟨ha', hlt⟩
        · exact hend
        · exact ih _ hlt ha' rfl

/-- A run with extra steps that the other one does not see, and that use up a
weight, ends where the other one does. -/
theorem Inevitable.of_stutter {τ : Type} {s : τ → τ → Prop} {r : σ → σ → Prop}
    {P : τ → Prop} {Q : σ → Prop} (Sim : σ → τ → Prop) (weight : σ → Nat)
    (hstep : ∀ {a d a'}, Sim a d → r a a' →
      (∃ d', s d d' ∧ Sim a' d') ∨ (Sim a' d ∧ weight a' < weight a))
    (hstuck : ∀ {a d}, Sim a d → Normal r a → Normal s d)
    (hP : ∀ {a d}, Sim a d → P d → Q a) {a : σ} {d : τ} (hsim : Sim a d)
    (h : Inevitable s P d) : Inevitable r Q a := by
  -- first the steps that both see, then the weight of the others
  induction h generalizing a with
  | @done d hn hp =>
      apply Inevitable.of_weight (I := fun a => Sim a d) weight _ _ hsim
      · exact fun a hsim _ => hP hsim hp
      · intro a a' hsim hs
        rcases hstep hsim hs with ⟨d', hd, -⟩ | hunseen
        · exact absurd hd (hn d')
        · exact Or.inr hunseen
  | @step d hex _ ih =>
      apply Inevitable.of_weight (I := fun a => Sim a d) weight _ _ hsim
      · intro a hsim hnormal
        obtain ⟨d', hd⟩ := hex
        exact absurd hd (hstuck hsim hnormal d')
      · intro a a' hsim hs
        rcases hstep hsim hs with ⟨d', hd, hsim'⟩ | hunseen
        · exact Or.inl (ih d' hd hsim')
        · exact Or.inr hunseen

end Uds.Base
