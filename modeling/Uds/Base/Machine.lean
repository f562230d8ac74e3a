/-!
# Reactive machines

A machine answers each input with an output and a new state.  A run is given by
its inputs; its history lists, turn by turn, the state the machine was in, the
input and the output.  Properties of runs are proved by one invariant rule that
relates the history so far to the state reached.
-/

namespace Uds.Base

structure Turn (σ ι ο : Type) where
  pre : σ
  input : ι
  output : ο

section Runs

variable {σ ι ο : Type} (step : σ → ι → σ × ο)

/-- The turn that the machine takes in state `s` on input `i`. -/
def turn (s : σ) (i : ι) : Turn σ ι ο := ⟨s, i, (step s i).2⟩

/-- The state after the inputs. -/
def runFrom (s : σ) : List ι → σ
  | [] => s
  | i :: inputs => runFrom (step s i).1 inputs

/-- The history of a run. -/
def turnsFrom (s : σ) : List ι → List (Turn σ ι ο)
  | [] => []
  | i :: inputs => turn step s i :: turnsFrom (step s i).1 inputs

theorem turnsFrom_append (s : σ) (xs ys : List ι) :
    turnsFrom step s (xs ++ ys) = turnsFrom step s xs ++ turnsFrom step (runFrom step s xs) ys := by
  induction xs generalizing s with
  | nil => rfl
  | cons i xs ih =>
      simp only [List.cons_append, turnsFrom, runFrom]
      rw [ih]

theorem runFrom_append (s : σ) (xs ys : List ι) :
    runFrom step s (xs ++ ys) = runFrom step (runFrom step s xs) ys := by
  induction xs generalizing s with
  | nil => rfl
  | cons i xs ih => exact ih _

theorem map_input_turnsFrom (s : σ) (inputs : List ι) :
    (turnsFrom step s inputs).map Turn.input = inputs := by
  induction inputs generalizing s with
  | nil => rfl
  | cons i inputs ih =>
      simp only [turnsFrom, List.map_cons]
      rw [ih]
      rfl

theorem rel_of_turns {R : ι → ι → Prop} {s : σ} {inputs : List ι}
    {pre mid post : List (Turn σ ι ο)} {x y : Turn σ ι ο} (h : inputs.Pairwise R)
    (heq : turnsFrom step s inputs = pre ++ x :: (mid ++ y :: post)) : R x.input y.input := by
  have hturns : (pre ++ x :: (mid ++ y :: post)).Pairwise fun a b => R a.input b.input := by
    rw [← heq]
    apply List.pairwise_map.mp
    rwa [map_input_turnsFrom]
  have hrest := (List.pairwise_append.mp hturns).2.1
  exact (List.pairwise_cons.mp hrest).1 y (by simp)

theorem input_mem_of_turn {s : σ} {inputs : List ι} {x : Turn σ ι ο}
    (h : x ∈ turnsFrom step s inputs) : x.input ∈ inputs := by
  have hmem := List.mem_map_of_mem (f := Turn.input) h
  rwa [map_input_turnsFrom] at hmem

theorem eq_turn_of_mem {s : σ} {inputs : List ι} {x : Turn σ ι ο}
    (h : x ∈ turnsFrom step s inputs) : x = turn step x.pre x.input := by
  induction inputs generalizing s with
  | nil => cases h
  | cons i inputs ih =>
      rcases List.mem_cons.mp h with rfl | hrest
      · rfl
      · exact ih hrest

/-- What holds of the history and the state at the start, and is preserved by
every turn that meets the condition `C`, holds after every run whose turns all
meet it. -/
theorem run_invariant {s₀ : σ} {C : Turn σ ι ο → Prop} (I : List (Turn σ ι ο) → σ → Prop)
    (init : I [] s₀)
    (preserved : ∀ h s i, I h s → C (turn step s i) → I (h ++ [turn step s i]) (step s i).1)
    (inputs : List ι) (hC : ∀ x ∈ turnsFrom step s₀ inputs, C x) :
    I (turnsFrom step s₀ inputs) (runFrom step s₀ inputs) := by
  -- induction on the inputs, with an arbitrary history before them
  suffices h : ∀ past s, I past s → (∀ x ∈ turnsFrom step s inputs, C x) →
      I (past ++ turnsFrom step s inputs) (runFrom step s inputs) by
    simpa using h [] s₀ init hC
  clear init hC s₀
  induction inputs with
  | nil =>
      intro past s hI _
      simpa [turnsFrom, runFrom] using hI
  | cons i inputs ih =>
      intro past s hI hC
      have hturn : C (turn step s i) := hC _ List.mem_cons_self
      have hnext := preserved past s i hI hturn
      have hrest := ih _ _ hnext fun x hx => hC x (List.mem_cons_of_mem _ hx)
      rwa [List.append_assoc] at hrest

theorem forall_turns {s₀ : σ} (I : σ → Prop) {P : Turn σ ι ο → Prop} (init : I s₀)
    (preserved : ∀ s i, I s → I (step s i).1) (h : ∀ s i, I s → P (turn step s i))
    (inputs : List ι) : ∀ x ∈ turnsFrom step s₀ inputs, P x := by
  induction inputs generalizing s₀ with
  | nil => exact fun x hx => absurd hx List.not_mem_nil
  | cons i inputs ih =>
      intro x hx
      rcases List.mem_cons.mp hx with rfl | hrest
      · exact h s₀ i init
      · exact ih (preserved s₀ i init) x hrest

/-- Expenses paid from a potential: where no turn raises it but a refill, by `k` at most, there
are no more expenses than it had at first and the refills have brought. -/
theorem countP_le_of_potential {C : Turn σ ι ο → Prop} (I : σ → Prop) (potential : σ → Nat)
    (expense refill : Turn σ ι ο → Prop) [DecidablePred expense] [DecidablePred refill] {k : Nat}
    (preserved : ∀ s i, I s → C (turn step s i) → I (step s i).1)
    (pays : ∀ s i, I s → C (turn step s i) →
      (if expense (turn step s i) then 1 else 0) + potential (step s i).1 ≤
        potential s + if refill (turn step s i) then k else 0)
    {s : σ} (hs : I s) (inputs : List ι) (hC : ∀ x ∈ turnsFrom step s inputs, C x) :
    (turnsFrom step s inputs).countP (fun x => decide (expense x)) ≤
      potential s + k * (turnsFrom step s inputs).countP fun x => decide (refill x) := by
  induction inputs generalizing s with
  | nil => exact Nat.zero_le _
  | cons i inputs ih =>
      have hturn : C (turn step s i) := hC _ List.mem_cons_self
      have hrest := ih (preserved s i hs hturn) fun x hx => hC x (List.mem_cons_of_mem _ hx)
      have hpays := pays s i hs hturn
      simp only [turnsFrom, List.countP_cons, decide_eq_true_eq]
      have hrefill : k * (if refill (turn step s i) then 1 else 0) =
          if refill (turn step s i) then k else 0 := by
        split
        · exact Nat.mul_one k
        · rfl
      rw [Nat.mul_add, hrefill]
      omega

/-- A turn of a history is taken after the run of the inputs before it, and the
history goes on from the state it leads to. -/
theorem turnsFrom_eq_append_cons {s : σ} {inputs : List ι} {h h' : List (Turn σ ι ο)}
    {x : Turn σ ι ο} (heq : turnsFrom step s inputs = h ++ x :: h') :
    ∃ before i after, inputs = before ++ i :: after ∧ h = turnsFrom step s before ∧
      x = turn step (runFrom step s before) i ∧
        h' = turnsFrom step (step (runFrom step s before) i).1 after := by
  induction h generalizing s inputs with
  | nil =>
      cases inputs with
      | nil => cases heq
      | cons i inputs =>
          obtain ⟨hx, hrest⟩ := List.cons_eq_cons.mp heq
          exact ⟨[], i, inputs, rfl, rfl, hx.symm, hrest.symm⟩
  | cons y h ih =>
      cases inputs with
      | nil => cases heq
      | cons i inputs =>
          obtain ⟨hy, hrest⟩ := List.cons_eq_cons.mp heq
          obtain ⟨before, j, after, hinputs, hh, hx, hh'⟩ := ih hrest
          exact ⟨i :: before, j, after, by rw [hinputs]; rfl, by rw [← hy, hh]; rfl, hx, hh'⟩

/-- The states that some run leads to. -/
def Reachable (s₀ s : σ) : Prop := ∃ inputs, runFrom step s₀ inputs = s

theorem Reachable.invariant {s₀ s : σ} (I : σ → Prop) (init : I s₀)
    (preserved : ∀ s i, I s → I (step s i).1) (h : Reachable step s₀ s) : I s := by
  obtain ⟨inputs, rfl⟩ := h
  exact run_invariant step (C := fun _ => True) (fun _ s => I s) init
    (fun _ s i hI _ => preserved s i hI) inputs fun _ _ => trivial

end Runs

end Uds.Base
