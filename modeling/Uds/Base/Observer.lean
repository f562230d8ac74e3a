import Mathlib.Data.List.Forall2
import Uds.Base.Machine
/-!
# Observers

An observer sees a part of every input and the output, and keeps a ledger of them.  It
tracks a machine if ledger and state stay related; then the ledger alone foretells the
outputs, for as many of the inputs as the observer ventures to.  What nothing is foretold
of is all that two runs which look alike can differ in.
-/

namespace Uds.Base

/-- `sees` is the visible part of an input, and `foretell` the output to it, where the ledger
determines that. -/
structure Observer (ι ο α κ : Type) where
  sees : ι → α
  note : κ → α → ο → κ
  foretell : κ → α → Option ο

namespace Observer

variable {σ σ' ι ο α κ : Type} (w : Observer ι ο α κ)

/-- The ledger after a history. -/
def ledger (k : κ) (h : List (Turn σ ι ο)) : κ :=
  h.foldl (fun k x => w.note k (w.sees x.input) x.output) k

/-- Turns on the inputs that meet `C` keep ledger and state in `R`, and are as foretold. -/
structure Tracks (step : σ → ι → σ × ο) (C : ι → Prop) (R : κ → σ → Prop) : Prop where
  note : ∀ k s i, R k s → C i → R (w.note k (w.sees i) (step s i).2) (step s i).1
  foretell : ∀ k s i, R k s → C i →
    ∀ o ∈ w.foretell k (w.sees i), (step s i).2 = o

variable {w} {step : σ → ι → σ × ο} {step' : σ' → ι → σ' × ο} {C : ι → Prop}
  {R : κ → σ → Prop} {R' : κ → σ' → Prop} {k : κ} {s : σ} {s' : σ'}

theorem Tracks.run (h : w.Tracks step C R) {inputs : List ι} (hk : R k s)
    (hC : ∀ i ∈ inputs, C i) :
    R (w.ledger k (turnsFrom step s inputs)) (runFrom step s inputs) := by
  induction inputs generalizing k s with
  | nil => exact hk
  | cons i inputs ih =>
      obtain ⟨hi, hrest⟩ := List.forall_mem_cons.mp hC
      exact ih (h.note k s i hk hi) hrest

theorem Tracks.turn (h : w.Tracks step C R) {inputs : List ι} (hk : R k s)
    (hC : ∀ i ∈ inputs, C i) {before after : List (Turn σ ι ο)} {x : Turn σ ι ο}
    (heq : turnsFrom step s inputs = before ++ x :: after) :
    R (w.ledger k before) x.pre ∧
      ∀ o ∈ w.foretell (w.ledger k before) (w.sees x.input), x.output = o := by
  obtain ⟨past, i, rest, rfl, rfl, rfl, -⟩ := turnsFrom_eq_append_cons step heq
  have hpast := h.run hk fun j hj => hC j (List.mem_append_left _ hj)
  have hi : C i := hC i (by simp)
  exact ⟨hpast, h.foretell _ _ i hpast hi⟩

/-- The inputs look the same, and the outputs are, too, where the input is `Open`. -/
def LooksLike (w : Observer ι ο α κ) (Open : α → Prop) (x : Turn σ ι ο) (y : Turn σ' ι ο) : Prop :=
  w.sees x.input = w.sees y.input ∧ (Open (w.sees x.input) → x.output = y.output)

/-- Two machines that one observer tracks from the same ledger give the same outputs to
inputs that look the same, if they agree where nothing is foretold. -/
theorem Tracks.outputs_eq (h : w.Tracks step C R) (h' : w.Tracks step' C R')
    {Open : α → Prop} (hopen : ∀ k a, w.foretell k a = none → Open a) {inputs inputs' : List ι}
    (hk : R k s) (hk' : R' k s') (hC : ∀ i ∈ inputs, C i) (hC' : ∀ i ∈ inputs', C i)
    (halike : List.Forall₂ (w.LooksLike Open) (turnsFrom step s inputs)
      (turnsFrom step' s' inputs')) :
    (turnsFrom step s inputs).map Turn.output = (turnsFrom step' s' inputs').map Turn.output := by
  induction inputs generalizing k s s' inputs' with
  | nil =>
      cases inputs' with
      | nil => rfl
      | cons i' inputs' => cases halike
  | cons i inputs ih =>
      cases inputs' with
      | nil => cases halike
      | cons i' inputs' =>
          obtain ⟨⟨hsees, hout⟩, hrest⟩ := List.forall₂_cons.mp halike
          obtain ⟨hi, hCrest⟩ := List.forall_mem_cons.mp hC
          obtain ⟨hi', hCrest'⟩ := List.forall_mem_cons.mp hC'
          change w.sees i = w.sees i' at hsees
          have hsame : (step s i).2 = (step' s' i').2 := by
            cases hsays : w.foretell k (w.sees i) with
            | none => exact hout (hopen k _ hsays)
            | some o =>
                have hleft := h.foretell k s i hk hi o hsays
                have hright := h'.foretell k s' i' hk' hi' o (by rw [← hsees]; exact hsays)
                rw [hleft, hright]
          have hnext := h.note k s i hk hi
          have hnext' : R' (w.note k (w.sees i) (step s i).2) (step' s' i').1 := by
            rw [hsees, hsame]
            exact h'.note k s' i' hk' hi'
          exact congrArg₂ List.cons hsame (ih hnext hnext' hCrest hCrest' hrest)

end Observer

end Uds.Base
