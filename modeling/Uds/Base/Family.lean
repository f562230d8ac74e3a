import Mathlib.Logic.Function.Basic
import Uds.Base.Rewriting
/-!
# Systems in several parts

A system in which every step is one of a part, or uses up a weight.  If what its parts
come to is inevitable for each of them, then the system comes to it for all of them.
-/

namespace Uds.Base

variable {κ τ σ : Type} [DecidableEq κ]

/-- One of the parts `ks` takes a step. -/
def PartStep (s : κ → τ → τ → Prop) (ks : List κ) (d d' : κ → τ) : Prop :=
  ∃ k ∈ ks, ∃ x, s k (d k) x ∧ d' = Function.update d k x

section Accessible

variable {s : κ → τ → τ → Prop} {ks : List κ} {d : κ → τ}

theorem acc_update {k : κ} {x : τ} (h : ∀ l ∈ ks, Acc (fun y x => s l x y) (d l))
    (hx : Acc (fun y x => s k x y) x) :
    ∀ l ∈ ks, Acc (fun y x => s l x y) (Function.update d k x l) := by
  intro l hl
  by_cases hlk : l = k
  · subst hlk
    rwa [Function.update_self]
  · rw [Function.update_of_ne hlk]
    exact h l hl

theorem acc_partStep (h : ∀ k ∈ ks, Acc (fun y x => s k x y) (d k)) :
    Acc (fun d' d => PartStep s ks d d') d := by
  induction ks generalizing d with
  | nil => exact .intro d fun d' hs => absurd hs.choose_spec.1 List.not_mem_nil
  | cons k ks ih =>
      have hk := h k List.mem_cons_self
      have hrest : ∀ l ∈ ks, Acc (fun y x => s l x y) (d l) :=
        fun l hl => h l (List.mem_cons_of_mem k hl)
      clear h
      -- first by the steps of part `k`, then by those of the others
      generalize hx : d k = x at hk
      induction hk generalizing d with
      | intro x hbelow ihx =>
          have hothers := ih hrest
          induction hothers with
          | intro d _ ihd =>
              refine .intro d ?_
              rintro _ ⟨l, hl, y, hs, rfl⟩
              by_cases hlk : l = k
              · subst hlk
                rw [hx] at hs
                exact ihx y hs (acc_update hrest (hbelow y hs)) (Function.update_self ..)
              · have hmem : l ∈ ks := (List.mem_cons.mp hl).resolve_left hlk
                refine ihd _ ⟨l, hmem, y, hs, rfl⟩ (acc_update hrest ((hrest l hmem).inv hs)) ?_
                rwa [Function.update_of_ne (Ne.symm hlk)]

end Accessible

theorem Inevitable.acc {r : σ → σ → Prop} {Q : σ → Prop} {a : σ} (h : Inevitable r Q a) :
    Acc (fun y x => r x y) a := by
  induction h with
  | done hn _ => exact .intro _ fun b hb => absurd hb (hn b)
  | step _ _ ih => exact .intro _ ih

theorem Inevitable.next {r : σ → σ → Prop} {Q : σ → Prop} {a b : σ} (h : Inevitable r Q a)
    (hs : r a b) : Inevitable r Q b := by
  cases h with
  | done hn _ => exact absurd hs (hn b)
  | step _ hall => exact hall b hs

/-- A system whose steps are those of its parts, beside others that use up a weight, comes
to where every part comes to. -/
theorem Inevitable.of_parts {s : κ → τ → τ → Prop} {ks : List κ} {r : σ → σ → Prop}
    {P : κ → τ → Prop} {Q : σ → Prop} (Sim : σ → (κ → τ) → Prop) (weight : σ → Nat)
    (hstep : ∀ {a d a'}, Sim a d → r a a' →
      (∃ d', PartStep s ks d d' ∧ Sim a' d') ∨ (Sim a' d ∧ weight a' < weight a))
    (hstuck : ∀ {a d}, Sim a d → Normal r a → ∀ k ∈ ks, Normal (s k) (d k))
    (hP : ∀ {a d}, Sim a d → (∀ k ∈ ks, P k (d k)) → Q a) {a : σ} {d : κ → τ} (hsim : Sim a d)
    (h : ∀ k ∈ ks, Inevitable (s k) (P k) (d k)) : Inevitable r Q a := by
  have hacc := acc_partStep fun k hk => (h k hk).acc
  induction hacc generalizing a with
  | intro d _ ih =>
      apply Inevitable.of_weight (I := fun a => Sim a d) weight _ _ hsim
      · intro a hsim hn
        exact hP hsim fun k hk => (h k hk).of_stuck .refl (hstuck hsim hn k hk)
      · intro a a' hsim hs
        rcases hstep hsim hs with ⟨d', hd, hsim'⟩ | hunseen
        · refine Or.inl (ih d' hd hsim' fun l hl => ?_)
          obtain ⟨k, -, x, hx, rfl⟩ := hd
          by_cases hlk : l = k
          · subst hlk
            rw [Function.update_self]
            exact (h l hl).next hx
          · rw [Function.update_of_ne hlk]
            exact h l hl
        · exact Or.inr hunseen

end Uds.Base
