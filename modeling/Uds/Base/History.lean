import Mathlib.Data.List.DropRight
import Mathlib.Data.List.Infix
/-!
# Histories

A history is the list of what happened so far, newest entry last.  Three notions
about its end are used: the length of the trailing run of entries of one kind,
what the last entry of a kind gives, and the past-time operator "some `P` has
happened and no `Q` since".
-/

namespace Uds.Base

variable {α : Type}

/-- Nothing is lost from what the entries yield exactly when every entry left
out yields nothing. -/
theorem filterMap_filter_eq_iff {β : Type} (p : α → Bool) (f : α → Option β) (l : List α) :
    (l.filter p).filterMap f = l.filterMap f ↔ ∀ x ∈ l, f x ≠ none → p x = true := by
  induction l with
  | nil => simp
  | cons x l ih =>
      have hsub : ((l.filter p).filterMap f).length ≤ (l.filterMap f).length :=
        (List.filter_sublist.filterMap f).length_le
      rw [List.forall_mem_cons, ← ih]
      by_cases hx : p x = true
      · rw [List.filter_cons_of_pos hx]
        cases hf : f x with
        | none => simp [hf]
        | some b => simp [hf, hx]
      · rw [List.filter_cons_of_neg hx]
        cases hf : f x with
        | none => simp [hf]
        | some b =>
            constructor
            · intro heq
              have hlen := congrArg List.length heq
              simp only [List.filterMap_cons, hf, List.length_cons] at hlen
              omega
            · intro hall
              exact absurd (hall.1 (Option.some_ne_none b)) hx

/-- How many entries at the end of a history satisfy `p` without a break. -/
def trail (p : α → Bool) (l : List α) : Nat := (l.rtakeWhile p).length

@[simp] theorem trail_snoc (p : α → Bool) (l : List α) (x : α) :
    trail p (l ++ [x]) = if p x then trail p l + 1 else 0 := by
  unfold trail
  rw [List.rtakeWhile_concat]
  split <;> simp

theorem exists_trail (p : α → Bool) (l : List α) :
    ∃ pre suf, l = pre ++ suf ∧ suf.length = trail p l ∧ ∀ x ∈ suf, p x = true := by
  obtain ⟨pre, hpre⟩ := List.rtakeWhile_suffix p l
  exact ⟨pre, l.rtakeWhile p, hpre.symm, rfl, fun x hx => List.mem_rtakeWhile_imp hx⟩

/-- Every final segment of `p` entries is within the trailing run. -/
theorem length_le_trail {p : α → Bool} (pre : List α) {suf : List α} (h : ∀ x ∈ suf, p x = true) :
    suf.length ≤ trail p (pre ++ suf) := by
  induction suf using List.reverseRecOn with
  | nil => simp
  | append_singleton suf x ih =>
      have hx : p x = true := h x (by simp)
      have hle := ih (fun y hy => h y (by simp [hy]))
      rw [← List.append_assoc, trail_snoc, if_pos hx]
      simpa using hle

/-- The last entry before the trailing run. -/
def beforeTrail (p : α → Bool) (l : List α) : Option α := (l.rdropWhile p).getLast?

@[simp] theorem beforeTrail_snoc (p : α → Bool) (l : List α) (x : α) :
    beforeTrail p (l ++ [x]) = if p x then beforeTrail p l else some x := by
  unfold beforeTrail
  rw [List.rdropWhile_concat]
  split <;> simp

theorem trail_append_cons {p : α → Bool} {x : α} {suf : List α} (pre : List α)
    (hx : p x = false) (h : ∀ y ∈ suf, p y = true) :
    trail p (pre ++ x :: suf) = suf.length ∧ beforeTrail p (pre ++ x :: suf) = some x := by
  induction suf using List.reverseRecOn with
  | nil => simp [hx]
  | append_singleton suf y ih =>
      have hy : p y = true := h y (by simp)
      obtain ⟨htrail, hbefore⟩ := ih (fun z hz => h z (by simp [hz]))
      rw [← List.cons_append, ← List.append_assoc, trail_snoc, beforeTrail_snoc, if_pos hy,
        if_pos hy, htrail]
      exact ⟨by simp, hbefore⟩

/-- The last entry that satisfies `p`, with the entries after it. -/
def lastSince (p : α → Bool) : List α → Option (α × List α)
  | [] => none
  | x :: l => (lastSince p l).or (if p x then some (x, l) else none)

theorem lastSince_snoc (p : α → Bool) (l : List α) (x : α) :
    lastSince p (l ++ [x]) =
      if p x then some (x, []) else (lastSince p l).map fun r => (r.1, r.2 ++ [x]) := by
  induction l with
  | nil =>
      by_cases hx : p x = true
      · simp [lastSince, hx]
      · simp [lastSince, hx]
  | cons y l ih =>
      rw [List.cons_append, lastSince, ih, lastSince]
      by_cases hx : p x = true
      · rw [if_pos hx, if_pos hx, Option.some_or]
      · rw [if_neg hx, if_neg hx]
        cases lastSince p l with
        | some r => rfl
        | none =>
            by_cases hy : p y = true
            · simp [hy]
            · simp [hy]

/-- What the last entry gives for which `f` has a value. -/
def latest {β : Type} (f : α → Option β) (l : List α) : Option β := l.reverse.findSome? f

theorem latest_snoc {β : Type} (f : α → Option β) (l : List α) (x : α) :
    latest f (l ++ [x]) = (f x).or (latest f l) := by
  unfold latest
  rw [List.reverse_append, List.reverse_singleton, List.singleton_append, List.findSome?_cons]
  cases f x with
  | none => rfl
  | some b => rfl

/-- A relation between every entry and every later one, from the splits of the
history at two entries. -/
theorem pairwise_of_splits {R : α → α → Prop} {l : List α}
    (h : ∀ pre x mid y post, l = pre ++ x :: (mid ++ y :: post) → R x y) : l.Pairwise R := by
  induction l with
  | nil => exact List.Pairwise.nil
  | cons x l ih =>
      apply List.Pairwise.cons
      · intro y hy
        obtain ⟨mid, post, rfl⟩ := List.append_of_mem hy
        exact h [] x mid y post rfl
      · apply ih
        intro pre x' mid y post hsplit
        exact h (x :: pre) x' mid y post (by rw [hsplit]; rfl)

/-- Some entry satisfies `P` with the entries before it, and no entry after it
satisfies `Q`. -/
def SinceAt (P : List α → α → Prop) (Q : α → Prop) (l : List α) : Prop :=
  ∃ pre x post, l = pre ++ x :: post ∧ P pre x ∧ ∀ y ∈ post, ¬Q y

theorem sinceAt_snoc (P : List α → α → Prop) (Q : α → Prop) (l : List α) (x : α) :
    SinceAt P Q (l ++ [x]) ↔ P l x ∨ (¬Q x ∧ SinceAt P Q l) := by
  constructor
  · rintro ⟨pre, y, post, h, hP, hQ⟩
    rcases List.eq_nil_or_concat post with rfl | ⟨post, z, rfl⟩
    · obtain ⟨rfl, hx⟩ := List.append_inj' h rfl
      obtain rfl := List.singleton_inj.mp hx
      exact Or.inl hP
    · rw [List.concat_eq_append, ← List.cons_append, ← List.append_assoc] at h
      obtain ⟨rfl, hx⟩ := List.append_inj' h rfl
      obtain rfl := List.singleton_inj.mp hx
      exact Or.inr ⟨hQ x (by simp), pre, y, post, rfl, hP, fun w hw => hQ w (by simp [hw])⟩
  · rintro (hP | ⟨hQ, pre, y, post, rfl, hP, hpost⟩)
    · exact ⟨l, x, [], rfl, hP, by simp⟩
    · refine ⟨pre, y, post ++ [x], by simp, hP, ?_⟩
      intro z hz
      rcases List.mem_append.mp hz with hz | hz
      · exact hpost z hz
      · obtain rfl := List.mem_singleton.mp hz
        exact hQ

/-- Some entry satisfies `P`, and no entry after it satisfies `Q`. -/
def Since (P Q : α → Prop) (l : List α) : Prop :=
  ∃ pre x post, l = pre ++ x :: post ∧ P x ∧ ∀ y ∈ post, ¬Q y

theorem not_since_nil (P Q : α → Prop) : ¬Since P Q [] := by
  rintro ⟨pre, x, post, h, -⟩
  simp at h

theorem since_snoc (P Q : α → Prop) (l : List α) (x : α) :
    Since P Q (l ++ [x]) ↔ P x ∨ (¬Q x ∧ Since P Q l) :=
  sinceAt_snoc (fun _ => P) Q l x

theorem since_cons (P Q : α → Prop) (x : α) (l : List α) :
    Since P Q (x :: l) ↔ (P x ∧ ∀ y ∈ l, ¬Q y) ∨ Since P Q l := by
  constructor
  · rintro ⟨pre, y, post, h, hP, hQ⟩
    cases pre with
    | nil =>
        obtain ⟨rfl, rfl⟩ := List.cons_eq_cons.mp h
        exact Or.inl ⟨hP, hQ⟩
    | cons z pre =>
        obtain ⟨rfl, rfl⟩ := List.cons_eq_cons.mp h
        exact Or.inr ⟨pre, y, post, rfl, hP, hQ⟩
  · rintro (⟨hP, hQ⟩ | ⟨pre, y, post, rfl, hP, hQ⟩)
    · exact ⟨[], x, l, rfl, hP, hQ⟩
    · exact ⟨x :: pre, y, post, rfl, hP, hQ⟩

instance decidableSince (P Q : α → Prop) [DecidablePred P] [DecidablePred Q] :
    (l : List α) → Decidable (Since P Q l)
  | [] => isFalse (not_since_nil P Q)
  | x :: l =>
    haveI := decidableSince P Q l
    decidable_of_iff _ (since_cons P Q x l).symm

end Uds.Base
