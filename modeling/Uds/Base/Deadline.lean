import Uds.Base.Family
import Uds.Base.Talk
/-!
# Deadlines on a bus

The deadline of a party may pass where nobody on the bus can move.  A party that lets
through only what concerns it then still cannot tell the others from silence, and parts
of the bus that have nothing to do with each other come to rest together.
-/

namespace Uds.Base

namespace Network

variable {ι M : Type} (b : Network ι M) (expire : (i : ι) → b.State i → Option (b.State i))

variable [DecidableEq ι]

/-- The deadline of a party that is on the bus passes; `expire` is what follows. -/
inductive Expire (on : ι → Bool) : b.Config → b.Config → Prop
  | pass {c : b.Config} {i : ι} {x : b.State i} : on i = true → expire i (c.state i) = some x →
      Expire on c ⟨Function.update c.state i x, c.inbox⟩

/-- A bus on which deadlines pass only where nobody can move. -/
def Patient (on : ι → Bool) : b.Config → b.Config → Prop :=
  OrWhenStuck (b.Step on) (b.Expire expire on)

variable {b expire} {on few : ι → Bool} {c c' d : b.Config}

theorem normal_patient (hstep : Normal (b.Step on) c) (hexpire : Normal (b.Expire expire on) c) :
    Normal (b.Patient expire on) c := by
  rintro c' (h | ⟨-, h⟩)
  · exact hstep c' h
  · exact hexpire c' h

/-! ## Two parties that wait -/

section Wait

variable {i j : ι} {x x' : b.State i} {y y' : b.State j} {Q : b.Config → Prop}

/-- Nothing happens to party `j` in this state, unless it gets a message. -/
structure Quiet (b : Network ι M) (expire : (i : ι) → b.State i → Option (b.State i)) (j : ι)
    (y : b.State j) : Prop where
  react : b.react y [] = none
  expire : expire j y = none

theorem Rest.normal (hpair : IsPair on) (hne : i ≠ j) (hi : on i = true) (hj : on j = true)
    (hc : b.Rest i j x y c) (hx : b.react x [] = none) (hy : b.react y [] = none) :
    Normal (b.Step on) c := by
  rintro _ ⟨hk, hr⟩
  rename_i k r
  rcases hpair i j k hi hj hk hne with rfl | rfl
  · rw [hc.left, hc.inboxLeft, hx] at hr
    cases hr
  · rw [hc.right, hc.inboxRight, hy] at hr
    cases hr

/-- The bus has come to rest. -/
theorem Rest.inevitable_quiet (hpair : IsPair on) (hne : i ≠ j) (hi : on i = true)
    (hj : on j = true) (hc : b.Rest i j x y c) (hx : b.Quiet expire i x)
    (hy : b.Quiet expire j y) (hq : Q c) : Inevitable (b.Patient expire on) Q c := by
  refine .done (normal_patient (hc.normal hpair hne hi hj hx.react hy.react) ?_) hq
  rintro _ ⟨hk, hz⟩
  rename_i k z
  rcases hpair i j k hi hj hk hne with rfl | rfl
  · rw [hc.left, hx.expire] at hz
    cases hz
  · rw [hc.right, hy.expire] at hz
    cases hz

/-- One party waits for the other in vain. -/
theorem Rest.inevitable_expired (hpair : IsPair on) (hne : i ≠ j) (hi : on i = true)
    (hj : on j = true) (hc : b.Rest i j x y c) (hx : b.react x [] = none)
    (hexpire : expire i x = some x') (hy : b.Quiet expire j y)
    (hnext : ∀ c', b.Rest i j x' y c' → Inevitable (b.Patient expire on) Q c') :
    Inevitable (b.Patient expire on) Q c := by
  have hstuck := hc.normal hpair hne hi hj hx hy.react
  have hpass : expire i (c.state i) = some x' := by rw [hc.left, hexpire]
  refine .step ⟨_, Or.inr ⟨hstuck, .pass hi hpass⟩⟩ ?_
  rintro c' (hs | ⟨-, ⟨hk, hz⟩⟩)
  · exact absurd hs (hstuck c')
  · rename_i k z
    rcases hpair i j k hi hj hk hne with rfl | rfl
    · rw [hpass] at hz
      cases hz
      exact hnext _ ⟨Function.update_self .., (Function.update_of_ne hne.symm ..).trans hc.right,
        hc.inboxLeft, hc.inboxRight⟩
    · rw [hc.right, hy.expire] at hz
      cases hz

theorem Leads.inevitable (hpair : IsPair on) (h : b.Leads on i j x y x' y')
    (hc : b.Rest i j x y c)
    (hnext : ∀ c', b.Rest i j x' y' c' → Inevitable (b.Patient expire on) Q c') :
    Inevitable (b.Patient expire on) Q c := by
  obtain ⟨c', hrun, hc'⟩ := h c hc
  exact (diamond_of_isPair hpair).inevitable_of_run hrun (hnext c' hc')

end Wait

/-! ## Leaving parties out -/

section Separate

variable {mine : ι → M → Bool} {I : (i : ι) → b.State i → Prop}

/-- The states `I` are not left when a deadline passes. -/
def Keeps (b : Network ι M) (expire : (i : ι) → b.State i → Option (b.State i))
    (I : (i : ι) → b.State i → Prop) : Prop :=
  ∀ i x x', I i x → expire i x = some x' → I i x'

theorem Separate.invariant_patient (h : b.Separate on few mine I) (hkeeps : b.Keeps expire I)
    (hs : b.Patient expire on c c') (hI : ∀ i, on i = true → I i (c.state i)) :
    ∀ i, on i = true → I i (c'.state i) := by
  rcases hs with hs | ⟨-, ⟨-, hx⟩⟩
  · exact h.invariant hs hI
  · rename_i i x
    intro j hj
    by_cases hji : j = i
    · subst hji
      change I j (Function.update c.state j x j)
      rw [Function.update_self]
      exact hkeeps j _ x (hI j hj) hx
    · change I j (Function.update c.state i x j)
      rw [Function.update_of_ne hji]
      exact hI j hj

theorem Projects.expire_few (hcd : Projects few mine c d) {i : ι} (x : b.State i) :
    Projects few mine ⟨Function.update c.state i x, c.inbox⟩
      ⟨Function.update d.state i x, d.inbox⟩ where
  state := by
    intro j hj
    change Function.update d.state i x j = Function.update c.state i x j
    by_cases hji : j = i
    · subst hji
      rw [Function.update_self, Function.update_self]
    · rw [Function.update_of_ne hji, Function.update_of_ne hji]
      exact hcd.state j hj
  inbox := hcd.inbox

theorem Projects.expire_unseen (hcd : Projects few mine c d) {i : ι} (hi : few i = false)
    (x : b.State i) : Projects few mine ⟨Function.update c.state i x, c.inbox⟩ d where
  state := by
    intro j hj
    have hji : j ≠ i := by
      rintro rfl
      rw [hi] at hj
      cases hj
    change d.state j = Function.update c.state i x j
    rw [Function.update_of_ne hji]
    exact hcd.state j hj
  inbox := hcd.inbox

theorem Separate.normal_patient (h : b.Separate on few mine I) (hcd : Projects few mine c d)
    (hc : Normal (b.Patient expire on) c) : Normal (b.Patient expire few) d := by
  have hstuck : Normal (b.Step on) c := fun c' hs => hc c' (Or.inl hs)
  apply Network.normal_patient (h.normal hcd hstuck)
  rintro _ ⟨hi, hx⟩
  rename_i i x
  rw [hcd.state i hi] at hx
  exact hc _ (Or.inr ⟨hstuck, .pass (h.few_on i hi) hx⟩)

end Separate

/-! ## Groups -/

section Groups

variable {κ : Type} [DecidableEq κ]

/-- The messages that wait in the inboxes of these parties. -/
def waiting (nodes : List ι) (c : b.Config) : Nat := (nodes.flatMap c.inbox).length

omit [DecidableEq ι] in
theorem waiting_cons (i : ι) (nodes : List ι) (c : b.Config) :
    waiting (i :: nodes) c = (c.inbox i).length + waiting nodes c := by
  unfold waiting
  rw [List.flatMap_cons, List.length_append]

omit [DecidableEq ι] in
theorem waiting_le (h : ∀ i, (c'.inbox i).length ≤ (c.inbox i).length) (nodes : List ι) :
    waiting nodes c' ≤ waiting nodes c := by
  induction nodes with
  | nil => exact le_rfl
  | cons i nodes ih =>
      rw [waiting_cons, waiting_cons]
      exact Nat.add_le_add (h i) ih

theorem waiting_lt {nodes : List ι} {i : ι} {r : Reaction M (b.State i)} (hi : i ∈ nodes)
    (hnone : r.sent = none) (hlt : r.inbox.length < (c.inbox i).length) :
    waiting nodes (c.commit on i r) < waiting nodes c := by
  have hself : ((c.commit on i r).inbox i).length < (c.inbox i).length := by
    rwa [commit_inbox_self]
  have hle (j : ι) : ((c.commit on i r).inbox j).length ≤ (c.inbox j).length := by
    by_cases hji : j = i
    · subst hji
      exact Nat.le_of_lt hself
    · unfold Config.commit
      simp [hji, hnone]
  induction nodes with
  | nil => exact absurd hi List.not_mem_nil
  | cons j nodes ih =>
      rw [waiting_cons, waiting_cons]
      rcases List.mem_cons.mp hi with rfl | hmem
      · exact Nat.add_lt_add_of_lt_of_le hself (waiting_le hle nodes)
      · exact Nat.add_lt_add_of_le_of_lt (hle j) (ih hmem)

variable {group : ι → κ} {ks : List κ} {mine : ι → M → Bool} {I : (i : ι) → b.State i → Prop}

theorem Separate.step_self (h : b.Separate on few mine I) (hI : ∀ i, on i = true → I i (c.state i))
    (hcd : Projects few mine c d) {i : ι} {r : Reaction M (b.State i)} (hfew : few i = true)
    (hr : b.react (c.state i) (c.inbox i) = some r) :
    (∃ d', b.Step few d d' ∧ Projects few mine (c.commit on i r) d') ∨
      (Projects few mine (c.commit on i r) d ∧ r.sent = none ∧
        r.inbox.length < (c.inbox i).length) := by
  have hi := h.few_on i hfew
  obtain ⟨out, accepts, hrole, hmine, hout⟩ := h.role i hi
  rw [hfew] at hout
  rcases hrole.react_filter (hmine hfew) (hI i hi) hr with hd | ⟨hsame, hnone, hfilter, hlt⟩
  · rw [← hcd.inbox i hfew, ← hcd.state i hfew] at hd
    refine Or.inl ⟨_, .move hfew hd, hcd.commit_few h.few_on fun j hj hji m hm => ?_⟩
    exact hout j hj hji m ((hrole.react (hI i hi) hr).2 m hm)
  · refine Or.inr ⟨hcd.commit_unseen h.few_on (fun _ => ⟨hsame, hfilter⟩) ?_, hnone, hlt⟩
    intro j _ _ m hm
    rw [hnone] at hm
    cases hm

theorem Separate.step_other (h : b.Separate on few mine I)
    (hI : ∀ i, on i = true → I i (c.state i)) (hcd : Projects few mine c d) {i : ι}
    {r : Reaction M (b.State i)} (hi : on i = true) (hfew : few i = false)
    (hr : b.react (c.state i) (c.inbox i) = some r) :
    Projects few mine (c.commit on i r) d := by
  obtain ⟨out, accepts, hrole, -, hout⟩ := h.role i hi
  rw [hfew] at hout
  apply hcd.commit_unseen h.few_on
  · intro hself
    rw [hfew] at hself
    cases hself
  · exact fun j hj hji m hm => hout j hj hji m ((hrole.react (hI i hi) hr).2 m hm)

/-- What every group sees of the bus, whose parties keep their invariants. -/
structure Seen (group : ι → κ) (ks : List κ) (mine : ι → M → Bool)
    (I : (i : ι) → b.State i → Prop) (c : b.Config) (d : κ → b.Config) : Prop where
  within : ∀ i, ofGroups group ks i = true → I i (c.state i)
  projects : ∀ k ∈ ks, Projects (ofGroups group [k]) mine c (d k)

variable {d : κ → b.Config}

omit [DecidableEq ι] in
theorem Seen.update {k : κ} {x : b.Config}
    (hwithin : ∀ i, ofGroups group ks i = true → I i (c'.state i))
    (hself : Projects (ofGroups group [k]) mine c' x)
    (hother : ∀ l ∈ ks, l ≠ k → Projects (ofGroups group [l]) mine c' (d l)) :
    Seen group ks mine I c' (Function.update d k x) where
  within := hwithin
  projects := by
    intro l hl
    by_cases hlk : l = k
    · subst hlk
      rwa [Function.update_self]
    · rw [Function.update_of_ne hlk]
      exact hother l hl hlk

theorem Seen.step (hsep : ∀ k ∈ ks, b.Separate (ofGroups group ks) (ofGroups group [k]) mine I)
    (hkeeps : b.Keeps expire I) {nodes : List ι}
    (hnodes : ∀ i, ofGroups group ks i = true → i ∈ nodes) (h : Seen group ks mine I c d)
    (hs : b.Patient expire (ofGroups group ks) c c') :
    (∃ d', PartStep (fun k => b.Patient expire (ofGroups group [k])) ks d d' ∧
      Seen group ks mine I c' d') ∨
      (Seen group ks mine I c' d ∧ waiting nodes c' < waiting nodes c) := by
  have hgroup {i : ι} {l : κ} (hl : l ≠ group i) : ofGroups group [l] i = false := by
    rw [Bool.eq_false_iff, ne_eq, ofGroups_singleton]
    exact Ne.symm hl
  rcases hs with hs | ⟨hstuck, hs⟩
  · obtain ⟨hi, hr⟩ := hs
    rename_i i r
    have hk : group i ∈ ks := of_decide_eq_true hi
    have hwithin := (hsep _ hk).invariant (.move hi hr) h.within
    have hother (l : κ) (hl : l ∈ ks) (hne : l ≠ group i) :
        Projects (ofGroups group [l]) mine (c.commit (ofGroups group ks) i r) (d l) :=
      (hsep l hl).step_other h.within (h.projects l hl) hi (hgroup hne) hr
    rcases (hsep _ hk).step_self h.within (h.projects _ hk) (ofGroups_singleton.mpr rfl) hr with
      ⟨x, hx, hself⟩ | ⟨hself, hnone, hlt⟩
    · exact Or.inl ⟨_, ⟨group i, hk, x, Or.inl hx, rfl⟩, Seen.update hwithin hself hother⟩
    · refine Or.inr ⟨⟨hwithin, fun l hl => ?_⟩, waiting_lt (hnodes i hi) hnone hlt⟩
      by_cases hlk : l = group i
      · rwa [hlk]
      · exact hother l hl hlk
  · obtain ⟨hi, hx⟩ := hs
    rename_i i x
    have hk : group i ∈ ks := of_decide_eq_true hi
    have hwithin := (hsep _ hk).invariant_patient hkeeps (Or.inr ⟨hstuck, .pass hi hx⟩) h.within
    have hproj := h.projects _ hk
    have hself : ofGroups group [group i] i = true := ofGroups_singleton.mpr rfl
    refine Or.inl ⟨_, ⟨group i, hk, _, Or.inr ⟨(hsep _ hk).normal hproj hstuck, .pass hself ?_⟩,
      rfl⟩, Seen.update hwithin (hproj.expire_few x) fun l hl hne =>
        (h.projects l hl).expire_unseen (hgroup hne) x⟩
    rwa [hproj.state i hself]

/-- Groups that have nothing to do with each other come, in every run of all of them, to
what they come to on their own. -/
theorem Seen.inevitable
    (hsep : ∀ k ∈ ks, b.Separate (ofGroups group ks) (ofGroups group [k]) mine I)
    (hkeeps : b.Keeps expire I) {nodes : List ι}
    (hnodes : ∀ i, ofGroups group ks i = true → i ∈ nodes) {P : κ → b.Config → Prop}
    {Q : b.Config → Prop}
    (hPQ : ∀ {c d}, Seen group ks mine I c d → (∀ k ∈ ks, P k (d k)) → Q c)
    (h : Seen group ks mine I c d)
    (halone : ∀ k ∈ ks, Inevitable (b.Patient expire (ofGroups group [k])) (P k) (d k)) :
    Inevitable (b.Patient expire (ofGroups group ks)) Q c :=
  Inevitable.of_parts (Seen group ks mine I) (waiting nodes)
    (fun hseen hs => hseen.step hsep hkeeps hnodes hs)
    (fun hseen hn k hk => (hsep k hk).normal_patient (hseen.projects k hk) hn) hPQ h halone

end Groups

end Network

end Uds.Base
