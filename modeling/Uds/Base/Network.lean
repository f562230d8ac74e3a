import Mathlib.Logic.Function.Basic
import Uds.Base.Agent
import Uds.Base.Rewriting
/-!
# Parties on a broadcast bus

A message that one party sends gets into the inbox of every other party that is
on the bus.  Who moves next is open, so a run is an interleaving; no deadline
passes.  Two parties whose receives let through only what they send to each other
cannot tell the other parties from silence: every run, with the others left out,
is a run of the two alone.  The two alone have one outcome, whatever the order.
-/

namespace Uds.Base

/-- What a party does next, in states of type `S`. -/
inductive Act (M S : Type) where
  | halt
  | send (m : M) (next : S)
  | recv (accepts : M → Bool) (k : M → S)
  | internal (next : S)

namespace Act

variable {M S T : Type}

/-- The action of a party that keeps `S` as a part of its state. -/
def map (g : S → T) : Act M S → Act M T
  | halt => halt
  | send m next => send m (g next)
  | recv accepts k => recv accepts fun m => g (k m)
  | internal next => internal (g next)

/-- The action sends only `out`, lets through only `mine`, and leads to states in `I`. -/
def Confined (out mine : M → Prop) (I : S → Prop) : Act M S → Prop
  | halt => True
  | send m next => out m ∧ I next
  | recv accepts k => ∀ m, accepts m = true → mine m ∧ I (k m)
  | internal next => I next

variable {out mine : M → Prop} {I : S → Prop} {J : T → Prop}

theorem Confined.map {g : S → T} {a : Act M S} (h : a.Confined out mine I)
    (hg : ∀ s, I s → J (g s)) : (a.map g).Confined out mine J := by
  cases a with
  | halt => trivial
  | send m next => exact ⟨h.1, hg next h.2⟩
  | recv accepts k => exact fun m hm => ⟨(h m hm).1, hg (k m) (h m hm).2⟩
  | internal next => exact hg next h

end Act

/-- The next action of an agent whose deadlines do not pass. -/
def Agent.act {M α : Type} : Agent M α → Act M (Agent M α)
  | .ret _ => .halt
  | .send m next => .send m next
  | .recv accepts k _ => .recv accepts k

theorem Agent.Confined.act {M α : Type} {out mine : M → Prop} {p : Agent M α}
    (h : p.Confined out mine) : p.act.Confined out mine (Agent.Confined out mine) := by
  cases h with
  | ret => trivial
  | send hm hnext => exact ⟨hm, hnext⟩
  | recv haccepts hk => exact fun m hm => ⟨haccepts m hm, hk m hm⟩

/-- Parties `ι`, the states they can be in and what they do; `wire` is what becomes
of a message on its way. -/
structure Network (ι M : Type) where
  State : ι → Type
  act : (i : ι) → State i → Act M (State i)
  wire : M → M

namespace Network

variable {ι M : Type}

@[ext] structure Config (b : Network ι M) where
  state : (i : ι) → b.State i
  inbox : ι → List M

/-- A party after an action: its state, its inbox, and what it has sent. -/
structure Reaction (M S : Type) where
  state : S
  inbox : List M
  sent : Option M

variable (b : Network ι M)

/-- One action of a party; a message that its receive does not let through is
dropped. -/
def react {i : ι} (s : b.State i) (q : List M) : Option (Reaction M (b.State i)) :=
  match b.act i s with
  | .halt => none
  | .send m next => some ⟨next, q, some m⟩
  | .recv accepts k =>
    match q with
    | [] => none
    | m :: q => some ⟨if accepts m then k m else s, q, none⟩
  | .internal next => some ⟨next, q, none⟩

variable {b}

theorem react_append {i : ι} {s : b.State i} {q : List M} {r : Reaction M (b.State i)}
    (h : b.react s q = some r) (q' : List M) :
    b.react s (q ++ q') = some ⟨r.state, r.inbox ++ q', r.sent⟩ := by
  unfold react at h ⊢
  cases hact : b.act i s with
  | halt =>
      rw [hact] at h
      cases h
  | send m next =>
      rw [hact] at h
      cases h
      rfl
  | recv accepts k =>
      rw [hact] at h
      cases q with
      | nil => cases h
      | cons m q =>
          cases h
          rfl
  | internal next =>
      rw [hact] at h
      cases h
      rfl

theorem react_send {i : ι} {s : b.State i} {m : M} {next : b.State i}
    (hact : b.act i s = .send m next) (q : List M) : b.react s q = some ⟨next, q, some m⟩ := by
  unfold react
  rw [hact]

theorem react_recv {i : ι} {s : b.State i} {accepts : M → Bool} {k : M → b.State i} {m : M}
    (hact : b.act i s = .recv accepts k) (hm : accepts m = true) (q : List M) :
    b.react s (m :: q) = some ⟨k m, q, none⟩ := by
  unfold react
  rw [hact]
  simp only [if_pos hm]

theorem react_internal {i : ι} {s next : b.State i} (hact : b.act i s = .internal next)
    (q : List M) : b.react s q = some ⟨next, q, none⟩ := by
  unfold react
  rw [hact]

variable [DecidableEq ι]

/-- The bus after the action of party `i`. -/
def Config.commit (c : b.Config) (on : ι → Bool) (i : ι) (r : Reaction M (b.State i)) :
    b.Config where
  state := Function.update c.state i r.state
  inbox := fun j =>
    if j = i then r.inbox
    else if on j then c.inbox j ++ (r.sent.map b.wire).toList
    else c.inbox j

variable (b) in
/-- One of the parties `on` the bus moves. -/
inductive Step (on : ι → Bool) : b.Config → b.Config → Prop
  | move {c : b.Config} {i : ι} {r : Reaction M (b.State i)} : on i = true →
      b.react (c.state i) (c.inbox i) = some r → Step on c (c.commit on i r)

theorem Step.sends {on : ι → Bool} {c c' : b.Config} {i : ι} {m : M} {next : b.State i}
    (hon : on i = true) (hact : b.act i (c.state i) = .send m next)
    (heq : c.commit on i ⟨next, c.inbox i, some m⟩ = c') : b.Step on c c' := by
  rw [← heq]
  exact .move hon (react_send hact _)

theorem Step.receives {on : ι → Bool} {c c' : b.Config} {i : ι} {m : M} {q : List M}
    {accepts : M → Bool} {k : M → b.State i} (hon : on i = true)
    (hact : b.act i (c.state i) = .recv accepts k) (hq : c.inbox i = m :: q)
    (hm : accepts m = true) (heq : c.commit on i ⟨k m, q, none⟩ = c') : b.Step on c c' := by
  rw [← heq]
  refine .move hon ?_
  rw [hq]
  exact react_recv hact hm q

variable (b) in
/-- The bus after moves of these parties in turn; who cannot move is passed over. -/
def follow (on : ι → Bool) : List ι → b.Config → b.Config
  | [], c => c
  | i :: schedule, c =>
    match on i, b.react (c.state i) (c.inbox i) with
    | true, some r => follow on schedule (c.commit on i r)
    | _, _ => follow on schedule c

theorem run_follow (on : ι → Bool) (schedule : List ι) (c : b.Config) :
    Relation.ReflTransGen (b.Step on) c (b.follow on schedule c) := by
  induction schedule generalizing c with
  | nil => exact .refl
  | cons i schedule ih =>
      rw [follow]
      cases hon : on i with
      | false => exact ih c
      | true =>
          cases hreact : b.react (c.state i) (c.inbox i) with
          | none => exact ih c
          | some r => exact .head (.move hon hreact) (ih _)

section Commit

variable (c : b.Config) (on : ι → Bool) {i j : ι} (r : Reaction M (b.State i))

@[simp] theorem commit_state_self : (c.commit on i r).state i = r.state :=
  Function.update_self ..

theorem commit_state_of_ne (h : j ≠ i) : (c.commit on i r).state j = c.state j :=
  Function.update_of_ne h ..

@[simp] theorem commit_inbox_self : (c.commit on i r).inbox i = r.inbox := if_pos rfl

theorem commit_inbox_of_ne (h : j ≠ i) (hj : on j = true) :
    (c.commit on i r).inbox j = c.inbox j ++ (r.sent.map b.wire).toList := by
  unfold Config.commit
  simp only [if_neg h, if_pos hj]

end Commit

/-! ## Some of the parties -/

section Groups

variable {κ : Type} [DecidableEq κ] {group : ι → κ}

/-- The parties of these groups. -/
def ofGroups (group : ι → κ) (ks : List κ) : ι → Bool := fun i => group i ∈ ks

omit [DecidableEq ι] in
theorem ofGroups_singleton {k : κ} {i : ι} : ofGroups group [k] i = true ↔ group i = k := by
  simp [ofGroups]

end Groups

/-- No more than two parties are on the bus. -/
def IsPair (on : ι → Bool) : Prop :=
  ∀ i j k, on i = true → on j = true → on k = true → i ≠ j → k = i ∨ k = j

theorem commit_comm {on : ι → Bool} (hpair : IsPair on) (c : b.Config) {i j : ι}
    (hi : on i = true) (hj : on j = true) (hne : i ≠ j) (r : Reaction M (b.State i))
    (s : Reaction M (b.State j)) :
    (c.commit on i r).commit on j ⟨s.state, s.inbox ++ (r.sent.map b.wire).toList, s.sent⟩ =
      (c.commit on j s).commit on i
        ⟨r.state, r.inbox ++ (s.sent.map b.wire).toList, r.sent⟩ := by
  have hstate : Function.update (Function.update c.state i r.state) j s.state =
      Function.update (Function.update c.state j s.state) i r.state :=
    Function.update_comm hne r.state s.state c.state
  unfold Config.commit
  simp only [hstate, Config.mk.injEq, true_and]
  funext k
  by_cases hki : k = i
  · subst hki
    simp [hne, hi]
  · by_cases hkj : k = j
    · subst hkj
      simp [hki, hj]
    · have hk : ¬on k = true := fun hon => (hpair i j k hi hj hon hne).elim hki hkj
      simp [hki, hkj, hk]

/-- The moves of two parties commute. -/
theorem diamond_of_isPair {on : ι → Bool} (hpair : IsPair on) : Diamond (b.Step on) := by
  rintro c _ _ ⟨hi, hr⟩ ⟨hj, hs⟩
  rename_i i r j s
  by_cases hne : i = j
  · subst hne
    have hrs : r = s := Option.some.inj (hr.symm.trans hs)
    rw [hrs]
    exact Or.inl rfl
  · refine Or.inr ⟨(c.commit on i r).commit on j
      ⟨s.state, s.inbox ++ (r.sent.map b.wire).toList, s.sent⟩, .move hj ?_, ?_⟩
    · rw [commit_state_of_ne _ _ _ (Ne.symm hne), commit_inbox_of_ne _ _ _ (Ne.symm hne) hj]
      exact react_append hs _
    · rw [commit_comm hpair c hi hj hne]
      refine .move hi ?_
      rw [commit_state_of_ne _ _ _ hne, commit_inbox_of_ne _ _ _ hne hi]
      exact react_append hr _

/-! ## Leaving parties out -/

/-- In the states `I`, which it does not leave, party `i` sends only `out` and lets
through only `mine`. -/
def Role (b : Network ι M) (i : ι) (out mine : M → Prop) (I : b.State i → Prop) : Prop :=
  ∀ s, I s → (b.act i s).Confined out mine I

section Role

variable {i : ι} {out mine : M → Prop} {I : b.State i → Prop}

omit [DecidableEq ι] in
theorem Role.react (h : b.Role i out mine I) {s : b.State i} {q : List M}
    {r : Reaction M (b.State i)} (hs : I s) (hr : b.react s q = some r) :
    I r.state ∧ ∀ m, r.sent = some m → out m := by
  have hconf := h s hs
  unfold Network.react at hr
  cases hact : b.act i s with
  | halt =>
      rw [hact] at hr
      cases hr
  | send m next =>
      rw [hact] at hr hconf
      cases hr
      exact ⟨hconf.2, fun m' hm => Option.some.inj hm ▸ hconf.1⟩
  | recv accepts k =>
      rw [hact] at hr hconf
      cases q with
      | nil => cases hr
      | cons m q =>
          cases hr
          refine ⟨?_, fun m' hm => by cases hm⟩
          cases haccepts : accepts m with
          | true => exact (hconf m haccepts).2
          | false => exact hs
  | internal next =>
      rw [hact] at hr hconf
      cases hr
      exact ⟨hconf, fun m' hm => by cases hm⟩

omit [DecidableEq ι] in
/-- An action with the other messages removed from the inbox: the same one, unless
it only drops one of them. -/
theorem Role.react_filter {few : M → Bool} (h : b.Role i out mine I)
    (hmine : ∀ m, mine m → few m = true) {s : b.State i} {q : List M}
    {r : Reaction M (b.State i)} (hs : I s) (hr : b.react s q = some r) :
    b.react s (q.filter few) = some ⟨r.state, r.inbox.filter few, r.sent⟩ ∨
      (r.state = s ∧ r.sent = none ∧ r.inbox.filter few = q.filter few ∧
        r.inbox.length < q.length) := by
  have hconf := h s hs
  unfold Network.react at hr ⊢
  cases hact : b.act i s with
  | halt =>
      rw [hact] at hr
      cases hr
  | send m next =>
      rw [hact] at hr
      cases hr
      exact Or.inl rfl
  | recv accepts k =>
      rw [hact] at hr hconf
      cases q with
      | nil => cases hr
      | cons m q =>
          cases hr
          by_cases hfew : few m = true
          · rw [List.filter_cons_of_pos hfew]
            exact Or.inl rfl
          · have haccepts : ¬accepts m = true :=
              fun haccepts => hfew (hmine m (hconf m haccepts).1)
            refine Or.inr ⟨if_neg haccepts, rfl, ?_, Nat.lt_succ_self _⟩
            rw [List.filter_cons_of_neg hfew]
  | internal next =>
      rw [hact] at hr
      cases hr
      exact Or.inl rfl

omit [DecidableEq ι] in
theorem react_filter_none {mine : M → Bool} {s : b.State i} {q : List M}
    (h : b.react s q = none) : b.react s (q.filter mine) = none := by
  unfold Network.react at h ⊢
  cases hact : b.act i s with
  | halt => rfl
  | send m next =>
      rw [hact] at h
      cases h
  | recv accepts k =>
      rw [hact] at h
      cases q with
      | nil => rfl
      | cons m q => cases h
  | internal next =>
      rw [hact] at h
      cases h

end Role

/-- `few` of the parties `on` the bus, that let through only what they send to each
other. -/
structure Separate (b : Network ι M) (on few : ι → Bool) (mine : ι → M → Bool)
    (I : (i : ι) → b.State i → Prop) : Prop where
  few_on : ∀ i, few i = true → on i = true
  role : ∀ i, on i = true → ∃ out accepts, b.Role i out accepts (I i) ∧
    (few i = true → ∀ m, accepts m → mine i m = true) ∧
    ∀ j, few j = true → j ≠ i → ∀ m, out m → mine j (b.wire m) = few i

/-- `d` is what `few` see of `c`. -/
structure Projects (few : ι → Bool) (mine : ι → M → Bool) (c d : b.Config) : Prop where
  state : ∀ i, few i = true → d.state i = c.state i
  inbox : ∀ i, few i = true → d.inbox i = (c.inbox i).filter (mine i)

section Separate

variable {on few : ι → Bool} {mine : ι → M → Bool} {I : (i : ι) → b.State i → Prop}
  {c c' d : b.Config}

theorem Separate.invariant (h : b.Separate on few mine I) (hs : b.Step on c c')
    (hI : ∀ i, on i = true → I i (c.state i)) : ∀ i, on i = true → I i (c'.state i) := by
  obtain ⟨hi, hr⟩ := hs
  rename_i i r
  intro j hj
  by_cases hji : j = i
  · subst hji
    obtain ⟨out, accepts, hrole, -⟩ := h.role j hj
    rw [commit_state_self]
    exact (hrole.react (hI j hj) hr).1
  · rw [commit_state_of_ne _ _ _ hji]
    exact hI j hj

/-- A step that `few` do not see: of another party, or of one of them that drops a
message. -/
inductive Unseen (on few : ι → Bool) (c : b.Config) : b.Config → Prop
  | other {i : ι} {r : Reaction M (b.State i)} : few i = false →
      b.react (c.state i) (c.inbox i) = some r → Unseen on few c (c.commit on i r)
  | drop {i : ι} {r : Reaction M (b.State i)} : few i = true → r.state = c.state i →
      r.sent = none → r.inbox.length < (c.inbox i).length → Unseen on few c (c.commit on i r)

theorem Projects.commit_few (hcd : Projects few mine c d) (hon : ∀ i, few i = true → on i = true)
    {i : ι} {r : Reaction M (b.State i)}
    (hsent : ∀ j, few j = true → j ≠ i → ∀ m, r.sent = some m → mine j (b.wire m) = true) :
    Projects few mine (c.commit on i r)
      (d.commit few i ⟨r.state, r.inbox.filter (mine i), r.sent⟩) where
  state := by
    intro j hj
    by_cases hji : j = i
    · subst hji
      rw [commit_state_self, commit_state_self]
    · rw [commit_state_of_ne _ _ _ hji, commit_state_of_ne _ _ _ hji]
      exact hcd.state j hj
  inbox := by
    intro j hj
    by_cases hji : j = i
    · subst hji
      rw [commit_inbox_self, commit_inbox_self]
    · rw [commit_inbox_of_ne _ _ _ hji hj, commit_inbox_of_ne _ _ _ hji (hon j hj),
        List.filter_append, hcd.inbox j hj]
      congr 1
      cases hm : r.sent with
      | none => rfl
      | some m =>
          have hseen : mine j (b.wire m) = true := hsent j hj hji m hm
          simp [hseen]

/-- An action that changes nothing for any of `few`. -/
theorem Projects.commit_unseen (hcd : Projects few mine c d)
    (hon : ∀ i, few i = true → on i = true) {i : ι} {r : Reaction M (b.State i)}
    (hself : few i = true → r.state = c.state i ∧
      r.inbox.filter (mine i) = (c.inbox i).filter (mine i))
    (hsent : ∀ j, few j = true → j ≠ i → ∀ m, r.sent = some m → mine j (b.wire m) = false) :
    Projects few mine (c.commit on i r) d where
  state := by
    intro j hj
    by_cases hji : j = i
    · subst hji
      rw [commit_state_self, (hself hj).1]
      exact hcd.state j hj
    · rw [commit_state_of_ne _ _ _ hji]
      exact hcd.state j hj
  inbox := by
    intro j hj
    by_cases hji : j = i
    · subst hji
      rw [commit_inbox_self, (hself hj).2]
      exact hcd.inbox j hj
    · rw [commit_inbox_of_ne _ _ _ hji (hon j hj), List.filter_append, hcd.inbox j hj]
      cases hm : r.sent with
      | none => simp
      | some m =>
          have hunseen : mine j (b.wire m) = false := hsent j hj hji m hm
          simp [hunseen]

theorem Separate.step (h : b.Separate on few mine I)
    (hI : ∀ i, on i = true → I i (c.state i)) (hcd : Projects few mine c d)
    (hs : b.Step on c c') :
    (∃ d', b.Step few d d' ∧ Projects few mine c' d') ∨
      (Projects few mine c' d ∧ Unseen on few c c') := by
  obtain ⟨hi, hr⟩ := hs
  rename_i i r
  obtain ⟨out, accepts, hrole, hmine, hout⟩ := h.role i hi
  have hsent (j : ι) (hj : few j = true) (hji : j ≠ i) (m : M) (hm : r.sent = some m) :
      mine j (b.wire m) = few i :=
    hout j hj hji m ((hrole.react (hI i hi) hr).2 m hm)
  cases hfew : few i with
  | true =>
      rw [hfew] at hsent
      rcases hrole.react_filter (hmine hfew) (hI i hi) hr with hd | ⟨hsame, hnone, hfilter, hlt⟩
      · rw [← hcd.inbox i hfew, ← hcd.state i hfew] at hd
        exact Or.inl ⟨_, .move hfew hd, hcd.commit_few h.few_on hsent⟩
      · refine Or.inr ⟨hcd.commit_unseen h.few_on (fun _ => ⟨hsame, hfilter⟩) ?_,
          .drop hfew hsame hnone hlt⟩
        intro j _ _ m hm
        rw [hnone] at hm
        cases hm
  | false =>
      rw [hfew] at hsent
      refine Or.inr ⟨hcd.commit_unseen h.few_on ?_ hsent, .other hfew hr⟩
      intro hi
      rw [hfew] at hi
      cases hi

theorem Separate.normal (h : b.Separate on few mine I) (hcd : Projects few mine c d)
    (hc : Normal (b.Step on) c) : Normal (b.Step few) d := by
  rintro _ ⟨hi, hr⟩
  rename_i i r
  rw [hcd.state i hi, hcd.inbox i hi] at hr
  cases hreact : b.react (c.state i) (c.inbox i) with
  | none =>
      rw [react_filter_none hreact] at hr
      cases hr
  | some r' => exact hc _ (.move (h.few_on i hi) hreact)

theorem Separate.run (h : b.Separate on few mine I)
    (hI : ∀ i, on i = true → I i (c.state i)) (hcd : Projects few mine c d)
    (hrun : Relation.ReflTransGen (b.Step on) c c') :
    ∃ d', Relation.ReflTransGen (b.Step few) d d' ∧ Projects few mine c' d' := by
  -- by induction on the run, with the invariant of every party
  have hall : (∀ i, on i = true → I i (c'.state i)) ∧
      ∃ d', Relation.ReflTransGen (b.Step few) d d' ∧ Projects few mine c' d' := by
    induction hrun with
    | refl => exact ⟨hI, d, .refl, hcd⟩
    | tail _ hs ih =>
        obtain ⟨hI', d', hd, hproj⟩ := ih
        refine ⟨h.invariant hs hI', ?_⟩
        rcases h.step hI' hproj hs with ⟨d'', hstep, hproj'⟩ | ⟨hproj', -⟩
        · exact ⟨d'', hd.tail hstep, hproj'⟩
        · exact ⟨d', hd, hproj'⟩
  exact hall.2

theorem Separate.inevitable (h : b.Separate on few mine I) {P Q : b.Config → Prop}
    (weight : b.Config → Nat)
    (hweight : ∀ {c c'}, (∀ i, on i = true → I i (c.state i)) → Unseen on few c c' →
      weight c' < weight c)
    (hPQ : ∀ {c d}, Projects few mine c d → P d → Q c)
    (hI : ∀ i, on i = true → I i (c.state i)) (hcd : Projects few mine c d)
    (hd : Inevitable (b.Step few) P d) : Inevitable (b.Step on) Q c := by
  apply Inevitable.of_stutter (s := b.Step few) (P := P)
    (fun c d => (∀ i, on i = true → I i (c.state i)) ∧ Projects few mine c d) weight
    _ _ _ ⟨hI, hcd⟩ hd
  · rintro c d c' ⟨hI, hcd⟩ hs
    have hI' := h.invariant hs hI
    rcases h.step hI hcd hs with ⟨d', hd, hcd'⟩ | ⟨hcd', hunseen⟩
    · exact Or.inl ⟨d', hd, hI', hcd'⟩
    · exact Or.inr ⟨⟨hI', hcd'⟩, hweight hI hunseen⟩
  · exact fun hsim hc => h.normal hsim.2 hc
  · exact fun hsim hp => hPQ hsim.2 hp

end Separate

end Network

end Uds.Base
