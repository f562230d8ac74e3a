import Mathlib.Data.List.Forall2
import Uds.Base.Proc
import Uds.Base.Rewriting
/-!
# Two processes over a pair of first-in first-out channels

A `Net` is a pair of processes with the messages in flight in each direction.
A `Medium` decides what becomes of the `n`-th message sent in a direction: it is
lost, delivered as it is, or delivered altered.  Communication steps commute, so
the order in which the two parties move does not matter; a receive that cannot
get anything any more expires.
-/

namespace Uds.Base

/-- What becomes of the `n`-th message sent in each direction. -/
structure Medium (M : Type) where
  toRight : Nat → M → Option M
  toLeft : Nat → M → Option M

/-- Every message arrives as it was sent. -/
def Medium.lossless (M : Type) : Medium M := ⟨fun _ m => some m, fun _ m => some m⟩

/-- Every message arrives as it was sent or not at all. -/
def Medium.Lossy {M : Type} (med : Medium M) : Prop :=
  ∀ n m, (med.toRight n m = none ∨ med.toRight n m = some m) ∧
    (med.toLeft n m = none ∨ med.toLeft n m = some m)

/-- Two processes, the messages in flight, and how many each has sent. -/
structure Net (M E α β : Type) where
  left : Proc M E α
  right : Proc M E β
  toRight : List M
  toLeft : List M
  leftSent : Nat
  rightSent : Nat

/-- Two processes before their first action. -/
def Net.start {M E α β : Type} (p : Proc M E α) (q : Proc M E β) : Net M E α β :=
  ⟨p, q, [], [], 0, 0⟩

variable {M E α β : Type}

/-- One party sends, or takes the oldest message in flight towards it. -/
inductive Comm (med : Medium M) : Net M E α β → Net M E α β → Prop
  | sendLeft (m : M) (k : Except E Unit → Proc M E α) (q : Proc M E β) (a b : List M)
      (i j : Nat) :
      Comm med ⟨.send m k, q, a, b, i, j⟩
        ⟨k (.ok ()), q, a ++ (med.toRight i m).toList, b, i + 1, j⟩
  | sendRight (p : Proc M E α) (m : M) (k : Except E Unit → Proc M E β) (a b : List M)
      (i j : Nat) :
      Comm med ⟨p, .send m k, a, b, i, j⟩
        ⟨p, k (.ok ()), a, b ++ (med.toLeft j m).toList, i, j + 1⟩
  | recvLeft (k : Except E M → Proc M E α) (q : Proc M E β) (a : List M) (m : M)
      (b : List M) (i j : Nat) :
      Comm med ⟨.recv k, q, a, m :: b, i, j⟩ ⟨k (.ok m), q, a, b, i, j⟩
  | recvRight (p : Proc M E α) (k : Except E M → Proc M E β) (m : M) (a b : List M)
      (i j : Nat) :
      Comm med ⟨p, .recv k, m :: a, b, i, j⟩ ⟨p, k (.ok m), a, b, i, j⟩

/-- A receive with nothing in flight towards it fails with `timeout`. -/
inductive Expire (timeout : E) : Net M E α β → Net M E α β → Prop
  | left (k : Except E M → Proc M E α) (q : Proc M E β) (a : List M) (i j : Nat) :
      Expire timeout ⟨.recv k, q, a, [], i, j⟩ ⟨k (.error timeout), q, a, [], i, j⟩
  | right (p : Proc M E α) (k : Except E M → Proc M E β) (b : List M) (i j : Nat) :
      Expire timeout ⟨p, .recv k, [], b, i, j⟩ ⟨p, k (.error timeout), [], b, i, j⟩

/-- The network with patient receives: one expires only when nothing is left to
deliver, that is, when neither party can communicate. -/
def Patient (med : Medium M) (timeout : E) : Net M E α β → Net M E α β → Prop :=
  OrWhenStuck (Comm med) (Expire timeout)

/-- The network in which a receive may expire as soon as its channel is empty. -/
def Hasty (med : Medium M) (timeout : E) (c d : Net M E α β) : Prop :=
  Comm med c d ∨ Expire timeout c d

theorem Patient.hasty {med : Medium M} {timeout : E} {c d : Net M E α β}
    (h : Patient med timeout c d) : Hasty med timeout c d :=
  h.imp id And.right

theorem Hasty.ret {med : Medium M} {timeout : E} {c d : Net M E α β}
    (h : Hasty med timeout c d) :
    (∀ x, c.left = .ret x → d.left = .ret x) ∧ ∀ y, c.right = .ret y → d.right = .ret y := by
  constructor
  · intro x hx
    rcases h with h | h <;> cases h <;> first | exact hx | cases hx
  · intro y hy
    rcases h with h | h <;> cases h <;> first | exact hy | cases hy

theorem left_of_ret {med : Medium M} {timeout : E} {c d : Net M E α β} {x : α}
    (hrun : Relation.ReflTransGen (Hasty med timeout) c d) (h : c.left = .ret x) :
    d.left = .ret x := by
  induction hrun with
  | refl => exact h
  | tail _ hs ih => exact hs.ret.1 x ih

theorem right_of_ret {med : Medium M} {timeout : E} {c d : Net M E α β} {y : β}
    (hrun : Relation.ReflTransGen (Hasty med timeout) c d) (h : c.right = .ret y) :
    d.right = .ret y := by
  induction hrun with
  | refl => exact h
  | tail _ hs ih => exact hs.ret.2 y ih

/-- The two parties move independently: a send appends to a channel whose front
the peer reads, and each party's own next action is determined. -/
theorem comm_diamond (med : Medium M) :
    Diamond (Comm med : Net M E α β → Net M E α β → Prop) := by
  intro c c₁ c₂ h₁ h₂
  cases h₁ with
  | sendLeft m k q a b i j =>
      cases h₂ with
      | sendLeft => exact Or.inl rfl
      | sendRight => exact Or.inr ⟨_, .sendRight .., .sendLeft ..⟩
      | recvRight => exact Or.inr ⟨_, .recvRight .., .sendLeft ..⟩
  | sendRight p m k a b i j =>
      cases h₂ with
      | sendLeft => exact Or.inr ⟨_, .sendLeft .., .sendRight ..⟩
      | sendRight => exact Or.inl rfl
      | recvLeft => exact Or.inr ⟨_, .recvLeft .., .sendRight ..⟩
  | recvLeft k q a m b i j =>
      cases h₂ with
      | sendRight => exact Or.inr ⟨_, .sendRight .., .recvLeft ..⟩
      | recvLeft => exact Or.inl rfl
      | recvRight => exact Or.inr ⟨_, .recvRight .., .recvLeft ..⟩
  | recvRight p k m a b i j =>
      cases h₂ with
      | sendLeft => exact Or.inr ⟨_, .sendLeft .., .recvRight ..⟩
      | recvLeft => exact Or.inr ⟨_, .recvLeft .., .recvRight ..⟩
      | recvRight => exact Or.inl rfl

theorem normal_comm_ret (med : Medium M) (x : α) (y : β) (a b : List M) (i j : Nat) :
    Normal (Comm med) (⟨.ret x, .ret y, a, b, i, j⟩ : Net M E α β) := by
  intro d h
  cases h

/-- A receive from an empty channel cannot communicate once the peer has halted. -/
theorem normal_comm_recv (med : Medium M) (k : Except E M → Proc M E α) (y : β) (a : List M)
    (i j : Nat) : Normal (Comm med) (⟨.recv k, .ret y, a, [], i, j⟩ : Net M E α β) := by
  intro d h
  cases h

theorem normal_expire_ret (timeout : E) (x : α) (y : β) (a b : List M) (i j : Nat) :
    Normal (Expire timeout) (⟨.ret x, .ret y, a, b, i, j⟩ : Net M E α β) := by
  intro d h
  cases h

/-- One schedule in which both parties halt decides every schedule. -/
theorem inevitable_of_comm {med : Medium M} {timeout : E} {Q : Net M E α β → Prop}
    {c : Net M E α β} {x : α} {y : β} {a b : List M} {i j : Nat}
    (h : Relation.ReflTransGen (Comm med) c ⟨.ret x, .ret y, a, b, i, j⟩)
    (hq : Q ⟨.ret x, .ret y, a, b, i, j⟩) : Inevitable (Patient med timeout) Q c :=
  (comm_diamond med).inevitable h (normal_comm_ret med x y a b i j)
    (normal_expire_ret timeout x y a b i j) hq

/-- A schedule that leaves one party waiting for a peer that has halted ends with
the timeout of that party, and so does every schedule. -/
theorem inevitable_of_waiting {med : Medium M} {timeout : E} {Q : Net M E α β → Prop}
    {c : Net M E α β} {k : Except E M → Proc M E α} {x : α} {y : β} {a : List M} {i j : Nat}
    (hrun : Relation.ReflTransGen (Comm med) c ⟨.recv k, .ret y, a, [], i, j⟩)
    (hk : k (.error timeout) = .ret x) (hq : Q ⟨.ret x, .ret y, a, [], i, j⟩) :
    Inevitable (Patient med timeout) Q c := by
  have hwaiting := normal_comm_recv med k y a i j
  apply (comm_diamond med).inevitable_of_stuck hrun hwaiting
  refine .step ⟨_, Or.inr ⟨hwaiting, .left ..⟩⟩ ?_
  rintro d (hd | ⟨-, hd⟩)
  · exact absurd hd (hwaiting d)
  · cases hd
    rw [hk]
    exact inevitable_of_comm .refl hq

theorem Inevitable.of_waiting {med : Medium M} {timeout : E} {Q : Net M E α β → Prop}
    {c : Net M E α β} {k : Except E M → Proc M E α} {x : α} {y : β} {a : List M} {i j : Nat}
    (h : Inevitable (Patient med timeout) Q c)
    (hrun : Relation.ReflTransGen (Comm med) c ⟨.recv k, .ret y, a, [], i, j⟩)
    (hk : k (.error timeout) = .ret x) : Q ⟨.ret x, .ret y, a, [], i, j⟩ := by
  have hpatient : Relation.ReflTransGen (Patient med timeout) c ⟨.recv k, .ret y, a, [], i, j⟩ :=
    Relation.ReflTransGen.mono (fun _ _ hcomm => Or.inl hcomm) _ _ hrun
  have hexpire : Patient med timeout (⟨.recv k, .ret y, a, [], i, j⟩ : Net M E α β)
      ⟨.ret x, .ret y, a, [], i, j⟩ := by
    rw [← hk]
    exact Or.inr ⟨normal_comm_recv med k y a i j, .left ..⟩
  refine h.of_stuck (hpatient.tail hexpire) ?_
  rintro d (hd | ⟨-, hd⟩)
  · exact normal_comm_ret med x y a [] i j d hd
  · exact normal_expire_ret timeout x y a [] i j d hd

/-! ## What each party of a network run has seen -/

/-- The messages that come out of one direction of a medium for the messages
put in, the first of which is the `n`-th. -/
def transit (f : Nat → M → Option M) : Nat → List M → List M
  | _, [] => []
  | n, m :: ms => (f n m).toList ++ transit f (n + 1) ms

theorem transit_snoc (f : Nat → M → Option M) (n : Nat) (ms : List M) (m : M) :
    transit f n (ms ++ [m]) = transit f n ms ++ (f (n + ms.length) m).toList := by
  induction ms generalizing n with
  | nil => simp [transit]
  | cons x ms ih =>
      simp only [List.cons_append, transit, ih, List.length_cons, List.append_assoc]
      rw [show n + 1 + ms.length = n + (ms.length + 1) by omega]

theorem transit_sublist {f : Nat → M → Option M}
    (h : ∀ n m, f n m = none ∨ f n m = some m) (n : Nat) (ms : List M) :
    (transit f n ms).Sublist ms := by
  induction ms generalizing n with
  | nil => exact List.Sublist.refl _
  | cons m ms ih =>
      rcases h n m with hm | hm
      · simpa [transit, hm] using (ih (n + 1)).cons m
      · simpa [transit, hm] using (ih (n + 1)).cons_cons m

/-- A medium that loses some messages and alters the others as `R` allows. -/
theorem exists_sublist_transit {R : M → M → Prop} {f : Nat → M → Option M} {ms : List M}
    (h : ∀ n, ∀ m ∈ ms, f n m = none ∨ ∃ m', f n m = some m' ∧ R m m') (n : Nat) :
    ∃ kept, kept.Sublist ms ∧ List.Forall₂ R kept (transit f n ms) := by
  induction ms generalizing n with
  | nil => exact ⟨[], List.Sublist.refl _, .nil⟩
  | cons m ms ih =>
      obtain ⟨kept, hsub, hkept⟩ := ih (fun k m' hm' => h k m' (List.mem_cons_of_mem m hm')) (n + 1)
      rcases h n m (by simp) with hm | ⟨m', hm, hR⟩
      · refine ⟨kept, hsub.cons m, ?_⟩
        rw [transit, hm]
        exact hkept
      · refine ⟨m :: kept, hsub.cons_cons m, ?_⟩
        rw [transit, hm]
        exact .cons hR hkept

/-- The runs of the two parties behind a network run, with the link between
what one offers and what the other receives. -/
structure Explained (med : Medium M) (p : Proc M E α) (q : Proc M E β)
    (c : Net M E α β) (trL trR : List (Event M E)) : Prop where
  left : Steps p trL c.left
  right : Steps q trR c.right
  leftSent : c.leftSent = (offered trL).length
  rightSent : c.rightSent = (offered trR).length
  toRight : delivered trR ++ c.toRight = transit med.toRight 0 (offered trL)
  toLeft : delivered trL ++ c.toLeft = transit med.toLeft 0 (offered trR)

/-- Every reachable network configuration is explained by a run of each party. -/
theorem exists_explained {med : Medium M} {timeout : E} {p : Proc M E α} {q : Proc M E β}
    {c : Net M E α β} (h : Relation.ReflTransGen (Hasty med timeout) (Net.start p q) c) :
    ∃ trL trR, Explained med p q c trL trR := by
  induction h with
  | refl => exact ⟨[], [], .nil, .nil, rfl, rfl, rfl, rfl⟩
  | tail _ hs ih =>
      obtain ⟨trL, trR, hl, hr, hi, hj, hto, hback⟩ := ih
      rcases hs with hs | hs
      · cases hs with
        | sendLeft m k q a b i j =>
            refine ⟨trL ++ [.sent m (.ok ())], trR, .snoc hl (.send ..), hr, ?_, hj, ?_, ?_⟩
            · simp_all
            · simp only [offered_snoc_sent, transit_snoc, ← hto, Nat.zero_add] at hi ⊢
              rw [← hi, List.append_assoc]
            · simpa using hback
        | sendRight p m k a b i j =>
            refine ⟨trL, trR ++ [.sent m (.ok ())], hl, .snoc hr (.send ..), hi, ?_, ?_, ?_⟩
            · simp_all
            · simpa using hto
            · simp only [offered_snoc_sent, transit_snoc, ← hback, Nat.zero_add] at hj ⊢
              rw [← hj, List.append_assoc]
        | recvLeft k q a m b i j =>
            exact ⟨trL ++ [.recvd (.ok m)], trR, .snoc hl (.recv ..), hr, by simpa using hi,
              hj, by simpa using hto, by simpa using hback⟩
        | recvRight p k m a b i j =>
            exact ⟨trL, trR ++ [.recvd (.ok m)], hl, .snoc hr (.recv ..), hi,
              by simpa using hj, by simpa using hto, by simpa using hback⟩
      · cases hs with
        | left k q a i j =>
            exact ⟨trL ++ [.recvd (.error timeout)], trR, .snoc hl (.recv ..), hr,
              by simpa using hi, hj, by simpa using hto, by simpa using hback⟩
        | right p k b i j =>
            exact ⟨trL, trR ++ [.recvd (.error timeout)], hl, .snoc hr (.recv ..), hi,
              by simpa using hj, by simpa using hto, by simpa using hback⟩

end Uds.Base
