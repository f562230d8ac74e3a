import Uds.PyEcu.Access
/-!
# Guessing keys of the Python simulator

Three promises over whole runs.  A level is unlocked exactly since a fresh key for it; a
lockout holds for its 300 seconds, whatever is requested, and no longer; and within such a
time nobody gets more than three wrong keys and three more for each accepted one.
-/

namespace Uds.PyEcu

open Uds.Base

abbrev AccessTurn := Turn EcuState (Draws × List UInt8) (Option (List UInt8))

/-- A seed that was drawn, not the zero seed of an unlocked level. -/
def DrawsSeed (x : AccessTurn) : Prop :=
  RequestsSeed x.input.2 ∧
    x.output = some ([0x67, subFn x.input.2] ++ x.input.1.urandom.toList) ∧
      x.pre.securityLevel ≠ (subFn x.input.2).toNat

def LocksOut (x : AccessTurn) : Prop :=
  SendsKey x.input.2 ∧ x.output = some (nrc 0x27 nrcExceededAttempts)

def WrongKey (x : AccessTurn) : Prop :=
  SendsKey x.input.2 ∧ (x.output = some (nrc 0x27 nrcInvalidKey) ∨
    x.output = some (nrc 0x27 nrcExceededAttempts))

def AcceptsKey (x : AccessTurn) : Prop :=
  SendsKey x.input.2 ∧ x.output = some [0x67, subFn x.input.2]

/-- A seed is good for one key, and until the next seed or revocation. -/
def Supersedes (x : AccessTurn) : Prop :=
  DrawsSeed x ∨ WrongKey x ∨ AcceptsKey x ∨ Revokes x.input.2

/-- The seed is drawn for this level. -/
def DrawsFor (seed : List UInt8) (level : Int) (x : AccessTurn) : Prop :=
  DrawsSeed x ∧ (subFn x.input.2).toNat = level ∧ x.input.1.urandom.toList = seed

/-- The key is that of a seed for its level that is still good. -/
def FreshKey (h : List AccessTurn) (x : AccessTurn) : Prop :=
  ∃ seed, keyOf x.input.2 = computeKey seed ∧
    Since (DrawsFor seed (keyLevel x.input.2)) Supersedes h

def Unlocks (level : Int) (h : List AccessTurn) (x : AccessTurn) : Prop :=
  AcceptsKey x ∧ keyLevel x.input.2 = level ∧ FreshKey h x

def EndsAccess (x : AccessTurn) : Prop := AcceptsKey x ∨ Revokes x.input.2

instance (req : List UInt8) : Decidable (SendsKey req) := inferInstanceAs (Decidable (_ ∧ _ ∧ _))

instance (x : AccessTurn) : Decidable (WrongKey x) := inferInstanceAs (Decidable (_ ∧ (_ ∨ _)))

instance (x : AccessTurn) : Decidable (AcceptsKey x) := inferInstanceAs (Decidable (_ ∧ _))

instance (x : AccessTurn) : Decidable (LocksOut x) := inferInstanceAs (Decidable (_ ∧ _))

/-! ## Requests and answers -/

theorem RequestsSeed.not_sendsKey {req : List UInt8} (h : RequestsSeed req) : ¬SendsKey req :=
  fun hkey => h.2 hkey.2.2

theorem not_revokes_of_head {req : List UInt8} (h : req.head? = some 0x27) : ¬Revokes req := by
  rintro (⟨h', -⟩ | ⟨h', -⟩)
  · exact absurd (Option.some.inj (h'.symm.trans h)) (by decide)
  · exact absurd (Option.some.inj (h'.symm.trans h)) (by decide)

theorem nrc_ne_positive (n : UInt8) (l : List UInt8) :
    some (nrc 0x27 n) ≠ some ((0x67 : UInt8) :: l) := by
  intro h
  exact absurd (List.cons.inj (Option.some.inj h)).1 (by decide)

section Turn

variable (ecu : EcuState) (i : Draws × List UInt8) (out : Option (List UInt8))

theorem turn_effect :
    ∃ a out, turn dispatchStep ecu i = ⟨ecu, i, out⟩ ∧ (dispatchStep ecu i).1.access = a ∧
      AccessEffect ecu.access i.1.monotonic i.1.urandom.toList i.2 a out :=
  ⟨_, _, rfl, rfl, accessEffect ecu i.1 i.2⟩

theorem not_judged {i : Draws × List UInt8} (hkey : ¬SendsKey i.2) :
    ¬WrongKey ⟨ecu, i, out⟩ ∧ ¬AcceptsKey ⟨ecu, i, out⟩ :=
  ⟨fun h => hkey h.1, fun h => hkey h.1⟩

theorem not_judged_of_nrc {n : UInt8} (hinvalid : n ≠ nrcInvalidKey)
    (hexceeded : n ≠ nrcExceededAttempts) :
    ¬WrongKey ⟨ecu, i, some (nrc 0x27 n)⟩ ∧ ¬AcceptsKey ⟨ecu, i, some (nrc 0x27 n)⟩ := by
  have hnrc {m : UInt8} (h : some (nrc 0x27 n) = some (nrc 0x27 m)) : n = m :=
    (List.cons.inj (List.cons.inj (List.cons.inj (Option.some.inj h)).2).2).1
  constructor
  · rintro ⟨-, h | h⟩
    · exact hinvalid (hnrc h)
    · exact hexceeded (hnrc h)
  · exact fun h => nrc_ne_positive _ _ h.2

theorem not_acceptsKey_of_nrc (n : UInt8) : ¬AcceptsKey ⟨ecu, i, some (nrc 0x27 n)⟩ :=
  fun h => nrc_ne_positive _ _ h.2

theorem not_drawsSeed_of_nrc (n : UInt8) : ¬DrawsSeed ⟨ecu, i, some (nrc 0x27 n)⟩ :=
  fun h => nrc_ne_positive _ _ h.2.1

theorem not_supersedes {x : AccessTurn} (hseed : ¬DrawsSeed x)
    (hkey : ¬WrongKey x ∧ ¬AcceptsKey x) (hkept : ¬Revokes x.input.2) : ¬Supersedes x := by
  rintro (h | h | h | h)
  · exact hseed h
  · exact hkey.1 h
  · exact hkey.2 h
  · exact hkept h

end Turn

@[simp] theorem Access.freed_pendingSeed (a : Access) : a.freed.pendingSeed = a.pendingSeed := by
  unfold Access.freed
  split <;> rfl

@[simp] theorem Access.freed_pendingLevel (a : Access) :
    a.freed.pendingLevel = a.pendingLevel := by
  unfold Access.freed
  split <;> rfl

@[simp] theorem Access.freed_securityLevel (a : Access) :
    a.freed.securityLevel = a.securityLevel := by
  unfold Access.freed
  split <;> rfl

/-! ## Fresh keys -/

/-- The history accounts for the pending seed. -/
def PendingInv (h : List AccessTurn) (a : Access) : Prop :=
  ∀ seed, a.pendingSeed = some seed → Since (DrawsFor seed a.pendingLevel) Supersedes h

/-- The history accounts for the unlocked level. -/
def LevelInv (h : List AccessTurn) (a : Access) : Prop :=
  ∀ level, level ≠ 0 → (a.securityLevel = level ↔ SinceAt (Unlocks level) EndsAccess h)

section Invariant

variable {h : List AccessTurn} {a a' : Access} {x : AccessTurn}

theorem PendingInv.keep (hI : PendingInv h a) (hseed : a'.pendingSeed = a.pendingSeed)
    (hlevel : a'.pendingLevel = a.pendingLevel) (hx : ¬Supersedes x) :
    PendingInv (h ++ [x]) a' := by
  intro seed hpending
  rw [hlevel]
  exact (since_snoc _ _ h x).mpr (Or.inr ⟨hx, hI seed (hseed.symm.trans hpending)⟩)

theorem pendingInv_of_none (hnone : a'.pendingSeed = none) : PendingInv h a' := by
  intro seed hpending
  rw [hnone] at hpending
  cases hpending

theorem LevelInv.keep (hI : LevelInv h a) (hlevel : a'.securityLevel = a.securityLevel)
    (haccepts : ¬AcceptsKey x) (hkept : ¬Revokes x.input.2) : LevelInv (h ++ [x]) a' := by
  intro level hne
  rw [hlevel, hI level hne, sinceAt_snoc]
  constructor
  · exact fun hsince => Or.inr ⟨fun hends => hends.elim haccepts hkept, hsince⟩
  · rintro (hunlocks | ⟨-, hsince⟩)
    · exact absurd hunlocks.1 haccepts
    · exact hsince

theorem levelInv_of_revoked (hlevel : a'.securityLevel = 0) (haccepts : ¬AcceptsKey x)
    (hrevokes : Revokes x.input.2) : LevelInv (h ++ [x]) a' := by
  intro level hne
  rw [hlevel, sinceAt_snoc]
  refine iff_of_false hne.symm ?_
  rintro (hunlocks | ⟨hends, -⟩)
  · exact haccepts hunlocks.1
  · exact hends (Or.inr hrevokes)

theorem levelInv_of_accepted (hpending : PendingInv h a) {seed : List UInt8}
    (hseed : a.pendingSeed = some seed) (hfor : a.pendingLevel = keyLevel x.input.2)
    (hright : keyOf x.input.2 = computeKey seed) (haccepts : AcceptsKey x)
    (hlevel : a'.securityLevel = keyLevel x.input.2) : LevelInv (h ++ [x]) a' := by
  intro level _
  rw [hlevel, sinceAt_snoc]
  have hfresh : FreshKey h x := ⟨seed, hright, hfor ▸ hpending seed hseed⟩
  constructor
  · exact fun heq => Or.inl ⟨haccepts, heq, hfresh⟩
  · rintro (hunlocks | ⟨hends, -⟩)
    · exact hunlocks.2.1
    · exact absurd (Or.inl haccepts) hends

theorem account_keep (hpending : PendingInv h a) (hlevel : LevelInv h a)
    (hseed : a'.pendingSeed = a.pendingSeed) (hfor : a'.pendingLevel = a.pendingLevel)
    (hsame : a'.securityLevel = a.securityLevel) (hdraws : ¬DrawsSeed x)
    (hjudged : ¬WrongKey x ∧ ¬AcceptsKey x) (hkept : ¬Revokes x.input.2) :
    PendingInv (h ++ [x]) a' ∧ LevelInv (h ++ [x]) a' :=
  ⟨hpending.keep hseed hfor (not_supersedes hdraws hjudged hkept),
    hlevel.keep hsame hjudged.2 hkept⟩

theorem accountInv_step {ecu : EcuState} (i : Draws × List UInt8)
    (hpending : PendingInv h ecu.access) (hlevel : LevelInv h ecu.access) :
    PendingInv (h ++ [turn dispatchStep ecu i]) (dispatchStep ecu i).1.access ∧
      LevelInv (h ++ [turn dispatchStep ecu i]) (dispatchStep ecu i).1.access := by
  obtain ⟨a, out, hturn, ha, heffect⟩ := turn_effect ecu i
  rw [hturn, ha]
  cases heffect with
  | other hseed hkey hkept =>
      exact account_keep hpending hlevel rfl rfl rfl (fun h => hseed h.1)
        (not_judged ecu out hkey) hkept
  | revoked hseed hkey hrevokes =>
      exact ⟨pendingInv_of_none rfl, levelInv_of_revoked rfl (not_judged ecu out hkey).2 hrevokes⟩
  | waits hseed hlocked =>
      exact account_keep hpending hlevel rfl rfl rfl (not_drawsSeed_of_nrc ecu i _)
        (not_judged ecu _ hseed.not_sendsKey) (not_revokes_of_head hseed.1)
  | unlocked hseed hfree hsame =>
      exact account_keep hpending hlevel (by simp) (by simp) (by simp) (fun h => h.2.2 hsame)
        (not_judged ecu _ hseed.not_sendsKey) (not_revokes_of_head hseed.1)
  | drawn hseed hfree hother =>
      have hjudged := not_judged ecu (some ([0x67, subFn i.2] ++ i.1.urandom.toList))
        hseed.not_sendsKey
      refine ⟨?_, hlevel.keep (by simp) hjudged.2 (not_revokes_of_head hseed.1)⟩
      intro seed hsome
      obtain rfl : i.1.urandom.toList = seed := Option.some.inj hsome
      exact (since_snoc _ _ h _).mpr (Or.inl ⟨⟨hseed, rfl, hother⟩, rfl, rfl⟩)
  | unasked hkey hnone =>
      exact account_keep hpending hlevel rfl rfl rfl (not_drawsSeed_of_nrc ecu i _)
        (not_judged_of_nrc ecu i (by decide) (by decide)) (not_revokes_of_head hkey.1)
  | short hkey hsome hfor =>
      exact account_keep hpending hlevel rfl rfl rfl (not_drawsSeed_of_nrc ecu i _)
        (not_judged_of_nrc ecu i (by decide) (by decide)) (not_revokes_of_head hkey.1)
  | wrong hkey hsome hfor hwrong hless =>
      exact ⟨pendingInv_of_none rfl,
        hlevel.keep rfl (not_acceptsKey_of_nrc ecu i _) (not_revokes_of_head hkey.1)⟩
  | exceeded hkey hsome hfor hwrong hmany =>
      exact ⟨pendingInv_of_none rfl,
        hlevel.keep rfl (not_acceptsKey_of_nrc ecu i _) (not_revokes_of_head hkey.1)⟩
  | right hkey hsome hfor hright =>
      exact ⟨pendingInv_of_none rfl,
        levelInv_of_accepted hpending hsome hfor hright ⟨hkey, rfl⟩ rfl⟩

end Invariant

/-- A level is unlocked exactly if a fresh key for it was accepted, and since then no other key
was and nothing revoked the access. -/
theorem securityLevel_iff (monotonic : Rat) (inputs : List (Draws × List UInt8)) {level : Int}
    (hlevel : level ≠ 0) :
    (runFrom dispatchStep (EcuState.init monotonic) inputs).securityLevel = level ↔
      SinceAt (Unlocks level) EndsAccess
        (turnsFrom dispatchStep (EcuState.init monotonic) inputs) := by
  have hinit : PendingInv [] (EcuState.init monotonic).access ∧
      LevelInv [] (EcuState.init monotonic).access := by
    refine ⟨pendingInv_of_none rfl, fun level hne => iff_of_false hne.symm ?_⟩
    rintro ⟨pre, x, post, hnil, -⟩
    simp at hnil
  have hrun := run_invariant dispatchStep (C := fun _ => True)
    (fun h ecu => PendingInv h ecu.access ∧ LevelInv h ecu.access) hinit
    (fun h ecu i hI _ => accountInv_step i hI.1 hI.2) inputs fun _ _ => trivial
  exact hrun.2 level hlevel

/-- Readings at `t`, and a seed. -/
def sampleDraws (t : Rat) : Draws := ⟨t, #v[1, 2, 3, 4]⟩

def unlockOne : List (Draws × List UInt8) :=
  [(sampleDraws 0, [0x27, 0x01]), (sampleDraws 0, [0x27, 0x02] ++ computeKey [1, 2, 3, 4])]

theorem securityLevel_iff_unlockOne :
    (runFrom dispatchStep (EcuState.init 0) unlockOne).securityLevel = 1 ↔
      SinceAt (Unlocks 1) EndsAccess (turnsFrom dispatchStep (EcuState.init 0) unlockOne) :=
  securityLevel_iff 0 unlockOne (by decide)

/-! ## The lockout -/

/-- Locked since `t`, with no seed that a key could be sent for. -/
def Access.LockedBy (t : Rat) (a : Access) : Prop :=
  a.locked = true ∧ a.lockedTs = t ∧ a.pendingSeed = none

/-- What the lockout promises of the next request: a seed is refused for exactly its time, a
key always, and no level is unlocked. -/
structure KeepsLockout (t : Rat) (ecu : EcuState) (i : Draws × List UInt8) : Prop where
  seed_iff : RequestsSeed i.2 → ((dispatchStep ecu i).2 = some (nrc 0x27 nrcTimeDelayNotExpired) ↔
    binary64.sub i.1.monotonic t < lockoutSecs)
  key : SendsKey i.2 → (dispatchStep ecu i).2 = some (nrc 0x27 nrcRequestSequenceError)
  level : (dispatchStep ecu i).1.securityLevel = ecu.securityLevel ∨
    (dispatchStep ecu i).1.securityLevel = 0

section Lockout

variable {t : Rat} {ecu : EcuState} {i : Draws × List UInt8}

theorem lockedBy_of_locksOut (h : LocksOut (turn dispatchStep ecu i)) :
    (dispatchStep ecu i).1.access.LockedBy i.1.monotonic := by
  obtain ⟨a, out, hturn, ha, heffect⟩ := turn_effect ecu i
  rw [hturn] at h
  rw [ha]
  have hout {n : UInt8} (hn : n ≠ nrcExceededAttempts) :
      some (nrc 0x27 n) ≠ some (nrc 0x27 nrcExceededAttempts) := fun heq =>
    hn (List.cons.inj (List.cons.inj (List.cons.inj (Option.some.inj heq)).2).2).1
  cases heffect with
  | other _ hkey => exact absurd h.1 hkey
  | revoked _ hkey => exact absurd h.1 hkey
  | waits hseed => exact absurd h.1 hseed.not_sendsKey
  | unlocked hseed => exact absurd h.1 hseed.not_sendsKey
  | drawn hseed => exact absurd h.1 hseed.not_sendsKey
  | unasked => exact absurd h.2 (hout (by decide))
  | short => exact absurd h.2 (hout (by decide))
  | wrong => exact absurd h.2 (hout (by decide))
  | exceeded => exact ⟨rfl, rfl, rfl⟩
  | right => exact absurd h.2.symm (nrc_ne_positive _ _)

theorem Access.LockedBy.free_iff {a : Access} (h : a.LockedBy t) (now : Rat) :
    a.Free now ↔ lockoutSecs ≤ binary64.sub now t := by
  unfold Access.Free
  rw [h.1, h.2.1]
  exact ⟨fun hfree => hfree rfl, fun hle _ => hle⟩

theorem Access.LockedBy.no_seed {a : Access} (h : a.LockedBy t) {seed : List UInt8} :
    a.pendingSeed ≠ some seed := by
  rw [h.2.2]
  exact (Option.some_ne_none seed).symm

theorem keepsLockout_of_lockedBy (h : ecu.access.LockedBy t) : KeepsLockout t ecu i := by
  obtain ⟨a, out, hturn, ha, heffect⟩ := turn_effect ecu i
  have hout : (dispatchStep ecu i).2 = out := congrArg Turn.output hturn
  have hlevel : (dispatchStep ecu i).1.securityLevel = a.securityLevel :=
    congrArg Access.securityLevel ha
  have hfree := h.free_iff i.1.monotonic
  cases heffect with
  | other hseed hkey =>
      exact ⟨fun hs => absurd hs hseed, fun hk => absurd hk hkey, Or.inl hlevel⟩
  | revoked hseed hkey =>
      exact ⟨fun hs => absurd hs hseed, fun hk => absurd hk hkey, Or.inr hlevel⟩
  | waits hseed hlocked =>
      refine ⟨fun _ => iff_of_true hout ?_, fun hk => absurd hk hseed.not_sendsKey, Or.inl hlevel⟩
      exact not_le.mp (mt hfree.mpr hlocked)
  | unlocked hseed hlate =>
      refine ⟨fun _ => iff_of_false ?_ (not_lt.mpr (hfree.mp hlate)),
        fun hk => absurd hk hseed.not_sendsKey, Or.inl (hlevel.trans (by simp; rfl))⟩
      rw [hout]
      exact (nrc_ne_positive _ _).symm
  | drawn hseed hlate =>
      refine ⟨fun _ => iff_of_false ?_ (not_lt.mpr (hfree.mp hlate)),
        fun hk => absurd hk hseed.not_sendsKey, Or.inl (hlevel.trans (by simp; rfl))⟩
      rw [hout]
      exact (nrc_ne_positive _ _).symm
  | unasked hkey => exact ⟨fun hs => absurd hkey hs.not_sendsKey, fun _ => hout, Or.inl hlevel⟩
  | short _ hsome => exact absurd hsome h.no_seed
  | wrong _ hsome => exact absurd hsome h.no_seed
  | exceeded _ hsome => exact absurd hsome h.no_seed
  | right _ hsome => exact absurd hsome h.no_seed

theorem lockedBy_step (h : ecu.access.LockedBy t)
    (hearly : binary64.sub i.1.monotonic t < lockoutSecs) :
    (dispatchStep ecu i).1.access.LockedBy t := by
  obtain ⟨a, out, hturn, ha, heffect⟩ := turn_effect ecu i
  rw [ha]
  have hnot : ¬ecu.access.Free i.1.monotonic := by
    rw [h.free_iff]
    exact not_le.mpr hearly
  cases heffect with
  | other => exact h
  | revoked => exact ⟨h.1, h.2.1, rfl⟩
  | waits => exact h
  | unlocked _ hfree => exact absurd hfree hnot
  | drawn _ hfree => exact absurd hfree hnot
  | unasked => exact h
  | short => exact h
  | wrong _ hsome => exact absurd hsome h.no_seed
  | exceeded _ hsome => exact absurd hsome h.no_seed
  | right _ hsome => exact absurd hsome h.no_seed

theorem lockedBy_run (h : ecu.access.LockedBy t) (inputs : List (Draws × List UInt8))
    (hearly : ∀ j ∈ inputs, binary64.sub j.1.monotonic t < lockoutSecs) :
    (runFrom dispatchStep ecu inputs).access.LockedBy t := by
  induction inputs generalizing ecu with
  | nil => exact h
  | cons i inputs ih =>
      obtain ⟨hfirst, hrest⟩ := List.forall_mem_cons.mp hearly
      exact ih (lockedBy_step h hfirst) hrest

end Lockout

/-- Whatever is requested in the time of a lockout, resets included, it holds to its end. -/
theorem lockout_holds (ecu : EcuState) (i : Draws × List UInt8)
    (hlock : LocksOut (turn dispatchStep ecu i)) (inputs : List (Draws × List UInt8))
    (hearly : ∀ j ∈ inputs, binary64.sub j.1.monotonic i.1.monotonic < lockoutSecs)
    (j : Draws × List UInt8) :
    KeepsLockout i.1.monotonic (runFrom dispatchStep (dispatchStep ecu i).1 inputs) j :=
  keepsLockout_of_lockedBy (lockedBy_run (lockedBy_of_locksOut hlock) inputs hearly)

/-- A wrong key, whatever the seed. -/
def guess : Draws × List UInt8 := (sampleDraws 0, [0x27, 0x02, 0x00, 0x00, 0x00, 0x00])

/-- Two wrong keys and a third seed. -/
def guesses : List (Draws × List UInt8) :=
  [(sampleDraws 0, [0x27, 0x01]), guess, (sampleDraws 0, [0x27, 0x01]), guess,
    (sampleDraws 0, [0x27, 0x01])]

/-- A reset after 100 seconds does not help after 200. -/
theorem lockout_holds_reset :
    KeepsLockout 0
      (runFrom dispatchStep (dispatchStep (runFrom dispatchStep (EcuState.init 0) guesses) guess).1
        [(sampleDraws 100, [0x11, 0x01])]) (sampleDraws 200, [0x27, 0x01]) := by
  have hlock : LocksOut
      (turn dispatchStep (runFrom dispatchStep (EcuState.init 0) guesses) guess) := by decide
  apply lockout_holds _ guess hlock
  intro j hj
  rw [List.mem_singleton.mp hj]
  change binary64.sub 100 0 < 300
  decide +kernel

/-- Less than 300 seconds apart, but the difference is rounded to 300. -/
example :
    binary64.round (320460256197 / 10 ^ 9) - binary64.round (20460256197 / 10 ^ 9) < lockoutSecs ∧
      binary64.sub (binary64.round (320460256197 / 10 ^ 9))
        (binary64.round (20460256197 / 10 ^ 9)) = lockoutSecs := by
  decide +kernel

/-! ## Attempts -/

/-- A lockout takes the seed; without one there are attempts left. -/
def Access.AttemptInv (a : Access) : Prop :=
  (a.locked = true → a.pendingSeed = none) ∧ (a.locked = false → a.failCount < maxAttempts)

/-- How many wrong keys are possible from `t` on for the time of a lockout. -/
def Access.attemptsLeft (t : Rat) (a : Access) : Nat :=
  if a.locked then if t ≤ a.lockedTs then 0 else maxAttempts else maxAttempts - a.failCount

theorem Access.attemptsLeft_le (t : Rat) (a : Access) : a.attemptsLeft t ≤ maxAttempts := by
  unfold Access.attemptsLeft
  split_ifs <;> omega

section Attempts

variable {t : Rat} {ecu : EcuState} {i : Draws × List UInt8}

theorem freed_attemptInv {a : Access} (h : a.AttemptInv) : a.freed.AttemptInv := by
  unfold Access.freed
  split
  · exact ⟨fun hlocked => (by cases hlocked), fun _ => (by decide : 0 < maxAttempts)⟩
  · exact h

theorem freed_attemptsLeft {a : Access} {now : Rat} (hfree : a.Free now)
    (hnow : binary64.sub now t < lockoutSecs) : a.freed.attemptsLeft t ≤ a.attemptsLeft t := by
  by_cases hlocked : a.locked = true
  · have hbefore : ¬t ≤ a.lockedTs := by
      intro hle
      have hlonger := (hfree hlocked).trans (binary64.sub_mono le_rfl hle)
      exact absurd hlonger (not_le.mpr hnow)
    have hall : a.attemptsLeft t = maxAttempts := by
      unfold Access.attemptsLeft
      rw [if_pos hlocked, if_neg hbefore]
    rw [hall]
    exact Access.attemptsLeft_le t a.freed
  · have hfreed : a.freed = a := if_neg hlocked
    rw [hfreed]

theorem attemptInv_step (h : ecu.access.AttemptInv) :
    (dispatchStep ecu i).1.access.AttemptInv := by
  obtain ⟨a, out, hturn, ha, heffect⟩ := turn_effect ecu i
  rw [ha]
  cases heffect with
  | other => exact h
  | revoked => exact ⟨fun _ => rfl, h.2⟩
  | waits => exact h
  | unlocked => exact freed_attemptInv h
  | drawn _ hfree =>
      have hfreed : ecu.access.freed.locked = false := by
        unfold Access.freed
        split
        · rfl
        · exact Bool.eq_false_iff.mpr ‹_›
      exact ⟨fun hlocked => absurd (hfreed.symm.trans hlocked) (by decide),
        (freed_attemptInv h).2⟩
  | unasked => exact h
  | short => exact h
  | wrong _ _ _ _ hless => exact ⟨fun _ => rfl, fun _ => hless⟩
  | exceeded => exact ⟨fun _ => rfl, fun hlocked => (by cases hlocked)⟩
  | right => exact ⟨fun _ => rfl, fun _ => (by decide : 0 < maxAttempts)⟩

theorem attemptsLeft_step (h : ecu.access.AttemptInv)
    (hwindow : t ≤ i.1.monotonic ∧ binary64.sub i.1.monotonic t < lockoutSecs) :
    (if WrongKey (turn dispatchStep ecu i) then 1 else 0) +
        (dispatchStep ecu i).1.access.attemptsLeft t ≤
      ecu.access.attemptsLeft t +
        if AcceptsKey (turn dispatchStep ecu i) then maxAttempts else 0 := by
  obtain ⟨a, out, hturn, ha, heffect⟩ := turn_effect ecu i
  rw [hturn, ha]
  have hsame {x : AccessTurn} {a : Access} (hjudged : ¬WrongKey x ∧ ¬AcceptsKey x)
      (hle : a.attemptsLeft t ≤ ecu.access.attemptsLeft t) :
      (if WrongKey x then 1 else 0) + a.attemptsLeft t ≤
        ecu.access.attemptsLeft t + if AcceptsKey x then maxAttempts else 0 := by
    rw [if_neg hjudged.1, if_neg hjudged.2]
    omega
  have hopen {seed : List UInt8} (hsome : ecu.access.pendingSeed = some seed) :
      ecu.access.locked = false := by
    rw [← Bool.not_eq_true]
    intro hlocked
    rw [h.1 hlocked] at hsome
    cases hsome
  cases heffect with
  | other hseed hkey => exact hsame (not_judged ecu out hkey) le_rfl
  | revoked hseed hkey => exact hsame (not_judged ecu out hkey) le_rfl
  | waits hseed => exact hsame (not_judged ecu _ hseed.not_sendsKey) le_rfl
  | unlocked hseed hfree =>
      exact hsame (not_judged ecu _ hseed.not_sendsKey) (freed_attemptsLeft hfree hwindow.2)
  | drawn hseed hfree =>
      exact hsame (not_judged ecu _ hseed.not_sendsKey) (freed_attemptsLeft hfree hwindow.2)
  | unasked => exact hsame (not_judged_of_nrc ecu i (by decide) (by decide)) le_rfl
  | short => exact hsame (not_judged_of_nrc ecu i (by decide) (by decide)) le_rfl
  | wrong hkey hsome _ _ hless =>
      have hlocked := hopen hsome
      rw [if_pos ⟨hkey, Or.inl rfl⟩]
      simp only [Access.attemptsLeft, hlocked, Bool.false_eq_true, if_false]
      omega
  | exceeded hkey hsome =>
      have hlocked := hopen hsome
      have hleft := h.2 hlocked
      rw [if_pos ⟨hkey, Or.inr rfl⟩]
      simp only [Access.attemptsLeft, hlocked, hwindow.1, Bool.false_eq_true, if_false, if_true]
      omega
  | right hkey hsome =>
      have hnot : ¬WrongKey ⟨ecu, i, some [0x67, subFn i.2]⟩ := by
        rintro ⟨-, hout | hout⟩
        · exact nrc_ne_positive _ _ hout.symm
        · exact nrc_ne_positive _ _ hout.symm
      rw [if_neg hnot, if_pos ⟨hkey, rfl⟩, Nat.zero_add]
      exact (Access.attemptsLeft_le t _).trans (Nat.le_add_left _ _)

end Attempts

/-- Within the time of a lockout there are three wrong keys at most, and three more for each
accepted one, whatever came before and whatever else is requested. -/
theorem wrongKeys_le (monotonic : Rat) (before window : List (Draws × List UInt8)) (t : Rat)
    (hwindow : ∀ i ∈ window, t ≤ i.1.monotonic ∧ binary64.sub i.1.monotonic t < lockoutSecs) :
    (turnsFrom dispatchStep (runFrom dispatchStep (EcuState.init monotonic) before)
        window).countP (fun x => decide (WrongKey x)) ≤
      maxAttempts * ((turnsFrom dispatchStep (runFrom dispatchStep (EcuState.init monotonic) before)
        window).countP (fun x => decide (AcceptsKey x)) + 1) := by
  have hinit : (EcuState.init monotonic).access.AttemptInv :=
    ⟨fun hlocked => (by cases hlocked), fun _ => (by decide : 0 < maxAttempts)⟩
  have hbefore : (runFrom dispatchStep (EcuState.init monotonic) before).access.AttemptInv :=
    Reachable.invariant dispatchStep (fun ecu => ecu.access.AttemptInv) hinit
      (fun _ _ h => attemptInv_step h) ⟨before, rfl⟩
  have hcount := countP_le_of_potential dispatchStep
    (C := fun x => t ≤ x.input.1.monotonic ∧ binary64.sub x.input.1.monotonic t < lockoutSecs)
    (fun ecu => ecu.access.AttemptInv) (fun ecu => ecu.access.attemptsLeft t)
    WrongKey AcceptsKey (k := maxAttempts) (fun _ _ h _ => attemptInv_step h)
    (fun _ _ h hC => attemptsLeft_step h hC) hbefore window
    fun x hx => hwindow x.input (input_mem_of_turn dispatchStep hx)
  have hleft := Access.attemptsLeft_le t
    (runFrom dispatchStep (EcuState.init monotonic) before).access
  rw [Nat.mul_succ, Nat.add_comm]
  exact hcount.trans (Nat.add_le_add_right hleft _)

theorem wrongKeys_le_guesses :
    (turnsFrom dispatchStep (runFrom dispatchStep (EcuState.init 0) []) (guesses ++ [guess])).countP
        (fun x => decide (WrongKey x)) ≤
      maxAttempts * ((turnsFrom dispatchStep (runFrom dispatchStep (EcuState.init 0) [])
        (guesses ++ [guess])).countP (fun x => decide (AcceptsKey x)) + 1) := by
  apply wrongKeys_le 0 [] (guesses ++ [guess]) 0
  have hdraws : ∀ i ∈ guesses ++ [guess], i.1 = sampleDraws 0 := by simp [guesses, guess]
  intro i hi
  rw [hdraws i hi]
  exact ⟨le_rfl, by decide +kernel⟩

end Uds.PyEcu
