import Mathlib.Tactic.SplitIfs
import Uds.Core.Nrc
/-!
# Security access

Service 0x27 (`security.c`): seed and key challenge, failed attempts, lockout.
A call reads the clock up to three times; `clock i` is the reading of its
`i`-th place in the source, and `rand i` is the byte of the `i`-th `rand()`.
-/

namespace Uds.Core

def udsCoreSeedLen : Nat := 4
def udsCoreMaxAttempts : UInt8 := 3
def udsCoreLockoutSecs : Int := 300
def udsCoreSeedTimeoutSecs : Int := 10

def keyMask : Vector UInt8 udsCoreSeedLen := #v[0xAB, 0xCD, 0x12, 0x34]

structure UdsCoreSecurity where
  seed : Vector UInt8 udsCoreSeedLen
  seedValid : Bool
  pendingLevel : UInt8
  seedTs : Timespec
  failCount : UInt8
  locked : Bool
  lockedTs : Timespec
  unlockedLevel : UInt8
  deriving DecidableEq

def udsCoreSecurityInit : UdsCoreSecurity where
  seed := #v[0, 0, 0, 0]
  seedValid := false
  pendingLevel := 0
  seedTs := .zero
  failCount := 0
  locked := false
  lockedTs := .zero
  unlockedLevel := 0

/-- Whether the lockout is active; a lockout that has run out is cleared. -/
def checkLocked (sec : UdsCoreSecurity) (now : Timespec) : UdsCoreSecurity × Bool :=
  if !sec.locked then (sec, false)
  else if now.sec - sec.lockedTs.sec ≥ udsCoreLockoutSecs then
    ({ sec with locked := false, failCount := 0 }, false)
  else (sec, true)

def seedExpired (sec : UdsCoreSecurity) (now : Timespec) : Bool :=
  !sec.seedValid || now.sec - sec.seedTs.sec ≥ udsCoreSeedTimeoutSecs

def udsCoreSecComputeKey (seed : List UInt8) : List UInt8 :=
  seed.mapIdx fun i b => b ^^^ keyMask.toList.getD (i % udsCoreSeedLen) 0

/-- `uds_core_sec_request_seed` after the lockout check. -/
def issueSeed (sec : UdsCoreSecurity) (subFn : UInt8) (clock : Nat → Timespec)
    (rand : Nat → UInt8) : UdsCoreSecurity × Response :=
  if sec.unlockedLevel = subFn then
    -- already unlocked at this level: the all-zero seed
    (sec, .ok ([0x67, subFn] ++ List.replicate udsCoreSeedLen 0))
  else
    let seed := Vector.ofFn fun i => rand i
    ({ sec with seed := seed, seedValid := true, pendingLevel := subFn, seedTs := clock 1 },
      .ok ([0x67, subFn] ++ seed.toList))

def udsCoreSecRequestSeed (sec : UdsCoreSecurity) (subFn : UInt8) (respSize : Nat)
    (clock : Nat → Timespec) (rand : Nat → UInt8) : UdsCoreSecurity × Response :=
  if subFn = 0 ∨ subFn &&& 0x01 = 0 then (sec, .error (.errNrc .subFunctionNotSupported))
  else if respSize < 2 + udsCoreSeedLen then (sec, .error .errBuf)
  else
    let (sec, isLocked) := checkLocked sec (clock 0)
    if isLocked then (sec, .error (.errNrc .exceededNumberOfAttempts))
    else issueSeed sec subFn clock rand

/-- `mismatch` of the constant-time comparison: every differing bit, or-ed
together. -/
def keyMismatch (key expected : List UInt8) : UInt8 :=
  (List.zip key expected).foldl (fun acc p => acc ||| (p.1 ^^^ p.2)) 0

/-- `uds_core_sec_send_key` after the lockout check. -/
def verifyKey (sec : UdsCoreSecurity) (subFn : UInt8) (key : List UInt8)
    (clock : Nat → Timespec) : UdsCoreSecurity × Response :=
  let expectedSeedLevel := subFn - 1
  if !sec.seedValid || sec.pendingLevel ≠ expectedSeedLevel then
    (sec, .error (.errNrc .requestSequenceError))
  else if seedExpired sec (clock 1) then
    ({ sec with seedValid := false }, .error (.errNrc .requestSequenceError))
  else if key.length ≠ udsCoreSeedLen then (sec, .error (.errNrc .incorrectMsgLenOrFormat))
  else if keyMismatch key (udsCoreSecComputeKey sec.seed.toList) ≠ 0 then
    let failCount := sec.failCount + 1
    let sec := { sec with failCount := failCount, seedValid := false }
    if failCount ≥ udsCoreMaxAttempts then
      ({ sec with locked := true, lockedTs := clock 2 },
        .error (.errNrc .exceededNumberOfAttempts))
    else (sec, .error (.errNrc .invalidKey))
  else
    ({ sec with seedValid := false, failCount := 0, unlockedLevel := expectedSeedLevel },
      .ok [0x67, subFn])

def udsCoreSecSendKey (sec : UdsCoreSecurity) (subFn : UInt8) (key : List UInt8)
    (respSize : Nat) (clock : Nat → Timespec) : UdsCoreSecurity × Response :=
  if key.length = 0 then (sec, .error .errParam)
  else if subFn = 0 ∨ subFn &&& 0x01 ≠ 0 then (sec, .error (.errNrc .subFunctionNotSupported))
  else if respSize < 2 then (sec, .error .errBuf)
  else
    let (sec, isLocked) := checkLocked sec (clock 0)
    if isLocked then (sec, .error (.errNrc .exceededNumberOfAttempts))
    else verifyKey sec subFn key clock

def udsCoreSecIsUnlocked (sec : UdsCoreSecurity) (level : UInt8) : Bool :=
  sec.unlockedLevel = level && level ≠ 0

/-! ## Lockout -/

/-- The lockout is active at `now`. -/
def UdsCoreSecurity.LockedAt (sec : UdsCoreSecurity) (now : Timespec) : Prop :=
  sec.locked = true ∧ now.sec < sec.lockedTs.sec + udsCoreLockoutSecs

theorem checkLocked_of_lockedAt {sec : UdsCoreSecurity} {now : Timespec}
    (h : sec.LockedAt now) : checkLocked sec now = (sec, true) := by
  obtain ⟨hlocked, hnow⟩ := h
  unfold checkLocked
  rw [hlocked, if_neg (by simp), if_neg (by omega)]

/-- The lockout is active, there is none, or it has run out and is cleared. -/
theorem checkLocked_cases (sec : UdsCoreSecurity) (now : Timespec) :
    (sec.LockedAt now ∧ checkLocked sec now = (sec, true)) ∨
      (sec.locked = false ∧ checkLocked sec now = (sec, false)) ∨
      (sec.locked = true ∧ sec.lockedTs.sec + udsCoreLockoutSecs ≤ now.sec ∧
        checkLocked sec now = ({ sec with locked := false, failCount := 0 }, false)) := by
  cases hlocked : sec.locked with
  | false => exact Or.inr (Or.inl ⟨rfl, by simp [checkLocked, hlocked]⟩)
  | true =>
      by_cases hnow : now.sec < sec.lockedTs.sec + udsCoreLockoutSecs
      · exact Or.inl ⟨⟨hlocked, hnow⟩, checkLocked_of_lockedAt ⟨hlocked, hnow⟩⟩
      · refine Or.inr (Or.inr ⟨rfl, by omega, ?_⟩)
        unfold checkLocked
        rw [hlocked, if_neg (by decide), if_pos (by omega)]

theorem checkLocked_snd (sec : UdsCoreSecurity) (now : Timespec) :
    (checkLocked sec now).2 = true ↔ sec.LockedAt now := by
  constructor
  · intro h
    unfold checkLocked at h
    split_ifs at h with hlocked hrunOut
    exact ⟨by simpa using hlocked, by omega⟩
  · intro h
    rw [checkLocked_of_lockedAt h]

@[simp] theorem checkLocked_unlockedLevel (sec : UdsCoreSecurity) (now : Timespec) :
    (checkLocked sec now).1.unlockedLevel = sec.unlockedLevel := by
  unfold checkLocked
  split
  · rfl
  · split <;> rfl

section Calls

variable (sec : UdsCoreSecurity) (subFn : UInt8) (key : List UInt8) (respSize : Nat)
  (clock : Nat → Timespec) (rand : Nat → UInt8)

/-- A request for a seed is refused before the lockout check, refused by it, or
answered with a seed. -/
theorem requestSeed_cases :
    (∃ e, e ≠ .errNrc .exceededNumberOfAttempts ∧
        udsCoreSecRequestSeed sec subFn respSize clock rand = (sec, .error e)) ∨
      ((checkLocked sec (clock 0)).2 = true ∧
        udsCoreSecRequestSeed sec subFn respSize clock rand =
          ((checkLocked sec (clock 0)).1, .error (.errNrc .exceededNumberOfAttempts))) ∨
      ((checkLocked sec (clock 0)).2 = false ∧
        udsCoreSecRequestSeed sec subFn respSize clock rand =
          issueSeed (checkLocked sec (clock 0)).1 subFn clock rand) := by
  unfold udsCoreSecRequestSeed
  split
  · exact Or.inl ⟨_, by decide, rfl⟩
  · split
    · exact Or.inl ⟨_, by decide, rfl⟩
    · cases hlocked : (checkLocked sec (clock 0)).2 with
      | true => exact Or.inr (Or.inl ⟨rfl, by simp [hlocked]⟩)
      | false => exact Or.inr (Or.inr ⟨rfl, by simp [hlocked]⟩)

theorem sendKey_cases :
    (∃ e, e ≠ .errNrc .exceededNumberOfAttempts ∧
        udsCoreSecSendKey sec subFn key respSize clock = (sec, .error e)) ∨
      ((checkLocked sec (clock 0)).2 = true ∧
        udsCoreSecSendKey sec subFn key respSize clock =
          ((checkLocked sec (clock 0)).1, .error (.errNrc .exceededNumberOfAttempts))) ∨
      ((checkLocked sec (clock 0)).2 = false ∧
        udsCoreSecSendKey sec subFn key respSize clock =
          verifyKey (checkLocked sec (clock 0)).1 subFn key clock) := by
  unfold udsCoreSecSendKey
  split
  · exact Or.inl ⟨_, by decide, rfl⟩
  · split
    · exact Or.inl ⟨_, by decide, rfl⟩
    · split
      · exact Or.inl ⟨_, by decide, rfl⟩
      · cases hlocked : (checkLocked sec (clock 0)).2 with
        | true => exact Or.inr (Or.inl ⟨rfl, by simp [hlocked]⟩)
        | false => exact Or.inr (Or.inr ⟨rfl, by simp [hlocked]⟩)

/-! ## While the lockout is active -/

variable {sec subFn key respSize clock rand} in
theorem requestSeed_of_lockedAt (h : sec.LockedAt (clock 0)) :
    (udsCoreSecRequestSeed sec subFn respSize clock rand).1 = sec := by
  have hcheck := checkLocked_of_lockedAt h
  rcases requestSeed_cases sec subFn respSize clock rand with ⟨e, -, heq⟩ | ⟨-, heq⟩ | ⟨hnot, -⟩
  · rw [heq]
  · rw [heq, hcheck]
  · rw [hcheck] at hnot
    cases hnot

variable {sec subFn key respSize clock rand} in
theorem sendKey_of_lockedAt (h : sec.LockedAt (clock 0)) :
    (udsCoreSecSendKey sec subFn key respSize clock).1 = sec := by
  have hcheck := checkLocked_of_lockedAt h
  rcases sendKey_cases sec subFn key respSize clock with ⟨e, -, heq⟩ | ⟨-, heq⟩ | ⟨hnot, -⟩
  · rw [heq]
  · rw [heq, hcheck]
  · rw [hcheck] at hnot
    cases hnot

/-- An odd sub-function passes the check of `uds_core_sec_request_seed`. -/
theorem not_even_of_odd {subFn : UInt8} (hodd : subFn &&& 0x01 ≠ 0) :
    ¬(subFn = 0 ∨ subFn &&& 0x01 = 0) := by
  rintro (rfl | heven)
  · exact hodd rfl
  · exact hodd heven

variable {sec subFn key respSize clock rand} in
/-- A well-formed request for a seed is refused. -/
theorem requestSeed_refused (h : sec.LockedAt (clock 0)) (hodd : subFn &&& 0x01 ≠ 0)
    (hsize : 2 + udsCoreSeedLen ≤ respSize) :
    udsCoreSecRequestSeed sec subFn respSize clock rand =
      (sec, .error (.errNrc .exceededNumberOfAttempts)) := by
  unfold udsCoreSecRequestSeed
  rw [if_neg (not_even_of_odd hodd), if_neg (by omega), checkLocked_of_lockedAt h]
  rfl

/-- What a request for a seed sends: zeros where the level is unlocked already. -/
def sentSeed (sec : UdsCoreSecurity) (subFn : UInt8) (rand : Nat → UInt8) : List UInt8 :=
  if sec.unlockedLevel = subFn then List.replicate udsCoreSeedLen 0
  else (Vector.ofFn fun i : Fin udsCoreSeedLen => rand i).toList

@[simp] theorem length_sentSeed : (sentSeed sec subFn rand).length = udsCoreSeedLen := by
  unfold sentSeed
  split
  · exact List.length_replicate
  · exact Vector.length_toList

/-- The sent seed is zero where the level is unlocked already, or by chance. -/
theorem sentSeed_eq_zero :
    (∀ b ∈ sentSeed sec subFn rand, b = 0) ↔
      sec.unlockedLevel = subFn ∨ ∀ i < udsCoreSeedLen, rand i = 0 := by
  unfold sentSeed
  by_cases hlevel : sec.unlockedLevel = subFn
  · rw [if_pos hlevel]
    constructor
    · exact fun _ => Or.inl hlevel
    · exact fun _ b hb => List.eq_of_mem_replicate hb
  · rw [if_neg hlevel, or_iff_right hlevel]
    constructor
    · intro h i hi
      apply h
      rw [Vector.mem_toList_iff, Vector.mem_ofFn]
      exact ⟨⟨i, hi⟩, rfl⟩
    · intro h b hb
      rw [Vector.mem_toList_iff, Vector.mem_ofFn] at hb
      obtain ⟨i, rfl⟩ := hb
      exact h i i.isLt

variable {sec subFn key respSize clock rand} in
/-- A well-formed request for a seed is answered. -/
theorem requestSeed_sent (h : ¬sec.LockedAt (clock 0)) (hodd : subFn &&& 0x01 ≠ 0)
    (hsize : 2 + udsCoreSeedLen ≤ respSize) :
    (udsCoreSecRequestSeed sec subFn respSize clock rand).2 =
      .ok ([0x67, subFn] ++ sentSeed sec subFn rand) := by
  have hcheck : (checkLocked sec (clock 0)).2 = false := by
    rw [← checkLocked_snd] at h
    exact Bool.eq_false_iff.mpr h
  unfold udsCoreSecRequestSeed
  rw [if_neg (not_even_of_odd hodd), if_neg (by omega)]
  simp only [hcheck]
  unfold issueSeed sentSeed
  rw [if_neg (by decide), checkLocked_unlockedLevel]
  by_cases hlevel : sec.unlockedLevel = subFn
  · rw [if_pos hlevel, if_pos hlevel]
  · rw [if_neg hlevel, if_neg hlevel]

theorem verifyKey_locks {sec : UdsCoreSecurity} {subFn : UInt8} {key : List UInt8}
    {clock : Nat → Timespec}
    (h : (verifyKey sec subFn key clock).2 = .error (.errNrc .exceededNumberOfAttempts)) :
    (verifyKey sec subFn key clock).1.locked = true ∧
      (verifyKey sec subFn key clock).1.lockedTs = clock 2 := by
  simp only [verifyKey] at h ⊢
  split_ifs at h ⊢
  · cases h
  · cases h
  · cases h
  · exact ⟨rfl, rfl⟩
  · cases h

variable {sec subFn key respSize clock rand} in
/-- A key that passes the lockout check and is answered with NRC 0x36 starts a
lockout. -/
theorem sendKey_locks (hcheck : (checkLocked sec (clock 0)).2 = false)
    (h : (udsCoreSecSendKey sec subFn key respSize clock).2 =
      .error (.errNrc .exceededNumberOfAttempts)) :
    (udsCoreSecSendKey sec subFn key respSize clock).1.locked = true ∧
      (udsCoreSecSendKey sec subFn key respSize clock).1.lockedTs = clock 2 := by
  rcases sendKey_cases sec subFn key respSize clock with ⟨e, hne, heq⟩ | ⟨hlocked, -⟩ | ⟨-, heq⟩
  · rw [heq] at h
    cases h
    exact absurd rfl hne
  · rw [hcheck] at hlocked
    cases hlocked
  · rw [heq] at h ⊢
    exact verifyKey_locks h

/-! ## What unlocks a level -/

/-- Asking for a seed never changes what is unlocked. -/
theorem requestSeed_unlockedLevel :
    (udsCoreSecRequestSeed sec subFn respSize clock rand).1.unlockedLevel =
      sec.unlockedLevel := by
  rcases requestSeed_cases sec subFn respSize clock rand with ⟨e, -, h⟩ | ⟨-, h⟩ | ⟨-, h⟩
  · rw [h]
  · rw [h, checkLocked_unlockedLevel]
  · rw [h, ← checkLocked_unlockedLevel sec (clock 0)]
    unfold issueSeed
    split <;> rfl

theorem verifyKey_unlockedLevel :
    (verifyKey sec subFn key clock).1.unlockedLevel = sec.unlockedLevel ∨
      ((verifyKey sec subFn key clock).1.unlockedLevel = subFn - 1 ∧
        (verifyKey sec subFn key clock).2 = .ok [0x67, subFn]) := by
  simp only [verifyKey]
  split_ifs
  · exact Or.inl rfl
  · exact Or.inl rfl
  · exact Or.inl rfl
  · exact Or.inl rfl
  · exact Or.inl rfl
  · exact Or.inr ⟨rfl, rfl⟩

theorem sendKey_ok {resp : List UInt8}
    (h : (udsCoreSecSendKey sec subFn key respSize clock).2 = .ok resp) :
    resp = [0x67, subFn] := by
  rcases sendKey_cases sec subFn key respSize clock with ⟨e, -, heq⟩ | ⟨-, heq⟩ | ⟨-, heq⟩
  · rw [heq] at h
    cases h
  · rw [heq] at h
    cases h
  · rw [heq] at h
    simp only [verifyKey] at h
    split_ifs at h
    exact (Except.ok.inj h).symm

/-- A key changes what is unlocked only if it is accepted. -/
theorem sendKey_unlockedLevel :
    (udsCoreSecSendKey sec subFn key respSize clock).1.unlockedLevel = sec.unlockedLevel ∨
      ((udsCoreSecSendKey sec subFn key respSize clock).1.unlockedLevel = subFn - 1 ∧
        (udsCoreSecSendKey sec subFn key respSize clock).2 = .ok [0x67, subFn]) := by
  rcases sendKey_cases sec subFn key respSize clock with ⟨e, -, h⟩ | ⟨-, h⟩ | ⟨-, h⟩
  · exact Or.inl (by rw [h])
  · exact Or.inl (by rw [h, checkLocked_unlockedLevel])
  · rw [h, ← checkLocked_unlockedLevel sec (clock 0)]
    exact verifyKey_unlockedLevel ..

end Calls

end Uds.Core
