import Uds.Base.History
import Uds.Base.Machine
import Uds.Core.Security
/-!
# What unlocks a level

Runs of calls of `uds_core_sec_request_seed` and `uds_core_sec_send_key`.  Two
invariants relate the state to the history: a valid seed is the last one drawn,
and no key has been compared with it; an unlocked level goes back to a key that
was accepted for it, after which no other level was unlocked.
-/

namespace Uds.Core

open Uds.Base

/-! ## The key comparison -/

theorem foldl_or_xor_eq_zero (pairs : List (UInt8 × UInt8)) (acc : UInt8) :
    pairs.foldl (fun acc p => acc ||| (p.1 ^^^ p.2)) acc = 0 ↔
      acc = 0 ∧ ∀ p ∈ pairs, p.1 = p.2 := by
  induction pairs generalizing acc with
  | nil => simp
  | cons p pairs ih =>
      rw [List.foldl_cons, ih, UInt8.or_eq_zero_iff, UInt8.xor_eq_zero_iff, and_assoc,
        List.forall_mem_cons]

/-- The constant-time comparison finds no difference between equal keys only. -/
theorem keyMismatch_eq_zero {key expected : List UInt8} (hlen : key.length = expected.length) :
    keyMismatch key expected = 0 ↔ key = expected := by
  unfold keyMismatch
  rw [foldl_or_xor_eq_zero]
  constructor
  · rintro ⟨-, hpairs⟩
    apply List.ext_getElem hlen
    intro i hi hi'
    have hmem : (key[i], expected[i]) ∈ key.zip expected := by
      rw [← List.getElem_zip (h := by simp; omega)]
      exact List.getElem_mem _
    exact hpairs _ hmem
  · rintro rfl
    refine ⟨rfl, ?_⟩
    intro p hp
    obtain ⟨i, hi, rfl⟩ := List.mem_iff_getElem.mp hp
    simp

/-- Seed XOR mask. -/
def seedXorMask (seed : Vector UInt8 udsCoreSeedLen) : List UInt8 :=
  List.zipWith (· ^^^ ·) seed.toList keyMask.toList

theorem udsCoreSecComputeKey_eq (seed : Vector UInt8 udsCoreSeedLen) :
    udsCoreSecComputeKey seed.toList = seedXorMask seed := by
  apply List.ext_getElem
  · simp [udsCoreSecComputeKey, seedXorMask]
  · intro i hi hi'
    have hlt : i < udsCoreSeedLen := by
      simpa [udsCoreSecComputeKey] using hi
    simp [udsCoreSecComputeKey, seedXorMask, Nat.mod_eq_of_lt hlt, hlt]

/-! ## Calls -/

/-- A call, with the clock readings and `rand()` bytes it gets. -/
inductive SecCall where
  | requestSeed (subFn : UInt8) (respSize : Nat) (clock : Nat → Timespec) (rand : Nat → UInt8)
  | sendKey (subFn : UInt8) (key : List UInt8) (respSize : Nat) (clock : Nat → Timespec)

def SecCall.clock : SecCall → Nat → Timespec
  | requestSeed _ _ clock _ => clock
  | sendKey _ _ _ clock => clock

def secStep (sec : UdsCoreSecurity) : SecCall → UdsCoreSecurity × Response
  | .requestSeed subFn respSize clock rand =>
    udsCoreSecRequestSeed sec subFn respSize clock rand
  | .sendKey subFn key respSize clock => udsCoreSecSendKey sec subFn key respSize clock

abbrev SecTurn := Turn UdsCoreSecurity SecCall Response

/-- No reading of the clock is earlier than one of an earlier call. -/
def ClockForward (calls : List SecCall) : Prop :=
  calls.Pairwise fun a b => ∀ i j, a.clock i ≤ b.clock j

/-- The lockout does not refuse the call. -/
def NotLocked (sec : UdsCoreSecurity) (clock : Nat → Timespec) : Prop :=
  (checkLocked sec (clock 0)).2 = false

/-- A request for a seed passes all checks, and the level is not unlocked yet. -/
def DrawsSeed (sec : UdsCoreSecurity) (subFn : UInt8) (respSize : Nat)
    (clock : Nat → Timespec) : Prop :=
  ¬(subFn = 0 ∨ subFn &&& 0x01 = 0) ∧ 2 + udsCoreSeedLen ≤ respSize ∧ NotLocked sec clock ∧
    sec.unlockedLevel ≠ subFn

/-- There is a seed for the key, it has not expired, and the key has its length. -/
def FitsSeed (sec : UdsCoreSecurity) (subFn : UInt8) (key : List UInt8)
    (clock : Nat → Timespec) : Prop :=
  sec.seedValid = true ∧ sec.pendingLevel = subFn - 1 ∧ seedExpired sec (clock 1) = false ∧
    key.length = udsCoreSeedLen

/-- A key passes all checks before the comparison. -/
def ComparesKey (sec : UdsCoreSecurity) (subFn : UInt8) (key : List UInt8) (respSize : Nat)
    (clock : Nat → Timespec) : Prop :=
  ¬(subFn = 0 ∨ subFn &&& 0x01 ≠ 0) ∧ 2 ≤ respSize ∧ NotLocked sec clock ∧
    FitsSeed sec subFn key clock

/-- The turn draws a new seed. -/
def Draws (x : SecTurn) : Prop :=
  match x.input with
  | .requestSeed subFn respSize clock _ => DrawsSeed x.pre subFn respSize clock
  | .sendKey .. => False

/-- The turn compares a key with the seed. -/
def Compares (x : SecTurn) : Prop :=
  match x.input with
  | .requestSeed .. => False
  | .sendKey subFn key respSize clock => ComparesKey x.pre subFn key respSize clock

/-- The turn draws `seed` for `level` at the time `ts`. -/
def DrawsFor (level : UInt8) (seed : Vector UInt8 udsCoreSeedLen) (ts : Timespec) (x : SecTurn) :
    Prop :=
  Draws x ∧ ∃ respSize clock rand, x.input = .requestSeed level respSize clock rand ∧
    seed = Vector.ofFn (fun i => rand i) ∧ ts = clock 1

/-- The turn accepts a key for another level. -/
def UnlocksOther (level : UInt8) (x : SecTurn) : Prop :=
  ∃ subFn key respSize clock resp, x.input = .sendKey subFn key respSize clock ∧
    x.output = .ok resp ∧ subFn - 1 ≠ level

/-! ## What one call does -/

theorem checkLocked_fst (sec : UdsCoreSecurity) (now : Timespec) :
    ∃ failCount locked, (checkLocked sec now).1 =
      { sec with failCount := failCount, locked := locked } := by
  unfold checkLocked
  split
  · exact ⟨sec.failCount, sec.locked, rfl⟩
  · split
    · exact ⟨0, false, rfl⟩
    · exact ⟨sec.failCount, sec.locked, rfl⟩

/-- Two states with the same pending seed. -/
structure SamePending (sec sec' : UdsCoreSecurity) : Prop where
  seedValid : sec'.seedValid = sec.seedValid
  pendingLevel : sec'.pendingLevel = sec.pendingLevel
  seed : sec'.seed = sec.seed
  seedTs : sec'.seedTs = sec.seedTs

theorem checkLocked_samePending (sec : UdsCoreSecurity) (now : Timespec) :
    SamePending sec (checkLocked sec now).1 := by
  obtain ⟨failCount, locked, h⟩ := checkLocked_fst sec now
  rw [h]
  exact ⟨rfl, rfl, rfl, rfl⟩

/-- The state after a wrong key; the third one starts a lockout at `now`. -/
def afterFailure (sec : UdsCoreSecurity) (now : Timespec) : UdsCoreSecurity :=
  if sec.failCount + 1 ≥ udsCoreMaxAttempts then
    { sec with
      failCount := sec.failCount + 1
      seedValid := false
      locked := true
      lockedTs := now }
  else { sec with failCount := sec.failCount + 1, seedValid := false }

/-- The state after the right key for a level. -/
def afterSuccess (sec : UdsCoreSecurity) (level : UInt8) : UdsCoreSecurity :=
  { sec with seedValid := false, failCount := 0, unlockedLevel := level }

section Failure

variable (sec : UdsCoreSecurity) (now : Timespec)

@[simp] theorem afterFailure_seedValid : (afterFailure sec now).seedValid = false := by
  unfold afterFailure
  split <;> rfl

@[simp] theorem afterFailure_unlockedLevel :
    (afterFailure sec now).unlockedLevel = sec.unlockedLevel := by
  unfold afterFailure
  split <;> rfl

@[simp] theorem afterFailure_failCount :
    (afterFailure sec now).failCount = sec.failCount + 1 := by
  unfold afterFailure
  split <;> rfl

end Failure

section Calls

variable (sec : UdsCoreSecurity) (subFn : UInt8) (key : List UInt8) (respSize : Nat)
  (clock : Nat → Timespec) (rand : Nat → UInt8)

/-- A request for a seed is refused with the state as it was, or answered in the state that
the lockout check leaves. -/
theorem requestSeed_issues :
    (¬DrawsSeed sec subFn respSize clock ∧
        ∃ e, udsCoreSecRequestSeed sec subFn respSize clock rand = (sec, .error e)) ∨
      (¬(subFn = 0 ∨ subFn &&& 0x01 = 0) ∧ 2 + udsCoreSeedLen ≤ respSize ∧ NotLocked sec clock ∧
        udsCoreSecRequestSeed sec subFn respSize clock rand =
          issueSeed (checkLocked sec (clock 0)).1 subFn clock rand) := by
  unfold udsCoreSecRequestSeed DrawsSeed NotLocked
  by_cases hsub : subFn = 0 ∨ subFn &&& 0x01 = 0
  · rw [if_pos hsub]
    exact Or.inl ⟨fun h => h.1 hsub, _, rfl⟩
  · rw [if_neg hsub]
    by_cases hsize : respSize < 2 + udsCoreSeedLen
    · rw [if_pos hsize]
      exact Or.inl ⟨fun h => absurd h.2.1 (by omega), _, rfl⟩
    · rw [if_neg hsize]
      rcases checkLocked_cases sec (clock 0) with ⟨-, hcheck⟩ | ⟨-, hcheck⟩ | ⟨-, -, hcheck⟩
      · rw [hcheck]
        exact Or.inl ⟨fun h => absurd h.2.2.1 (by simp), _, rfl⟩
      · rw [hcheck]
        exact Or.inr ⟨hsub, by omega, rfl, rfl⟩
      · rw [hcheck]
        exact Or.inr ⟨hsub, by omega, rfl, rfl⟩

theorem requestSeed_pending :
    (DrawsSeed sec subFn respSize clock ∧
      (udsCoreSecRequestSeed sec subFn respSize clock rand).1.pendingLevel = subFn ∧
      (udsCoreSecRequestSeed sec subFn respSize clock rand).1.seed =
        Vector.ofFn (fun i => rand i) ∧
      (udsCoreSecRequestSeed sec subFn respSize clock rand).1.seedTs = clock 1) ∨
    (¬DrawsSeed sec subFn respSize clock ∧
      SamePending sec (udsCoreSecRequestSeed sec subFn respSize clock rand).1) := by
  rcases requestSeed_issues sec subFn respSize clock rand with
    ⟨hnot, e, heq⟩ | ⟨hsub, hsize, hlocked, heq⟩
  · rw [heq]
    exact Or.inr ⟨hnot, rfl, rfl, rfl, rfl⟩
  · rw [heq]
    unfold issueSeed DrawsSeed
    rw [checkLocked_unlockedLevel]
    by_cases hunlocked : sec.unlockedLevel = subFn
    · rw [if_pos hunlocked]
      exact Or.inr ⟨fun h => h.2.2.2 hunlocked, checkLocked_samePending sec (clock 0)⟩
    · rw [if_neg hunlocked]
      exact Or.inl ⟨⟨hsub, hsize, hlocked, hunlocked⟩, rfl, rfl, rfl⟩

/-- The key does not get to the comparison, is wrong, or is right. -/
theorem verifyKey_cases :
    (¬FitsSeed sec subFn key clock ∧
        ∃ seedValid e, (seedValid = false ∨ seedValid = sec.seedValid) ∧
        verifyKey sec subFn key clock = ({ sec with seedValid := seedValid }, .error e)) ∨
      (FitsSeed sec subFn key clock ∧ key ≠ seedXorMask sec.seed ∧
        ∃ e, verifyKey sec subFn key clock = (afterFailure sec (clock 2), .error e)) ∨
      (FitsSeed sec subFn key clock ∧ key = seedXorMask sec.seed ∧
        verifyKey sec subFn key clock = (afterSuccess sec (subFn - 1), .ok [0x67, subFn])) := by
  unfold verifyKey FitsSeed
  simp only
  by_cases hseq : (!sec.seedValid || sec.pendingLevel ≠ subFn - 1) = true
  · rw [if_pos hseq]
    refine Or.inl ⟨?_, sec.seedValid, _, Or.inr rfl, rfl⟩
    rintro ⟨hvalid, hlevel, -⟩
    simp [hvalid, hlevel] at hseq
  · rw [if_neg hseq]
    have hpending : sec.seedValid = true ∧ sec.pendingLevel = subFn - 1 := by
      simpa using hseq
    cases hexpired : seedExpired sec (clock 1) with
    | true =>
        rw [if_pos rfl]
        exact Or.inl ⟨fun h => absurd h.2.2.1 (by simp), false, _, Or.inl rfl, rfl⟩
    | false =>
        rw [if_neg (by decide)]
        by_cases hlen : key.length = udsCoreSeedLen
        · rw [if_neg (fun hne => hne hlen), udsCoreSecComputeKey_eq]
          have hzero : keyMismatch key (seedXorMask sec.seed) = 0 ↔ key = seedXorMask sec.seed :=
            keyMismatch_eq_zero (by rw [hlen]; simp [seedXorMask])
          have hfits : sec.seedValid = true ∧ sec.pendingLevel = subFn - 1 ∧ false = false ∧
              key.length = udsCoreSeedLen := ⟨hpending.1, hpending.2, rfl, hlen⟩
          by_cases hkey : key = seedXorMask sec.seed
          · rw [if_neg (fun hne => hne (hzero.mpr hkey))]
            exact Or.inr (Or.inr ⟨hfits, hkey, rfl⟩)
          · rw [if_pos (fun hz => hkey (hzero.mp hz))]
            refine Or.inr (Or.inl ⟨hfits, hkey, ?_⟩)
            unfold afterFailure
            by_cases hthird : sec.failCount + 1 ≥ udsCoreMaxAttempts
            · exact ⟨_, by rw [if_pos hthird, if_pos hthird]⟩
            · exact ⟨_, by rw [if_neg hthird, if_neg hthird]⟩
        · rw [if_pos hlen]
          exact Or.inl ⟨fun h => hlen h.2.2.2, sec.seedValid, _, Or.inr rfl, rfl⟩

theorem verifyKey_pending :
    (FitsSeed sec subFn key clock ∧ (verifyKey sec subFn key clock).1.seedValid = false ∧
      ((key = seedXorMask sec.seed ∧
          (verifyKey sec subFn key clock).1.unlockedLevel = subFn - 1 ∧
          (verifyKey sec subFn key clock).2 = .ok [0x67, subFn]) ∨
        (key ≠ seedXorMask sec.seed ∧
          (verifyKey sec subFn key clock).1.unlockedLevel = sec.unlockedLevel ∧
          ∃ e, (verifyKey sec subFn key clock).2 = .error e))) ∨
    (¬FitsSeed sec subFn key clock ∧
      ((verifyKey sec subFn key clock).1.seedValid = false ∨
        SamePending sec (verifyKey sec subFn key clock).1) ∧
      (verifyKey sec subFn key clock).1.unlockedLevel = sec.unlockedLevel ∧
      ∃ e, (verifyKey sec subFn key clock).2 = .error e) := by
  rcases verifyKey_cases sec subFn key clock with
    ⟨hnot, seedValid, e, hvalid, heq⟩ | ⟨hfits, hkey, e, heq⟩ | ⟨hfits, hkey, heq⟩
  · rw [heq]
    refine Or.inr ⟨hnot, ?_, rfl, e, rfl⟩
    rcases hvalid with hdropped | hstays
    · exact Or.inl hdropped
    · exact Or.inr ⟨hstays, rfl, rfl, rfl⟩
  · rw [heq]
    exact Or.inl ⟨hfits, afterFailure_seedValid _ _, Or.inr ⟨hkey, afterFailure_unlockedLevel _ _,
      e, rfl⟩⟩
  · rw [heq]
    exact Or.inl ⟨hfits, rfl, Or.inl ⟨hkey, rfl, rfl⟩⟩

variable {sec} in
/-- The checks of the seed do not see what the lockout check changes. -/
theorem fitsSeed_congr {sec' : UdsCoreSecurity} (h : SamePending sec sec') :
    FitsSeed sec' subFn key clock ↔ FitsSeed sec subFn key clock := by
  unfold FitsSeed seedExpired
  rw [h.seedValid, h.pendingLevel, h.seedTs]

/-- A key is refused with the state as it was, or verified in the state that the lockout
check leaves. -/
theorem sendKey_verifies :
    (¬ComparesKey sec subFn key respSize clock ∧
        ∃ e, udsCoreSecSendKey sec subFn key respSize clock = (sec, .error e)) ∨
      (¬(subFn = 0 ∨ subFn &&& 0x01 ≠ 0) ∧ 2 ≤ respSize ∧ NotLocked sec clock ∧
        udsCoreSecSendKey sec subFn key respSize clock =
          verifyKey (checkLocked sec (clock 0)).1 subFn key clock) := by
  unfold udsCoreSecSendKey ComparesKey NotLocked
  by_cases hempty : key.length = 0
  · rw [if_pos hempty]
    refine Or.inl ⟨?_, _, rfl⟩
    rintro ⟨-, -, -, -, -, -, hlen⟩
    rw [hempty] at hlen
    cases hlen
  · rw [if_neg hempty]
    by_cases hsub : subFn = 0 ∨ subFn &&& 0x01 ≠ 0
    · rw [if_pos hsub]
      exact Or.inl ⟨fun h => h.1 hsub, _, rfl⟩
    · rw [if_neg hsub]
      by_cases hsize : respSize < 2
      · rw [if_pos hsize]
        exact Or.inl ⟨fun h => absurd h.2.1 (by omega), _, rfl⟩
      · rw [if_neg hsize]
        rcases checkLocked_cases sec (clock 0) with
          ⟨-, hcheck⟩ | ⟨-, hcheck⟩ | ⟨-, -, hcheck⟩
        · rw [hcheck]
          exact Or.inl ⟨fun h => absurd h.2.2.1 (by simp), _, rfl⟩
        · rw [hcheck]
          exact Or.inr ⟨hsub, by omega, rfl, rfl⟩
        · rw [hcheck]
          exact Or.inr ⟨hsub, by omega, rfl, rfl⟩

/-- A key is compared and uses up the seed, or nothing is unlocked and the
pending seed stays or is dropped. -/
theorem sendKey_pending :
    (ComparesKey sec subFn key respSize clock ∧
      (udsCoreSecSendKey sec subFn key respSize clock).1.seedValid = false ∧
      ((key = seedXorMask sec.seed ∧
          (udsCoreSecSendKey sec subFn key respSize clock).1.unlockedLevel = subFn - 1 ∧
          (udsCoreSecSendKey sec subFn key respSize clock).2 = .ok [0x67, subFn]) ∨
        (key ≠ seedXorMask sec.seed ∧
          (udsCoreSecSendKey sec subFn key respSize clock).1.unlockedLevel = sec.unlockedLevel ∧
          ∃ e, (udsCoreSecSendKey sec subFn key respSize clock).2 = .error e))) ∨
    (¬ComparesKey sec subFn key respSize clock ∧
      ((udsCoreSecSendKey sec subFn key respSize clock).1.seedValid = false ∨
        SamePending sec (udsCoreSecSendKey sec subFn key respSize clock).1) ∧
      (udsCoreSecSendKey sec subFn key respSize clock).1.unlockedLevel = sec.unlockedLevel ∧
      ∃ e, (udsCoreSecSendKey sec subFn key respSize clock).2 = .error e) := by
  rcases sendKey_verifies sec subFn key respSize clock with
    ⟨hnot, e, heq⟩ | ⟨hsub, hsize, hlocked, heq⟩
  · rw [heq]
    exact Or.inr ⟨hnot, Or.inr ⟨rfl, rfl, rfl, rfl⟩, rfl, e, rfl⟩
  · have hsame := checkLocked_samePending sec (clock 0)
    have hfits := fitsSeed_congr subFn key clock hsame
    rw [heq, ← checkLocked_unlockedLevel sec (clock 0), ← hsame.seed]
    rcases verifyKey_pending (checkLocked sec (clock 0)).1 subFn key clock with
      ⟨hfit, hused, houtcome⟩ | ⟨hnot, hpending, houtcome⟩
    · exact Or.inl ⟨⟨hsub, hsize, hlocked, hfits.mp hfit⟩, hused, houtcome⟩
    · refine Or.inr ⟨fun h => hnot (hfits.mpr h.2.2.2), ?_, houtcome⟩
      rcases hpending with hdropped | hstays
      · exact Or.inl hdropped
      · exact Or.inr ⟨hstays.seedValid.trans hsame.seedValid,
          hstays.pendingLevel.trans hsame.pendingLevel, hstays.seed.trans hsame.seed,
          hstays.seedTs.trans hsame.seedTs⟩

/-- An accepted key unlocks the level of its seed. -/
theorem unlockedLevel_of_ok {resp : List UInt8}
    (h : (udsCoreSecSendKey sec subFn key respSize clock).2 = .ok resp) :
    (udsCoreSecSendKey sec subFn key respSize clock).1.unlockedLevel = subFn - 1 := by
  rcases sendKey_pending sec subFn key respSize clock with
    ⟨-, -, ⟨-, hlevel, -⟩ | ⟨-, -, e, herr⟩⟩ | ⟨-, -, -, e, herr⟩
  · exact hlevel
  · exact absurd (herr.symm.trans h) (by simp)
  · exact absurd (herr.symm.trans h) (by simp)

end Calls

/-! ## Invariants of runs -/

/-- The turn draws a seed or uses one up. -/
def Supersedes (x : SecTurn) : Prop := Draws x ∨ Compares x

/-- A valid seed is the last one drawn, and no key has been compared with it. -/
def SeedInv (h : List SecTurn) (sec : UdsCoreSecurity) : Prop :=
  sec.seedValid = true → Since (DrawsFor sec.pendingLevel sec.seed sec.seedTs) Supersedes h

/-- After `past`, the turn accepts the key for the seed last drawn for `level`,
which is fresh and has not been compared with another key. -/
def Unlocks (level : UInt8) (past : List SecTurn) (x : SecTurn) : Prop :=
  ∃ key respSize clock resp seed ts, x.input = .sendKey (level + 1) key respSize clock ∧
    x.output = .ok resp ∧ NotLocked x.pre clock ∧ key = seedXorMask seed ∧
      Since (DrawsFor level seed ts) Supersedes past ∧
        (clock 1).sec - ts.sec < udsCoreSeedTimeoutSecs

/-- An unlocked level was unlocked, and no other level since. -/
def UnlockInv (h : List SecTurn) (sec : UdsCoreSecurity) : Prop :=
  sec.unlockedLevel ≠ 0 → SinceAt (Unlocks sec.unlockedLevel) (UnlocksOther sec.unlockedLevel) h

section Step

variable {h : List SecTurn} {sec : UdsCoreSecurity}

theorem SeedInv.keep (hinv : SeedInv h sec) {x : SecTurn} {sec' : UdsCoreSecurity}
    (hquiet : ¬Supersedes x) (hsame : SamePending sec sec') : SeedInv (h ++ [x]) sec' := by
  intro hvalid
  rw [hsame.pendingLevel, hsame.seed, hsame.seedTs, since_snoc]
  exact Or.inr ⟨hquiet, hinv (hsame.seedValid.symm.trans hvalid)⟩

theorem SeedInv.step (hinv : SeedInv h sec) (call : SecCall) :
    SeedInv (h ++ [turn secStep sec call]) (secStep sec call).1 := by
  cases call with
  | requestSeed subFn respSize clock rand =>
      rcases requestSeed_pending sec subFn respSize clock rand with
        ⟨hdraws, hlevel, hseed, hts⟩ | ⟨hnot, hsame⟩
      · intro _
        rw [since_snoc]
        refine Or.inl ⟨hdraws, respSize, clock, rand, ?_, hseed, hts⟩
        exact congrArg (SecCall.requestSeed · respSize clock rand) hlevel.symm
      · exact hinv.keep (fun hx => hx.elim hnot id) hsame
  | sendKey subFn key respSize clock =>
      rcases sendKey_pending sec subFn key respSize clock with
        ⟨-, hused, -⟩ | ⟨hnot, hdropped | hsame, -⟩
      · intro hvalid
        exact absurd (hused.symm.trans hvalid) (by decide)
      · intro hvalid
        exact absurd (hdropped.symm.trans hvalid) (by decide)
      · exact hinv.keep (fun hx => hx.elim id hnot) hsame

theorem UnlockInv.keep (hinv : UnlockInv h sec) {x : SecTurn} {sec' : UdsCoreSecurity}
    (hquiet : ∀ level, ¬UnlocksOther level x) (hsame : sec'.unlockedLevel = sec.unlockedLevel) :
    UnlockInv (h ++ [x]) sec' := by
  intro hne
  rw [hsame] at hne ⊢
  rw [sinceAt_snoc]
  exact Or.inr ⟨hquiet _, hinv hne⟩

theorem unlocks_of_comparesKey (hseed : SeedInv h sec) {subFn : UInt8} {key : List UInt8}
    {respSize : Nat} {clock : Nat → Timespec} {resp : List UInt8}
    (hcompares : ComparesKey sec subFn key respSize clock) (hkey : key = seedXorMask sec.seed)
    (hout : (udsCoreSecSendKey sec subFn key respSize clock).2 = .ok resp) :
    Unlocks (subFn - 1) h (turn secStep sec (.sendKey subFn key respSize clock)) := by
  obtain ⟨-, -, hlocked, hvalid, hlevel, hexpired, -⟩ := hcompares
  refine ⟨key, respSize, clock, resp, sec.seed, sec.seedTs, ?_, hout, hlocked, hkey, ?_, ?_⟩
  · rw [UInt8.sub_add_cancel]
    rfl
  · rw [← hlevel]
    exact hseed hvalid
  · simp only [seedExpired, Bool.or_eq_false_iff, decide_eq_false_iff_not] at hexpired
    omega

theorem UnlockInv.step (hseed : SeedInv h sec) (hinv : UnlockInv h sec) (call : SecCall) :
    UnlockInv (h ++ [turn secStep sec call]) (secStep sec call).1 := by
  cases call with
  | requestSeed subFn respSize clock rand =>
      apply hinv.keep
      · rintro level ⟨_, _, _, _, _, hinput, -⟩
        cases hinput
      · exact requestSeed_unlockedLevel sec subFn respSize clock rand
  | sendKey subFn key respSize clock =>
      have hquiet : (∃ e, (udsCoreSecSendKey sec subFn key respSize clock).2 = .error e) →
          ∀ level, ¬UnlocksOther level (turn secStep sec (.sendKey subFn key respSize clock)) := by
        rintro ⟨e, herr⟩ level ⟨_, _, _, _, resp, -, hout, -⟩
        exact absurd (herr.symm.trans hout) (by simp)
      rcases sendKey_pending sec subFn key respSize clock with
        ⟨hcompares, -, ⟨hkey, hlevel, hout⟩ | ⟨-, hsame, herr⟩⟩ | ⟨-, -, hsame, herr⟩
      · intro _
        change SinceAt
          (Unlocks (udsCoreSecSendKey sec subFn key respSize clock).1.unlockedLevel) _ _
        rw [hlevel, sinceAt_snoc]
        exact Or.inl (unlocks_of_comparesKey hseed hcompares hkey hout)
      · exact hinv.keep (hquiet herr) hsame
      · exact hinv.keep (hquiet herr) hsame

end Step

theorem unlockInv_of_run (calls : List SecCall) :
    SeedInv (turnsFrom secStep udsCoreSecurityInit calls)
        (runFrom secStep udsCoreSecurityInit calls) ∧
      UnlockInv (turnsFrom secStep udsCoreSecurityInit calls)
        (runFrom secStep udsCoreSecurityInit calls) := by
  apply run_invariant secStep (C := fun _ => True) (fun h sec => SeedInv h sec ∧ UnlockInv h sec)
  · exact ⟨fun hvalid => absurd hvalid (by decide), fun hne => absurd rfl hne⟩
  · intro h sec call ⟨hseed, hunlock⟩ _
    exact ⟨hseed.step call, hunlock.step hseed call⟩
  · exact fun _ _ => trivial

/-! ## Unlocked levels -/

/-- The turn `k` accepts, unlocked and within ten seconds, the key for the seed
that the turn `g` drew for the level. -/
structure FreshKey (level : UInt8) (g k : SecTurn) (seed : Vector UInt8 udsCoreSeedLen)
    (respSize : Nat) (clock : Nat → Timespec) : Prop where
  drawn : DrawsFor level seed (g.input.clock 1) g
  sent : k.input = .sendKey (level + 1) (seedXorMask seed) respSize clock
  accepted : ∃ resp, k.output = .ok resp
  notLocked : NotLocked k.pre clock
  later : (g.input.clock 1).sec ≤ (clock 1).sec
  fresh : (clock 1).sec - (g.input.clock 1).sec < 10

/-- In every run with a clock that does not go back, behind an unlocked level is
an accepted key for the last seed drawn before it; that seed was drawn for the
level, compared with no other key and at most nine seconds old, and no key for
another level was accepted since. -/
theorem unlocked_by_freshKey {calls : List SecCall} (hclock : ClockForward calls)
    {level : UInt8}
    (h : udsCoreSecIsUnlocked (runFrom secStep udsCoreSecurityInit calls) level = true) :
    ∃ pre g mid k post seed respSize clock,
      turnsFrom secStep udsCoreSecurityInit calls = pre ++ g :: (mid ++ k :: post) ∧
        FreshKey level g k seed respSize clock ∧ (∀ x ∈ mid, ¬Draws x ∧ ¬Compares x) ∧
          ∀ x ∈ post, ¬UnlocksOther level x := by
  have hlevel : (runFrom secStep udsCoreSecurityInit calls).unlockedLevel = level ∧ level ≠ 0 := by
    simpa [udsCoreSecIsUnlocked] using h
  have hinv := (unlockInv_of_run calls).2
  unfold UnlockInv at hinv
  rw [hlevel.1] at hinv
  obtain ⟨past, k, post, hturns, hunlocks, hpost⟩ := hinv hlevel.2
  obtain ⟨key, respSize, clock, resp, seed, ts, hinput, hout, hlocked, rfl, hsince, hfresh⟩ :=
    hunlocks
  obtain ⟨pre, g, mid, rfl, hdrawn, hmid⟩ := hsince
  rw [List.append_assoc, List.cons_append] at hturns
  have hts : ts = g.input.clock 1 := by
    obtain ⟨-, _, _, _, hg, -, hts⟩ := hdrawn
    rw [hts, hg]
    rfl
  subst hts
  have hlater : g.input.clock 1 ≤ clock 1 := by
    have hle := rel_of_turns secStep hclock hturns 1 1
    rwa [hinput] at hle
  refine ⟨pre, g, mid, k, post, seed, respSize, clock, hturns, ?_, ?_, hpost⟩
  · exact ⟨hdrawn, hinput, ⟨resp, hout⟩, hlocked, Timespec.sec_le hlater, hfresh⟩
  · intro x hx
    exact not_or.mp (hmid x hx)

/-- A seed is drawn for level 1, and its key is sent. -/
def unlockLevelOne : List SecCall :=
  [.requestSeed 0x01 6 (fun _ => .zero) (fun _ => 0x11),
    .sendKey 0x02 [0xBA, 0xDC, 0x03, 0x25] 6 (fun _ => .zero)]

theorem clockForward_unlockLevelOne : ClockForward unlockLevelOne := by
  apply List.pairwise_pair.mpr
  intro i j
  exact Or.inr ⟨rfl, Int.le_refl 0⟩

theorem unlocked_by_freshKey_levelOne :
    ∃ pre g mid k post seed respSize clock,
      turnsFrom secStep udsCoreSecurityInit unlockLevelOne = pre ++ g :: (mid ++ k :: post) ∧
        FreshKey 0x01 g k seed respSize clock ∧ (∀ x ∈ mid, ¬Draws x ∧ ¬Compares x) ∧
          ∀ x ∈ post, ¬UnlocksOther 0x01 x :=
  unlocked_by_freshKey clockForward_unlockLevelOne (by decide)

end Uds.Core
