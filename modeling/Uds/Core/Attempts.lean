import Uds.Core.Unlocking
/-!
# Failed attempts

The lockout as an invariant of runs of `uds_core_sec_request_seed` and
`uds_core_sec_send_key`, and what it says about guessing.  The one counter of failed keys
only loses a failure to an accepted key or to a lockout that has run out, so four wrong
keys without an accepted one in between have a whole lockout between them.
-/

namespace Uds.Core

open Uds.Base

/-! ## What a call leaves -/

/-- What becomes of the state on a call: a call that the lockout check lets pass works on
the state the check leaves. -/
inductive SecEffect (sec : UdsCoreSecurity) : SecCall → UdsCoreSecurity → Response → Prop where
  | refused (call : SecCall) (e : UdsCoreError) : SecEffect sec call sec (.error e)
  | zeroSeed {subFn : UInt8} {respSize : Nat} {clock : Nat → Timespec} {rand : Nat → UInt8}
      (notLocked : NotLocked sec clock) (resp : List UInt8) :
      SecEffect sec (.requestSeed subFn respSize clock rand) (checkLocked sec (clock 0)).1
        (.ok resp)
  | drawn {subFn : UInt8} {respSize : Nat} {clock : Nat → Timespec} {rand : Nat → UInt8}
      (draws : DrawsSeed sec subFn respSize clock) (seed : Vector UInt8 udsCoreSeedLen)
      (resp : List UInt8) :
      SecEffect sec (.requestSeed subFn respSize clock rand)
        { (checkLocked sec (clock 0)).1 with
          seed := seed
          seedValid := true
          pendingLevel := subFn
          seedTs := clock 1 } (.ok resp)
  | unfit {subFn : UInt8} {key : List UInt8} {respSize : Nat} {clock : Nat → Timespec}
      (notLocked : NotLocked sec clock) (seedValid : Bool)
      (valid : seedValid = false ∨ seedValid = sec.seedValid) (e : UdsCoreError) :
      SecEffect sec (.sendKey subFn key respSize clock)
        { (checkLocked sec (clock 0)).1 with seedValid := seedValid } (.error e)
  | failed {subFn : UInt8} {key : List UInt8} {respSize : Nat} {clock : Nat → Timespec}
      (compares : ComparesKey sec subFn key respSize clock) (wrong : key ≠ seedXorMask sec.seed)
      (e : UdsCoreError) :
      SecEffect sec (.sendKey subFn key respSize clock)
        (afterFailure (checkLocked sec (clock 0)).1 (clock 2)) (.error e)
  | unlocked {subFn : UInt8} {key : List UInt8} {respSize : Nat} {clock : Nat → Timespec}
      (compares : ComparesKey sec subFn key respSize clock) (right : key = seedXorMask sec.seed) :
      SecEffect sec (.sendKey subFn key respSize clock)
        (afterSuccess (checkLocked sec (clock 0)).1 (subFn - 1)) (.ok [0x67, subFn])

theorem secEffect (sec : UdsCoreSecurity) (call : SecCall) :
    SecEffect sec call (secStep sec call).1 (secStep sec call).2 := by
  cases call with
  | requestSeed subFn respSize clock rand =>
      rw [secStep]
      rcases requestSeed_issues sec subFn respSize clock rand with
        ⟨-, e, heq⟩ | ⟨hsub, hsize, hlocked, heq⟩
      · rw [heq]
        exact .refused _ e
      · rw [heq]
        unfold issueSeed
        by_cases hunlocked : (checkLocked sec (clock 0)).1.unlockedLevel = subFn
        · rw [if_pos hunlocked]
          exact .zeroSeed hlocked _
        · rw [if_neg hunlocked]
          rw [checkLocked_unlockedLevel] at hunlocked
          exact .drawn ⟨hsub, hsize, hlocked, hunlocked⟩ _ _
  | sendKey subFn key respSize clock =>
      rw [secStep]
      rcases sendKey_verifies sec subFn key respSize clock with
        ⟨-, e, heq⟩ | ⟨hsub, hsize, hlocked, heq⟩
      · rw [heq]
        exact .refused _ e
      · have hsame := checkLocked_samePending sec (clock 0)
        have hfits := fitsSeed_congr subFn key clock hsame
        rw [heq]
        rcases verifyKey_cases (checkLocked sec (clock 0)).1 subFn key clock with
          ⟨-, seedValid, e, hvalid, hkey⟩ | ⟨hfit, hwrong, e, hkey⟩ | ⟨hfit, hright, hkey⟩
        · rw [hkey]
          rw [hsame.seedValid] at hvalid
          exact .unfit hlocked seedValid hvalid e
        · rw [hkey]
          rw [hsame.seed] at hwrong
          exact .failed ⟨hsub, hsize, hlocked, hfits.mp hfit⟩ hwrong e
        · rw [hkey]
          rw [hsame.seed] at hright
          exact .unlocked ⟨hsub, hsize, hlocked, hfits.mp hfit⟩ hright

/-! ## The invariant -/

/-- Three failures are a lockout, during which no seed is pending; a pending level and an
unlocked one are odd. -/
structure LockoutInv (sec : UdsCoreSecurity) : Prop where
  failCount_le : sec.failCount.toNat ≤ 3
  locked_iff : sec.locked = true ↔ sec.failCount.toNat = 3
  noSeed : sec.locked = true → sec.seedValid = false
  pendingLevel_odd : sec.seedValid = true → sec.pendingLevel &&& 0x01 ≠ 0
  unlockedLevel_odd : sec.unlockedLevel = 0 ∨ sec.unlockedLevel &&& 0x01 ≠ 0

theorem LockoutInv.init : LockoutInv udsCoreSecurityInit := by
  constructor <;> decide

section Invariant

variable {sec : UdsCoreSecurity} {now : Timespec}

theorem LockoutInv.check (h : LockoutInv sec) (hpass : (checkLocked sec now).2 = false) :
    LockoutInv (checkLocked sec now).1 ∧ (checkLocked sec now).1.locked = false ∧
      (checkLocked sec now).1.failCount.toNat ≤ 2 := by
  rcases checkLocked_cases sec now with ⟨-, hcheck⟩ | ⟨hfree, hcheck⟩ | ⟨-, -, hcheck⟩
  · rw [hcheck] at hpass
    cases hpass
  · rw [hcheck]
    have hne : sec.failCount.toNat ≠ 3 := by
      rw [Ne, ← h.locked_iff, hfree]
      decide
    have hle := h.failCount_le
    exact ⟨h, hfree, show sec.failCount.toNat ≤ 2 by omega⟩
  · rw [hcheck]
    refine ⟨⟨?_, ?_, ?_, h.pendingLevel_odd, h.unlockedLevel_odd⟩, rfl, ?_⟩
    · exact Nat.zero_le 3
    · exact iff_of_false Bool.false_ne_true (show ¬(0 : Nat) = 3 by decide)
    · exact fun hlocked => absurd hlocked Bool.false_ne_true
    · exact Nat.zero_le 2

theorem toNat_failCount_afterFailure (hle : sec.failCount.toNat ≤ 2) :
    (afterFailure sec now).failCount.toNat = sec.failCount.toNat + 1 := by
  rw [afterFailure_failCount, UInt8.toNat_add]
  exact Nat.mod_eq_of_lt (show sec.failCount.toNat + 1 < 2 ^ 8 by omega)

theorem afterFailure_locked (hfree : sec.locked = false) (hle : sec.failCount.toNat ≤ 2) :
    ((afterFailure sec now).locked = true ↔ (afterFailure sec now).failCount.toNat = 3) ∧
      ((afterFailure sec now).locked = true → (afterFailure sec now).lockedTs = now) := by
  have hcount : (afterFailure sec now).failCount.toNat = sec.failCount.toNat + 1 :=
    toNat_failCount_afterFailure hle
  rw [hcount]
  have hthird : sec.failCount + 1 ≥ udsCoreMaxAttempts ↔ sec.failCount.toNat + 1 = 3 := by
    rw [← hcount, afterFailure_failCount, ge_iff_le, UInt8.le_iff_toNat_le]
    rw [afterFailure_failCount] at hcount
    change 3 ≤ (sec.failCount + 1).toNat ↔ _
    omega
  unfold afterFailure
  by_cases hlast : sec.failCount + 1 ≥ udsCoreMaxAttempts
  · rw [if_pos hlast]
    exact ⟨iff_of_true rfl (hthird.mp hlast), fun _ => rfl⟩
  · rw [if_neg hlast]
    refine ⟨iff_of_false ?_ (fun h => hlast (hthird.mpr h)), ?_⟩
    · exact fun h => absurd (hfree.symm.trans h) Bool.false_ne_true
    · exact fun h => absurd (hfree.symm.trans h) Bool.false_ne_true

theorem LockoutInv.afterFailure (h : LockoutInv sec) (hfree : sec.locked = false)
    (hle : sec.failCount.toNat ≤ 2) : LockoutInv (afterFailure sec now) := by
  constructor
  · rw [toNat_failCount_afterFailure hle]
    omega
  · exact (afterFailure_locked hfree hle).1
  · exact fun _ => afterFailure_seedValid sec now
  · rw [afterFailure_seedValid]
    exact fun hvalid => absurd hvalid Bool.false_ne_true
  · rw [afterFailure_unlockedLevel]
    exact h.unlockedLevel_odd

theorem LockoutInv.step (h : LockoutInv sec) (call : SecCall) :
    LockoutInv (secStep sec call).1 := by
  have heffect := secEffect sec call
  generalize (secStep sec call).1 = sec' at heffect ⊢
  generalize (secStep sec call).2 = response at heffect
  cases heffect with
  | refused call e => exact h
  | zeroSeed hpass => exact (h.check hpass).1
  | @drawn subFn respSize clock rand hdraws seed resp =>
      obtain ⟨hsub, -, hpass, -⟩ := hdraws
      obtain ⟨hinv, hfree, -⟩ := h.check hpass
      refine ⟨hinv.failCount_le, hinv.locked_iff, ?_, ?_, hinv.unlockedLevel_odd⟩
      · exact fun hlocked => absurd (hfree.symm.trans hlocked) Bool.false_ne_true
      · exact fun _ heven => hsub (Or.inr heven)
  | @unfit subFn key respSize clock hpass seedValid hvalid e =>
      obtain ⟨hinv, hfree, -⟩ := h.check hpass
      refine ⟨hinv.failCount_le, hinv.locked_iff, ?_, ?_, hinv.unlockedLevel_odd⟩
      · exact fun hlocked => absurd (hfree.symm.trans hlocked) Bool.false_ne_true
      · rintro (rfl : seedValid = true)
        rcases hvalid with hdropped | hstays
        · cases hdropped
        · exact (checkLocked_samePending sec (clock 0)).pendingLevel ▸
            h.pendingLevel_odd hstays.symm
  | failed hcompares =>
      obtain ⟨-, -, hpass, -⟩ := hcompares
      obtain ⟨hinv, hfree, hle⟩ := h.check hpass
      exact hinv.afterFailure hfree hle
  | @unlocked subFn key respSize clock hcompares =>
      obtain ⟨-, -, hpass, hvalid, hlevel, -⟩ := hcompares
      obtain ⟨hinv, hfree, -⟩ := h.check hpass
      constructor
      · exact Nat.zero_le 3
      · refine iff_of_false ?_ (show ¬(0 : Nat) = 3 by decide)
        exact fun hlocked => absurd (hfree.symm.trans hlocked) Bool.false_ne_true
      · exact fun _ => rfl
      · exact fun hused => absurd hused Bool.false_ne_true
      · apply Or.inr
        change subFn - 1 &&& 0x01 ≠ 0
        rw [← hlevel]
        exact h.pendingLevel_odd hvalid

end Invariant

theorem LockoutInv.run {sec : UdsCoreSecurity} (h : LockoutInv sec) (calls : List SecCall) :
    LockoutInv (runFrom secStep sec calls) :=
  Reachable.invariant secStep LockoutInv h (fun _ call hinv => hinv.step call) ⟨calls, rfl⟩

/-! ## While the lockout is active -/

/-- The call passes the checks that come before the lockout. -/
def SecCall.WellFormed : SecCall → Prop
  | requestSeed subFn respSize _ _ => subFn &&& 0x01 ≠ 0 ∧ 2 + udsCoreSeedLen ≤ respSize
  | sendKey subFn key respSize _ => key ≠ [] ∧ subFn ≠ 0 ∧ subFn &&& 0x01 = 0 ∧ 2 ≤ respSize

theorem secStep_of_lockedAt {sec : UdsCoreSecurity} {call : SecCall}
    (h : sec.LockedAt (call.clock 0)) (hform : call.WellFormed) :
    secStep sec call = (sec, .error (.errNrc .exceededNumberOfAttempts)) := by
  cases call with
  | requestSeed subFn respSize clock rand => exact requestSeed_refused h hform.1 hform.2
  | sendKey subFn key respSize clock =>
      obtain ⟨hkey, hsub, heven, hsize⟩ := hform
      have hcheck : checkLocked sec (clock 0) = (sec, true) := checkLocked_of_lockedAt h
      rw [secStep, udsCoreSecSendKey, if_neg (by simpa using hkey), if_neg (by simp [hsub, heven]),
        if_neg (by omega), hcheck]
      rfl

/-! ## Right and wrong keys -/

/-- The level that a call is for. -/
def SecCall.level : SecCall → UInt8
  | requestSeed subFn .. => subFn
  | sendKey subFn .. => subFn - 1

/-- The turn compares a key, which is not the one for the seed. -/
def WrongKey (x : SecTurn) : Prop :=
  match x.input with
  | .requestSeed .. => False
  | .sendKey subFn key respSize clock =>
    ComparesKey x.pre subFn key respSize clock ∧ key ≠ seedXorMask x.pre.seed

/-- The turn compares a key, which is the one for the seed. -/
def RightKey (x : SecTurn) : Prop :=
  match x.input with
  | .requestSeed .. => False
  | .sendKey subFn key respSize clock =>
    ComparesKey x.pre subFn key respSize clock ∧ key = seedXorMask x.pre.seed

/-- A key is accepted. -/
def AcceptsKey (x : SecTurn) : Prop :=
  ∃ subFn key respSize clock resp, x.input = .sendKey subFn key respSize clock ∧ x.output = .ok resp

/-- A key is right while failures are counted, which a success forgets. -/
def ForgetsFailures (x : SecTurn) : Prop :=
  RightKey x ∧ (checkLocked x.pre (x.input.clock 0)).1.failCount ≠ 0

instance (sec : UdsCoreSecurity) (subFn : UInt8) (key : List UInt8) (respSize : Nat)
    (clock : Nat → Timespec) : Decidable (ComparesKey sec subFn key respSize clock) :=
  inferInstanceAs (Decidable (¬(subFn = 0 ∨ subFn &&& 0x01 ≠ 0) ∧ 2 ≤ respSize ∧
    (checkLocked sec (clock 0)).2 = false ∧ sec.seedValid = true ∧ sec.pendingLevel = subFn - 1 ∧
      seedExpired sec (clock 1) = false ∧ key.length = udsCoreSeedLen))

instance : DecidablePred WrongKey
  | ⟨_, .requestSeed .., _⟩ => isFalse id
  | ⟨pre, .sendKey subFn key respSize clock, _⟩ =>
    inferInstanceAs (Decidable (ComparesKey pre subFn key respSize clock ∧
      key ≠ seedXorMask pre.seed))

section Keys

variable {sec : UdsCoreSecurity} {call : SecCall}

theorem sendKey_of_comparesKey {subFn : UInt8} {key : List UInt8} {respSize : Nat}
    {clock : Nat → Timespec} (h : ComparesKey sec subFn key respSize clock) :
    udsCoreSecSendKey sec subFn key respSize clock =
        verifyKey (checkLocked sec (clock 0)).1 subFn key clock ∧
      FitsSeed (checkLocked sec (clock 0)).1 subFn key clock ∧
        (checkLocked sec (clock 0)).1.seed = sec.seed := by
  have hsame := checkLocked_samePending sec (clock 0)
  refine ⟨?_, (fitsSeed_congr subFn key clock hsame).mpr h.2.2.2, hsame.seed⟩
  rcases sendKey_verifies sec subFn key respSize clock with ⟨hnot, -⟩ | ⟨-, -, -, heq⟩
  · exact absurd h hnot
  · exact heq

theorem secStep_of_wrongKey (h : WrongKey (turn secStep sec call)) :
    NotLocked sec call.clock ∧
      ∃ e, secStep sec call =
        (afterFailure (checkLocked sec (call.clock 0)).1 (call.clock 2), .error e) := by
  cases call with
  | requestSeed => exact h.elim
  | sendKey subFn key respSize clock =>
      have hcompares : ComparesKey sec subFn key respSize clock := h.1
      have hwrong : key ≠ seedXorMask sec.seed := h.2
      obtain ⟨heq, hfits, hseed⟩ := sendKey_of_comparesKey hcompares
      refine ⟨hcompares.2.2.1, ?_⟩
      rw [secStep, heq]
      rcases verifyKey_cases (checkLocked sec (clock 0)).1 subFn key clock with
        ⟨hnot, -⟩ | ⟨-, -, herr⟩ | ⟨-, hright, -⟩
      · exact absurd hfits hnot
      · exact herr
      · rw [hseed] at hright
        exact absurd hright hwrong

theorem secStep_of_rightKey (h : RightKey (turn secStep sec call)) :
    ∃ resp, (secStep sec call).2 = .ok resp := by
  cases call with
  | requestSeed => exact h.elim
  | sendKey subFn key respSize clock =>
      have hcompares : ComparesKey sec subFn key respSize clock := h.1
      have hright : key = seedXorMask sec.seed := h.2
      obtain ⟨heq, hfits, hseed⟩ := sendKey_of_comparesKey hcompares
      rw [secStep, heq]
      rcases verifyKey_cases (checkLocked sec (clock 0)).1 subFn key clock with
        ⟨hnot, -⟩ | ⟨-, hwrong, -⟩ | ⟨-, -, hok⟩
      · exact absurd hfits hnot
      · rw [hseed] at hwrong
        exact absurd hright hwrong
      · exact ⟨_, by rw [hok]⟩

theorem RightKey.acceptsKey {x : SecTurn} (h : RightKey x)
    (hx : x = turn secStep x.pre x.input) : AcceptsKey x := by
  obtain ⟨pre, call, output⟩ := x
  obtain ⟨resp, hok⟩ := secStep_of_rightKey (hx ▸ h)
  obtain rfl : output = (secStep pre call).2 := congrArg Turn.output hx
  cases call with
  | requestSeed => exact h.elim
  | sendKey subFn key respSize clock => exact ⟨subFn, key, respSize, clock, resp, rfl, hok⟩

theorem WrongKey.not_rightKey {x : SecTurn} (h : WrongKey x) : ¬RightKey x := by
  obtain ⟨pre, call, output⟩ := x
  cases call with
  | requestSeed => exact h.elim
  | sendKey => exact fun hright => h.2 hright.2

end Keys

/-! ## Failures since a time -/

/-- At least `n` failures are counted, and a lockout started at the time `t` or later. -/
structure Counted (t : Int) (n : Nat) (sec : UdsCoreSecurity) : Prop where
  failures : n ≤ sec.failCount.toNat
  lockedTs : sec.locked = true → t ≤ sec.lockedTs.sec

section Counted

variable {t : Int} {n : Nat} {sec : UdsCoreSecurity}

theorem Counted.check (h : Counted t n sec) {clock : Nat → Timespec} (hpass : NotLocked sec clock) :
    t + udsCoreLockoutSecs ≤ (clock 0).sec ∨ Counted t n (checkLocked sec (clock 0)).1 := by
  unfold NotLocked at hpass
  rcases checkLocked_cases sec (clock 0) with ⟨-, hcheck⟩ | ⟨-, hcheck⟩ | ⟨hlocked, hover, -⟩
  · rw [hcheck] at hpass
    cases hpass
  · rw [hcheck]
    exact Or.inr h
  · have hsince := h.lockedTs hlocked
    exact Or.inl (by omega)

theorem Counted.late (h : Counted t 3 sec) (hinv : LockoutInv sec) {clock : Nat → Timespec}
    (hpass : NotLocked sec clock) : t + udsCoreLockoutSecs ≤ (clock 0).sec := by
  rcases h.check hpass with hlate | hcounted
  · exact hlate
  · obtain ⟨-, -, hle⟩ := hinv.check hpass
    exact absurd (Nat.le_trans hcounted.failures hle) (by decide)

theorem Counted.afterFailure (h : Counted t n sec) {now : Timespec} (hnow : t ≤ now.sec)
    (hfree : sec.locked = false) (hle : sec.failCount.toNat ≤ 2) :
    Counted t (n + 1) (afterFailure sec now) := by
  constructor
  · rw [toNat_failCount_afterFailure hle]
    exact Nat.succ_le_succ h.failures
  · intro hlocked
    rw [(afterFailure_locked hfree hle).2 hlocked]
    exact hnow

theorem Counted.wrongKey (h : Counted t n sec) (hinv : LockoutInv sec) {call : SecCall}
    (htime : ∀ i, t ≤ (call.clock i).sec) (hwrong : WrongKey (turn secStep sec call)) :
    t + udsCoreLockoutSecs ≤ (call.clock 0).sec ∨ Counted t (n + 1) (secStep sec call).1 := by
  obtain ⟨hpass, e, heq⟩ := secStep_of_wrongKey hwrong
  obtain ⟨-, hfree, hle⟩ := hinv.check hpass
  rcases h.check hpass with hlate | hcounted
  · exact Or.inl hlate
  · rw [heq]
    exact Or.inr (hcounted.afterFailure (htime 2) hfree hle)

theorem Counted.keep (h : Counted t n sec) (hinv : LockoutInv sec) (hpos : 0 < n) {call : SecCall}
    (htime : ∀ i, t ≤ (call.clock i).sec) (hkeep : ¬ForgetsFailures (turn secStep sec call)) :
    t + udsCoreLockoutSecs ≤ (call.clock 0).sec ∨ Counted t n (secStep sec call).1 := by
  have heffect := secEffect sec call
  generalize (secStep sec call).1 = sec' at heffect ⊢
  generalize (secStep sec call).2 = response at heffect
  cases heffect with
  | refused call e => exact Or.inr h
  | zeroSeed hpass => exact h.check hpass
  | drawn hdraws =>
      apply (h.check hdraws.2.2.1).imp id
      exact fun hcounted => ⟨hcounted.failures, hcounted.lockedTs⟩
  | unfit hpass =>
      apply (h.check hpass).imp id
      exact fun hcounted => ⟨hcounted.failures, hcounted.lockedTs⟩
  | failed hcompares =>
      obtain ⟨-, hfree, hle⟩ := hinv.check hcompares.2.2.1
      apply (h.check hcompares.2.2.1).imp id
      intro hcounted
      have hnext := hcounted.afterFailure (htime 2) hfree hle
      exact ⟨Nat.le_of_succ_le hnext.failures, hnext.lockedTs⟩
  | @unlocked subFn key respSize clock hcompares hright =>
      apply (h.check hcompares.2.2.1).imp id
      intro hcounted
      refine absurd ⟨⟨hcompares, hright⟩, ?_⟩ hkeep
      intro hzero
      have hle := hcounted.failures
      change (checkLocked sec (clock 0)).1.failCount = 0 at hzero
      rw [hzero] at hle
      exact absurd (Nat.lt_of_lt_of_le hpos hle) (by decide)

end Counted

def wrongKeys (h : List SecTurn) : Nat := h.countP fun x => decide (WrongKey x)

theorem counted_after {t : Int} {sec : UdsCoreSecurity} (hinv : LockoutInv sec)
    (hfirst : Counted t 1 sec) {calls : List SecCall}
    (htime : ∀ call ∈ calls, ∀ i, t ≤ (call.clock i).sec)
    (hkeep : ∀ x ∈ turnsFrom secStep sec calls, ¬ForgetsFailures x) :
    (∃ x ∈ turnsFrom secStep sec calls, t + udsCoreLockoutSecs ≤ (x.input.clock 0).sec) ∨
      Counted t (wrongKeys (turnsFrom secStep sec calls) + 1) (runFrom secStep sec calls) := by
  have hrun : LockoutInv (runFrom secStep sec calls) ∧
      ((∃ x ∈ turnsFrom secStep sec calls, t + udsCoreLockoutSecs ≤ (x.input.clock 0).sec) ∨
        Counted t (wrongKeys (turnsFrom secStep sec calls) + 1) (runFrom secStep sec calls)) := by
    apply run_invariant secStep
      (C := fun x => (∀ i, t ≤ (x.input.clock i).sec) ∧ ¬ForgetsFailures x)
      (fun h sec => LockoutInv sec ∧
        ((∃ x ∈ h, t + udsCoreLockoutSecs ≤ (x.input.clock 0).sec) ∨
          Counted t (wrongKeys h + 1) sec))
    · exact ⟨hinv, Or.inr hfirst⟩
    · rintro h sec call ⟨hinv, hlate | hcounted⟩ ⟨htime, hkeep⟩
      · obtain ⟨x, hx, hlate⟩ := hlate
        exact ⟨hinv.step call, Or.inl ⟨x, List.mem_append_left _ hx, hlate⟩⟩
      · refine ⟨hinv.step call, ?_⟩
        have hhere : turn secStep sec call ∈ h ++ [turn secStep sec call] := by simp
        unfold wrongKeys
        rw [List.countP_append, List.countP_singleton]
        by_cases hwrong : WrongKey (turn secStep sec call)
        · rw [if_pos (by simpa using hwrong)]
          rcases hcounted.wrongKey hinv htime hwrong with hlate | hnext
          · exact Or.inl ⟨_, hhere, hlate⟩
          · exact Or.inr hnext
        · rw [if_neg (by simpa using hwrong)]
          rcases hcounted.keep hinv (Nat.succ_pos _) htime hkeep with hlate | hnext
          · exact Or.inl ⟨_, hhere, hlate⟩
          · exact Or.inr hnext
    · intro x hx
      exact ⟨htime _ (input_mem_of_turn secStep hx), hkeep x hx⟩
  exact hrun.2

theorem LockoutInv.counts {sec : UdsCoreSecurity} (h : LockoutInv sec) {call : SecCall}
    (hwrong : WrongKey (turn secStep sec call)) :
    (secStep sec call).1.failCount.toNat =
      (checkLocked sec (call.clock 0)).1.failCount.toNat + 1 := by
  obtain ⟨hpass, e, heq⟩ := secStep_of_wrongKey hwrong
  rw [heq]
  exact toNat_failCount_afterFailure (h.check hpass).2.2

theorem counted_of_wrongKey {sec : UdsCoreSecurity} (hinv : LockoutInv sec) {call : SecCall}
    (hwrong : WrongKey (turn secStep sec call)) :
    Counted (call.clock 2).sec 1 (secStep sec call).1 := by
  obtain ⟨hpass, e, heq⟩ := secStep_of_wrongKey hwrong
  obtain ⟨-, hfree, hle⟩ := hinv.check hpass
  have hnone : Counted (call.clock 2).sec 0 (checkLocked sec (call.clock 0)).1 :=
    ⟨Nat.zero_le _, fun hlocked => absurd (hfree.symm.trans hlocked) Bool.false_ne_true⟩
  rw [heq]
  exact hnone.afterFailure (Int.le_refl _) hfree hle

theorem late_of_counted {t : Int} {sec : UdsCoreSecurity} (hinv : LockoutInv sec)
    (hfirst : Counted t 1 sec) {calls : List SecCall} {last : SecCall}
    (htime : ∀ call ∈ calls, ∀ i, t ≤ (call.clock i).sec)
    (hkeep : ∀ x ∈ turnsFrom secStep sec calls, ¬ForgetsFailures x)
    (htwo : 2 ≤ wrongKeys (turnsFrom secStep sec calls))
    (hlast : ∀ call ∈ calls, call.clock 0 ≤ last.clock 0)
    (hpass : NotLocked (runFrom secStep sec calls) last.clock) :
    t + udsCoreLockoutSecs ≤ (last.clock 0).sec := by
  rcases counted_after hinv hfirst htime hkeep with ⟨x, hx, hlate⟩ | hcounted
  · have hle := Timespec.sec_le (hlast x.input (input_mem_of_turn secStep hx))
    exact Int.le_trans hlate hle
  · have hthree := Nat.le_trans (Nat.succ_le_succ htwo) hcounted.failures
    exact Counted.late ⟨hthree, hcounted.lockedTs⟩ (hinv.run calls) hpass

/-! ## Four wrong keys -/

/-- Four wrong keys of a history, in their order, and the turns between them. -/
def FourWrongKeys (h : List SecTurn) (x₁ x₂ x₃ x₄ : SecTurn) (between : List SecTurn) : Prop :=
  (∃ pre mid₁ mid₂ mid₃ post, between = mid₁ ++ mid₂ ++ mid₃ ∧
    h = pre ++ x₁ :: (mid₁ ++ x₂ :: (mid₂ ++ x₃ :: (mid₃ ++ x₄ :: post)))) ∧
    WrongKey x₁ ∧ WrongKey x₂ ∧ WrongKey x₃ ∧ WrongKey x₄

/-- Four wrong keys for one level. -/
def FourWrongKeysFor (level : UInt8) (h : List SecTurn) (x₁ x₂ x₃ x₄ : SecTurn)
    (between : List SecTurn) : Prop :=
  FourWrongKeys h x₁ x₂ x₃ x₄ between ∧ ∀ x ∈ [x₁, x₂, x₃, x₄], x.input.level = level

/-- The seconds between the last reading of the clock in one turn and the first in another. -/
def secondsBetween (x y : SecTurn) : Int := (y.input.clock 0).sec - (x.input.clock 2).sec

section Four

variable {calls : List SecCall} {x₁ x₂ x₃ x₄ : SecTurn} {between : List SecTurn}

theorem FourWrongKeys.mem_turns {h : List SecTurn} (hfour : FourWrongKeys h x₁ x₂ x₃ x₄ between)
    {y : SecTurn} (hy : y ∈ between) : y ∈ h := by
  obtain ⟨⟨pre, mid₁, mid₂, mid₃, post, rfl, rfl⟩, -⟩ := hfour
  simp only [List.mem_append, List.mem_cons] at hy ⊢
  tauto

/-- Between the first and the last of four wrong keys a whole lockout passes, unless
failures are forgotten in between. -/
theorem wrongKeys_apart (hclock : ClockForward calls)
    (hfour : FourWrongKeys (turnsFrom secStep udsCoreSecurityInit calls) x₁ x₂ x₃ x₄ between)
    (hkeep : ∀ y ∈ between, ¬ForgetsFailures y) : 300 ≤ secondsBetween x₁ x₄ := by
  obtain ⟨⟨pre, mid₁, mid₂, mid₃, post, rfl, hturns⟩, h₁, h₂, h₃, h₄⟩ := hfour
  obtain ⟨past, c₁, rest, rfl, -, rfl, hrest⟩ := turnsFrom_eq_append_cons secStep hturns
  have hinv : LockoutInv (runFrom secStep udsCoreSecurityInit past) := LockoutInv.init.run past
  generalize runFrom secStep udsCoreSecurityInit past = sec at *
  have hsplit : turnsFrom secStep (secStep sec c₁).1 rest =
      (mid₁ ++ x₂ :: (mid₂ ++ x₃ :: mid₃)) ++ x₄ :: post := by
    rw [← hrest]
    simp
  obtain ⟨mid, c₄, after, rfl, hmid, rfl, -⟩ := turnsFrom_eq_append_cons secStep hsplit
  -- the clock of the calls after the first key, and after those between
  obtain ⟨hfromFirst, hafter⟩ := List.pairwise_cons.mp (List.pairwise_append.mp hclock).2.1
  have hbetween := (List.pairwise_append.mp hafter).2.2
  have hkept : ∀ x ∈ turnsFrom secStep (secStep sec c₁).1 mid, ¬ForgetsFailures x := by
    intro x hx
    rw [← hmid] at hx
    have hcases : x ∈ mid₁ ++ mid₂ ++ mid₃ ∨ x = x₂ ∨ x = x₃ := by
      simp only [List.mem_append, List.mem_cons] at hx ⊢
      tauto
    rcases hcases with hquiet | rfl | rfl
    · exact hkeep x hquiet
    · exact fun hforgets => h₂.not_rightKey hforgets.1
    · exact fun hforgets => h₃.not_rightKey hforgets.1
  have htwo : 2 ≤ wrongKeys (turnsFrom secStep (secStep sec c₁).1 mid) := by
    rw [← hmid]
    unfold wrongKeys
    rw [List.countP_append, List.countP_cons_of_pos (by simpa using h₂), List.countP_append,
      List.countP_cons_of_pos (by simpa using h₃)]
    omega
  have hlate := late_of_counted (hinv.step c₁) (counted_of_wrongKey hinv h₁)
    (fun call hcall i => Timespec.sec_le (hfromFirst call (List.mem_append_left _ hcall) 2 i))
    hkept htwo (fun call hcall => hbetween call hcall c₄ List.mem_cons_self 0 0)
    (secStep_of_wrongKey h₄).1
  unfold udsCoreLockoutSecs at hlate
  change 300 ≤ (c₄.clock 0).sec - (c₁.clock 2).sec
  omega

/-- In every state of a run three failures are a lockout, in which every well-formed call
is refused and changes nothing; the counter counts each wrong key; and four wrong keys
without an accepted key in between take at least a lockout. -/
theorem security_lockout (hclock : ClockForward calls) :
    LockoutInv (runFrom secStep udsCoreSecurityInit calls) ∧
      (∀ call : SecCall, call.WellFormed →
        (runFrom secStep udsCoreSecurityInit calls).LockedAt (call.clock 0) →
          secStep (runFrom secStep udsCoreSecurityInit calls) call =
            (runFrom secStep udsCoreSecurityInit calls,
              .error (.errNrc .exceededNumberOfAttempts))) ∧
      (∀ x ∈ turnsFrom secStep udsCoreSecurityInit calls, WrongKey x →
        (secStep x.pre x.input).1.failCount.toNat =
          (checkLocked x.pre (x.input.clock 0)).1.failCount.toNat + 1) ∧
      ∀ x₁ x₂ x₃ x₄ between,
        FourWrongKeys (turnsFrom secStep udsCoreSecurityInit calls) x₁ x₂ x₃ x₄ between →
          (∀ y ∈ between, ¬AcceptsKey y) → 300 ≤ secondsBetween x₁ x₄ := by
  refine ⟨LockoutInv.init.run calls, fun call hform hlocked => secStep_of_lockedAt hlocked hform,
    ?_, ?_⟩
  · exact forall_turns secStep LockoutInv
      (P := fun x => WrongKey x → (secStep x.pre x.input).1.failCount.toNat =
        (checkLocked x.pre (x.input.clock 0)).1.failCount.toNat + 1)
      LockoutInv.init (fun _ call hinv => hinv.step call)
      (fun _ _ hinv hwrong => hinv.counts hwrong) calls
  · intro x₁ x₂ x₃ x₄ between hfour hnone
    apply wrongKeys_apart hclock hfour
    intro y hy hforgets
    exact hnone y hy (hforgets.1.acceptsKey (eq_turn_of_mem secStep (hfour.mem_turns hy)))

/-- For one level: four wrong keys for it, without an accepted one in between, take at
least a lockout, if no key for another level is right in between while failures are
counted. -/
theorem wrongKeys_for_level (hclock : ClockForward calls) {level : UInt8}
    (hfour : FourWrongKeysFor level (turnsFrom secStep udsCoreSecurityInit calls) x₁ x₂ x₃ x₄
      between)
    (hnone : ∀ y ∈ between, AcceptsKey y → y.input.level ≠ level)
    (hother : ∀ y ∈ between, y.input.level ≠ level → ¬ForgetsFailures y) :
    300 ≤ secondsBetween x₁ x₄ := by
  apply wrongKeys_apart hclock hfour.1
  intro y hy hforgets
  have haccepts := hforgets.1.acceptsKey (eq_turn_of_mem secStep (hfour.1.mem_turns hy))
  exact hother y hy (hnone y hy haccepts) hforgets

end Four

/-! ## Guessing -/

def drawAt (sec : Int) (level : UInt8) : SecCall :=
  .requestSeed level 6 (fun _ => ⟨sec, 0⟩) (fun _ => 0x11)

def keyAt (sec : Int) (level : UInt8) (key : List UInt8) : SecCall :=
  .sendKey (level + 1) key 2 (fun _ => ⟨sec, 0⟩)

def wrongAt (sec : Int) : SecCall := keyAt sec 1 [0, 0, 0, 0]

/-- The turn of a call after the first `i` calls of a run. -/
def turnAt (calls : List SecCall) (i : Nat) (call : SecCall) : SecTurn :=
  turn secStep (runFrom secStep udsCoreSecurityInit (calls.take i)) call

@[simp] theorem turnAt_input (calls : List SecCall) (i : Nat) (call : SecCall) :
    (turnAt calls i call).input = call := rfl

/-- Three wrong keys for level 1, and a fourth when the lockout has run out. -/
def lockedOut : List SecCall :=
  [drawAt 0 1, wrongAt 0, drawAt 0 1, wrongAt 0, drawAt 0 1, wrongAt 0, drawAt 300 1, wrongAt 300]

theorem clockForward_lockedOut : ClockForward lockedOut := by
  simp [ClockForward, lockedOut, drawAt, wrongAt, keyAt, SecCall.clock]
  decide

theorem fourWrongKeys_lockedOut :
    FourWrongKeysFor 1 (turnsFrom secStep udsCoreSecurityInit lockedOut)
      (turnAt lockedOut 1 (wrongAt 0)) (turnAt lockedOut 3 (wrongAt 0))
      (turnAt lockedOut 5 (wrongAt 0)) (turnAt lockedOut 7 (wrongAt 300))
      [turnAt lockedOut 2 (drawAt 0 1), turnAt lockedOut 4 (drawAt 0 1),
        turnAt lockedOut 6 (drawAt 300 1)] := by
  refine ⟨⟨?_, by decide, by decide, by decide, by decide⟩, by simp [wrongAt, keyAt, SecCall.level]⟩
  exact ⟨[turnAt lockedOut 0 (drawAt 0 1)], [turnAt lockedOut 2 (drawAt 0 1)],
    [turnAt lockedOut 4 (drawAt 0 1)], [turnAt lockedOut 6 (drawAt 300 1)], [], rfl, rfl⟩

theorem not_acceptsKey_drawAt (calls : List SecCall) (i : Nat) (sec : Int) (level : UInt8) :
    ¬AcceptsKey (turnAt calls i (drawAt sec level)) := by
  rintro ⟨_, _, _, _, _, hinput, -⟩
  cases hinput

theorem security_lockout_lockedOut :
    LockoutInv (runFrom secStep udsCoreSecurityInit lockedOut) ∧
      300 ≤ secondsBetween (turnAt lockedOut 1 (wrongAt 0)) (turnAt lockedOut 7 (wrongAt 300)) := by
  obtain ⟨hinv, -, -, hfour⟩ := security_lockout clockForward_lockedOut
  refine ⟨hinv, hfour _ _ _ _ _ fourWrongKeys_lockedOut.1 ?_⟩
  simp [not_acceptsKey_drawAt]

theorem wrongKeys_for_level_lockedOut :
    300 ≤ secondsBetween (turnAt lockedOut 1 (wrongAt 0)) (turnAt lockedOut 7 (wrongAt 300)) := by
  apply wrongKeys_for_level clockForward_lockedOut fourWrongKeys_lockedOut
  · simp [not_acceptsKey_drawAt]
  · simp [ForgetsFailures, RightKey, drawAt]

/-- Two wrong keys for level 1, the right one for level 3, and two more for level 1. -/
def interleaved : List SecCall :=
  [drawAt 0 1, wrongAt 0, drawAt 0 1, wrongAt 0, drawAt 0 3, keyAt 0 3 [0xBA, 0xDC, 0x03, 0x25],
    drawAt 0 1, wrongAt 0, drawAt 0 1, wrongAt 0]

/-- The key for level 3 makes room for four wrong keys in the same second. -/
theorem wrongKeys_in_one_second :
    ¬∀ calls level x₁ x₂ x₃ x₄ between, ClockForward calls →
      FourWrongKeysFor level (turnsFrom secStep udsCoreSecurityInit calls) x₁ x₂ x₃ x₄ between →
        (∀ y ∈ between, AcceptsKey y → y.input.level ≠ level) → 300 ≤ secondsBetween x₁ x₄ := by
  intro hclaim
  have hkey : ∀ y ∈ [turnAt interleaved 2 (drawAt 0 1), turnAt interleaved 4 (drawAt 0 3),
      turnAt interleaved 5 (keyAt 0 3 [0xBA, 0xDC, 0x03, 0x25]),
      turnAt interleaved 6 (drawAt 0 1), turnAt interleaved 8 (drawAt 0 1)],
      AcceptsKey y → y.input.level ≠ 1 := by
    simp [not_acceptsKey_drawAt, keyAt, SecCall.level]
  have hlong := hclaim interleaved 1 (turnAt interleaved 1 (wrongAt 0))
    (turnAt interleaved 3 (wrongAt 0)) (turnAt interleaved 7 (wrongAt 0))
    (turnAt interleaved 9 (wrongAt 0)) _ ?_ ⟨⟨⟨[turnAt interleaved 0 (drawAt 0 1)],
      [turnAt interleaved 2 (drawAt 0 1)], [turnAt interleaved 4 (drawAt 0 3),
        turnAt interleaved 5 (keyAt 0 3 [0xBA, 0xDC, 0x03, 0x25]),
        turnAt interleaved 6 (drawAt 0 1)], [turnAt interleaved 8 (drawAt 0 1)], [], rfl, rfl⟩,
      by decide, by decide, by decide, by decide⟩, ?_⟩ hkey
  · exact absurd hlong (by decide)
  · simp [ClockForward, interleaved, drawAt, wrongAt, keyAt, SecCall.clock]
    decide
  · simp [wrongAt, keyAt, SecCall.level]

end Uds.Core
