import Mathlib.Algebra.Order.Floor.Ring
import Mathlib.Data.Int.Log
import Mathlib.Data.Rat.Floor
import Mathlib.Order.Monotone.Odd
import Mathlib.Tactic.Linarith
/-!
# Binary floating point

Rounding to the nearest number of a binary format, ties to even, and the subtraction that
rounds its result.  The exponent has no upper bound, so nothing overflows.  All that programs
which compare times need is that rounding keeps the order.
-/

namespace Uds.Base

/-! ## Integers -/

/-- The nearest integer; of two, the even one. -/
def roundHalfEven (q : Rat) : Int :=
  if q - ⌊q⌋ < 1 / 2 ∨ (q - ⌊q⌋ = 1 / 2 ∧ ⌊q⌋ % 2 = 0) then ⌊q⌋ else ⌊q⌋ + 1

theorem floor_le_roundHalfEven (q : Rat) : ⌊q⌋ ≤ roundHalfEven q := by
  unfold roundHalfEven
  split <;> omega

theorem roundHalfEven_le (q : Rat) : roundHalfEven q ≤ ⌊q⌋ + 1 := by
  unfold roundHalfEven
  split <;> omega

@[simp] theorem roundHalfEven_intCast (n : Int) : roundHalfEven n = n := by
  unfold roundHalfEven
  rw [Int.floor_intCast, sub_self, if_pos (Or.inl (by norm_num))]

theorem roundHalfEven_neg (q : Rat) : roundHalfEven (-q) = -roundHalfEven q := by
  by_cases hint : q = ⌊q⌋
  · rw [hint, ← Int.cast_neg, roundHalfEven_intCast, roundHalfEven_intCast]
  · have hlt : (⌊q⌋ : Rat) < q := lt_of_le_of_ne (Int.floor_le q) (Ne.symm hint)
    have hfloor : ⌊-q⌋ = -⌊q⌋ - 1 := by
      rw [Int.floor_eq_iff]
      have hnext := Int.lt_floor_add_one q
      push_cast
      constructor <;> linarith
    -- the fractions of `q` and `-q` add up to one
    have hfrac : -q - (⌊-q⌋ : Rat) = 1 - (q - ⌊q⌋) := by
      rw [hfloor]
      push_cast
      ring
    unfold roundHalfEven
    rw [hfrac, hfloor]
    rcases lt_trichotomy (q - ⌊q⌋) (1 / 2) with hless | hhalf | hmore
    · rw [if_pos (Or.inl hless), if_neg]
      · ring
      · rintro (h | ⟨h, -⟩) <;> linarith
    · rw [hhalf]
      norm_num
      split_ifs <;> omega
    · have hother : 1 - (q - ⌊q⌋) < 1 / 2 := by linarith
      rw [if_pos (Or.inl hother), if_neg]
      · ring
      · rintro (h | ⟨h, -⟩) <;> linarith

theorem roundHalfEven_le_roundHalfEven {a b : Rat} (hab : a ≤ b) :
    roundHalfEven a ≤ roundHalfEven b := by
  rcases (Int.floor_le_floor hab).eq_or_lt with heq | hlt
  · unfold roundHalfEven
    rw [heq]
    split_ifs with ha hb hb
    · exact le_rfl
    · omega
    · exfalso
      rw [not_or] at ha
      have hfrac : (1 : Rat) / 2 ≤ a - ⌊b⌋ := not_lt.mp ha.1
      rcases hb with hb | ⟨hb, heven⟩
      · linarith
      · exact ha.2 ⟨by linarith, heven⟩
    · exact le_rfl
  · have hbelow := roundHalfEven_le a
    have habove := floor_le_roundHalfEven b
    omega

/-! ## Formats -/

/-- A binary format: how many bits a number has, and the exponent of the last bit of the
smallest ones. -/
structure BinaryFormat where
  precision : Nat
  minExponent : Int
  precision_pos : 0 < precision

/-- IEEE 754 binary64. -/
def binary64 : BinaryFormat := ⟨53, -1074, by decide⟩

namespace BinaryFormat

variable (fmt : BinaryFormat)

/-- The exponent of the last bit of the numbers around `q`. -/
def lastBit (q : Rat) : Int := max (Int.log 2 |q| - (fmt.precision - 1)) fmt.minExponent

/-- The nearest multiple of the power of two. -/
def roundAt (e : Int) (q : Rat) : Rat := roundHalfEven (q / 2 ^ e) * 2 ^ e

def round (q : Rat) : Rat := roundAt (fmt.lastBit q) q

/-- The subtraction of the format. -/
def sub (a b : Rat) : Rat := fmt.round (a - b)

theorem two_zpow_pos (e : Int) : (0 : Rat) < 2 ^ e := zpow_pos (by norm_num) e

theorem roundAt_mono (e : Int) : Monotone (roundAt e) := by
  intro a b hab
  have hdiv : a / 2 ^ e ≤ b / 2 ^ e := div_le_div_of_nonneg_right hab (two_zpow_pos e).le
  have hround := roundHalfEven_le_roundHalfEven hdiv
  exact mul_le_mul_of_nonneg_right (Int.cast_le.mpr hround) (two_zpow_pos e).le

theorem roundAt_neg (e : Int) (q : Rat) : roundAt e (-q) = -roundAt e q := by
  unfold roundAt
  rw [neg_div, roundHalfEven_neg, Int.cast_neg, neg_mul]

theorem roundAt_two_zpow {e n : Int} (h : e ≤ n) : roundAt e (2 ^ n) = 2 ^ n := by
  obtain ⟨k, hk⟩ := Int.eq_ofNat_of_zero_le (sub_nonneg.mpr h)
  have hquot : (2 : Rat) ^ n / 2 ^ e = ((2 ^ k : Int) : Rat) := by
    rw [← zpow_sub₀ (by norm_num), hk]
    simp
  have hne : (2 : Rat) ^ e ≠ 0 := (two_zpow_pos e).ne'
  rw [roundAt, hquot, roundHalfEven_intCast, ← hquot, div_mul_cancel₀ _ hne]

@[simp] theorem round_zero : fmt.round 0 = 0 := by
  unfold round roundAt
  rw [zero_div, ← Int.cast_zero, roundHalfEven_intCast, Int.cast_zero, zero_mul]

theorem round_neg (q : Rat) : fmt.round (-q) = -fmt.round q := by
  unfold round lastBit
  rw [abs_neg, roundAt_neg]

theorem round_le_round_of_pos {a b : Rat} (ha : 0 < a) (hab : a ≤ b) :
    fmt.round a ≤ fmt.round b := by
  have hb : 0 < b := ha.trans_le hab
  have hlog : Int.log 2 a ≤ Int.log 2 b := Int.log_mono_right ha hab
  have hpos := fmt.precision_pos
  have hlastA : fmt.lastBit a = max (Int.log 2 a - (fmt.precision - 1)) fmt.minExponent := by
    rw [lastBit, abs_of_pos ha]
  have hlastB : fmt.lastBit b = max (Int.log 2 b - (fmt.precision - 1)) fmt.minExponent := by
    rw [lastBit, abs_of_pos hb]
  unfold round
  rcases eq_or_ne (fmt.lastBit a) (fmt.lastBit b) with heq | hne
  · rw [heq]
    exact roundAt_mono _ hab
  · have hless : Int.log 2 a + 1 ≤ Int.log 2 b := by omega
    have hbelow : a ≤ 2 ^ Int.log 2 b := by
      have hsucc : a < 2 ^ (Int.log 2 a + 1) := Int.lt_zpow_succ_log_self (by decide) a
      exact hsucc.le.trans (zpow_le_zpow_right₀ (by norm_num) hless)
    have habove : (2 : Rat) ^ Int.log 2 b ≤ b := Int.zpow_log_le_self (by decide) hb
    calc roundAt (fmt.lastBit a) a
        ≤ roundAt (fmt.lastBit a) (2 ^ Int.log 2 b) := roundAt_mono _ hbelow
      _ = 2 ^ Int.log 2 b := roundAt_two_zpow (by omega)
      _ = roundAt (fmt.lastBit b) (2 ^ Int.log 2 b) := (roundAt_two_zpow (by omega)).symm
      _ ≤ roundAt (fmt.lastBit b) b := roundAt_mono _ habove

theorem round_mono : Monotone fmt.round := by
  apply monotone_of_odd_of_monotoneOn_nonneg fmt.round_neg
  intro a ha b _ hab
  rcases (Set.mem_Ici.mp ha).eq_or_lt with rfl | hpos
  · rcases hab.eq_or_lt with rfl | hb
    · exact le_rfl
    · -- zero is rounded like any smaller positive number is
      rw [round_zero]
      have hnonneg : (0 : Rat) ≤ b / 2 ^ fmt.lastBit b := div_nonneg hab (two_zpow_pos _).le
      have hcast : (0 : Int) ≤ roundHalfEven (b / 2 ^ fmt.lastBit b) := by
        have hfloor := floor_le_roundHalfEven (b / 2 ^ fmt.lastBit b)
        exact (Int.floor_nonneg.mpr hnonneg).trans hfloor
      exact mul_nonneg (Int.cast_nonneg hcast) (two_zpow_pos _).le
  · exact fmt.round_le_round_of_pos hpos hab

theorem sub_mono {a a' b b' : Rat} (ha : a ≤ a') (hb : b' ≤ b) : fmt.sub a b ≤ fmt.sub a' b' :=
  fmt.round_mono (sub_le_sub ha hb)

end BinaryFormat

-- 0.1 and 0.3 are not numbers of the format, and 0.3 - 0.1 is not the one next to 0.2
example : binary64.sub (binary64.round (3 / 10)) (binary64.round (1 / 10)) ≠
    binary64.round (2 / 10) := by decide +kernel

end Uds.Base
