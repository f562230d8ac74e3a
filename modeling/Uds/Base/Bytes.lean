import Mathlib.Data.Nat.Bitwise
import Mathlib.Tactic.Ring
/-!
# Bytes, bit fields and padding

The bit operations that pack fields into bytes, stated as arithmetic; fixed
width big-endian numbers; and zero padding to a fixed size.
-/

namespace Uds.Base

/-! ## Bit fields as arithmetic -/

theorem and_0F (n : Nat) : n &&& 0x0F = n % 16 := Nat.and_two_pow_sub_one_eq_mod n 4

theorem and_7F (n : Nat) : n &&& 0x7F = n % 128 := Nat.and_two_pow_sub_one_eq_mod n 7

theorem and_FF (n : Nat) : n &&& 0xFF = n % 256 := Nat.and_two_pow_sub_one_eq_mod n 8

theorem shr_4 (n : Nat) : n >>> 4 = n / 16 := Nat.shiftRight_eq_div_pow n 4

theorem shr_8 (n : Nat) : n >>> 8 = n / 256 := Nat.shiftRight_eq_div_pow n 8

theorem shr_16 (n : Nat) : n >>> 16 = n / 65536 := Nat.shiftRight_eq_div_pow n 16

theorem shr_24 (n : Nat) : n >>> 24 = n / 16777216 := Nat.shiftRight_eq_div_pow n 24

theorem shl_or (a b k : Nat) (hb : b < 2 ^ k) : (a <<< k) ||| b = a * 2 ^ k + b := by
  rw [← Nat.shiftLeft_add_eq_or_of_lt hb, Nat.shiftLeft_eq]

theorem or_high_nibble (t n : Nat) (hn : n < 16) : (t * 16) ||| n = t * 16 + n := by
  have h := shl_or t n 4 hn
  rwa [Nat.shiftLeft_eq] at h

theorem shl_or_bytes (a b c d : Nat) (hb : b < 256) (hc : c < 256) (hd : d < 256) :
    (a <<< 24) ||| (b <<< 16) ||| (c <<< 8) ||| d =
      a * 2 ^ 24 + b * 2 ^ 16 + c * 2 ^ 8 + d := by
  have hab : (a <<< 24) ||| (b <<< 16) = (a * 2 ^ 8 + b) <<< 16 := by
    rw [shl_or a (b <<< 16) 24 (by rw [Nat.shiftLeft_eq]; omega), Nat.shiftLeft_eq,
      Nat.shiftLeft_eq]
    ring
  have habc : ((a * 2 ^ 8 + b) <<< 16) ||| (c <<< 8) =
      ((a * 2 ^ 8 + b) * 2 ^ 8 + c) <<< 8 := by
    rw [shl_or (a * 2 ^ 8 + b) (c <<< 8) 16 (by rw [Nat.shiftLeft_eq]; omega),
      Nat.shiftLeft_eq, Nat.shiftLeft_eq]
    ring
  rw [hab, habc, shl_or _ d 8 hd]
  ring

/-! ## Big-endian numbers of a fixed width -/

/-- The `width` low bytes of `n`, most significant first. -/
def bytesBE : Nat → Nat → List UInt8
  | 0, _ => []
  | width + 1, n => bytesBE width (n / 256) ++ [UInt8.ofNat n]

/-- The number a big-endian byte string denotes. -/
def natBE (bs : List UInt8) : Nat := bs.foldl (fun acc b => acc * 256 + b.toNat) 0

@[simp] theorem length_bytesBE (width n : Nat) : (bytesBE width n).length = width := by
  induction width generalizing n with
  | zero => rfl
  | succ width ih => simp [bytesBE, ih]

theorem natBE_bytesBE (width n : Nat) (h : n < 256 ^ width) :
    natBE (bytesBE width n) = n := by
  induction width generalizing n with
  | zero =>
      have hn : n = 0 := by simpa using h
      rw [hn]
      rfl
  | succ width ih =>
      have hdiv : n / 256 < 256 ^ width := by
        rw [Nat.div_lt_iff_lt_mul (by omega)]
        calc
          n < 256 ^ (width + 1) := h
          _ = 256 ^ width * 256 := Nat.pow_succ ..
      have hrec := ih (n / 256) hdiv
      unfold natBE at hrec ⊢
      rw [bytesBE, List.foldl_append, hrec]
      simp only [List.foldl_cons, List.foldl_nil, UInt8.toNat_ofNat']
      omega

/-! ## Zero padding -/

/-- The first `n` bytes of `bs`, filled up with zeros to `n` bytes. -/
def zeroPad (n : Nat) (bs : List UInt8) : List UInt8 :=
  bs.take n ++ List.replicate (n - bs.length) 0

@[simp] theorem length_zeroPad (n : Nat) (bs : List UInt8) : (zeroPad n bs).length = n := by
  simp [zeroPad]
  omega

/-- Reading back a field of a padded header and body. -/
theorem slice_zeroPad {n : Nat} {head body : List UInt8} (h : head.length + body.length ≤ n) :
    ((zeroPad n (head ++ body)).drop head.length).take body.length = body := by
  have hfull : (head ++ body).take n = head ++ body :=
    List.take_of_length_le (by simpa using h)
  rw [zeroPad, hfull, List.append_assoc, List.drop_left, List.take_left]

end Uds.Base
