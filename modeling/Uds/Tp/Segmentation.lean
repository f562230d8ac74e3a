import Mathlib.Data.List.Range
import Uds.Tp.Transfer
/-!
# The canonical segmentation of a PDU

What the frames of a PDU have to be, stated without loops: a First Frame with
the first `base` bytes, and Consecutive Frame `i`, counted from zero, with the
bytes from `base + cfDataBytes * i` on and sequence number `i + 1` modulo 16.
The encoders, called with the loop variables of frame `i`, produce that frame.
-/

namespace Uds.Tp

open Uds.Base Uds.Can

variable {cap : Nat}

namespace LinkFormat

variable (fmt : LinkFormat cap) (base : Nat)

/-- How many bytes of the PDU precede Consecutive Frame `i`. -/
def offset (i : Nat) : Nat := base + fmt.cfDataBytes * i

/-- The number of Consecutive Frames of a PDU of `len` bytes:
`(len - base) / cfDataBytes`, rounded up. -/
def cfCount (len : Nat) : Nat := (len - base + (fmt.cfDataBytes - 1)) / fmt.cfDataBytes

theorem offset_zero : fmt.offset base 0 = base := rfl

theorem offset_succ (i : Nat) :
    fmt.offset base (i + 1) = fmt.offset base i + fmt.cfDataBytes := by
  unfold offset
  ring

theorem lt_cfCount_iff (len i : Nat) :
    i < fmt.cfCount base len ↔ fmt.offset base i < len := by
  have hpos : 0 < fmt.cfDataBytes := by have := fmt.cfDataBytes_pos; omega
  have hdiv : i < fmt.cfCount base len ↔
      (i + 1) * fmt.cfDataBytes ≤ len - base + (fmt.cfDataBytes - 1) := by
    rw [cfCount, ← Nat.le_div_iff_mul_le hpos, Nat.succ_le_iff]
  have hmul : (i + 1) * fmt.cfDataBytes = fmt.cfDataBytes * i + fmt.cfDataBytes := by ring
  rw [hdiv, hmul]
  unfold offset
  omega

/-- The loop's next offset is the next frame's, except after the last frame. -/
theorem offset_add_chunk {len i : Nat} (h : i + 1 < fmt.cfCount base len) :
    fmt.offset base i + min fmt.cfDataBytes (len - fmt.offset base i) =
      fmt.offset base (i + 1) := by
  have hnext := (fmt.lt_cfCount_iff base len (i + 1)).mp h
  rw [offset_succ] at hnext ⊢
  omega

theorem offset_add_chunk_last {len i : Nat} (h : i + 1 = fmt.cfCount base len) :
    fmt.offset base i + min fmt.cfDataBytes (len - fmt.offset base i) = len := by
  have hcur : fmt.offset base i < len := (fmt.lt_cfCount_iff base len i).mp (by omega)
  have hend : ¬fmt.offset base (i + 1) < len :=
    mt (fmt.lt_cfCount_iff base len (i + 1)).mpr (by omega)
  rw [offset_succ] at hend
  omega

end LinkFormat

theorem sn_succ (i : Nat) : ((i + 1) % 16 + 1) &&& 0x0F = (i + 1 + 1) % 16 := by
  rw [and_0F]
  omega

section Frames

variable (fmt : LinkFormat cap) (canId : UInt32) (data : List UInt8) (base : Nat)

/-- The bytes of the PDU in Consecutive Frame `i`. -/
def cfContent (i : Nat) : List UInt8 := (data.drop (fmt.offset base i)).take fmt.cfDataBytes

theorem length_cfContent (i : Nat) :
    (cfContent fmt data base i).length =
      min fmt.cfDataBytes (data.length - fmt.offset base i) := by
  simp [cfContent]

/-- Consecutive Frame `i` of a PDU, counted from zero. -/
def consecutiveFrame (i : Nat) : Frame cap :=
  .ofBytes canId (fmt.cfLen (cfContent fmt data base i).length)
    (fmt.cfLen_le _ (by rw [length_cfContent]; omega))
    (UInt8.ofNat (0x20 + (i + 1) % 16) :: cfContent fmt data base i)

/-- A First Frame, then the Consecutive Frames in order. -/
def segmentation (firstFrame : Frame cap) : List (Frame cap) :=
  firstFrame :: (List.range (fmt.cfCount base data.length)).map
    (consecutiveFrame fmt canId data base)

theorem length_segmentation (firstFrame : Frame cap) :
    (segmentation fmt canId data base firstFrame).length =
      fmt.cfCount base data.length + 1 := by
  simp [segmentation]

theorem segmentation_take_one (firstFrame : Frame cap) :
    (segmentation fmt canId data base firstFrame).take 1 = [firstFrame] := rfl

/-- Consecutive Frame `i` is the next frame after the first `i + 1`. -/
theorem segmentation_take_succ (firstFrame : Frame cap) {i : Nat}
    (h : i < fmt.cfCount base data.length) :
    (segmentation fmt canId data base firstFrame).take (i + 1) ++
        [consecutiveFrame fmt canId data base i] =
      (segmentation fmt canId data base firstFrame).take (i + 1 + 1) := by
  have hlen : i < ((List.range (fmt.cfCount base data.length)).map
      (consecutiveFrame fmt canId data base)).length := by simpa using h
  simp only [segmentation, List.take_succ_cons, List.cons_append]
  rw [List.take_succ_eq_append_getElem hlen]
  simp

theorem encodeCf_eq {i : Nat} (h : i < fmt.cfCount base data.length) :
    encodeCf fmt canId ((data.drop (fmt.offset base i)).take
        (min fmt.cfDataBytes (data.length - fmt.offset base i))) ((i + 1) % 16) =
      .ok (consecutiveFrame fmt canId data base i) := by
  have hlt := (fmt.lt_cfCount_iff base data.length i).mp h
  have hpos := fmt.cfDataBytes_pos
  have hchunk : (data.drop (fmt.offset base i)).take
      (min fmt.cfDataBytes (data.length - fmt.offset base i)) = cfContent fmt data base i := by
    unfold cfContent
    rw [← List.length_drop, ← List.take_eq_take_min]
  have hlen := length_cfContent fmt data base i
  have hsn : 0x20 ||| ((i + 1) % 16 &&& 0x0F) = 0x20 + (i + 1) % 16 := by
    rw [and_0F, Nat.mod_mod]
    exact or_high_nibble 2 _ (by omega)
  rw [hchunk, encodeCf, dif_neg (by omega)]
  simp only [hsn, consecutiveFrame]

end Frames

/-- The First Frame of a classic PDU. -/
def firstFrame (canId : UInt32) (data : List UInt8) : CanFrame :=
  .ofBytes canId 8 Frame.le_classic
    ([UInt8.ofNat (0x10 + data.length / 256), UInt8.ofNat (data.length % 256)] ++ data.take 6)

/-- The canonical segmentation of a PDU of 8 to 4095 bytes on classic CAN. -/
def classicSegmentation (canId : UInt32) (data : List UInt8) : List CanFrame :=
  segmentation classic canId data udsTpFfDataBytes (firstFrame canId data)

theorem udsTpEncodeFf_eq (canId : UInt32) {data : List UInt8} (h : 8 ≤ data.length)
    (h' : data.length ≤ udsTpMaxPduLen) :
    udsTpEncodeFf canId data data.length = .ok (firstFrame canId data) := by
  have hmax : data.length ≤ 4095 := h'
  have hhigh : 0x10 ||| ((data.length >>> 8) &&& 0x0F) = 0x10 + data.length / 256 := by
    rw [shr_8, and_0F, or_high_nibble 1 _ (by omega)]
    omega
  rw [udsTpEncodeFf, if_neg (by omega), hhigh, and_FF]
  rfl

end Uds.Tp
