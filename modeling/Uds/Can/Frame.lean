import Uds.Base.Bytes
/-!
# CAN frames and socket errors

`struct can_frame` and `struct canfd_frame` differ in the size of their data
array only.  The kernel hands over the whole array, so a received frame has
`cap` data bytes whatever its length field says; the field never exceeds the
array.
-/

namespace Uds.Can

open Uds.Base

/-- A frame with a data array of `cap` bytes; `len` is `can_dlc` of a classic
frame and `len` of an FD frame. -/
structure Frame (cap : Nat) where
  canId : UInt32
  len : Nat
  data : List UInt8
  len_le : len ≤ cap
  size_eq : data.length = cap
  deriving DecidableEq

/-- `struct can_frame`. -/
abbrev CanFrame := Frame 8

/-- `struct canfd_frame`. -/
abbrev CanFdFrame := Frame 64

/-- The failures of `UdsCanError`; success is the `ok` side of `Except`. -/
inductive UdsCanError where
  | errParam
  | errSocket
  | errBind
  | errIfindex
  | errFilter
  | errSend
  | errRecv
  | errTimeout
  | errTrunc
  deriving DecidableEq, Inhabited

namespace Frame

variable {cap : Nat}

/-- `data[i]`. -/
def byte (f : Frame cap) (i : Nat) : UInt8 := f.data.getD i 0

/-- The `n` bytes from `&data[i]`. -/
def slice (f : Frame cap) (i n : Nat) : List UInt8 := (f.data.drop i).take n

/-- A cleared frame into which `bytes` has been written from `data[0]` on. -/
def ofBytes (canId : UInt32) (len : Nat) (h : len ≤ cap) (bytes : List UInt8) : Frame cap :=
  { canId := canId, len := len, data := zeroPad cap bytes, len_le := h
    size_eq := length_zeroPad cap bytes }

theorem le_classic : 8 ≤ 8 := le_rfl

/-- Every byte past the frame's length is zero. -/
def ZeroTail (f : Frame cap) : Prop := zeroPad cap (f.data.take f.len) = f.data

/-- The frame lengthened to `n` bytes with zeros, as a controller does that can
only carry certain lengths. -/
def padTo (f : Frame cap) (n : Nat) (h : n ≤ cap) : Frame cap :=
  { canId := f.canId, len := max f.len n, data := zeroPad cap (f.data.take f.len)
    len_le := max_le f.len_le h, size_eq := length_zeroPad cap _ }

/-- `f'` carries everything `f` does: same identifier and bytes, no shorter. -/
structure Carries (f f' : Frame cap) : Prop where
  canId : f'.canId = f.canId
  data : f'.data = f.data
  len : f.len ≤ f'.len

theorem Carries.refl (f : Frame cap) : Carries f f := ⟨rfl, rfl, le_rfl⟩

theorem carries_padTo {f : Frame cap} (hz : f.ZeroTail) (n : Nat) (h : n ≤ cap) :
    Carries f (f.padTo n h) :=
  ⟨rfl, hz, le_max_left _ _⟩

theorem Carries.byte {f f' : Frame cap} (h : Carries f f') (i : Nat) :
    f'.byte i = f.byte i := by
  rw [Frame.byte, Frame.byte, h.data]

theorem Carries.slice {f f' : Frame cap} (h : Carries f f') (i n : Nat) :
    f'.slice i n = f.slice i n := by
  rw [Frame.slice, Frame.slice, h.data]

@[simp] theorem length_slice (f : Frame cap) {i n : Nat} (h : i + n ≤ cap) :
    (f.slice i n).length = n := by
  have hsize := f.size_eq
  simp only [slice, List.length_take, List.length_drop]
  omega

theorem take_slice (f : Frame cap) (i n m : Nat) :
    (f.slice i n).take m = f.slice i (min n m) := by
  rw [slice, slice, List.take_take, Nat.min_comm]

theorem getElem?_slice (f : Frame cap) {i d n : Nat} (hd : d < n) (hi : i + d < cap) :
    (f.slice i n)[d]? = some (f.byte (i + d)) := by
  have hsize : i + d < f.data.length := by
    rw [f.size_eq]
    exact hi
  rw [slice, List.getElem?_take_of_lt hd, List.getElem?_drop, byte, List.getD_eq_getElem?_getD,
    List.getElem?_eq_getElem hsize, Option.getD_some]

/-- The frame with `data[i]` replaced. -/
def setByte (f : Frame cap) (i : Nat) (b : UInt8) : Frame cap :=
  { canId := f.canId, len := f.len, data := f.data.set i b, len_le := f.len_le
    size_eq := by rw [List.length_set, f.size_eq] }

section SetByte

variable (f : Frame cap) (b : UInt8)

@[simp] theorem len_setByte (i : Nat) : (f.setByte i b).len = f.len := rfl

theorem byte_setByte_self {i : Nat} (h : i < cap) : (f.setByte i b).byte i = b := by
  have hsize : i < f.data.length := by
    rw [f.size_eq]
    exact h
  rw [byte, setByte, List.getD_eq_getElem?_getD, List.getElem?_set_self hsize, Option.getD_some]

theorem byte_setByte_of_ne {i j : Nat} (h : i ≠ j) : (f.setByte i b).byte j = f.byte j := by
  rw [byte, byte, setByte, List.getD_eq_getElem?_getD, List.getElem?_set_ne h,
    List.getD_eq_getElem?_getD]

/-- A slice that starts behind the header keeps the rest of its bytes. -/
theorem slice_setByte (i d n : Nat) : (f.setByte (i + d) b).slice i n = (f.slice i n).set d b := by
  rw [slice, slice, setByte, List.drop_set, if_neg (by omega), List.take_set,
    Nat.add_sub_cancel_left]

end SetByte

section OfBytes

variable (canId : UInt32) (len : Nat) (h : len ≤ cap)

theorem byte_ofBytes {bytes : List UInt8} (hb : bytes.length ≤ cap) {i : Nat}
    (hi : i < bytes.length) : (ofBytes canId len h bytes).byte i = bytes[i] := by
  have htake : bytes.take cap = bytes := List.take_of_length_le hb
  simp only [byte, ofBytes, zeroPad, htake, List.getD_eq_getElem?_getD]
  rw [List.getElem?_append_left hi, List.getElem?_eq_getElem hi, Option.getD_some]

theorem slice_ofBytes {head body : List UInt8} (hb : head.length + body.length ≤ cap) :
    (ofBytes canId len h (head ++ body)).slice head.length body.length = body :=
  slice_zeroPad hb

variable {canId len h} in
theorem Carries.shorter {len' : Nat} {h' : len' ≤ cap} {bytes : List UInt8} {f' : Frame cap}
    (hc : Carries (ofBytes canId len' h' bytes) f') (hle : len ≤ len') :
    Carries (ofBytes canId len h bytes) f' :=
  ⟨hc.canId, hc.data, hle.trans hc.len⟩

variable {canId len h} in
theorem Carries.byte_ofBytes {bytes : List UInt8} {f' : Frame cap}
    (hc : Carries (ofBytes canId len h bytes) f') (hb : bytes.length ≤ cap) {i : Nat}
    (hi : i < bytes.length) : f'.byte i = bytes[i] := by
  rw [hc.byte, Frame.byte_ofBytes canId len h hb hi]

variable {canId len h} in
theorem Carries.slice_ofBytes {head body : List UInt8} {f' : Frame cap}
    (hc : Carries (ofBytes canId len h (head ++ body)) f')
    (hb : head.length + body.length ≤ cap) : f'.slice head.length body.length = body := by
  rw [hc.slice, Frame.slice_ofBytes canId len h hb]

theorem zeroTail_ofBytes {bytes : List UInt8} (hb : bytes.length ≤ len) :
    (ofBytes canId len h bytes).ZeroTail := by
  have hcap : bytes.length ≤ cap := hb.trans h
  have htake : bytes.take cap = bytes := List.take_of_length_le hcap
  simp only [ZeroTail, ofBytes, zeroPad, htake, List.take_append, List.take_of_length_le hb,
    List.take_replicate, List.length_append, List.length_replicate]
  rw [List.append_assoc, List.replicate_append_replicate]
  congr 2
  omega

end OfBytes

end Frame

end Uds.Can
