import Uds.Base.Bytes
import Uds.Bootloader.FlashServices
/-!
# Programming a range

How the flash services treat a transfer over a range that one unprotected
region holds: the request is decoded to the range that was encoded, every block
in order is accepted, and the session after each block is given by the number
of bytes transferred so far.
-/

namespace Uds.Bootloader

open Uds.Base Uds.Core

/-! ## Decoding address and size -/

theorem toNat_shiftIn (acc : UInt32) (b : UInt8) (h : acc.toNat < 2 ^ 24) :
    (shiftIn acc b).toNat = acc.toNat * 256 + b.toNat := by
  have hb := b.toNat_lt
  have hshift : (acc <<< 8).toNat = acc.toNat <<< 8 := by
    rw [UInt32.toNat_shiftLeft]
    apply Nat.mod_eq_of_lt
    have height : (8 : UInt32).toNat % 32 = 8 := rfl
    rw [height, Nat.shiftLeft_eq]
    omega
  rw [shiftIn, UInt32.toNat_or, hshift, UInt8.toNat_toUInt32, shl_or _ _ 8 hb]
  omega

theorem toNat_foldl_shiftIn (bytes : List UInt8) (acc : UInt32) (k : Nat)
    (hacc : acc.toNat < 256 ^ k) (h : k + bytes.length ≤ 4) :
    (bytes.foldl shiftIn acc).toNat =
      bytes.foldl (fun n b => n * 256 + b.toNat) acc.toNat := by
  induction bytes generalizing acc k with
  | nil => rfl
  | cons b bytes ih =>
      rw [List.length_cons] at h
      have hb := b.toNat_lt
      have hlt : acc.toNat < 2 ^ 24 := by
        calc
          acc.toNat < 256 ^ k := hacc
          _ ≤ 256 ^ 3 := Nat.pow_le_pow_right (by omega) (by omega)
      have hstep := toNat_shiftIn acc b hlt
      have hnext : (shiftIn acc b).toNat < 256 ^ (k + 1) := by
        rw [hstep, Nat.pow_succ]
        omega
      rw [List.foldl_cons, List.foldl_cons, ih _ (k + 1) hnext (by omega), hstep]

theorem decodeBe_bytesBE {width n : Nat} (hwidth : width ≤ 4) (hn : n < 256 ^ width) :
    decodeBe (bytesBE width n) = UInt32.ofNat n := by
  have hlt : n < 2 ^ 32 := by
    calc
      n < 256 ^ width := hn
      _ ≤ 256 ^ 4 := Nat.pow_le_pow_right (by omega) hwidth
  apply UInt32.toNat_inj.mp
  unfold decodeBe
  rw [toNat_foldl_shiftIn _ 0 0 (by decide) (by simpa using hwidth),
    UInt32.toNat_ofNat_of_lt' hlt]
  exact natBE_bytesBE width n hn

/-- The format byte that a client builds from the two widths. -/
def formatByte (addrLen sizeLen : Nat) : UInt8 :=
  UInt8.ofNat (((sizeLen &&& 0x0F) <<< 4) ||| (addrLen &&& 0x0F))

theorem toNat_formatByte {addrLen sizeLen : Nat} (ha : addrLen < 16) (hs : sizeLen < 16) :
    (formatByte addrLen sizeLen).toNat = sizeLen * 16 + addrLen := by
  unfold formatByte
  rw [and_0F, and_0F, Nat.mod_eq_of_lt hs, Nat.mod_eq_of_lt ha, shl_or _ _ 4 (by omega),
    UInt8.toNat_ofNat']
  omega

/-- Address and size come back from a request as the client encoded them. -/
theorem parseAddrLenFmt_encoded {address size addrLen sizeLen : Nat} (ha : 1 ≤ addrLen)
    (ha' : addrLen ≤ 4) (hs : 1 ≤ sizeLen) (hs' : sizeLen ≤ 4) (haddr : address < 256 ^ addrLen)
    (hsize : size < 256 ^ sizeLen) :
    parseAddrLenFmt (formatByte addrLen sizeLen)
        (bytesBE addrLen address ++ bytesBE sizeLen size) =
      some (UInt32.ofNat address, UInt32.ofNat size) := by
  have hfmt := toNat_formatByte (show addrLen < 16 by omega) (show sizeLen < 16 by omega)
  have hlow : ((formatByte addrLen sizeLen) &&& 0x0F).toNat = addrLen := by
    have hmask : (0x0F : UInt8).toNat = 0x0F := rfl
    rw [UInt8.toNat_and, hmask, and_0F, hfmt]
    omega
  have hhigh : (((formatByte addrLen sizeLen) >>> 4) &&& 0x0F).toNat = sizeLen := by
    have hmask : (0x0F : UInt8).toNat = 0x0F := rfl
    have hfour : (4 : UInt8).toNat % 8 = 4 := rfl
    rw [UInt8.toNat_and, hmask, UInt8.toNat_shiftRight, hfour, and_0F, shr_4, hfmt]
    omega
  unfold parseAddrLenFmt
  simp only [hlow, hhigh]
  rw [if_neg (by omega), if_neg (by simp)]
  rw [List.take_left' (length_bytesBE ..), List.drop_left' (length_bytesBE ..),
    List.take_of_length_le (by simp), decodeBe_bytesBE ha' haddr, decodeBe_bytesBE hs' hsize]

/-! ## Ranges that can be programmed -/

/-- The range lies in one unprotected region inside the flash array: an
unprotected region holds it, and no protected region overlaps it there. -/
structure Programmable (regions : List UdsFlashRegion) (address len : Nat) : Prop where
  inArray : address + len ≤ udsFlashMaxSize
  inRegion : ∃ r ∈ regions, r.isProtected = false ∧ r.baseAddress.toNat ≤ address ∧
    address + len ≤ r.limit
  apart : ∀ r ∈ regions, r.isProtected = true →
    r.limit ≤ address ∨ address + len ≤ r.baseAddress.toNat

theorem Programmable.findRegion {flash : UdsFlashMemory} {address len a n : Nat}
    (h : Programmable flash.regions address len) (hn : 0 < n) (ha : address ≤ a)
    (hend : a + n ≤ address + len) :
    ∃ r, findRegion flash (UInt32.ofNat a) (UInt32.ofNat n) = some r ∧
      r.isProtected = false := by
  have harray := h.inArray
  unfold udsFlashMaxSize at harray
  have ha32 : (UInt32.ofNat a).toNat = a :=
    UInt32.toNat_ofNat_of_lt' (show a < 2 ^ 32 by omega)
  have hn32 : (UInt32.ofNat n).toNat = n :=
    UInt32.toNat_ofNat_of_lt' (show n < 2 ^ 32 by omega)
  obtain ⟨r, hr, -, hbase, hlimit⟩ := h.inRegion
  have hholds : r.holds (UInt32.ofNat a) (UInt32.ofNat n) = true := by
    rw [holds_iff, ha32, hn32]
    omega
  obtain ⟨r', hfind⟩ := exists_findRegion hr hholds
  refine ⟨r', hfind, ?_⟩
  obtain ⟨hr', hholds'⟩ := findRegion_eq_some hfind
  rw [holds_iff, ha32, hn32] at hholds'
  cases hp : r'.isProtected with
  | false => rfl
  | true =>
      have hapart := h.apart r' hr' hp
      omega

/-! ## The session after each block -/

/-- The session of a transfer of `len` bytes from `address` after `offset` of
them. -/
def xferAt (mode : UdsXferMode) (address len offset : Nat) (seq : UInt8) : UdsXferSession where
  mode := mode
  address := UInt32.ofNat address
  totalLength := UInt32.ofNat len
  transferred := UInt32.ofNat offset
  blockSeq := seq
  maxBlockSize := flashMaxBlockData

section Transfer

variable {flash : UdsFlashMemory} {address len offset : Nat} (mode : UdsXferMode) (seq : UInt8)
  {respSize : Nat}

@[simp] theorem xferAt_mode : (xferAt mode address len offset seq).mode = mode := rfl

@[simp] theorem xferAt_blockSeq : (xferAt mode address len offset seq).blockSeq = seq := rfl

theorem xferAt_remaining (h : offset ≤ len) :
    (xferAt mode address len offset seq).remaining = UInt32.ofNat (len - offset) :=
  (UInt32.ofNat_sub h).symm

theorem xferAt_position :
    (xferAt mode address len offset seq).address +
        (xferAt mode address len offset seq).transferred =
      UInt32.ofNat (address + offset) :=
  (UInt32.ofNat_add address offset).symm

/-- An upload block reads 15 bytes, or what is left. -/
theorem xferAt_toRead (h : offset ≤ len) (hlen : len < 2 ^ 32) :
    (xferAt mode address len offset seq).toRead = UInt32.ofNat (min 15 (len - offset)) := by
  have hmax : (xferAt mode address len offset seq).maxBlockSize.toUInt32 = UInt32.ofNat 15 := rfl
  unfold UdsXferSession.toRead
  rw [xferAt_remaining mode seq h, hmax]
  have hiff : UInt32.ofNat (len - offset) < UInt32.ofNat 15 ↔ len - offset < 15 :=
    UInt32.ofNat_lt_iff_lt (show len - offset < 2 ^ 32 by omega) (by decide)
  by_cases hlast : len - offset < 15
  · rw [if_pos (hiff.mpr hlast), Nat.min_eq_right (by omega)]
  · rw [if_neg (fun hlt => hlast (hiff.mp hlt)), Nat.min_eq_left (by omega)]

variable (hprog : Programmable flash.regions address len)
include hprog

theorem Programmable.lt : address + len < 2 ^ 32 := by
  have harray := hprog.inArray
  unfold udsFlashMaxSize at harray
  omega

theorem udsFlashAddressValid_of_programmable (hlen : 0 < len) :
    udsFlashAddressValid flash (UInt32.ofNat address) (UInt32.ofNat len) = true := by
  have hlt := hprog.lt
  obtain ⟨r, hfind, -⟩ := hprog.findRegion hlen le_rfl le_rfl
  rw [udsFlashAddressValid_iff]
  refine ⟨?_, r, hfind⟩
  intro hzero
  have hz := congrArg UInt32.toNat hzero
  rw [UInt32.toNat_ofNat_of_lt' (show len < 2 ^ 32 by omega)] at hz
  exact absurd hz (by simpa using Nat.ne_of_gt hlen)

/-- A request to program the range is accepted; the range is erased. -/
theorem requestDownload_accepted {xfer : UdsXferSession} {fmt : UInt8} {data : List UInt8}
    (hidle : xfer.mode = .idle) (hlen : 0 < len)
    (hparse : parseAddrLenFmt fmt data = some (UInt32.ofNat address, UInt32.ofNat len))
    (hsize : 4 ≤ respSize) :
    udsSvcRequestDownload xfer flash fmt data respSize =
      ((xferAt .download address len 0 0x01,
          { flash with data := flash.data.fill address len udsFlashEraseValue }),
        .ok [0x74, 0x20, 0x00, 0x0F]) := by
  have hlt := hprog.lt
  have hvalid := udsFlashAddressValid_of_programmable hprog hlen
  obtain ⟨r, hfind, hr⟩ := hprog.findRegion hlen le_rfl le_rfl
  have herase : udsFlashErase flash (UInt32.ofNat address) (UInt32.ofNat len) =
      .ok { flash with data := flash.data.fill address len udsFlashEraseValue } := by
    rw [udsFlashErase_eq_ok]
    refine ⟨((udsFlashAddressValid_iff ..).mp hvalid).1, r, hfind, hr, ?_⟩
    rw [UInt32.toNat_ofNat_of_lt' (show address < 2 ^ 32 by omega),
      UInt32.toNat_ofNat_of_lt' (show len < 2 ^ 32 by omega)]
  unfold udsSvcRequestDownload
  rw [if_neg (by simpa using hidle)]
  simp only [hparse, hvalid, herase, Bool.not_true, Bool.false_eq_true, if_false]
  rw [if_neg (by omega)]
  rfl

theorem requestUpload_accepted {xfer : UdsXferSession} {fmt : UInt8} {data : List UInt8}
    (hidle : xfer.mode = .idle) (hlen : 0 < len)
    (hparse : parseAddrLenFmt fmt data = some (UInt32.ofNat address, UInt32.ofNat len))
    (hsize : 4 ≤ respSize) :
    udsSvcRequestUpload xfer flash fmt data respSize =
      (xferAt .upload address len 0 0x01, .ok [0x75, 0x20, 0x00, 0x0F]) := by
  have hvalid := udsFlashAddressValid_of_programmable hprog hlen
  unfold udsSvcRequestUpload
  rw [if_neg (by simpa using hidle)]
  simp only [hparse, hvalid, Bool.not_true, Bool.false_eq_true, if_false]
  rw [if_neg (by omega)]
  rfl

/-- A download block that does not go past the range is written. -/
theorem transferDownload_accepted {data : List UInt8} (hdata : data ≠ [])
    (hend : offset + data.length ≤ len) (hsize : 2 ≤ respSize) :
    udsSvcTransferData (xferAt .download address len offset seq) flash seq data respSize =
      ((xferAt .download address len (offset + data.length) (nextBlockSeq seq),
          { flash with data := flash.data.store (address + offset) data }),
        .ok [0x76, seq]) := by
  have hlt := hprog.lt
  have hpos : 0 < data.length := List.length_pos_of_ne_nil hdata
  obtain ⟨r, hfind, hr⟩ := hprog.findRegion (a := address + offset) hpos (by omega) (by omega)
  have hwrite : udsFlashWrite flash (UInt32.ofNat (address + offset)) data =
      .ok { flash with data := flash.data.store (address + offset) data } := by
    rw [udsFlashWrite_eq_ok]
    refine ⟨hdata, r, hfind, hr, ?_⟩
    rw [UInt32.toNat_ofNat_of_lt' (show address + offset < 2 ^ 32 by omega)]
  have hroom : ¬UInt32.ofNat data.length > UInt32.ofNat (len - offset) := by
    rw [gt_iff_lt, UInt32.ofNat_lt_iff_lt (show len - offset < 2 ^ 32 by omega)
      (show data.length < 2 ^ 32 by omega)]
    omega
  have hmoved : (xferAt .download address len offset seq).transferred + UInt32.ofNat data.length =
      UInt32.ofNat (offset + data.length) := (UInt32.ofNat_add ..).symm
  unfold udsSvcTransferData transferDownload
  rw [if_neg (by simp), if_neg (by simp), if_pos (xferAt_mode ..), if_neg (by omega),
    xferAt_remaining .download seq (by omega), if_neg hroom, xferAt_position]
  simp only [hwrite, hmoved]
  rw [if_neg (by omega)]
  rfl

/-- An upload block of a transfer that is not complete reads the next bytes. -/
theorem transferUpload_accepted (data : List UInt8) {n : Nat} (hn : n = min 15 (len - offset))
    (hpos : offset < len) (hsize : 17 ≤ respSize) :
    udsSvcTransferData (xferAt .upload address len offset seq) flash seq data respSize =
      ((xferAt .upload address len (offset + n) (nextBlockSeq seq), flash),
        .ok ([0x76, seq] ++ flash.data.load (address + offset) n)) := by
  have hlt := hprog.lt
  obtain ⟨r, hfind, -⟩ := hprog.findRegion (a := address + offset) (n := n) (by omega) (by omega)
    (by omega)
  have htoNat : (UInt32.ofNat n).toNat = n := UInt32.toNat_ofNat_of_lt' (show n < 2 ^ 32 by omega)
  have hread : udsFlashRead flash (UInt32.ofNat (address + offset)) n =
      .ok (flash.data.load (address + offset) n) := by
    rw [udsFlashRead_eq_ok]
    refine ⟨by omega, ?_, ⟨r, hfind⟩, ?_⟩
    · intro hzero
      rw [hzero] at htoNat
      have hz : n = 0 := htoNat.symm
      omega
    · rw [UInt32.toNat_ofNat_of_lt' (show address + offset < 2 ^ 32 by omega)]
  have hfits : ¬respSize < (2 + UInt32.ofNat n).toNat := by
    have htwo : (2 : UInt32).toNat = 2 := rfl
    rw [UInt32.toNat_add, htoNat, htwo, Nat.mod_eq_of_lt (by omega)]
    omega
  have hmoved : (xferAt .upload address len offset seq).transferred + UInt32.ofNat n =
      UInt32.ofNat (offset + n) := (UInt32.ofNat_add ..).symm
  have htoRead : (xferAt .upload address len offset seq).toRead = UInt32.ofNat n := by
    rw [hn]
    exact xferAt_toRead .upload seq (Nat.le_of_lt hpos) (by omega)
  unfold udsSvcTransferData transferUpload
  rw [if_neg (by simp), if_neg (by simp), if_neg (by simp), htoRead,
    if_neg hfits, xferAt_position, htoNat]
  simp only [hread, hmoved]
  rfl

end Transfer

end Uds.Bootloader
