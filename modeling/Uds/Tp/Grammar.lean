import Uds.Tp.Segmentation
/-!
# Well-formed frames

What it takes for a frame to be a Single, First or Consecutive Frame, as
conditions on its bytes and length.  The decoders accept exactly these frames,
the encoders produce them, and lengthening a frame on the bus keeps them.
-/

namespace Uds.Tp

open Uds.Base Uds.Can

variable {cap : Nat}

/-! ## Frame types -/

theorem high_nibble (b : UInt8) : b.toNat >>> 4 &&& 0x0F = b.toNat / 16 := by
  have hlt : b.toNat / 16 < 16 := by
    have := b.toNat_lt
    omega
  rw [shr_4, and_0F, Nat.mod_eq_of_lt hlt]

theorem frameType_eq_sf (f : Frame cap) :
    frameType f = .sf ↔ f.len ≠ 0 ∧ (f.byte 0).toNat / 16 = 0 := by
  by_cases h : f.len = 0
  · simp [frameType, h]
  · rw [frameType, if_neg h, high_nibble]
    rcases (f.byte 0).toNat / 16 with _ | _ | _ | _ | t <;> simp [h]

theorem frameType_eq_ff (f : Frame cap) :
    frameType f = .ff ↔ f.len ≠ 0 ∧ (f.byte 0).toNat / 16 = 1 := by
  by_cases h : f.len = 0
  · simp [frameType, h]
  · rw [frameType, if_neg h, high_nibble]
    rcases (f.byte 0).toNat / 16 with _ | _ | _ | _ | t <;> simp [h]

theorem frameType_eq_cf (f : Frame cap) :
    frameType f = .cf ↔ f.len ≠ 0 ∧ (f.byte 0).toNat / 16 = 2 := by
  by_cases h : f.len = 0
  · simp [frameType, h]
  · rw [frameType, if_neg h, high_nibble]
    rcases (f.byte 0).toNat / 16 with _ | _ | _ | _ | t <;> simp [h]

theorem frameType_eq_fc (f : Frame cap) :
    frameType f = .fc ↔ f.len ≠ 0 ∧ (f.byte 0).toNat / 16 = 3 := by
  by_cases h : f.len = 0
  · simp [frameType, h]
  · rw [frameType, if_neg h, high_nibble]
    rcases (f.byte 0).toNat / 16 with _ | _ | _ | _ | t <;> simp [h]

/-! ## Single Frames -/

/-- A classic Single Frame with payload `p`. -/
structure IsSf (f : CanFrame) (p : List UInt8) : Prop where
  pos : 1 ≤ p.length
  le : p.length ≤ 7
  pci : (f.byte 0).toNat = p.length
  dlc : 1 + p.length ≤ f.len
  payload : f.slice 1 p.length = p

/-- The payload of a well-formed Single Frame. -/
def singleFrame (f : CanFrame) : Option (List UInt8) :=
  let len := (f.byte 0).toNat
  if 1 ≤ len ∧ len ≤ 7 ∧ 1 + len ≤ f.len then some (f.slice 1 len) else none

theorem singleFrame_eq_some (f : CanFrame) (p : List UInt8) :
    singleFrame f = some p ↔ IsSf f p := by
  have hcap := f.len_le
  unfold singleFrame
  constructor
  · intro h
    dsimp only at h
    split at h
    · obtain ⟨hpos, hle, hdlc⟩ := ‹1 ≤ (f.byte 0).toNat ∧ _›
      have hp := Option.some.inj h
      have hlen : p.length = (f.byte 0).toNat := by
        rw [← hp]
        exact Frame.length_slice f (by omega)
      exact ⟨by omega, by omega, hlen.symm, by omega, by rw [hlen, hp]⟩
    · cases h
  · rintro ⟨hpos, hle, hpci, hdlc, hp⟩
    dsimp only
    rw [hpci, if_pos ⟨hpos, hle, hdlc⟩, hp]

theorem udsTpDecodeSf_eq_ok (f : CanFrame) (bufSize : Nat) (p : List UInt8) :
    udsTpDecodeSf f bufSize = .ok p ↔ IsSf f p ∧ p.length ≤ bufSize := by
  have htype := frameType_eq_sf f
  have hcap := f.len_le
  unfold udsTpDecodeSf udsTpFrameType udsTpSfMaxData
  rw [and_0F]
  constructor
  · intro h
    dsimp only at h
    split at h
    · cases h
    split at h
    · cases h
    split at h
    · cases h
    split at h
    · cases h
    split at h
    · cases h
    have hsf := htype.mp (by simpa using ‹¬frameType f ≠ .sf›)
    have hp := Except.ok.inj h
    have hlen : p.length = (f.byte 0).toNat % 16 := by
      rw [← hp]
      exact Frame.length_slice f (by omega)
    refine ⟨⟨by omega, by omega, by omega, by omega, ?_⟩, by omega⟩
    rw [hlen, hp]
  · rintro ⟨⟨hpos, hle, hpci, hdlc, hp⟩, hbuf⟩
    have hsf : frameType f = .sf := htype.mpr (by omega)
    have hmod : (f.byte 0).toNat % 16 = p.length := by omega
    rw [if_neg (by omega), if_neg (by simpa using hsf)]
    simp only [hmod]
    rw [if_neg (by omega), if_neg (by omega), if_neg (by omega), hp]

theorem udsTpDecodeSf_error (f : CanFrame) (bufSize : Nat) :
    udsTpDecodeSf f bufSize ≠ .error .ok := by
  unfold udsTpDecodeSf
  grind

/-! ## First Frames -/

/-- A classic First Frame that declares a PDU of `len` bytes. -/
structure IsFf (f : CanFrame) (len : Nat) : Prop where
  ge : 8 ≤ len
  le : len ≤ 4095
  pci : (f.byte 0).toNat = 0x10 + len / 256
  low : (f.byte 1).toNat = len % 256
  dlc : f.len = 8

theorem udsTpDecodeFf_eq_ok (f : CanFrame) (bufSize len : Nat) (content : List UInt8) :
    udsTpDecodeFf f bufSize = .ok (len, content) ↔
      6 ≤ bufSize ∧ IsFf f len ∧ content = f.slice 2 6 := by
  have htype := frameType_eq_ff f
  have hcap := f.len_le
  have hlow := (f.byte 1).toNat_lt
  unfold udsTpDecodeFf udsTpFrameType udsTpFfDataBytes udsTpMaxPduLen
  rw [and_0F, shl_or _ _ 8 hlow]
  constructor
  · intro h
    dsimp only at h
    split at h
    · cases h
    split at h
    · cases h
    split at h
    · cases h
    split at h
    · cases h
    have hff := htype.mp (by simpa using ‹¬frameType f ≠ .ff›)
    obtain ⟨hlen, hcontent⟩ := Prod.mk.inj (Except.ok.inj h)
    exact ⟨by omega, ⟨by omega, by omega, by omega, by omega, by omega⟩, hcontent.symm⟩
  · rintro ⟨hbuf, ⟨hge, hle, hpci, hlow', hdlc⟩, rfl⟩
    have hff : frameType f = .ff := htype.mpr (by omega)
    have hlen : (f.byte 0).toNat % 16 * 2 ^ 8 + (f.byte 1).toNat = len := by omega
    rw [if_neg (by omega), if_neg (by simpa using hff), if_neg (by omega)]
    simp only [hlen]
    rw [if_neg (by omega)]

theorem udsTpDecodeFf_error (f : CanFrame) (bufSize : Nat) :
    udsTpDecodeFf f bufSize ≠ .error .ok := by
  unfold udsTpDecodeFf
  grind

/-! ## Consecutive Frames -/

/-- A Consecutive Frame with sequence number `sn`. -/
structure IsCf (f : Frame cap) (sn : Nat) : Prop where
  pci : (f.byte 0).toNat = 0x20 + sn
  dlc : 2 ≤ f.len

theorem decodeCf_eq_ok (fmt : LinkFormat cap) (f : Frame cap) {bufSize chunk sn : Nat}
    (content : List UInt8) (hchunk : 0 < chunk) (hfmt : chunk ≤ fmt.cfDataBytes)
    (hbuf : chunk ≤ bufSize) :
    decodeCf fmt f bufSize chunk = .ok (sn, content) ↔
      sn < 16 ∧ IsCf f sn ∧ content = f.slice 1 chunk := by
  have htype := frameType_eq_cf f
  unfold decodeCf
  rw [and_0F, if_neg (by omega), if_neg (by omega)]
  constructor
  · intro h
    split at h
    · cases h
    split at h
    · cases h
    rw [if_neg (by omega)] at h
    have hcf := htype.mp (by simpa using ‹¬frameType f ≠ .cf›)
    obtain ⟨hsn, hcontent⟩ := Prod.mk.inj (Except.ok.inj h)
    exact ⟨by omega, ⟨by omega, by omega⟩, hcontent.symm⟩
  · rintro ⟨hsn, ⟨hpci, hdlc⟩, rfl⟩
    have hcf : frameType f = .cf := htype.mpr (by omega)
    have hmod : (f.byte 0).toNat % 16 = sn := by omega
    rw [if_neg (by simpa using hcf), if_neg (by omega), if_neg (by omega), hmod]

theorem decodeCf_error (fmt : LinkFormat cap) (f : Frame cap) (bufSize chunk : Nat) :
    decodeCf fmt f bufSize chunk ≠ .error .ok := by
  unfold decodeCf
  grind

theorem IsCf.carries {f f' : Frame cap} {sn : Nat} (h : IsCf f sn) (hc : Frame.Carries f f') :
    IsCf f' sn :=
  ⟨by rw [hc.byte]; exact h.pci, h.dlc.trans hc.len⟩

end Uds.Tp
