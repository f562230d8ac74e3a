import Uds.Tp.EndToEndFd
/-!
# Which CAN FD First Frames are accepted

`uds_tp_encode_ff_fd` writes a 32-bit length only above `UDS_TP_CANFD_FF_EXT_THRESHOLD`, and
every frame it writes is full.  `uds_tp_decode_ff_fd` checks the bounds of a 12-bit length and
the frame length of the 32-bit form, but neither the bounds of a 32-bit length nor that the
second byte of a 12-bit length is there.  A frame is accepted as an encoder writes it exactly
where those two checks would not have refused it.
-/

namespace Uds.Tp

open Uds.Base Uds.Can

/-! ## The two forms -/

/-- The zero pattern in front of a 32-bit length. -/
def ExtendedForm (frame : CanFdFrame) : Prop :=
  frame.byte 1 = 0x00 ∧ (frame.byte 0).toNat &&& 0x0F = 0

instance (frame : CanFdFrame) : Decidable (ExtendedForm frame) :=
  inferInstanceAs (Decidable (_ ∧ _))

/-- How many bytes of protocol control information the decoder reads. -/
def pciBytes (frame : CanFdFrame) : Nat := if ExtendedForm frame then 6 else 2

/-- The 12-bit length. -/
def regularLen (frame : CanFdFrame) : Nat :=
  (frame.byte 0).toNat % 16 * 256 + (frame.byte 1).toNat

/-- The 32-bit length. -/
def extendedLen (frame : CanFdFrame) : Nat :=
  (frame.byte 2).toNat * 2 ^ 24 + (frame.byte 3).toNat * 2 ^ 16 +
    (frame.byte 4).toNat * 2 ^ 8 + (frame.byte 5).toNat

theorem regularLen_le (frame : CanFdFrame) : regularLen frame ≤ 4095 := by
  have hlow := (frame.byte 1).toNat_lt
  unfold regularLen
  omega

/-! ## What the decoder accepts -/

section Decode

variable {frame : CanFdFrame} {bufSize totalLen : Nat} {content : List UInt8}

theorem decodeFfFd_extended (hbuf : 62 ≤ bufSize) (hext : ExtendedForm frame) :
    udsTpDecodeFfFd frame bufSize = .ok (totalLen, content) ↔
      frameType frame = .ff ∧ 6 ≤ frame.len ∧ extendedLen frame ≠ 0 ∧
        totalLen = extendedLen frame ∧ content = frame.slice 6 (min (frame.len - 6) 58) := by
  have hlen : ((frame.byte 2).toNat <<< 24) ||| ((frame.byte 3).toNat <<< 16) |||
      ((frame.byte 4).toNat <<< 8) ||| (frame.byte 5).toNat = extendedLen frame :=
    shl_or_bytes _ _ _ _ (frame.byte 3).toNat_lt (frame.byte 4).toNat_lt (frame.byte 5).toNat_lt
  have hform : frame.byte 1 = 0x00 ∧ (frame.byte 0).toNat &&& 0x0F = 0 := hext
  unfold udsTpDecodeFfFd udsTpFrameTypeFd udsTpCanfdFfExtDataBytes
  simp only [hlen]
  by_cases htype : frameType frame = .ff
  · rw [if_neg (by simpa using htype), if_pos hform]
    by_cases hshort : frame.len < 6
    · rw [if_pos hshort]
      exact iff_of_false nofun fun h => absurd h.2.1 (by omega)
    · rw [if_neg hshort]
      by_cases hzero : extendedLen frame = 0
      · rw [if_pos hzero]
        exact iff_of_false nofun fun h => h.2.2.1 hzero
      · rw [if_neg hzero, if_neg (by omega), Except.ok.injEq, Prod.mk.injEq]
        constructor
        · rintro ⟨hlen, hcontent⟩
          exact ⟨htype, by omega, hzero, hlen.symm, hcontent.symm⟩
        · rintro ⟨-, -, -, hlen, hcontent⟩
          exact ⟨hlen.symm, hcontent.symm⟩
  · rw [if_pos htype]
    exact iff_of_false nofun fun h => htype h.1

theorem decodeFfFd_regular (hbuf : 62 ≤ bufSize) (hreg : ¬ExtendedForm frame) :
    udsTpDecodeFfFd frame bufSize = .ok (totalLen, content) ↔
      frameType frame = .ff ∧ 62 < regularLen frame ∧ totalLen = regularLen frame ∧
        content = frame.slice 2 (min (frame.len - 2) 62) := by
  have hlen : (((frame.byte 0).toNat &&& 0x0F) <<< 8) ||| (frame.byte 1).toNat =
      regularLen frame := by
    rw [shl_or _ _ 8 (frame.byte 1).toNat_lt, and_0F]
    rfl
  have hform : ¬(frame.byte 1 = 0x00 ∧ (frame.byte 0).toNat &&& 0x0F = 0) := hreg
  have hmax := regularLen_le frame
  unfold udsTpDecodeFfFd udsTpFrameTypeFd udsTpCanfdSfMaxData udsTpCanfdFfExtThreshold
    udsTpCanfdFfDataBytes
  simp only [hlen]
  by_cases htype : frameType frame = .ff
  · rw [if_neg (by simpa using htype), if_neg hform]
    by_cases hsingle : regularLen frame ≤ 62
    · rw [if_pos (Or.inl hsingle)]
      exact iff_of_false nofun fun h => absurd h.2.1 (by omega)
    · rw [if_neg (by omega), if_neg (by omega), Except.ok.injEq, Prod.mk.injEq]
      constructor
      · rintro ⟨hlen, hcontent⟩
        exact ⟨htype, by omega, hlen.symm, hcontent.symm⟩
      · rintro ⟨-, -, hlen, hcontent⟩
        exact ⟨hlen.symm, hcontent.symm⟩
  · rw [if_pos htype]
    exact iff_of_false nofun fun h => htype h.1

theorem decodeFfFd_bufSize {bufSize' : Nat} (hbuf : 62 ≤ bufSize) (hbuf' : 62 ≤ bufSize')
    (h : udsTpDecodeFfFd frame bufSize = .ok (totalLen, content)) :
    udsTpDecodeFfFd frame bufSize' = .ok (totalLen, content) := by
  by_cases hext : ExtendedForm frame
  · exact (decodeFfFd_extended hbuf' hext).mpr ((decodeFfFd_extended hbuf hext).mp h)
  · exact (decodeFfFd_regular hbuf' hext).mpr ((decodeFfFd_regular hbuf hext).mp h)

end Decode

/-! ## Frames that the encoder writes -/

/-- A First Frame accepted as the encoder writes them: its form suits the length, it embeds
less than the PDU, what was read of it lies within its length, and some PDU of that length
has a First Frame with the same bytes there. -/
structure AsEncoded (frame : CanFdFrame) (totalLen : Nat) (content : List UInt8) : Prop where
  multi : udsTpCanfdSfMaxData < totalLen
  form : ExtendedForm frame → udsTpCanfdFfExtThreshold < totalLen
  embedded : content.length < totalLen
  pci : pciBytes frame ≤ frame.len
  written : ∃ data ff, data.length = totalLen ∧
    udsTpEncodeFfFd frame.canId data totalLen = .ok ff ∧
      ∀ i < pciBytes frame + content.length, ff.byte i = frame.byte i

section Written

variable {frame : CanFdFrame}

/-- A PDU of `n` bytes that starts with what the frame holds behind `pci` bytes. -/
def pduFrom (frame : CanFdFrame) (pci n : Nat) : List UInt8 := zeroPad n (frame.data.drop pci)

theorem length_pduFrom (frame : CanFdFrame) (pci n : Nat) : (pduFrom frame pci n).length = n :=
  length_zeroPad n _

theorem take_pduFrom {pci n : Nat} (hn : 64 ≤ pci + n) :
    (pduFrom frame pci n).take (64 - pci) = frame.data.drop pci := by
  have hdrop : (frame.data.drop pci).length = 64 - pci := by
    rw [List.length_drop, frame.size_eq]
  have htake : (frame.data.drop pci).take n = frame.data.drop pci := by
    apply List.take_of_length_le
    omega
  rw [pduFrom, zeroPad, htake]
  exact List.take_left' hdrop

theorem byte_ofBytes_pduFrom (canId : UInt32) {pci n : Nat} (hcap : pci ≤ 64)
    (hn : 64 ≤ pci + n) {i : Nat} (hi : i < 64) :
    (Frame.ofBytes canId 64 le_rfl ((List.range pci).map frame.byte ++
      (pduFrom frame pci n).take (64 - pci))).byte i = frame.byte i := by
  have hsize := frame.size_eq
  have hheader : ((List.range pci).map frame.byte).length = pci := by
    rw [List.length_map, List.length_range]
  rw [take_pduFrom hn]
  have hlength : ((List.range pci).map frame.byte ++ frame.data.drop pci).length = 64 := by
    rw [List.length_append, List.length_drop]
    omega
  rw [Frame.byte_ofBytes canId 64 le_rfl (by omega) (by omega)]
  by_cases hin : i < pci
  · rw [List.getElem_append_left (by omega), List.getElem_map, List.getElem_range]
  · rw [List.getElem_append_right (by omega), List.getElem_drop, Frame.byte,
      List.getD_eq_getElem?_getD, List.getElem?_eq_getElem (by omega), Option.getD_some]
    congr 1
    omega

theorem written_regular (htype : frameType frame = .ff) (hlen : 62 < regularLen frame) :
    ∃ data ff, data.length = regularLen frame ∧
      udsTpEncodeFfFd frame.canId data (regularLen frame) = .ok ff ∧
        ∀ i < 64, ff.byte i = frame.byte i := by
  have hmax := regularLen_le frame
  have hnibble := ((frameType_eq_ff frame).mp htype).2
  have hlow := (frame.byte 1).toNat_lt
  have hdata := length_pduFrom frame 2 (regularLen frame)
  have henc := udsTpEncodeFfFd_regular frame.canId (pduFrom frame 2 (regularLen frame))
    (by omega) (by omega)
  have hfirst : 0x10 + regularLen frame / 256 = (frame.byte 0).toNat := by
    unfold regularLen
    omega
  have hsecond : regularLen frame % 256 = (frame.byte 1).toNat := by
    unfold regularLen
    omega
  have hheader : [UInt8.ofNat (0x10 + regularLen frame / 256),
      UInt8.ofNat (regularLen frame % 256)] = (List.range 2).map frame.byte := by
    rw [hfirst, hsecond, UInt8.ofNat_toNat, UInt8.ofNat_toNat]
    rfl
  rw [hdata, hheader] at henc
  exact ⟨_, _, hdata, henc, fun i hi => byte_ofBytes_pduFrom _ (by omega) (by omega) hi⟩

theorem written_extended (htype : frameType frame = .ff) (hext : ExtendedForm frame)
    (hlen : 4095 < extendedLen frame) :
    ∃ data ff, data.length = extendedLen frame ∧
      udsTpEncodeFfFd frame.canId data (extendedLen frame) = .ok ff ∧
        ∀ i < 64, ff.byte i = frame.byte i := by
  have hnibble := ((frameType_eq_ff frame).mp htype).2
  have hzero := hext.2
  rw [and_0F] at hzero
  have h2 := (frame.byte 2).toNat_lt
  have h3 := (frame.byte 3).toNat_lt
  have h4 := (frame.byte 4).toNat_lt
  have h5 := (frame.byte 5).toNat_lt
  have hdata := length_pduFrom frame 6 (extendedLen frame)
  have henc := udsTpEncodeFfFd_extended frame.canId (pduFrom frame 6 (extendedLen frame))
    (by omega)
  have hfirst : frame.byte 0 = 0x10 := by
    apply UInt8.toNat_inj.mp
    change _ = 16
    omega
  have hd2 : extendedLen frame / 16777216 % 256 = (frame.byte 2).toNat := by
    unfold extendedLen
    omega
  have hd3 : extendedLen frame / 65536 % 256 = (frame.byte 3).toNat := by
    unfold extendedLen
    omega
  have hd4 : extendedLen frame / 256 % 256 = (frame.byte 4).toNat := by
    unfold extendedLen
    omega
  have hd5 : extendedLen frame % 256 = (frame.byte 5).toNat := by
    unfold extendedLen
    omega
  have hheader : [0x10, 0x00, UInt8.ofNat (extendedLen frame / 16777216 % 256),
      UInt8.ofNat (extendedLen frame / 65536 % 256), UInt8.ofNat (extendedLen frame / 256 % 256),
      UInt8.ofNat (extendedLen frame % 256)] = (List.range 6).map frame.byte := by
    rw [hd2, hd3, hd4, hd5, ← hfirst, ← hext.1]
    simp only [UInt8.ofNat_toNat]
    rfl
  rw [hdata, hheader] at henc
  exact ⟨_, _, hdata, henc, fun i hi => byte_ofBytes_pduFrom _ (by omega) (by omega) hi⟩

end Written

/-! ## The frames that slip through -/

/-- A First Frame that lacks a check: a 32-bit length that fits in the 12-bit form, or a
12-bit length whose second byte is behind the end of the frame. -/
def SlipsThrough (frame : CanFdFrame) : Prop :=
  frameType frame = .ff ∧
    ((ExtendedForm frame ∧ 6 ≤ frame.len ∧ extendedLen frame ≠ 0 ∧
        extendedLen frame ≤ udsTpCanfdFfExtThreshold) ∨
      (¬ExtendedForm frame ∧ frame.len = 1 ∧ udsTpCanfdSfMaxData < regularLen frame))

section Accepted

variable {frame : CanFdFrame} {bufSize totalLen : Nat} {content : List UInt8}

theorem asEncoded_of_extended (hbuf : 62 ≤ bufSize) (hext : ExtendedForm frame)
    (hgood : ¬SlipsThrough frame)
    (h : udsTpDecodeFfFd frame bufSize = .ok (totalLen, content)) :
    AsEncoded frame totalLen content := by
  obtain ⟨htype, hlen, hpos, rfl, rfl⟩ := (decodeFfFd_extended hbuf hext).mp h
  have hlong : 4095 < extendedLen frame := by
    by_contra hshort
    exact hgood ⟨htype, Or.inl ⟨hext, hlen, hpos, Nat.le_of_not_lt hshort⟩⟩
  have hpci : pciBytes frame = 6 := if_pos hext
  have hcontent : (frame.slice 6 (min (frame.len - 6) 58)).length = min (frame.len - 6) 58 :=
    frame.length_slice (by omega)
  obtain ⟨data, ff, hdata, henc, hbytes⟩ := written_extended htype hext hlong
  refine ⟨?_, fun _ => hlong, by omega, by omega, data, ff, hdata, henc, fun i hi => ?_⟩
  · unfold udsTpCanfdSfMaxData
    omega
  · exact hbytes i (by omega)

theorem asEncoded_of_regular (hbuf : 62 ≤ bufSize) (hreg : ¬ExtendedForm frame)
    (hgood : ¬SlipsThrough frame)
    (h : udsTpDecodeFfFd frame bufSize = .ok (totalLen, content)) :
    AsEncoded frame totalLen content := by
  obtain ⟨htype, hlen, rfl, rfl⟩ := (decodeFfFd_regular hbuf hreg).mp h
  have hpci : pciBytes frame = 2 := if_neg hreg
  have hsecond : 2 ≤ frame.len := by
    have hne := ((frameType_eq_ff frame).mp htype).1
    by_contra hone
    exact hgood ⟨htype, Or.inr ⟨hreg, by omega, hlen⟩⟩
  have hcontent : (frame.slice 2 (min (frame.len - 2) 62)).length = min (frame.len - 2) 62 :=
    frame.length_slice (by omega)
  obtain ⟨data, ff, hdata, henc, hbytes⟩ := written_regular htype hlen
  refine ⟨hlen, fun hext => absurd hext hreg, by omega, by omega, data, ff, hdata, henc,
    fun i hi => ?_⟩
  exact hbytes i (by omega)

theorem not_asEncoded_of_slips (hbuf : 62 ≤ bufSize) (h : SlipsThrough frame) :
    ∃ totalLen content, udsTpDecodeFfFd frame bufSize = .ok (totalLen, content) ∧
      ¬AsEncoded frame totalLen content := by
  obtain ⟨htype, ⟨hext, hlen, hpos, hle⟩ | ⟨hreg, hlen, hgt⟩⟩ := h
  · refine ⟨_, _, (decodeFfFd_extended hbuf hext).mpr ⟨htype, hlen, hpos, rfl, rfl⟩, fun h => ?_⟩
    exact absurd (h.form hext) (Nat.not_lt.mpr hle)
  · refine ⟨_, _, (decodeFfFd_regular hbuf hreg).mpr ⟨htype, hgt, rfl, rfl⟩, fun h => ?_⟩
    have hpci := h.pci
    rw [pciBytes, if_neg hreg] at hpci
    omega

theorem decodeFfFd_encodeFfFd (hbuf : 62 ≤ bufSize) (canId : UInt32) (data : List UInt8)
    (hmax : data.length ≤ udsTpCanfdMaxPduLen) {ff : CanFdFrame}
    (henc : udsTpEncodeFfFd canId data data.length = .ok ff) :
    udsTpDecodeFfFd ff bufSize = .ok (data.length,
      data.take (if data.length ≤ udsTpCanfdFfExtThreshold then udsTpCanfdFfDataBytes
        else udsTpCanfdFfExtDataBytes)) := by
  have hmulti : 62 < data.length := by
    by_contra hsingle
    unfold udsTpEncodeFfFd udsTpCanfdFfExtThreshold udsTpCanfdSfMaxData at henc
    split at henc
    · cases henc
    · rw [if_pos (by omega), if_pos (by omega)] at henc
      cases henc
  apply decodeFfFd_bufSize (Nat.le_of_lt hmulti) hbuf
  by_cases hregular : data.length ≤ udsTpCanfdFfExtThreshold
  · obtain ⟨ff', henc', -, hdec⟩ := encodeFfFd_regular canId data data.length hmulti hregular le_rfl
    rw [henc'] at henc
    cases henc
    rw [if_pos hregular]
    exact (hdec _ (Frame.Carries.refl _)).2
  · obtain ⟨ff', henc', -, hdec⟩ := encodeFfFd_extended canId data data.length
      (Nat.lt_of_not_le hregular) hmax le_rfl
    rw [henc'] at henc
    cases henc
    rw [if_neg hregular]
    exact (hdec _ (Frame.Carries.refl _)).2

end Accepted

/-- The decoder accepts a frame only as the encoder writes it, unless one of the two missing
checks would refuse it; what the encoder does write is always decoded to its payload. -/
theorem decodeFfFd_strict_iff (frame : CanFdFrame) (bufSize : Nat) (hbuf : 62 ≤ bufSize) :
    ((∀ totalLen content, udsTpDecodeFfFd frame bufSize = .ok (totalLen, content) →
        AsEncoded frame totalLen content) ↔ ¬SlipsThrough frame) ∧
      ∀ (canId : UInt32) (data : List UInt8) (ff : CanFdFrame),
        data.length ≤ udsTpCanfdMaxPduLen →
          udsTpEncodeFfFd canId data data.length = .ok ff →
            udsTpDecodeFfFd ff bufSize = .ok (data.length,
              data.take (if data.length ≤ udsTpCanfdFfExtThreshold then udsTpCanfdFfDataBytes
                else udsTpCanfdFfExtDataBytes)) := by
  refine ⟨⟨fun hall hslips => ?_, fun hgood totalLen content h => ?_⟩, ?_⟩
  · obtain ⟨totalLen, content, hdec, hnot⟩ := not_asEncoded_of_slips hbuf hslips
    exact hnot (hall totalLen content hdec)
  · by_cases hext : ExtendedForm frame
    · exact asEncoded_of_extended hbuf hext hgood h
    · exact asEncoded_of_regular hbuf hext hgood h
  · intro canId data ff hmax henc
    exact decodeFfFd_encodeFfFd hbuf canId data hmax henc

/-- A full First Frame with a 12-bit length of 100. -/
def regularHundred : CanFdFrame := .ofBytes 0x601 64 le_rfl [0x10, 100]

theorem decodeFfFd_strict_hundred :
    AsEncoded regularHundred 100 (regularHundred.slice 2 62) :=
  (decodeFfFd_strict_iff regularHundred 62 le_rfl).1.mpr
    (fun h => absurd h.2 (by decide)) 100 (regularHundred.slice 2 62) (by decide)

/-- A full frame that declares five bytes in the 32-bit form, and embeds 58. -/
theorem decodeFfFd_not_strict :
    ¬∀ (frame : CanFdFrame) (bufSize totalLen : Nat) (content : List UInt8), 62 ≤ bufSize →
      udsTpDecodeFfFd frame bufSize = .ok (totalLen, content) →
        AsEncoded frame totalLen content := by
  intro hclaim
  have hform := (hclaim (.ofBytes 0x601 64 le_rfl [0x10, 0, 0, 0, 0, 5]) 62 5
    (List.replicate 58 0) le_rfl (by decide)).form ⟨by decide, by decide⟩
  exact absurd hform (by decide)

end Uds.Tp
