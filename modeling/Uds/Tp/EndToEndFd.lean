import Uds.Tp.FirstFrames
import Uds.Tp.Lockstep
/-!
# CAN FD transfers end to end

The four first frames of CAN FD (classic Single Frame, escape Single Frame,
First Frame with a 12-bit length, First Frame with a 32-bit length) are decoded
to what was encoded, also when the bus has lengthened them, and the loops then
run in lock step.
-/

namespace Uds.Tp

open Uds.Base Uds.Can

section First

variable (txId rxId : UInt32) (data : List UInt8) (buf : Mem UInt8) (bufSize outLen : Nat)
  (cfg : UdsTpConfig)

theorem udsTpEncodeSfFd_short (hpos : 1 ≤ data.length) (hle : data.length ≤ 7) :
    udsTpEncodeSfFd txId data = .ok (.ofBytes txId (1 + data.length) (by omega)
      (UInt8.ofNat data.length :: data)) := by
  have hmax : ¬(data.length = 0 ∨ data.length > udsTpCanfdSfMaxData) := by
    unfold udsTpCanfdSfMaxData
    omega
  have hshort : data.length ≤ udsTpSfMaxData := hle
  rw [udsTpEncodeSfFd, dif_neg hmax, if_pos hshort]

theorem udsTpEncodeSfFd_escape (hge : 8 ≤ data.length) (hle : data.length ≤ 62) :
    udsTpEncodeSfFd txId data = .ok (.ofBytes txId (2 + data.length) (by omega)
      ([0x00, UInt8.ofNat data.length] ++ data)) := by
  have hmax : ¬(data.length = 0 ∨ data.length > udsTpCanfdSfMaxData) := by
    unfold udsTpCanfdSfMaxData
    omega
  have hlong : ¬data.length ≤ udsTpSfMaxData := by
    unfold udsTpSfMaxData
    omega
  rw [udsTpEncodeSfFd, dif_neg hmax, if_neg hlong]

theorem udsTpEncodeFfFd_regular (hgt : 62 < data.length) (hle : data.length ≤ 4095) :
    udsTpEncodeFfFd txId data data.length = .ok (.ofBytes txId 64 le_rfl
      ([UInt8.ofNat (0x10 + data.length / 256), UInt8.ofNat (data.length % 256)] ++
        data.take 62)) := by
  have hthreshold : data.length ≤ udsTpCanfdFfExtThreshold := hle
  have hmulti : ¬data.length ≤ udsTpCanfdSfMaxData := by
    unfold udsTpCanfdSfMaxData
    omega
  have hembed : min data.length udsTpCanfdFfDataBytes = 62 := by
    unfold udsTpCanfdFfDataBytes
    omega
  have hhigh : 0x10 ||| ((data.length >>> 8) &&& 0x0F) = 0x10 + data.length / 256 := by
    rw [shr_8, and_0F, or_high_nibble 1 _ (by omega)]
    omega
  rw [udsTpEncodeFfFd, if_neg (by omega), if_pos hthreshold, if_neg hmulti]
  simp only [hembed, hhigh, and_FF]

theorem udsTpEncodeFfFd_extended (hgt : 4095 < data.length) :
    udsTpEncodeFfFd txId data data.length = .ok (.ofBytes txId 64 le_rfl
      ([0x10, 0x00, UInt8.ofNat (data.length / 16777216 % 256),
        UInt8.ofNat (data.length / 65536 % 256), UInt8.ofNat (data.length / 256 % 256),
        UInt8.ofNat (data.length % 256)] ++ data.take 58)) := by
  have hthreshold : ¬data.length ≤ udsTpCanfdFfExtThreshold := by
    unfold udsTpCanfdFfExtThreshold
    omega
  have hembed : min data.length udsTpCanfdFfExtDataBytes = 58 := by
    unfold udsTpCanfdFfExtDataBytes
    omega
  rw [udsTpEncodeFfFd, if_neg (by omega), if_neg hthreshold]
  simp only [hembed, and_FF, shr_8, shr_16, shr_24]

/-- A payload of at most seven bytes. -/
theorem encodeSfFd_short (hpos : 1 ≤ data.length) (hle : data.length ≤ 7)
    (hfit : data.length ≤ bufSize) :
    ∃ sf, udsTpEncodeSfFd txId data = .ok sf ∧ sf.ZeroTail ∧ ∀ f', Frame.Carries sf f' →
      frameType f' = .sf ∧ udsTpDecodeSfFd f' bufSize = .ok data := by
  have hlen : 1 + data.length ≤ 64 := by omega
  refine ⟨_, udsTpEncodeSfFd_short txId data hpos hle,
    Frame.zeroTail_ofBytes _ _ _ (by rw [List.length_cons]; omega), ?_⟩
  · intro f' hc
    have hbytes : (UInt8.ofNat data.length :: data).length ≤ 64 := by
      rw [List.length_cons]
      omega
    have h0 : f'.byte 0 = UInt8.ofNat data.length := hc.byte_ofBytes hbytes (Nat.succ_pos _)
    have hnat : (f'.byte 0).toNat = data.length := by
      rw [h0, UInt8.toNat_ofNat']
      omega
    have hdlc : 1 + data.length ≤ f'.len := hc.len
    have hslice : f'.slice [UInt8.ofNat data.length].length data.length = data :=
      hc.slice_ofBytes hlen
    have hdec := decodeSfFd_of_admits (.short hpos hle hnat hdlc hfit)
    rw [List.length_singleton] at hslice
    rwa [hslice] at hdec

/-- A payload of eight to 62 bytes, behind the escape sequence. -/
theorem encodeSfFd_escape (hge : 8 ≤ data.length) (hle : data.length ≤ 62)
    (hfit : data.length ≤ bufSize) :
    ∃ sf, udsTpEncodeSfFd txId data = .ok sf ∧ sf.ZeroTail ∧ ∀ f', Frame.Carries sf f' →
      frameType f' = .sf ∧ udsTpDecodeSfFd f' bufSize = .ok data := by
  have hlen : 2 + data.length ≤ 64 := by omega
  have hbytes : ([0x00, UInt8.ofNat data.length] ++ data).length ≤ 2 + data.length := by
    rw [List.length_append, List.length_cons, List.length_singleton]
  refine ⟨_, udsTpEncodeSfFd_escape txId data hge hle, Frame.zeroTail_ofBytes _ _ _ hbytes, ?_⟩
  · intro f' hc
    have h0 : f'.byte 0 = 0x00 := hc.byte_ofBytes (hbytes.trans hlen) (by simp)
    have h1 : f'.byte 1 = UInt8.ofNat data.length :=
      hc.byte_ofBytes (hbytes.trans hlen) (by simp)
    have hpci : (f'.byte 0).toNat = 0 := congrArg UInt8.toNat h0
    have hnat : (f'.byte 1).toNat = data.length := by
      rw [h1, UInt8.toNat_ofNat']
      omega
    have hdlc : 2 + data.length ≤ f'.len := hc.len
    have hslice : f'.slice 2 data.length = data := hc.slice_ofBytes hlen
    have hdec := decodeSfFd_of_admits (.escape hge hle hpci hnat hdlc hfit)
    rwa [hslice] at hdec

/-- A PDU of 63 to 4095 bytes. -/
theorem encodeFfFd_regular (hgt : 62 < data.length) (hle : data.length ≤ 4095)
    (hfit : data.length ≤ bufSize) :
    ∃ ff, udsTpEncodeFfFd txId data data.length = .ok ff ∧ ff.ZeroTail ∧
      ∀ f', Frame.Carries ff f' → frameType f' = .ff ∧
        udsTpDecodeFfFd f' bufSize = .ok (data.length, data.take 62) := by
  have htake : (data.take 62).length = 62 := by
    rw [List.length_take]
    omega
  have hbytes : ([UInt8.ofNat (0x10 + data.length / 256), UInt8.ofNat (data.length % 256)] ++
      data.take 62).length ≤ 64 := by
    rw [List.length_append, htake, List.length_cons, List.length_singleton]
  refine ⟨_, udsTpEncodeFfFd_regular txId data hgt hle, Frame.zeroTail_ofBytes _ _ _ hbytes, ?_⟩
  · intro f' hc
    have h0 : (f'.byte 0).toNat = 0x10 + data.length / 256 := by
      rw [hc.byte_ofBytes hbytes (by simp)]
      simp
      omega
    have h1 : (f'.byte 1).toNat = data.length % 256 := by
      rw [hc.byte_ofBytes hbytes (by simp)]
      simp
    have hdlc : f'.len = 64 := le_antisymm f'.len_le hc.len
    have hslice : f'.slice 2 (data.take 62).length = data.take 62 :=
      hc.slice_ofBytes (by rw [← List.length_append]; exact hbytes)
    have hadmits : AdmitsFfFd bufSize f' 2 (min (f'.len - 2) 62) data.length :=
      .regular hgt hle h0 h1 (by omega) hfit
    have hdec := decodeFfFd_of_admits hadmits
    have hembed' : min (f'.len - 2) 62 = 62 := by omega
    rw [htake] at hslice
    rwa [hembed', hslice] at hdec

/-- A PDU of 4096 bytes and more. -/
theorem encodeFfFd_extended (hgt : 4095 < data.length) (hle : data.length ≤ 0xFFFFFFFF)
    (hfit : data.length ≤ bufSize) :
    ∃ ff, udsTpEncodeFfFd txId data data.length = .ok ff ∧ ff.ZeroTail ∧
      ∀ f', Frame.Carries ff f' → frameType f' = .ff ∧
        udsTpDecodeFfFd f' bufSize = .ok (data.length, data.take 58) := by
  have htake : (data.take 58).length = 58 := by
    rw [List.length_take]
    omega
  have hbytes : ([0x10, 0x00, UInt8.ofNat (data.length / 16777216 % 256),
      UInt8.ofNat (data.length / 65536 % 256), UInt8.ofNat (data.length / 256 % 256),
      UInt8.ofNat (data.length % 256)] ++ data.take 58).length ≤ 64 := by
    rw [List.length_append, htake]
    simp
  refine ⟨_, udsTpEncodeFfFd_extended txId data hgt, Frame.zeroTail_ofBytes _ _ _ hbytes, ?_⟩
  · intro f' hc
    have h0 : f'.byte 0 = 0x10 := hc.byte_ofBytes hbytes (by simp)
    have h1 : f'.byte 1 = 0x00 := hc.byte_ofBytes hbytes (by simp)
    have h2 : (f'.byte 2).toNat = data.length / 16777216 % 256 := by
      rw [hc.byte_ofBytes hbytes (by simp)]
      simp
    have h3 : (f'.byte 3).toNat = data.length / 65536 % 256 := by
      rw [hc.byte_ofBytes hbytes (by simp)]
      simp
    have h4 : (f'.byte 4).toNat = data.length / 256 % 256 := by
      rw [hc.byte_ofBytes hbytes (by simp)]
      simp
    have h5 : (f'.byte 5).toNat = data.length % 256 := by
      rw [hc.byte_ofBytes hbytes (by simp)]
      simp
    have hdlc : f'.len = 64 := le_antisymm f'.len_le hc.len
    have hslice : f'.slice 6 (data.take 58).length = data.take 58 :=
      hc.slice_ofBytes (by rw [← List.length_append]; exact hbytes)
    have hadmits : AdmitsFfFd bufSize f' 6 (min (f'.len - 6) 58) data.length :=
      .extended (by omega) (congrArg UInt8.toNat h0) (congrArg UInt8.toNat h1)
        (by rw [h2, h3, h4, h5]; omega) (by omega) (by omega) hfit
    have hdec := decodeFfFd_of_admits hadmits
    have hembed' : min (f'.len - 6) 58 = 58 := by omega
    rw [htake] at hslice
    rwa [hembed', hslice] at hdec

end First

/-! ## `uds_tp_send_fd` against `uds_tp_recv_fd` -/

/-- The payload lengths of CAN FD above eight bytes. -/
def canFdLengths : List Nat := [12, 16, 20, 24, 32, 48, 64]

theorem le_of_mem_canFdLengths {n : Nat} (h : n ∈ canFdLengths) : n ≤ 64 := by
  have hall : ∀ m ∈ canFdLengths, m ≤ 64 := by decide
  exact hall n h

/-- `f'` is `f` as it was sent, or lengthened with zeros to a CAN FD length. -/
def PaddedFrom (f f' : CanFdFrame) : Prop :=
  f' = f ∨ ∃ n, ∃ h : n ∈ canFdLengths, f' = f.padTo n (le_of_mem_canFdLengths h)

/-- A bus that loses nothing and may lengthen any frame. -/
def PadsOnly (med : Medium CanFdFrame) : Prop :=
  ∀ n f, (∃ f', med.toRight n f = some f' ∧ PaddedFrom f f') ∧
    ∃ f', med.toLeft n f = some f' ∧ PaddedFrom f f'

theorem carries_of_paddedFrom {f f' : CanFdFrame} (hz : f.ZeroTail) (h : PaddedFrom f f') :
    Frame.Carries f f' := by
  rcases h with rfl | ⟨n, hn, rfl⟩
  · exact .refl _
  · exact Frame.carries_padTo hz n _

theorem PadsOnly.delivers {med : Medium CanFdFrame} (h : PadsOnly med) : Delivers med := by
  intro n f hz
  obtain ⟨⟨f₁, hto, hp₁⟩, ⟨f₂, hback, hp₂⟩⟩ := h n f
  exact ⟨⟨f₁, hto, carries_of_paddedFrom hz hp₁⟩, ⟨f₂, hback, carries_of_paddedFrom hz hp₂⟩⟩

section Transfer

variable {med : Medium CanFdFrame} {txId rxId : UInt32} {data : List UInt8}
  {sCfg rCfg : UdsTpConfig} {buf : Mem UInt8} {bufSize outLen : Nat}

theorem udsTpRecvFd_eq (hbuf : bufSize ≠ 0) (hr : rCfg.timeoutMs ≠ 0) :
    udsTpRecvFd rxId buf bufSize outLen rCfg =
      recvFrame (⟨·, buf, outLen⟩) (onFirstFrameFd rxId buf bufSize outLen rCfg) := by
  rw [udsTpRecvFd, if_neg hbuf, if_neg hr]

theorem udsTpSendFd_single (hpos : 1 ≤ data.length) (hle : data.length ≤ 62)
    (hs : sCfg.timeoutMs ≠ 0) :
    udsTpSendFd txId data sCfg = sendFrame id (udsTpEncodeSfFd txId data) (.ret .ok) := by
  have hmax : data.length ≤ udsTpCanfdSfMaxData := hle
  rw [udsTpSendFd, if_neg (by omega), if_neg hs, if_pos hmax]

theorem ffEmbed_eq (hgt : 62 < data.length) :
    min (if data.length ≤ udsTpCanfdFfExtThreshold then udsTpCanfdFfDataBytes
      else udsTpCanfdFfExtDataBytes) data.length = if data.length ≤ 4095 then 62 else 58 := by
  unfold udsTpCanfdFfExtThreshold udsTpCanfdFfDataBytes udsTpCanfdFfExtDataBytes
  split <;> omega

theorem udsTpSendFd_multi (hgt : 62 < data.length) (hmax : data.length ≤ 0xFFFFFFFF)
    (hs : sCfg.timeoutMs ≠ 0) :
    udsTpSendFd txId data sCfg = sendFrame id (udsTpEncodeFfFd txId data data.length)
      (sendLoop canFd txId data (if data.length ≤ 4095 then 62 else 58) 1) := by
  have hlong : ¬data.length ≤ udsTpCanfdSfMaxData := Nat.not_le.mpr hgt
  have hpdu : ¬data.length > udsTpCanfdMaxPduLen := Nat.not_lt.mpr hmax
  rw [udsTpSendFd, if_neg (by omega), if_neg hs, if_neg hlong, if_neg hpdu, ← ffEmbed_eq hgt]

theorem transferred_fd_single (hmed : Delivers med) (hpos : 1 ≤ data.length)
    (hle : data.length ≤ 62) (hs : sCfg.timeoutMs ≠ 0) (hr : rCfg.timeoutMs ≠ 0)
    (hfit : data.length ≤ bufSize) :
    Inevitable (Patient med UdsCanError.errTimeout) (Transferred data)
      (Net.start (udsTpSendFd txId data sCfg) (udsTpRecvFd rxId buf bufSize outLen rCfg)) := by
  have hsf : ∃ sf, udsTpEncodeSfFd txId data = .ok sf ∧ sf.ZeroTail ∧
      ∀ f', Frame.Carries sf f' →
        frameType f' = .sf ∧ udsTpDecodeSfFd f' bufSize = .ok data := by
    by_cases hshort : data.length ≤ 7
    · exact encodeSfFd_short txId data bufSize hpos hshort hfit
    · exact encodeSfFd_escape txId data bufSize (by omega) hle hfit
  obtain ⟨sf, henc, hz, hdec⟩ := hsf
  rw [udsTpSendFd_single hpos hle hs, henc, udsTpRecvFd_eq (by omega) hr]
  apply transferred_single hmed hz
  intro f' hc
  obtain ⟨htype, hok⟩ := hdec f' hc
  exact onFirstFrameFd_of_decodeSf rxId buf bufSize outLen rCfg htype hok

theorem transferred_fd_multi (hmed : Delivers med) (hgt : 62 < data.length)
    (hmax : data.length ≤ 0xFFFFFFFF) (hs : sCfg.timeoutMs ≠ 0) (hr : rCfg.timeoutMs ≠ 0)
    (hfit : data.length ≤ bufSize) :
    Inevitable (Patient med UdsCanError.errTimeout) (Transferred data)
      (Net.start (udsTpSendFd txId data sCfg) (udsTpRecvFd rxId buf bufSize outLen rCfg)) := by
  have hff : ∃ ff base, udsTpEncodeFfFd txId data data.length = .ok ff ∧ ff.ZeroTail ∧
      base < data.length ∧ (if data.length ≤ 4095 then 62 else 58) = base ∧
      ∀ f', Frame.Carries ff f' → frameType f' = .ff ∧
        udsTpDecodeFfFd f' bufSize = .ok (data.length, data.take base) := by
    by_cases hregular : data.length ≤ 4095
    · obtain ⟨ff, henc, hz, hdec⟩ := encodeFfFd_regular txId data bufSize hgt hregular hfit
      exact ⟨ff, 62, henc, hz, hgt, if_pos hregular, hdec⟩
    · obtain ⟨ff, henc, hz, hdec⟩ :=
        encodeFfFd_extended txId data bufSize (by omega) hmax hfit
      exact ⟨ff, 58, henc, hz, by omega, if_neg hregular, hdec⟩
  obtain ⟨ff, base, henc, hz, hbase, hembed, hdec⟩ := hff
  rw [udsTpSendFd_multi hgt hmax hs, henc, hembed, udsTpRecvFd_eq (by omega) hr]
  apply transferred_multi hmed hbase hfit hz
  intro f' hc
  obtain ⟨htype, hok⟩ := hdec f' hc
  exact onFirstFrameFd_of_decodeFf_take rxId buf bufSize outLen rCfg data hbase htype hok hfit

theorem transferred_fd (hmed : Delivers med) (hpos : 1 ≤ data.length)
    (hmax : data.length ≤ 0xFFFFFFFF) (hs : sCfg.timeoutMs ≠ 0) (hr : rCfg.timeoutMs ≠ 0)
    (hfit : data.length ≤ bufSize) :
    Inevitable (Patient med UdsCanError.errTimeout) (Transferred data)
      (Net.start (udsTpSendFd txId data sCfg) (udsTpRecvFd rxId buf bufSize outLen rCfg)) := by
  by_cases hsingle : data.length ≤ 62
  · exact transferred_fd_single hmed hpos hsingle hs hr hfit
  · exact transferred_fd_multi hmed (by omega) hmax hs hr hfit

end Transfer

/-- Every PDU arrives over a bus that loses nothing, whatever the receiver's
block size, and also when frames are lengthened on the way; no deadline passes while
the sender makes a pause. -/
theorem udsTpSendFd_udsTpRecvFd (txId rxId : UInt32) (data : List UInt8)
    (sCfg rCfg : UdsTpConfig) (buf : Mem UInt8) (bufSize outLen : Nat)
    (hpos : 1 ≤ data.length) (hmax : data.length ≤ 2 ^ 32 - 1) (hs : sCfg.timeoutMs ≠ 0)
    (hr : rCfg.timeoutMs ≠ 0) (hfit : data.length ≤ bufSize) :
    Inevitable (Patient (Medium.lossless CanFdFrame) UdsCanError.errTimeout) (Transferred data)
      (Net.start (udsTpSendFd txId data sCfg) (udsTpRecvFd rxId buf bufSize outLen rCfg)) ∧
    ∀ med : Medium CanFdFrame, PadsOnly med →
      Inevitable (Patient med UdsCanError.errTimeout) (Transferred data)
        (Net.start (udsTpSendFd txId data sCfg)
          (udsTpRecvFd rxId buf bufSize outLen rCfg)) :=
  ⟨transferred_fd delivers_lossless hpos hmax hs hr hfit,
    fun _ hmed => transferred_fd hmed.delivers hpos hmax hs hr hfit⟩

theorem udsTpSendFd_udsTpRecvFd_hundred :
    Inevitable (Patient (Medium.lossless CanFdFrame) UdsCanError.errTimeout)
      (Transferred (List.replicate 100 0x55))
      (Net.start (udsTpSendFd 0x7E0 (List.replicate 100 0x55) ⟨1000, 0, 0⟩)
        (udsTpRecvFd 0x7E8 (fun _ => 0) 100 0 ⟨1000, 1, 5⟩)) ∧
    ∀ med : Medium CanFdFrame, PadsOnly med →
      Inevitable (Patient med UdsCanError.errTimeout) (Transferred (List.replicate 100 0x55))
        (Net.start (udsTpSendFd 0x7E0 (List.replicate 100 0x55) ⟨1000, 0, 0⟩)
          (udsTpRecvFd 0x7E8 (fun _ => 0) 100 0 ⟨1000, 1, 5⟩)) :=
  udsTpSendFd_udsTpRecvFd 0x7E0 0x7E8 (List.replicate 100 0x55) ⟨1000, 0, 0⟩ ⟨1000, 1, 5⟩
    (fun _ => 0) 100 0 (by decide) (by decide) (by decide) (by decide) (by decide)

end Uds.Tp
