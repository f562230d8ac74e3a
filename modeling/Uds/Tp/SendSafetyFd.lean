import Uds.Tp.EndToEndFd
import Uds.Tp.SendSafety
/-!
# What `uds_tp_send_fd` can transmit

The four kinds of first frames are one: a header that tells the length, and as much of the
PDU as the frame takes behind it.  A PDU in a Single Frame is a segmentation without
Consecutive Frames, so one statement covers every length, and the invariants of the loop
that hold for classic CAN give the rest.
-/

namespace Uds.Tp

open Uds.Base Uds.Can

/-! ## The segmentation of CAN FD -/

/-- Protocol control information in front of a PDU of `n` bytes. -/
def fdHeader (n : Nat) : List UInt8 :=
  if n ≤ 7 then [UInt8.ofNat n]
  else if n ≤ 62 then [0x00, UInt8.ofNat n]
  else if n ≤ 4095 then [UInt8.ofNat (0x10 + n / 256), UInt8.ofNat (n % 256)]
  else [0x10, 0x00, UInt8.ofNat (n / 16777216 % 256), UInt8.ofNat (n / 65536 % 256),
    UInt8.ofNat (n / 256 % 256), UInt8.ofNat (n % 256)]

/-- How many bytes of a PDU of `n` bytes are in the first frame. -/
def fdEmbedded (n : Nat) : Nat := if n ≤ 62 then n else if n ≤ 4095 then 62 else 58

/-- The Single Frame or First Frame of a PDU. -/
def fdFirstFrame (txId : UInt32) (data : List UInt8) : CanFdFrame :=
  .ofBytes txId (min 64 ((fdHeader data.length).length + fdEmbedded data.length))
    (min_le_left 64 _) (fdHeader data.length ++ data.take (fdEmbedded data.length))

/-- The frames of a PDU. -/
def fdSegmentation (txId : UInt32) (data : List UInt8) : List CanFdFrame :=
  segmentation canFd txId data (fdEmbedded data.length) (fdFirstFrame txId data)

theorem fdEmbedded_le (n : Nat) : fdEmbedded n ≤ n := by
  unfold fdEmbedded
  split
  · exact le_rfl
  · split <;> omega

theorem length_fdHeader (n : Nat) :
    (fdHeader n).length = if n ≤ 7 then 1 else if n ≤ 4095 then 2 else 6 := by
  unfold fdHeader
  split
  · rfl
  · split
    · rw [if_pos (by omega)]
      rfl
    · split <;> rfl

theorem fdHeader_add_fdEmbedded_le (n : Nat) : (fdHeader n).length + fdEmbedded n ≤ 64 := by
  rw [length_fdHeader]
  unfold fdEmbedded
  split_ifs <;> omega

section FirstFrame

variable (txId : UInt32) {data : List UInt8}

theorem length_fdFirstFrame_bytes :
    (fdHeader data.length ++ data.take (fdEmbedded data.length)).length =
      (fdHeader data.length).length + fdEmbedded data.length := by
  have hle := fdEmbedded_le data.length
  rw [List.length_append, List.length_take, Nat.min_eq_left hle]

theorem zeroTail_fdFirstFrame : (fdFirstFrame txId data).ZeroTail := by
  apply Frame.zeroTail_ofBytes
  have hle := fdHeader_add_fdEmbedded_le data.length
  rw [length_fdFirstFrame_bytes]
  omega

theorem fdFirstFrame_eq {len : Nat} {h : len ≤ 64} {bytes : List UInt8}
    (hlen : (fdHeader data.length).length + fdEmbedded data.length = len)
    (hbytes : fdHeader data.length ++ data.take (fdEmbedded data.length) = bytes) :
    fdFirstFrame txId data = .ofBytes txId len h bytes := by
  subst hlen hbytes
  unfold fdFirstFrame
  congr 1
  exact Nat.min_eq_right h

theorem udsTpEncodeSfFd_eq (hpos : 1 ≤ data.length) (hle : data.length ≤ 62) :
    udsTpEncodeSfFd txId data = .ok (fdFirstFrame txId data) := by
  have hembed : fdEmbedded data.length = data.length := if_pos hle
  by_cases hshort : data.length ≤ 7
  · have hheader : fdHeader data.length = [UInt8.ofNat data.length] := if_pos hshort
    rw [udsTpEncodeSfFd_short txId data hpos hshort]
    congr 1
    refine (fdFirstFrame_eq txId ?_ ?_).symm
    · rw [hheader, hembed, List.length_singleton]
    · rw [hheader, hembed, List.take_length]
      rfl
  · have hheader : fdHeader data.length = [0x00, UInt8.ofNat data.length] := by
      rw [fdHeader, if_neg hshort, if_pos hle]
    rw [udsTpEncodeSfFd_escape txId data (by omega) hle]
    congr 1
    refine (fdFirstFrame_eq txId ?_ ?_).symm
    · rw [hheader, hembed]
      rfl
    · rw [hheader, hembed, List.take_length]

theorem udsTpEncodeFfFd_eq (hgt : 62 < data.length) :
    udsTpEncodeFfFd txId data data.length = .ok (fdFirstFrame txId data) := by
  by_cases hregular : data.length ≤ 4095
  · have hheader : fdHeader data.length =
        [UInt8.ofNat (0x10 + data.length / 256), UInt8.ofNat (data.length % 256)] := by
      rw [fdHeader, if_neg (by omega), if_neg (by omega), if_pos hregular]
    have hembed : fdEmbedded data.length = 62 := by
      rw [fdEmbedded, if_neg (by omega), if_pos hregular]
    rw [udsTpEncodeFfFd_regular txId data hgt hregular]
    congr 1
    refine (fdFirstFrame_eq txId ?_ ?_).symm
    · rw [hheader, hembed]
      rfl
    · rw [hheader, hembed]
  · have hheader : fdHeader data.length = [0x10, 0x00, UInt8.ofNat (data.length / 16777216 % 256),
        UInt8.ofNat (data.length / 65536 % 256), UInt8.ofNat (data.length / 256 % 256),
        UInt8.ofNat (data.length % 256)] := by
      rw [fdHeader, if_neg (by omega), if_neg (by omega), if_neg hregular]
    have hembed : fdEmbedded data.length = 58 := by
      rw [fdEmbedded, if_neg (by omega), if_neg hregular]
    rw [udsTpEncodeFfFd_extended txId data (by omega)]
    congr 1
    refine (fdFirstFrame_eq txId ?_ ?_).symm
    · rw [hheader, hembed]
      rfl
    · rw [hheader, hembed]

/-- One shape for both paths: after a Single Frame the loop has nothing to do. -/
theorem udsTpSendFd_eq {cfg : UdsTpConfig} (hpos : 1 ≤ data.length)
    (hmax : data.length ≤ 0xFFFFFFFF) (hcfg : cfg.timeoutMs ≠ 0) :
    udsTpSendFd txId data cfg = sendFrame id (.ok (fdFirstFrame txId data))
      (sendLoop canFd txId data (fdEmbedded data.length) 1) := by
  by_cases hsingle : data.length ≤ 62
  · have hembed : fdEmbedded data.length = data.length := if_pos hsingle
    have hdone : sendLoop canFd txId data data.length 1 = .ret .ok := by
      rw [sendLoop, dif_neg (Nat.lt_irrefl _)]
    rw [udsTpSendFd_single hpos hsingle hcfg, udsTpEncodeSfFd_eq txId hpos hsingle, hembed, hdone]
  · have hembed : fdEmbedded data.length = if data.length ≤ 4095 then 62 else 58 :=
      if_neg hsingle
    rw [udsTpSendFd_multi (by omega) hmax hcfg, udsTpEncodeFfFd_eq txId (by omega), hembed]

end FirstFrame

/-! ## `uds_tp_send_fd` -/

/-- The behaviour of a completed call of `uds_tp_send_fd` that made the accesses `tr` to the
bus and returned `rc`. -/
structure SafeSendFd (txId : UInt32) (data : List UInt8)
    (tr : List (Event CanFdFrame UdsCanError)) (rc : UdsTpError) : Prop where
  /-- what it tried to transmit, and what it transmitted -/
  offered_prefix : offered tr <+: fdSegmentation txId data
  accepted_prefix : accepted tr <+: fdSegmentation txId data
  /-- after a CTS with a block size, that many frames at most before the next read -/
  block_le : ∀ pre fc bs stmin mid post,
    tr = pre ++ .recvd (.ok fc) :: (mid ++ post) → udsTpDecodeFcFd fc = .ok (.cts, bs, stmin) →
    0 < bs.toNat → (∀ e ∈ mid, e.isSent = true) → mid.length ≤ bs.toNat
  ok_iff : rc = .ok ↔ accepted tr = fdSegmentation txId data
  waitLimit_iff : rc = .errWaitLimit ↔
    ∃ pre mid post, tr = pre ++ mid ++ post ∧ mid.length = 11 ∧ ∀ e ∈ mid, isWait e = true
  /-- reads with no transmission in between, failed reads included -/
  reads_block_le : ∀ pre mid post, tr = pre ++ mid ++ post →
    (∀ e ∈ mid, e.isRecvd = true) → mid.length ≤ 11
  reads_le : recvCount tr ≤ 11 * canFd.cfCount (fdEmbedded data.length) data.length

section Send

variable {txId : UInt32} {data : List UInt8} {tr : List (Event CanFdFrame UdsCanError)}
  {rc : UdsTpError}

theorem SafeSendFd.of_unread (hshort : tr.length ≤ 1) (hunread : recvCount tr = 0)
    (hoffered : offered tr <+: fdSegmentation txId data)
    (haccepted : accepted tr <+: fdSegmentation txId data)
    (hok : rc = .ok ↔ accepted tr = fdSegmentation txId data) (hlimit : rc ≠ .errWaitLimit) :
    SafeSendFd txId data tr rc where
  offered_prefix := hoffered
  accepted_prefix := haccepted
  block_le := by
    intro pre fc bs stmin mid post htr
    rw [htr, recvCount, List.countP_append, List.countP_cons_of_pos rfl] at hunread
    omega
  ok_iff := hok
  waitLimit_iff := by
    refine ⟨fun h => absurd h hlimit, ?_⟩
    rintro ⟨pre, mid, post, htr, hlen, -⟩
    have hlength := congrArg List.length htr
    rw [List.length_append, List.length_append] at hlength
    omega
  reads_block_le := by
    intro pre mid post htr _
    have hlength := congrArg List.length htr
    rw [List.length_append, List.length_append] at hlength
    omega
  reads_le := by
    rw [hunread]
    exact Nat.zero_le _

theorem SafeSendFd.refused (hok : rc ≠ .ok) (hlimit : rc ≠ .errWaitLimit) :
    SafeSendFd txId data [] rc :=
  .of_unread (Nat.zero_le 1) rfl List.nil_prefix List.nil_prefix
    ⟨fun h => absurd h hok, fun h => by cases h⟩ hlimit

theorem fdSegmentation_single (hle : data.length ≤ 62) :
    fdSegmentation txId data = [fdFirstFrame txId data] := by
  have hembed : fdEmbedded data.length = data.length := if_pos hle
  have hcount : canFd.cfCount (fdEmbedded data.length) data.length = 0 :=
    (canFd.cfCount_eq_zero _ _).mpr (by rw [hembed])
  rw [fdSegmentation, segmentation, hcount]
  rfl

theorem safeSendFd_single (hle : data.length ≤ 62)
    (ins : Nat → Except UdsCanError CanFdFrame) (outs : Nat → Except UdsCanError Unit) :
    SafeSendFd txId data
      ((sendFrame id (.ok (fdFirstFrame txId data)) (.ret .ok)).exec ins outs).1
      ((sendFrame id (.ok (fdFirstFrame txId data)) (.ret .ok)).exec ins outs).2 := by
  have hseg : fdSegmentation txId data = [fdFirstFrame txId data] := fdSegmentation_single hle
  have hoffered : [fdFirstFrame txId data] <+: fdSegmentation txId data := by rw [hseg]
  rw [sendFrame, Proc.exec_send]
  cases outs 0 with
  | ok u =>
      have hlimit : UdsTpError.ok ≠ .errWaitLimit := by decide
      exact .of_unread le_rfl rfl hoffered hoffered (iff_of_true rfl hseg.symm) hlimit
  | error e =>
      have hlimit : UdsTpError.errSend ≠ .errWaitLimit := by decide
      have hok : UdsTpError.errSend ≠ .ok := by decide
      refine .of_unread le_rfl rfl hoffered List.nil_prefix ?_ hlimit
      rw [hseg]
      exact iff_of_false hok (List.cons_ne_nil _ _).symm

theorem safeSendFd_of_steps (hgt : 62 < data.length)
    (hrun : Steps (sendFrame id (.ok (fdFirstFrame txId data))
      (sendLoop canFd txId data (fdEmbedded data.length) 1)) tr (.ret rc)) :
    SafeSendFd txId data tr rc := by
  have hmore : 0 < canFd.cfCount (fdEmbedded data.length) data.length := by
    rw [LinkFormat.lt_cfCount_iff, LinkFormat.offset_zero, fdEmbedded, if_neg (by omega)]
    split <;> omega
  have hinv {tr : List (Event CanFdFrame UdsCanError)} {q : SendProc 64} (h : Steps
      (sendFrame id (.ok (fdFirstFrame txId data))
        (sendLoop canFd txId data (fdEmbedded data.length) 1)) tr q) :=
    sendInv_of_steps canFd txId data (fdEmbedded data.length) _ hmore h
  obtain ⟨pt, hpt, hv, hI⟩ := hinv hrun
  obtain rfl := SendPoint.eq_done canFd txId data _ _ hv hpt
  refine ⟨hI.offered_prefix, hI.accepted_prefix, ?_, hI.ok_iff, ⟨?_, ?_⟩, ?_, hI.budget.1⟩
  · intro pre fc bs stmin mid post htr hfc hbs hmid
    rw [htr, ← List.cons_append, ← List.append_assoc] at hrun
    obtain ⟨q, hq, -⟩ := hrun.of_append
    obtain ⟨pt, -, hv, hI⟩ := hinv hq
    obtain ⟨htrail, hlast⟩ := trail_append_cons pre (isSent_recvd _) hmid
    rw [← htrail]
    exact hI.block.bound canFd data _ hv fc bs stmin hlast hfc hbs
  · intro hrc
    have hwaits := ((hI.wait_bound hv).2).mpr (by rw [hrc])
    obtain ⟨pre, mid, htr, hlen, hmid⟩ := exists_trail isWait tr
    exact ⟨pre, mid, [], by simpa using htr, by omega, hmid⟩
  · rintro ⟨pre, mid, post, htr, hlen, hmid⟩
    rw [htr] at hrun
    obtain ⟨q, hq, hrest⟩ := hrun.of_append
    obtain ⟨pt, hpt, hv, hI⟩ := hinv hq
    have hle := length_le_trail pre hmid
    have hbound := hI.wait_bound hv
    obtain rfl := hbound.2.mp (by omega)
    rw [hpt] at hrest
    exact Proc.ret.inj (Steps.eq_nil_of_ret hrest).2
  · intro pre mid post htr hmid
    rw [htr] at hrun
    obtain ⟨q, hq, -⟩ := hrun.of_append
    obtain ⟨pt, -, hv, hI⟩ := hinv hq
    exact (length_le_trail pre hmid).trans (hI.reads_bound hv)

end Send

/-- Whatever it reads and whichever sends fail, `uds_tp_send_fd` transmits an initial part
of the segmentation within its bounds, and all of it exactly if it reports success. -/
theorem udsTpSendFd_safe (txId : UInt32) (data : List UInt8) (cfg : UdsTpConfig)
    (ins : Nat → Except UdsCanError CanFdFrame) (outs : Nat → Except UdsCanError Unit) :
    SafeSendFd txId data ((udsTpSendFd txId data cfg).exec ins outs).1
      ((udsTpSendFd txId data cfg).exec ins outs).2 := by
  by_cases hempty : data.length = 0
  · rw [udsTpSendFd, if_pos hempty, Proc.exec_ret]
    exact .refused (by decide) (by decide)
  by_cases hcfg : cfg.timeoutMs = 0
  · rw [udsTpSendFd, if_neg hempty, if_pos hcfg, Proc.exec_ret]
    exact .refused (by decide) (by decide)
  by_cases hsingle : data.length ≤ 62
  · rw [udsTpSendFd_single (by omega) hsingle hcfg, udsTpEncodeSfFd_eq txId (by omega) hsingle]
    exact safeSendFd_single hsingle ins outs
  by_cases hmax : data.length ≤ 0xFFFFFFFF
  · have hrun := Proc.exec_steps ins outs (udsTpSendFd txId data cfg)
    rw [udsTpSendFd_eq txId (by omega) hmax hcfg] at hrun ⊢
    exact safeSendFd_of_steps (by omega) hrun
  · have hlong : ¬data.length ≤ udsTpCanfdSfMaxData := hsingle
    have hpdu : data.length > udsTpCanfdMaxPduLen := Nat.not_le.mp hmax
    rw [udsTpSendFd, if_neg hempty, if_neg hcfg, if_neg hlong, if_pos hpdu, Proc.exec_ret]
    exact .refused (by decide) (by decide)

end Uds.Tp
