import Uds.Tp.FirstFrames
/-!
# What `uds_tp_recv_fd` accepts

A call returns a PDU on exactly the complete transfers that start with a first frame it
admits, the PDU is theirs, and the call has then read their frames and sent their Flow
Control, and nothing else.  Whatever it reads, it writes within the buffer.
-/

namespace Uds.Tp

open Uds.Base Uds.Can

variable {cap : Nat}

/-! ## Traffic -/

section Traffic

variable (fmt : LinkFormat cap) (txId : UInt32) (cfg : UdsTpConfig) (bufSize outLen : Nat)

/-- The frames that a successful call exchanges after the first one, and what no call
touches. -/
structure Traffic (L : PduLayout) (buf : Mem UInt8)
    (run : List (Event (Frame cap) UdsCanError) × UdsTpRecvResult) : Prop where
  reads : run.2.rc = .ok → recvCount run.1 = fmt.cfCount L.embed L.len
  flow : run.2.rc = .ok →
    offered run.1 = List.replicate L.flows (flowControlFrame fmt txId cfg)
  beyond : ∀ a, bufSize ≤ a → run.2.buf a = buf a
  outLen_of_ne : run.2.rc ≠ .ok → run.2.outLen = outLen

variable {fmt txId cfg bufSize outLen} {buf : Mem UInt8}
  {ins : Nat → Except UdsCanError (Frame cap)} {outs : Nat → Except UdsCanError Unit}
  {header embed len : Nat}

theorem traffic_ret {L : PduLayout} {bytes : List UInt8} {rc : UdsTpError} {out : Nat}
    (hfit : bytes.length ≤ bufSize) (hcount : rc = .ok → fmt.cfCount L.embed L.len = 0)
    (hflows : rc = .ok → L.flows = 0) (hout : rc ≠ .ok → out = outLen) :
    Traffic fmt txId cfg bufSize outLen L buf ([], ⟨rc, buf.store 0 bytes, out⟩) where
  reads := fun hok => (hcount hok).symm
  flow := fun hok => by rw [hflows hok]; rfl
  beyond := fun a ha => Mem.store_of_ge buf 0 bytes (by omega)
  outLen_of_ne := hout

theorem traffic_of_complete (hle : len ≤ embed) :
    Traffic fmt txId cfg bufSize outLen ⟨header, embed, len, 1⟩ buf
      ((recvMulti fmt txId cfg bufSize len outLen embed buf).exec ins outs) := by
  have hcount : fmt.cfCount embed len = 0 := (fmt.cfCount_eq_zero embed len).mpr hle
  rw [recvMulti, encodeFc_cts, sendFrame, recvLoop_of_le _ _ hle, Proc.exec_send]
  cases hout : outs 0 with
  | ok u => exact ⟨fun _ => hcount.symm, fun _ => rfl, fun _ _ => rfl, fun hne => absurd rfl hne⟩
  | error e =>
      have hrc : UdsTpError.errSend ≠ .ok := by decide
      exact ⟨fun hok => absurd hok hrc, fun hok => absurd hok hrc, fun _ _ => rfl, fun _ => rfl⟩

theorem traffic_multi (hfit : len ≤ bufSize) :
    Traffic fmt txId cfg bufSize outLen
      ⟨header, embed, len, refills cfg.blockSize.toNat 0 (fmt.cfCount embed len) + 1⟩ buf
      ((recvMulti fmt txId cfg bufSize len outLen embed buf).exec ins outs) := by
  by_cases hle : len ≤ embed
  · have hcount : fmt.cfCount embed len = 0 := (fmt.cfCount_eq_zero embed len).mpr hle
    rw [hcount, refills_zero (fun _ => Nat.zero_le _)]
    exact traffic_of_complete hle
  · have hrun : Received fmt txId cfg bufSize len outLen embed 1 (fmt.cfCount embed len)
        (refills cfg.blockSize.toNat 0 (fmt.cfCount embed len) + 1) buf ins outs
        ((recvMulti fmt txId cfg bufSize len outLen embed buf).exec ins outs) := by
      rw [recvMulti]
      refine received_of_flowControl _ fun outs => ?_
      exact recvLoop_received (k := 1) 0 rfl (by omega) hfit (fun _ => Nat.zero_le _)
    exact ⟨hrun.reads, hrun.flow, hrun.beyond, hrun.outLen_of_ne⟩

theorem Traffic.of_store {L : PduLayout} {bytes : List UInt8}
    {run : List (Event (Frame cap) UdsCanError) × UdsTpRecvResult}
    (h : Traffic fmt txId cfg bufSize outLen L (buf.store 0 bytes) run)
    (hfit : bytes.length ≤ bufSize) : Traffic fmt txId cfg bufSize outLen L buf run where
  reads := h.reads
  flow := h.flow
  beyond := fun a ha => by rw [h.beyond a ha, Mem.store_of_ge buf 0 bytes (by omega)]
  outLen_of_ne := h.outLen_of_ne

end Traffic

/-! ## The first frame -/

section FirstFrame

variable {txId : UInt32} {buf : Mem UInt8} {bufSize outLen : Nat} {cfg : UdsTpConfig}
  {ins : Nat → Except UdsCanError CanFdFrame} {outs : Nat → Except UdsCanError Unit}

theorem AdmitsFfFd.embed_le {f : CanFdFrame} {header embed len : Nat}
    (h : AdmitsFfFd bufSize f header embed len) : embed ≤ bufSize := by
  cases h with
  | regular => omega
  | extended => assumption

theorem traffic_onFirstFrameFd {f : CanFdFrame} {L : PduLayout} (h : FdLayout bufSize cfg f L) :
    Traffic canFd txId cfg bufSize outLen L buf
      ((onFirstFrameFd txId buf bufSize outLen cfg f).exec ins outs) := by
  have hlength := firstFrames_fd.length_slice h
  cases h with
  | @single header n hsf =>
      have hfit : n ≤ bufSize := by cases hsf <;> assumption
      obtain ⟨htype, hdec⟩ := decodeSfFd_of_admits hsf
      rw [onFirstFrameFd_of_decodeSf txId buf bufSize outLen cfg htype hdec, Proc.exec_ret]
      exact traffic_ret (hlength.le.trans hfit)
        (fun _ => (canFd.cfCount_eq_zero n n).mpr le_rfl) (fun _ => rfl) (fun hne => absurd rfl hne)
  | @multi header embed len hff =>
      have hfit : len ≤ bufSize := by cases hff <;> assumption
      obtain ⟨htype, hdec⟩ := decodeFfFd_of_admits hff
      rw [onFirstFrameFd_of_decodeFf txId buf bufSize outLen cfg htype hdec hfit, hlength]
      exact (traffic_multi hfit).of_store (hlength.le.trans hff.embed_le)

theorem length_of_decodeFfFd {f : CanFdFrame} {len : Nat} {content : List UInt8}
    (h : udsTpDecodeFfFd f bufSize = .ok (len, content)) : content.length ≤ bufSize := by
  have hslice (i n : Nat) : (f.slice i n).length ≤ n := List.length_take_le n _
  unfold udsTpDecodeFfFd at h
  split at h
  · cases h
  · split at h
    · split at h
      · cases h
      · dsimp only at h
        split at h
        · cases h
        · split at h
          · cases h
          · obtain ⟨-, rfl⟩ := Prod.mk.inj (Except.ok.inj h)
            exact (hslice 6 _).trans (by omega)
    · dsimp only at h
      split at h
      · cases h
      · split at h
        · cases h
        · obtain ⟨-, rfl⟩ := Prod.mk.inj (Except.ok.inj h)
          exact (hslice 2 _).trans (by omega)

variable (txId buf outLen) in
theorem onFirstFrameFd_other (hbuf : bufSize ≠ 0) {f : CanFdFrame}
    (h : ∀ L, ¬FdLayout bufSize cfg f L) : ∃ rc bytes, rc ≠ .ok ∧ bytes.length ≤ bufSize ∧
      onFirstFrameFd txId buf bufSize outLen cfg f = .ret ⟨rc, buf.store 0 bytes, outLen⟩ := by
  have hnone : buf.store 0 [] = buf := Mem.store_nil buf 0
  unfold onFirstFrameFd
  cases htype : udsTpFrameTypeFd f with
  | sf =>
      cases hdec : udsTpDecodeSfFd f bufSize with
      | error rc =>
          refine ⟨rc, [], ?_, Nat.zero_le _, by rw [hnone]⟩
          rintro rfl
          exact udsTpDecodeSfFd_error f bufSize hdec
      | ok p =>
          obtain ⟨header, n, hsf⟩ := admits_of_decodeSfFd hbuf htype hdec
          exact absurd (.single hsf) (h _)
  | ff =>
      cases hdec : udsTpDecodeFfFd f bufSize with
      | error rc =>
          refine ⟨rc, [], ?_, Nat.zero_le _, by rw [hnone]⟩
          rintro rfl
          exact udsTpDecodeFfFd_error f bufSize hdec
      | ok out =>
          by_cases hfit : out.1 > bufSize
          · refine ⟨.errBufFull, out.2, by decide, length_of_decodeFfFd hdec, ?_⟩
            simp only [if_pos hfit]
          · obtain ⟨header, embed, hff⟩ := admits_of_decodeFfFd htype hdec (by omega)
            exact absurd (.multi hff) (h _)
  | cf | fc | unknown => exact ⟨.errFrameType, [], by decide, Nat.zero_le _, by rw [hnone]⟩

end FirstFrame

/-! ## The call -/

/-- The whole behaviour of a call of `uds_tp_recv_fd`: `buf` is the buffer at entry and
`run` what the call did. -/
structure RecvSpecFd (txId : UInt32) (buf : Mem UInt8) (bufSize outLen : Nat)
    (cfg : UdsTpConfig) (ins : Nat → Except UdsCanError CanFdFrame)
    (outs : Nat → Except UdsCanError Unit)
    (run : List (Event CanFdFrame UdsCanError) × UdsTpRecvResult) : Prop where
  accepts_iff : ∀ p, (run.2.rc = .ok ∧ run.2.outLen = p.length ∧
    run.2.buf.load 0 p.length = p) ↔
      ∃ f L, Reassembly canFd (FdLayout bufSize cfg) ins outs f L ∧ p = reassembled canFd ins f L
  traffic : ∀ f L, ins 0 = .ok f → FdLayout bufSize cfg f L → run.2.rc = .ok →
    recvCount run.1 = canFd.cfCount L.embed L.len + 1 ∧
    offered run.1 = List.replicate L.flows (flowControlFrame canFd txId cfg)
  beyond : ∀ a, bufSize ≤ a → run.2.buf a = buf a
  outLen_unchanged : run.2.rc ≠ .ok → run.2.outLen = outLen

section Recv

variable {txId : UInt32} {buf : Mem UInt8} {bufSize outLen : Nat} {cfg : UdsTpConfig}
  {ins : Nat → Except UdsCanError CanFdFrame} {outs : Nat → Except UdsCanError Unit}

theorem not_fdLayout_zero {f : CanFdFrame} {L : PduLayout} : ¬FdLayout 0 cfg f L := by
  intro h
  cases h with
  | single h => cases h <;> omega
  | multi h => cases h <;> omega

theorem recvFd_accepts_iff (hbuf : bufSize ≠ 0) (hcfg : cfg.timeoutMs ≠ 0) (p : List UInt8) :
    (((udsTpRecvFd txId buf bufSize outLen cfg).exec ins outs).2.rc = .ok ∧
      ((udsTpRecvFd txId buf bufSize outLen cfg).exec ins outs).2.outLen = p.length ∧
      ((udsTpRecvFd txId buf bufSize outLen cfg).exec ins outs).2.buf.load 0 p.length = p) ↔
    ∃ f L, Reassembly canFd (FdLayout bufSize cfg) ins outs f L ∧
      p = reassembled canFd ins f L := by
  have hre : Reassembles canFd (FdLayout bufSize cfg) outs
      (fun ins => ((udsTpRecvFd txId buf bufSize outLen cfg).exec ins outs).2) :=
    udsTpRecvFd_reassembles cfg hcfg hbuf
  constructor
  · rintro ⟨hok, hlen, hload⟩
    obtain ⟨f, L, h⟩ := (hre.ok_iff ins).mp hok
    refine ⟨f, L, h, ?_⟩
    rw [← hre.pdu_eq h, UdsTpRecvResult.pdu, hlen, hload]
  · rintro ⟨f, L, h, rfl⟩
    have hpdu := hre.pdu_eq h
    have hlen : ((udsTpRecvFd txId buf bufSize outLen cfg).exec ins outs).2.outLen =
        (reassembled canFd ins f L).length := by
      rw [← hpdu, UdsTpRecvResult.pdu, Mem.length_load]
    refine ⟨(hre.ok_iff ins).mpr ⟨f, L, h⟩, hlen, ?_⟩
    rw [← hlen]
    exact hpdu

variable (txId buf outLen ins outs) in
theorem udsTpRecvFd_exec (hbuf : bufSize ≠ 0) (hcfg : cfg.timeoutMs ≠ 0) :
    (udsTpRecvFd txId buf bufSize outLen cfg).exec ins outs =
      let rest := (onRecv (⟨·, buf, outLen⟩) (onFirstFrameFd txId buf bufSize outLen cfg)
        (ins 0)).exec (fun j => ins (j + 1)) outs
      (.recvd (ins 0) :: rest.1, rest.2) := by
  rw [udsTpRecvFd, if_neg hbuf, if_neg hcfg]
  rfl

theorem recvSpecFd_of_fail (rc : UdsTpError) (bytes : List UInt8) (hbuf : bufSize ≠ 0)
    (hcfg : cfg.timeoutMs ≠ 0) (hrc : rc ≠ .ok) (hfit : bytes.length ≤ bufSize)
    (h : onRecv (⟨·, buf, outLen⟩) (onFirstFrameFd txId buf bufSize outLen cfg) (ins 0) =
      .ret ⟨rc, buf.store 0 bytes, outLen⟩) :
    RecvSpecFd txId buf bufSize outLen cfg ins outs
      ((udsTpRecvFd txId buf bufSize outLen cfg).exec ins outs) := by
  have hrun := udsTpRecvFd_exec txId buf outLen ins outs hbuf hcfg
  rw [h] at hrun
  refine ⟨recvFd_accepts_iff hbuf hcfg, ?_, ?_, ?_⟩
  · intro f L _ _ hok
    rw [hrun] at hok
    exact absurd hok hrc
  · intro a ha
    rw [hrun]
    exact Mem.store_of_ge buf 0 bytes (by omega)
  · intro _
    rw [hrun]
    rfl

theorem recvSpecFd_of_layout (hbuf : bufSize ≠ 0) (hcfg : cfg.timeoutMs ≠ 0) {f : CanFdFrame}
    {L : PduLayout} (hin : ins 0 = .ok f) (hL : FdLayout bufSize cfg f L) :
    RecvSpecFd txId buf bufSize outLen cfg ins outs
      ((udsTpRecvFd txId buf bufSize outLen cfg).exec ins outs) := by
  have hrun := udsTpRecvFd_exec txId buf outLen ins outs hbuf hcfg
  have htraffic : Traffic canFd txId cfg bufSize outLen L buf
      ((onFirstFrameFd txId buf bufSize outLen cfg f).exec (fun j => ins (j + 1)) outs) :=
    traffic_onFirstFrameFd hL
  rw [hin] at hrun
  refine ⟨recvFd_accepts_iff hbuf hcfg, ?_, ?_, ?_⟩
  · intro f' L' hin' hL' hok
    obtain rfl : f = f' := Except.ok.inj (hin.symm.trans hin')
    obtain rfl := hL.unique hL'
    rw [hrun] at hok ⊢
    refine ⟨?_, htraffic.flow hok⟩
    rw [recvCount_cons_recvd]
    exact congrArg (· + 1) (htraffic.reads hok)
  · rw [hrun]
    exact htraffic.beyond
  · rw [hrun]
    exact htraffic.outLen_of_ne

/-- A call with a buffer and a timeout. -/
theorem recvSpecFd_of_ne_zero (hbuf : bufSize ≠ 0) (hcfg : cfg.timeoutMs ≠ 0) :
    RecvSpecFd txId buf bufSize outLen cfg ins outs
      ((udsTpRecvFd txId buf bufSize outLen cfg).exec ins outs) := by
  cases hin : ins 0 with
  | error e =>
      have hnone : buf.store 0 [] = buf := Mem.store_nil buf 0
      cases e with
      | errTimeout =>
          refine recvSpecFd_of_fail .errTimeout [] hbuf hcfg (by decide) (Nat.zero_le _) ?_
          rw [hin, hnone]
          rfl
      | _ =>
          refine recvSpecFd_of_fail .errRecv [] hbuf hcfg (by decide) (Nat.zero_le _) ?_
          rw [hin, hnone]
          rfl
  | ok f =>
      by_cases hL : ∃ L, FdLayout bufSize cfg f L
      · obtain ⟨L, hL⟩ := hL
        exact recvSpecFd_of_layout hbuf hcfg hin hL
      · obtain ⟨rc, bytes, hrc, hfit, hret⟩ :=
          onFirstFrameFd_other txId buf outLen hbuf fun L h => hL ⟨L, h⟩
        refine recvSpecFd_of_fail rc bytes hbuf hcfg hrc hfit ?_
        rw [hin]
        exact hret

end Recv

/-- What `uds_tp_recv_fd` does on any answers of the bus. -/
theorem udsTpRecvFd_spec (txId : UInt32) (buf : Mem UInt8) (bufSize outLen : Nat)
    (cfg : UdsTpConfig) (ins : Nat → Except UdsCanError CanFdFrame)
    (outs : Nat → Except UdsCanError Unit) (hcfg : cfg.timeoutMs ≠ 0) :
    RecvSpecFd txId buf bufSize outLen cfg ins outs
      ((udsTpRecvFd txId buf bufSize outLen cfg).exec ins outs) := by
  by_cases hbuf : bufSize = 0
  · subst hbuf
    rw [udsTpRecvFd, if_pos rfl, Proc.exec_ret]
    have hrc : UdsTpError.errParam ≠ .ok := by decide
    refine ⟨fun p => iff_of_false (fun h => hrc h.1) ?_, fun _ _ _ _ h => absurd h hrc,
      fun _ _ => rfl, fun _ => rfl⟩
    rintro ⟨f, L, h, -⟩
    exact not_fdLayout_zero h.lays
  · exact recvSpecFd_of_ne_zero hbuf hcfg

/-- A First Frame with the 32-bit form that declares one byte, which it holds. -/
theorem udsTpRecvFd_spec_oneByte :
    RecvSpecFd 0x7E8 (fun _ => 0) 4095 0 ⟨1000, 0, 0⟩
      (fun _ => .ok (.ofBytes 0x7E0 8 (by decide) [0x10, 0, 0, 0, 0, 1, 0x3E, 0]))
      (fun _ => .ok ())
      ((udsTpRecvFd 0x7E8 (fun _ => 0) 4095 0 ⟨1000, 0, 0⟩).exec
        (fun _ => .ok (.ofBytes 0x7E0 8 (by decide) [0x10, 0, 0, 0, 0, 1, 0x3E, 0]))
        (fun _ => .ok ())) :=
  udsTpRecvFd_spec 0x7E8 (fun _ => 0) 4095 0 ⟨1000, 0, 0⟩ _ _ (by decide)

end Uds.Tp
