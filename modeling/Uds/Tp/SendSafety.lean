import Uds.Tp.Sender
/-!
# The sender against any peer

Three invariants of the sender automaton: what has been transmitted is an
initial part of the segmentation, reads are within the WAIT budget of the
frame waited for, and a block is no longer than the Flow Control that opened it
allows.  Together they bound everything `uds_tp_send` can do whatever it reads.
-/

namespace Uds.Tp

open Uds.Base Uds.Can

variable {cap : Nat}

section Invariants

variable (fmt : LinkFormat cap) (txId : UInt32) (data : List UInt8) (base : Nat)
  (ff : Frame cap)

/-! ## Transmission -/

/-- What has been offered to the bus, and accepted by it, at a program point. -/
def Transmitted (tr : List (Event (Frame cap) UdsCanError)) : SendPoint → Prop
  | .start => accepted tr = [] ∧ offered tr = []
  | .await i _ | .burst i _ _ =>
    accepted tr = (segmentation fmt txId data base ff).take (i + 1) ∧
      offered tr = (segmentation fmt txId data base ff).take (i + 1)
  | .done rc =>
    (rc = .ok ∧ accepted tr = segmentation fmt txId data base ff ∧
      offered tr = segmentation fmt txId data base ff) ∨
    (rc ≠ .ok ∧ ∃ j k, j < (segmentation fmt txId data base ff).length ∧
      accepted tr = (segmentation fmt txId data base ff).take j ∧
      offered tr = (segmentation fmt txId data base ff).take k)

theorem Transmitted.step {tr : List (Event (Frame cap) UdsCanError)} {pt pt' : SendPoint}
    {e : Event (Frame cap) UdsCanError} (h : Transmitted fmt txId data base ff tr pt)
    (hv : pt.Valid fmt data base) (ht : SendTrans fmt txId data base ff pt e pt') :
    Transmitted fmt txId data base ff (tr ++ [e]) pt' := by
  have hlen := length_segmentation fmt txId data base ff
  cases ht with
  | startFail err =>
      obtain ⟨hacc, hoff⟩ := h
      refine Or.inr ⟨by decide, 0, 1, by omega, ?_, ?_⟩
      · simp [hacc]
      · simp [hoff, segmentation_take_one]
  | startOk =>
      obtain ⟨hacc, hoff⟩ := h
      exact ⟨by simp [hacc, segmentation_take_one], by simp [hoff, segmentation_take_one]⟩
  | abort i w r rc _ hok =>
      obtain ⟨hacc, hoff⟩ := h
      have hi : i < fmt.cfCount base data.length := hv.1
      refine Or.inr ⟨hok, i + 1, i + 1, by omega, ?_, ?_⟩
      · simpa using hacc
      · simpa using hoff
  | cts | wait =>
      obtain ⟨hacc, hoff⟩ := h
      exact ⟨by simpa using hacc, by simpa using hoff⟩
  | waitLimit i w =>
      obtain ⟨hacc, hoff⟩ := h
      have hi : i < fmt.cfCount base data.length := hv.1
      refine Or.inr ⟨by decide, i + 1, i + 1, by omega, ?_, ?_⟩
      · simpa using hacc
      · simpa using hoff
  | frameFail i b bs err =>
      obtain ⟨hacc, hoff⟩ := h
      have hi : i < fmt.cfCount base data.length := hv.1
      have hnext := segmentation_take_succ fmt txId data base ff hi
      refine Or.inr ⟨by decide, i + 1, i + 1 + 1, by omega, ?_, ?_⟩
      · simpa using hacc
      · simpa [hoff] using hnext
  | frameLast i b bs hlast =>
      obtain ⟨hacc, hoff⟩ := h
      have hnext := segmentation_take_succ fmt txId data base ff (i := i) (by omega)
      have hall : (segmentation fmt txId data base ff).take (i + 1 + 1) =
          segmentation fmt txId data base ff := List.take_of_length_le (by omega)
      rw [hall] at hnext
      exact Or.inl ⟨rfl, by simpa [hacc] using hnext, by simpa [hoff] using hnext⟩
  | frameBlockEnd i _ _ _ | frameNext i _ _ _ =>
      obtain ⟨hacc, hoff⟩ := h
      have hnext := segmentation_take_succ fmt txId data base ff (i := i) (by omega)
      exact ⟨by simpa [hacc] using hnext, by simpa [hoff] using hnext⟩

/-! ## The WAIT budget -/

/-- How many reads there have been, in total and since the last transmission. -/
def ReadBudget (tr : List (Event (Frame cap) UdsCanError)) : SendPoint → Prop
  | .start => recvCount tr = 0 ∧ trail Event.isRecvd tr = 0 ∧ trail isWait tr = 0
  | .await i w => recvCount tr ≤ 11 * i + w ∧ trail Event.isRecvd tr = w ∧ trail isWait tr = w
  | .burst i _ _ => recvCount tr ≤ 11 * (i + 1) ∧ trail Event.isRecvd tr ≤ 11 ∧
      trail isWait tr = 0
  | .done rc => recvCount tr ≤ 11 * fmt.cfCount base data.length ∧
      trail Event.isRecvd tr ≤ 11 ∧ trail isWait tr ≤ 11 ∧
      (rc = .errWaitLimit ↔ trail isWait tr = 11)

theorem ReadBudget.step {tr : List (Event (Frame cap) UdsCanError)} {pt pt' : SendPoint}
    {e : Event (Frame cap) UdsCanError} (h : ReadBudget fmt data base tr pt)
    (hv : pt.Valid fmt data base) (ht : SendTrans fmt txId data base ff pt e pt') :
    ReadBudget fmt data base (tr ++ [e]) pt' := by
  cases ht with
  | startFail err =>
      obtain ⟨hcount, -, -⟩ := h
      simp [ReadBudget, hcount]
  | startOk =>
      obtain ⟨hcount, -, -⟩ := h
      simp [ReadBudget, hcount]
  | abort i w r rc hwait _ _ hlimit =>
      obtain ⟨hcount, hreads, -⟩ := h
      have hi : i < fmt.cfCount base data.length := hv.1
      have hw : w ≤ 10 := hv.2
      simp [ReadBudget, hwait, hreads, hlimit]
      omega
  | cts i w fc bs stmin hfc =>
      obtain ⟨hcount, hreads, -⟩ := h
      have hw : w ≤ 10 := hv.2
      have hwait : isWait (.recvd (.ok fc) : Event (Frame cap) UdsCanError) = false := by
        simp [isWait, hfc]
      simp [ReadBudget, hwait, hreads]
      omega
  | wait i w fc hwait =>
      obtain ⟨hcount, hreads, hwaits⟩ := h
      simp [ReadBudget, hwait, hreads, hwaits]
      omega
  | waitLimit i w fc hwait hw =>
      obtain ⟨hcount, hreads, hwaits⟩ := h
      have hi : i < fmt.cfCount base data.length := hv.1
      have hten : w = 10 := hw
      simp [ReadBudget, hwait, hreads, hwaits]
      omega
  | frameFail i b bs err =>
      obtain ⟨hcount, -, -⟩ := h
      have hi : i < fmt.cfCount base data.length := hv.1
      simp [ReadBudget]
      omega
  | frameLast i b bs hlast =>
      obtain ⟨hcount, -, -⟩ := h
      simp [ReadBudget]
      omega
  | frameBlockEnd i b bs =>
      obtain ⟨hcount, -, -⟩ := h
      simp [ReadBudget]
      omega
  | frameNext i b bs =>
      obtain ⟨hcount, -, -⟩ := h
      simp [ReadBudget]
      omega

/-! ## Block size -/

/-- No more frames have been sent since the last read than it allowed, when it
was a CTS with a block size. -/
def BlockBound (tr : List (Event (Frame cap) UdsCanError)) : Prop :=
  ∀ fc bs stmin, beforeTrail Event.isSent tr = some (.recvd (.ok fc)) →
    decodeFc fc = .ok (.cts, bs, stmin) → 0 < bs.toNat → trail Event.isSent tr ≤ bs.toNat

/-- Inside a block the last read is the CTS that opened it. -/
def InBlock (tr : List (Event (Frame cap) UdsCanError)) : SendPoint → Prop
  | .start => beforeTrail Event.isSent tr = none
  | .burst _ b bs => trail Event.isSent tr = b ∧ ∃ fc stmin,
      beforeTrail Event.isSent tr = some (.recvd (.ok fc)) ∧
        decodeFc fc = .ok (.cts, bs, stmin)
  | _ => BlockBound tr

theorem BlockBound.of_recvd (tr : List (Event (Frame cap) UdsCanError))
    (r : Except UdsCanError (Frame cap)) : BlockBound (tr ++ [.recvd r]) := by
  intro fc bs stmin _ _ _
  simp [Event.isSent]

theorem BlockBound.of_sent {tr : List (Event (Frame cap) UdsCanError)} {i b : Nat} {bs : UInt8}
    (h : InBlock tr (.burst i b bs)) (hb : 0 < bs.toNat → b < bs.toNat) (m : Frame cap)
    (r : Except UdsCanError Unit) : BlockBound (tr ++ [.sent m r]) := by
  obtain ⟨hcount, fc, stmin, hlast, hfc⟩ := h
  intro fc' bs' stmin' hlast' hfc' hbs'
  simp only [beforeTrail_snoc, Event.isSent, if_true, hlast, Option.some.injEq,
    Event.recvd.injEq, Except.ok.injEq] at hlast'
  subst hlast'
  rw [hfc] at hfc'
  simp only [Except.ok.injEq, Prod.mk.injEq] at hfc'
  obtain ⟨-, rfl, -⟩ := hfc'
  have hlt := hb hbs'
  simp only [trail_snoc, Event.isSent, if_true, hcount]
  omega

theorem InBlock.step {tr : List (Event (Frame cap) UdsCanError)} {pt pt' : SendPoint}
    {e : Event (Frame cap) UdsCanError} (h : InBlock tr pt) (hv : pt.Valid fmt data base)
    (ht : SendTrans fmt txId data base ff pt e pt') : InBlock (tr ++ [e]) pt' := by
  cases ht with
  | startFail err =>
      have hnone : beforeTrail Event.isSent tr = none := h
      intro fc bs stmin hlast
      simp [Event.isSent, hnone] at hlast
  | startOk =>
      have hnone : beforeTrail Event.isSent tr = none := h
      intro fc bs stmin hlast
      simp [Event.isSent, hnone] at hlast
  | abort => exact BlockBound.of_recvd tr _
  | cts i w fc bs stmin hfc =>
      refine ⟨?_, fc, stmin, ?_, hfc⟩
      · simp [Event.isSent]
      · simp [Event.isSent]
  | wait => exact BlockBound.of_recvd tr _
  | waitLimit => exact BlockBound.of_recvd tr _
  | frameFail => exact BlockBound.of_sent h hv.2 _ _
  | frameLast => exact BlockBound.of_sent h hv.2 _ _
  | frameBlockEnd => exact BlockBound.of_sent h hv.2 _ _
  | frameNext i b bs =>
      obtain ⟨hcount, fc, stmin, hlast, hfc⟩ := h
      refine ⟨?_, fc, stmin, ?_, hfc⟩
      · simp [Event.isSent, hcount]
      · simp [Event.isSent, hlast]

theorem InBlock.bound {tr : List (Event (Frame cap) UdsCanError)} {pt : SendPoint}
    (h : InBlock tr pt) (hv : pt.Valid fmt data base) : BlockBound tr := by
  cases pt with
  | start =>
      have hnone : beforeTrail Event.isSent tr = none := h
      intro fc bs stmin hlast
      simp [hnone] at hlast
  | await => exact h
  | burst i b bs =>
      obtain ⟨hcount, fc, stmin, hlast, hfc⟩ := h
      intro fc' bs' stmin' hlast' hfc' hbs'
      rw [hlast] at hlast'
      obtain rfl : fc = fc' := by simpa using hlast'
      obtain ⟨rfl, -⟩ : bs = bs' ∧ stmin = stmin' := by simpa [hfc] using hfc'
      have hlt := hv.2 hbs'
      omega
  | done => exact h

/-! ## All three on every partial run -/

/-- The invariants together. -/
structure SendInv (tr : List (Event (Frame cap) UdsCanError)) (pt : SendPoint) : Prop where
  transmitted : Transmitted fmt txId data base ff tr pt
  budget : ReadBudget fmt data base tr pt
  block : InBlock tr pt

theorem sendInv_of_steps {tr : List (Event (Frame cap) UdsCanError)} {q : SendProc cap}
    (hff : 0 < fmt.cfCount base data.length)
    (h : Steps (sendFrame id (.ok ff) (sendLoop fmt txId data base 1)) tr q) :
    ∃ pt : SendPoint, q = pt.proc fmt txId data base ff ∧ pt.Valid fmt data base ∧
      SendInv fmt txId data base ff tr pt := by
  apply SendPoint.invariant fmt txId data base ff (SendInv fmt txId data base ff) hff h
  · exact ⟨⟨rfl, rfl⟩, ⟨rfl, rfl, rfl⟩, rfl⟩
  · intro tr pt e pt' hI hv ht
    exact ⟨hI.transmitted.step fmt txId data base ff hv ht,
      hI.budget.step fmt txId data base ff hv ht, hI.block.step fmt txId data base ff hv ht⟩

variable {fmt txId data base ff} {tr : List (Event (Frame cap) UdsCanError)} {pt : SendPoint}

theorem SendInv.accepted_prefix (h : SendInv fmt txId data base ff tr pt) :
    accepted tr <+: segmentation fmt txId data base ff := by
  have htr := h.transmitted
  cases pt with
  | start => simp [htr.1]
  | await | burst =>
      rw [htr.1]
      exact List.take_prefix _ _
  | done rc =>
      rcases htr with ⟨-, hacc, -⟩ | ⟨-, j, k, -, hacc, -⟩
      · rw [hacc]
      · rw [hacc]
        exact List.take_prefix _ _

theorem SendInv.offered_prefix (h : SendInv fmt txId data base ff tr pt) :
    offered tr <+: segmentation fmt txId data base ff := by
  have htr := h.transmitted
  cases pt with
  | start => simp [htr.2]
  | await | burst =>
      rw [htr.2]
      exact List.take_prefix _ _
  | done rc =>
      rcases htr with ⟨-, -, hoff⟩ | ⟨-, j, k, -, -, hoff⟩
      · rw [hoff]
      · rw [hoff]
        exact List.take_prefix _ _

/-- A halted sender reports success exactly when everything was transmitted. -/
theorem SendInv.ok_iff {rc : UdsTpError} (h : SendInv fmt txId data base ff tr (.done rc)) :
    rc = .ok ↔ accepted tr = segmentation fmt txId data base ff := by
  rcases h.transmitted with ⟨hrc, hacc, -⟩ | ⟨hrc, j, k, hj, hacc, -⟩
  · exact ⟨fun _ => hacc, fun _ => hrc⟩
  · refine ⟨fun hok => absurd hok hrc, fun hall => ?_⟩
    have hlen := congrArg List.length hall
    rw [hacc, List.length_take] at hlen
    omega

theorem SendInv.wait_bound (h : SendInv fmt txId data base ff tr pt)
    (hv : pt.Valid fmt data base) :
    trail isWait tr ≤ 11 ∧ (trail isWait tr = 11 ↔ pt = .done .errWaitLimit) := by
  have hb := h.budget
  cases pt with
  | start => simp [hb.2.2]
  | await i w =>
      have hw : w ≤ 10 := hv.2
      have hwaits : trail isWait tr = w := hb.2.2
      simp only [reduceCtorEq, iff_false]
      omega
  | burst => simp [hb.2.2]
  | done rc =>
      obtain ⟨-, -, hle, hiff⟩ := hb
      refine ⟨hle, ?_⟩
      rw [← hiff]
      simp

theorem SendInv.reads_bound (h : SendInv fmt txId data base ff tr pt)
    (hv : pt.Valid fmt data base) : trail Event.isRecvd tr ≤ 11 := by
  have hb := h.budget
  cases pt with
  | start => simp [hb.2.1]
  | await i w =>
      have hw : w ≤ 10 := hv.2
      have hreads : trail Event.isRecvd tr = w := hb.2.1
      omega
  | burst => exact hb.2.1
  | done => exact hb.2.1

variable (fmt txId data base ff) in
theorem SendPoint.eq_done {rc : UdsTpError} (hv : pt.Valid fmt data base)
    (h : .ret rc = pt.proc fmt txId data base ff) : pt = .done rc := by
  cases pt with
  | start => cases h
  | await => cases h
  | burst i b bs =>
      rw [SendPoint.proc, sendBlock_of_lt fmt txId data base _ bs hv.1] at h
      cases h
  | done => cases h; rfl

end Invariants

/-! ## `uds_tp_send` -/

/-- The behaviour of a completed call of `uds_tp_send` that made the accesses
`tr` to the bus and returned `rc`. -/
structure SafeSend (txId : UInt32) (data : List UInt8)
    (tr : List (Event CanFrame UdsCanError)) (rc : UdsTpError) : Prop where
  /-- what it tried to transmit, and what it transmitted -/
  offered_prefix : offered tr <+: classicSegmentation txId data
  accepted_prefix : accepted tr <+: classicSegmentation txId data
  /-- after a CTS with a block size, that many frames at most before the next read -/
  block_le : ∀ pre fc bs stmin mid post,
    tr = pre ++ .recvd (.ok fc) :: (mid ++ post) → udsTpDecodeFc fc = .ok (.cts, bs, stmin) →
    0 < bs.toNat → (∀ e ∈ mid, e.isSent = true) → mid.length ≤ bs.toNat
  ok_iff : rc = .ok ↔ accepted tr = classicSegmentation txId data
  waitLimit_iff : rc = .errWaitLimit ↔
    ∃ pre mid post, tr = pre ++ mid ++ post ∧ mid.length = 11 ∧ ∀ e ∈ mid, isWait e = true
  /-- reads with no transmission in between, failed reads included -/
  reads_block_le : ∀ pre mid post, tr = pre ++ mid ++ post →
    (∀ e ∈ mid, e.isRecvd = true) → mid.length ≤ 11
  reads_le : recvCount tr ≤ 11 * ((data.length - 6 + 6) / 7)

theorem SafeSend.of_nil (txId : UInt32) (data : List UInt8) {rc : UdsTpError} (h : rc ≠ .ok)
    (h' : rc ≠ .errWaitLimit) : SafeSend txId data [] rc where
  offered_prefix := List.nil_prefix
  accepted_prefix := List.nil_prefix
  block_le := by
    intro pre fc bs stmin mid post htr
    simp at htr
  ok_iff := by simp [h, classicSegmentation, segmentation]
  waitLimit_iff := by
    refine ⟨fun hlimit => absurd hlimit h', ?_⟩
    rintro ⟨pre, mid, post, htr, hlen, -⟩
    have hnil := congrArg List.length htr
    simp at hnil
    omega
  reads_block_le := by
    intro pre mid post htr _
    have hnil := congrArg List.length htr
    simp at hnil
    omega
  reads_le := Nat.zero_le _

theorem safeSend_of_steps {txId : UInt32} {data : List UInt8} (h : 8 ≤ data.length)
    {tr : List (Event CanFrame UdsCanError)} {rc : UdsTpError}
    (hrun : Steps (sendFrame id (.ok (firstFrame txId data))
      (sendLoop classic txId data udsTpFfDataBytes 1)) tr (.ret rc)) :
    SafeSend txId data tr rc := by
  have hff : 0 < classic.cfCount udsTpFfDataBytes data.length := by
    rw [LinkFormat.lt_cfCount_iff, LinkFormat.offset_zero]
    unfold udsTpFfDataBytes
    omega
  obtain ⟨pt, hpt, hv, hI⟩ := sendInv_of_steps classic txId data udsTpFfDataBytes _ hff hrun
  obtain rfl := SendPoint.eq_done classic txId data udsTpFfDataBytes _ hv hpt
  refine ⟨hI.offered_prefix, hI.accepted_prefix, ?_, hI.ok_iff, ⟨?_, ?_⟩, ?_, hI.budget.1⟩
  · intro pre fc bs stmin mid post htr hfc hbs hmid
    rw [htr, ← List.cons_append, ← List.append_assoc] at hrun
    obtain ⟨q, hq, -⟩ := hrun.of_append
    obtain ⟨pt, -, hv, hI⟩ := sendInv_of_steps classic txId data udsTpFfDataBytes _ hff hq
    obtain ⟨htrail, hlast⟩ := trail_append_cons pre (isSent_recvd _) hmid
    rw [← htrail]
    exact hI.block.bound classic data udsTpFfDataBytes hv fc bs stmin hlast hfc hbs
  · intro hrc
    have hwaits := ((hI.wait_bound hv).2).mpr (by rw [hrc])
    obtain ⟨pre, mid, htr, hlen, hmid⟩ := exists_trail isWait tr
    exact ⟨pre, mid, [], by simpa using htr, by omega, hmid⟩
  · rintro ⟨pre, mid, post, htr, hlen, hmid⟩
    rw [htr] at hrun
    obtain ⟨q, hq, hrest⟩ := hrun.of_append
    obtain ⟨pt, hpt, hv, hI⟩ := sendInv_of_steps classic txId data udsTpFfDataBytes _ hff hq
    have hle := length_le_trail pre hmid
    have hbound := hI.wait_bound hv
    obtain rfl := hbound.2.mp (by omega)
    rw [hpt] at hrest
    have hret := (Steps.eq_nil_of_ret hrest).2
    exact Proc.ret.inj hret
  · intro pre mid post htr hmid
    rw [htr] at hrun
    obtain ⟨q, hq, -⟩ := hrun.of_append
    obtain ⟨pt, -, hv, hI⟩ := sendInv_of_steps classic txId data udsTpFfDataBytes _ hff hq
    exact (length_le_trail pre hmid).trans (hI.reads_bound hv)

theorem udsTpSend_multi {txId : UInt32} {data : List UInt8} {cfg : UdsTpConfig}
    (h : 8 ≤ data.length) (h' : data.length ≤ 4095) (hcfg : cfg.timeoutMs ≠ 0) :
    udsTpSend txId data cfg = sendFrame id (.ok (firstFrame txId data))
      (sendLoop classic txId data udsTpFfDataBytes 1) := by
  have hmax : data.length ≤ udsTpMaxPduLen := h'
  have hsf : ¬data.length ≤ udsTpSfMaxData := by unfold udsTpSfMaxData; omega
  rw [udsTpSend, if_neg (by omega), if_neg hcfg, if_neg hsf, udsTpEncodeFf_eq txId h hmax]

/-- A call without a timeout is refused, whatever the PDU. -/
theorem udsTpSend_zero {txId : UInt32} {data : List UInt8} {cfg : UdsTpConfig}
    (hcfg : cfg.timeoutMs = 0) : udsTpSend txId data cfg = .ret .errParam := by
  unfold udsTpSend
  rw [if_pos hcfg, ite_self]

/-- Whatever it reads and whichever sends fail, `uds_tp_send` of a multi-frame
PDU transmits an initial part of the segmentation within its bounds. -/
theorem udsTpSend_safe (txId : UInt32) (data : List UInt8) (cfg : UdsTpConfig)
    (h : 8 ≤ data.length) (h' : data.length ≤ 4095)
    (ins : Nat → Except UdsCanError CanFrame) (outs : Nat → Except UdsCanError Unit) :
    SafeSend txId data ((udsTpSend txId data cfg).exec ins outs).1
      ((udsTpSend txId data cfg).exec ins outs).2 := by
  have hrun := Proc.exec_steps ins outs (udsTpSend txId data cfg)
  by_cases hcfg : cfg.timeoutMs = 0
  · rw [udsTpSend_zero hcfg, Proc.exec_ret]
    exact SafeSend.of_nil txId data (by decide) (by decide)
  · rw [udsTpSend_multi h h' hcfg] at hrun ⊢
    exact safeSend_of_steps h hrun

/-- A peer that never answers and a bus that takes everything. -/
theorem udsTpSend_safe_silent_peer :
    SafeSend 0x7E0 (List.replicate 8 0xAA)
      ((udsTpSend 0x7E0 (List.replicate 8 0xAA) ⟨1000, 0, 0⟩).exec
        (fun _ => .error .errTimeout) (fun _ => .ok ())).1
      ((udsTpSend 0x7E0 (List.replicate 8 0xAA) ⟨1000, 0, 0⟩).exec
        (fun _ => .error .errTimeout) (fun _ => .ok ())).2 :=
  udsTpSend_safe 0x7E0 (List.replicate 8 0xAA) ⟨1000, 0, 0⟩ (by decide) (by decide) _ _

end Uds.Tp
