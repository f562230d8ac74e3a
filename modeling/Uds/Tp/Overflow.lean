import Uds.Tp.EndToEnd
/-!
# A receiver without room

`uds_tp_send` aborts on Flow Control with status OVERFLOW, but `uds_tp_recv` never sends
it: it returns as soon as the First Frame announces more than its buffer holds.  The
sender is left to wait for Flow Control until its timeout.
-/

namespace Uds.Tp

open Uds.Base Uds.Can

/-- The receiver has refused the PDU, and the sender, which has sent the First Frame only,
knows of it. -/
def ToldOverflow {cap : Nat} (c : Net (Frame cap) UdsCanError UdsTpError UdsTpRecvResult) : Prop :=
  (∃ res, c.right = .ret res ∧ res.rc = .errBufFull) ∧ c.left = .ret .errOverflow ∧ c.leftSent = 1

/-- The receiver has refused the PDU without a word, and the sender has timed out. -/
def Stranded {cap : Nat} (c : Net (Frame cap) UdsCanError UdsTpError UdsTpRecvResult) : Prop :=
  (∃ res, c.right = .ret res ∧ res.rc = .errBufFull) ∧ c.left = .ret .errTimeout ∧
    c.leftSent = 1 ∧ c.rightSent = 0

/-! ## A receiver that returns on the First Frame -/

section Silent

variable {cap : Nat} {ff : Frame cap} {wait : Except UdsCanError (Frame cap) → SendProc cap}
  {fail : UdsTpError → UdsTpRecvResult} {first : Frame cap → RecvProc cap}

/-- The receiver has sent nothing, and the sender nothing but the First Frame. -/
structure Unanswered (ff : Frame cap) (wait : Except UdsCanError (Frame cap) → SendProc cap)
    (fail : UdsTpError → UdsTpRecvResult) (first : Frame cap → RecvProc cap)
    (c : Net (Frame cap) UdsCanError UdsTpError UdsTpRecvResult) : Prop where
  left : c.left = sendFrame id (.ok ff) (.recv wait) ∨ c.left = .recv wait ∨
    c.left = .ret .errTimeout
  right : c.right = recvFrame fail first ∨ ∃ res, c.right = .ret res
  toRight : ∀ f ∈ c.toRight, Frame.Carries ff f
  toLeft : c.toLeft = []

theorem Unanswered.step {med : Medium (Frame cap)} (hmed : Delivers med) (hff : ff.ZeroTail)
    (hwait : wait (.error .errTimeout) = .ret .errTimeout)
    (hfirst : ∀ f, Frame.Carries ff f → ∃ res, first f = .ret res)
    {c c' : Net (Frame cap) UdsCanError UdsTpError UdsTpRecvResult}
    (h : Unanswered ff wait fail first c) (hs : Hasty med UdsCanError.errTimeout c c') :
    Unanswered ff wait fail first c' := by
  obtain ⟨hleft, hright, hto, hfrom⟩ := h
  rcases hs with hs | hs
  · cases hs with
    | sendLeft m k q a b i j =>
        rcases hleft with hsend | hrecv | hret
        · cases hsend
          obtain ⟨f', hdelivered, hc⟩ := (hmed i ff hff).1
          refine ⟨Or.inr (Or.inl rfl), hright, ?_, hfrom⟩
          rw [hdelivered]
          intro f hf
          rcases List.mem_append.mp hf with hold | hnew
          · exact hto f hold
          · obtain rfl : f = f' := by simpa using hnew
            exact hc
        · cases hrecv
        · cases hret
    | sendRight p m k a b i j =>
        rcases hright with hrecv | ⟨res, hret⟩
        · cases hrecv
        · cases hret
    | recvLeft k q a m b i j => cases hfrom
    | recvRight p k m a b i j =>
        rcases hright with hrecv | ⟨res, hret⟩
        · cases hrecv
          obtain ⟨res, hres⟩ := hfirst m (hto m List.mem_cons_self)
          exact ⟨hleft, Or.inr ⟨res, hres⟩, fun f hf => hto f (List.mem_cons_of_mem _ hf), hfrom⟩
        · cases hret
  · cases hs with
    | left k q a i j =>
        rcases hleft with hsend | hrecv | hret
        · cases hsend
        · cases hrecv
          exact ⟨Or.inr (Or.inr hwait), hright, hto, rfl⟩
        · cases hret
    | right p k b i j =>
        rcases hright with hrecv | ⟨res, hret⟩
        · cases hrecv
          exact ⟨hleft, Or.inr ⟨_, rfl⟩, hto, hfrom⟩
        · cases hret

theorem not_toldOverflow_of_silent {med : Medium (Frame cap)} (hmed : Delivers med)
    (hff : ff.ZeroTail) (hwait : wait (.error .errTimeout) = .ret .errTimeout)
    (hfirst : ∀ f, Frame.Carries ff f → ∃ res, first f = .ret res)
    {c : Net (Frame cap) UdsCanError UdsTpError UdsTpRecvResult}
    (hrun : Relation.ReflTransGen (Hasty med UdsCanError.errTimeout)
      (Net.start (sendFrame id (.ok ff) (.recv wait)) (recvFrame fail first)) c) :
    ¬ToldOverflow c := by
  have hunanswered : Unanswered ff wait fail first c := by
    induction hrun with
    | refl => exact ⟨Or.inl rfl, Or.inl rfl, fun f hf => absurd hf List.not_mem_nil, rfl⟩
    | tail _ hs ih => exact ih.step hmed hff hwait hfirst hs
  rintro ⟨-, htold, -⟩
  have hleft := hunanswered.left
  rw [htold] at hleft
  rcases hleft with hsend | hrecv | hret
  · cases hsend
  · cases hrecv
  · cases hret

theorem stranded_of_silent {med : Medium (Frame cap)} (hmed : Delivers med) (hff : ff.ZeroTail)
    (hwait : wait (.error .errTimeout) = .ret .errTimeout)
    (hfirst : ∀ f, Frame.Carries ff f → ∃ res, first f = .ret res ∧ res.rc = .errBufFull) :
    Inevitable (Patient med UdsCanError.errTimeout) Stranded
      (Net.start (sendFrame id (.ok ff) (.recv wait)) (recvFrame fail first)) := by
  obtain ⟨f', hc, hrun⟩ := comm_toRight hmed hff (.recv wait) fail first 0 0
  obtain ⟨res, hres, hrc⟩ := hfirst f' hc
  rw [hres] at hrun
  exact inevitable_of_waiting hrun hwait ⟨⟨res, rfl, hrc⟩, rfl, rfl, rfl⟩

end Silent

/-! ## `uds_tp_send` against `uds_tp_recv` -/

section Classic

variable {txId rxId : UInt32} {data : List UInt8} {sCfg rCfg : UdsTpConfig} {buf : Mem UInt8}
  {bufSize outLen : Nat}

theorem udsTpRecv_zero (hbuf : bufSize ≠ 0) (hr : rCfg.timeoutMs = 0) :
    udsTpRecv rxId buf bufSize outLen rCfg = .ret ⟨.errParam, buf, outLen⟩ := by
  rw [udsTpRecv, if_neg hbuf, if_pos hr]

theorem not_toldOverflow {med : Medium CanFrame} (hmed : Delivers med) (hge : 8 ≤ data.length)
    (hle : data.length ≤ 4095) (hsix : 6 ≤ bufSize) (hsmall : bufSize < data.length)
    {c : Net CanFrame UdsCanError UdsTpError UdsTpRecvResult}
    (hrun : Relation.ReflTransGen (Hasty med UdsCanError.errTimeout)
      (Net.start (udsTpSend txId data sCfg) (udsTpRecv rxId buf bufSize outLen rCfg)) c) :
    ¬ToldOverflow c := by
  have hmod : bufSize % 2 ^ 32 < data.length := Nat.lt_of_le_of_lt (Nat.mod_le _ _) hsmall
  by_cases hs : sCfg.timeoutMs = 0
  · -- the sender returns at once
    have hleft := left_of_ret hrun (show udsTpSend txId data sCfg = _ from udsTpSend_zero hs)
    intro htold
    rw [htold.2.1] at hleft
    cases hleft
  · by_cases hr : rCfg.timeoutMs = 0
    · -- the receiver returns at once
      have hright := right_of_ret hrun
        (show udsTpRecv rxId buf bufSize outLen rCfg = _ from udsTpRecv_zero (by omega) hr)
      intro htold
      obtain ⟨res, hres, hrc⟩ := htold.1
      rw [hres] at hright
      cases hright
      cases hrc
    · obtain ⟨wait, hloop, hwait⟩ := exists_wait_sendLoop txId hge
      rw [udsTpSend_multi hge hle hs, hloop, udsTpRecv_eq (by omega) hr] at hrun
      apply not_toldOverflow_of_silent hmed (zeroTail_firstFrame txId hge) hwait _ hrun
      intro f hc
      obtain ⟨res, hres, -⟩ := onFirstFrame_bufFull hge hle hsix hmod hc
      exact ⟨res, hres⟩

/-- For every PDU that the buffer does not hold: no run, however the parties are scheduled
and whenever they time out, ends with the sender told of the overflow; if they wait for
what is in flight, the receiver returns and the sender times out. -/
theorem overflow_never_told {med : Medium CanFrame} (hmed : Delivers med) (hge : 8 ≤ data.length)
    (hle : data.length ≤ 4095) (hsix : 6 ≤ bufSize) (hsmall : bufSize < data.length) :
    (∀ c, Relation.ReflTransGen (Hasty med UdsCanError.errTimeout)
      (Net.start (udsTpSend txId data sCfg) (udsTpRecv rxId buf bufSize outLen rCfg)) c →
        ¬ToldOverflow c) ∧
      (sCfg.timeoutMs ≠ 0 → rCfg.timeoutMs ≠ 0 →
        Inevitable (Patient med UdsCanError.errTimeout) Stranded
          (Net.start (udsTpSend txId data sCfg) (udsTpRecv rxId buf bufSize outLen rCfg))) := by
  constructor
  · intro c hrun
    exact not_toldOverflow hmed hge hle hsix hsmall hrun
  · intro hs hr
    have hmod : bufSize % 2 ^ 32 < data.length := Nat.lt_of_le_of_lt (Nat.mod_le _ _) hsmall
    obtain ⟨wait, hloop, hwait⟩ := exists_wait_sendLoop txId hge
    rw [udsTpSend_multi hge hle hs, hloop, udsTpRecv_eq (by omega) hr]
    apply stranded_of_silent hmed (zeroTail_firstFrame txId hge) hwait
    exact fun f hc => onFirstFrame_bufFull hge hle hsix hmod hc

theorem overflow_never_told_twenty :
    (∀ c, Relation.ReflTransGen (Hasty (Medium.lossless CanFrame) UdsCanError.errTimeout)
      (Net.start (udsTpSend 0x7E0 (List.replicate 20 0x55) ⟨1000, 0, 0⟩)
        (udsTpRecv 0x7E8 (fun _ => 0) 16 0 ⟨1000, 0, 0⟩)) c → ¬ToldOverflow c) ∧
      Inevitable (Patient (Medium.lossless CanFrame) UdsCanError.errTimeout) Stranded
        (Net.start (udsTpSend 0x7E0 (List.replicate 20 0x55) ⟨1000, 0, 0⟩)
          (udsTpRecv 0x7E8 (fun _ => 0) 16 0 ⟨1000, 0, 0⟩)) := by
  constructor
  · exact (overflow_never_told delivers_lossless (by decide) (by decide) (by decide)
      (by decide)).1
  · exact (overflow_never_told delivers_lossless (by decide) (by decide) (by decide)
      (by decide)).2 (by decide) (by decide)

/-- Twenty bytes for a buffer of sixteen. -/
theorem overflow_not_told :
    ¬Inevitable (Patient (Medium.lossless CanFrame) UdsCanError.errTimeout) ToldOverflow
      (Net.start (udsTpSend 0x7E0 (List.replicate 20 0x55) ⟨1000, 0, 0⟩)
        (udsTpRecv 0x7E8 (fun _ => 0) 16 0 ⟨1000, 0, 0⟩)) := by
  intro h
  obtain ⟨c, hrun, htold⟩ := h.reached
  have hhasty := Relation.ReflTransGen.mono (fun _ _ => Patient.hasty) _ _ hrun
  exact not_toldOverflow delivers_lossless (by decide) (by decide) (by decide) (by decide)
    hhasty htold

end Classic

end Uds.Tp
