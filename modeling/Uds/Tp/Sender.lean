import Uds.Base.History
import Uds.Tp.Segmentation
/-!
# The sender as an automaton

The multi-frame path of `uds_tp_send` and `uds_tp_send_fd` has four kinds of
program points: before the First Frame, waiting for Flow Control, inside a
block, and halted.  `SendTrans` says what an action can do at each of them.  The
process refines this automaton step by step, so an invariant of the automaton is
an invariant of every partial run of the process.
-/

namespace Uds.Tp

open Uds.Base Uds.Can

/-- A program point of the multi-frame path. -/
inductive SendPoint where
  /-- about to send the First Frame -/
  | start
  /-- waiting for Flow Control before Consecutive Frame `i`, after `w` WAITs -/
  | await (i w : Nat)
  /-- about to send Consecutive Frame `i`, `b` frames into a block of size `bs` -/
  | burst (i b : Nat) (bs : UInt8)
  | done (rc : UdsTpError)

variable {cap : Nat}

/-- A read that yielded a WAIT. -/
def isWait : Event (Frame cap) UdsCanError → Bool
  | .recvd (.ok fc) =>
    match decodeFc fc with
    | .ok (.wait, _, _) => true
    | _ => false
  | _ => false

@[simp] theorem isWait_sent (m : Frame cap) (r : Except UdsCanError Unit) :
    isWait (.sent m r) = false := rfl

/-! ## What one action of the building blocks can do -/

theorem step_sendFrame {α : Type} {fail : UdsTpError → α} {frame : Frame cap}
    {k q : Proc (Frame cap) UdsCanError α} {e : Event (Frame cap) UdsCanError}
    (h : Step (sendFrame fail (.ok frame) k) e q) :
    (∃ err, e = .sent frame (.error err) ∧ q = .ret (fail .errSend)) ∨
      (e = .sent frame (.ok ()) ∧ q = k) := by
  obtain ⟨_, _, r⟩ := h
  cases r with
  | error err => exact Or.inl ⟨err, rfl, rfl⟩
  | ok u => exact Or.inr ⟨rfl, rfl⟩

theorem decodeFc_error {fc : Frame cap} {rc : UdsTpError} (h : decodeFc fc = .error rc) :
    rc = .errFrameType ∨ rc = .errParam := by
  unfold decodeFc at h
  split at h
  · exact Or.inl (Except.error.inj h).symm
  · split at h
    · exact Or.inr (Except.error.inj h).symm
    · split at h
      · cases h
      · cases h
      · cases h
      · exact Or.inr (Except.error.inj h).symm

theorem step_recvFlowControl {k : UdsTpFlowStatus → UInt8 → SendProc cap} {q : SendProc cap}
    {e : Event (Frame cap) UdsCanError} (h : Step (recvFlowControl k) e q) :
    (∃ r rc, e = .recvd r ∧ isWait (.recvd r) = false ∧ rc ≠ .ok ∧ rc ≠ .errSend ∧
      rc ≠ .errWaitLimit ∧ q = .ret rc) ∨
    (∃ fc fs bs stmin, e = .recvd (.ok fc) ∧ decodeFc fc = .ok (fs, bs, stmin) ∧
      fs ≠ .overflow ∧ q = k fs bs) := by
  obtain ⟨_, _, _⟩ | ⟨_, r⟩ := h
  cases r with
  | error err =>
      cases err with
      | errTimeout =>
          exact Or.inl ⟨_, .errTimeout, rfl, rfl, by decide, by decide, by decide, rfl⟩
      | _ => exact Or.inl ⟨_, .errRecv, rfl, rfl, by decide, by decide, by decide, rfl⟩
  | ok fc =>
      cases hfc : decodeFc fc with
      | error rc =>
          refine Or.inl ⟨_, rc, rfl, by simp [isWait, hfc], ?_⟩
          simp only [onRecv, onFlowControl, hfc]
          rcases decodeFc_error hfc with rfl | rfl
          · exact ⟨by decide, by decide, by decide, trivial⟩
          · exact ⟨by decide, by decide, by decide, trivial⟩
      | ok out =>
          obtain ⟨fs, bs, stmin⟩ := out
          cases fs with
          | cts =>
              exact Or.inr ⟨fc, .cts, bs, stmin, rfl, hfc, by decide,
                by simp only [onRecv, onFlowControl, hfc]⟩
          | wait =>
              exact Or.inr ⟨fc, .wait, bs, stmin, rfl, hfc, by decide,
                by simp only [onRecv, onFlowControl, hfc]⟩
          | overflow =>
              exact Or.inl ⟨_, .errOverflow, rfl, by simp [isWait, hfc], by decide, by decide,
                by decide, by simp only [onRecv, onFlowControl, hfc]⟩

section Automaton

variable (fmt : LinkFormat cap) (txId : UInt32) (data : List UInt8) (base : Nat)
  (ff : Frame cap)

/-- What is left to run at a program point. -/
def SendPoint.proc : SendPoint → SendProc cap
  | .start => sendFrame id (.ok ff) (sendLoop fmt txId data base 1)
  | .await i w =>
    recvFlowControl (waitLoop
      (fun bs => sendBlock fmt txId data (fmt.offset base i) ((i + 1) % 16) 0 bs) w)
  | .burst i b bs =>
    sendBlock fmt txId data (fmt.offset base i) ((i + 1) % 16) (b % 256) bs
  | .done rc => .ret rc

/-- The loop variables are in range: a frame is left, the WAIT budget is not
used up, and neither is the block. -/
def SendPoint.Valid : SendPoint → Prop
  | .await i w => i < fmt.cfCount base data.length ∧ w ≤ udsTpMaxWaitFrames
  | .burst i b bs => i < fmt.cfCount base data.length ∧ (0 < bs.toNat → b < bs.toNat)
  | _ => True

/-- The actions of the sender. -/
inductive SendTrans : SendPoint → Event (Frame cap) UdsCanError → SendPoint → Prop
  | startFail (e : UdsCanError) :
      SendTrans .start (.sent ff (.error e)) (.done .errSend)
  | startOk : SendTrans .start (.sent ff (.ok ())) (.await 0 0)
  /-- a timeout, a receive error, an OVERFLOW or a frame that is no Flow Control -/
  | abort (i w : Nat) (r : Except UdsCanError (Frame cap)) (rc : UdsTpError) :
      isWait (.recvd r) = false → rc ≠ .ok → rc ≠ .errSend → rc ≠ .errWaitLimit →
      SendTrans (.await i w) (.recvd r) (.done rc)
  | cts (i w : Nat) (fc : Frame cap) (bs stmin : UInt8) :
      decodeFc fc = .ok (.cts, bs, stmin) →
      SendTrans (.await i w) (.recvd (.ok fc)) (.burst i 0 bs)
  | wait (i w : Nat) (fc : Frame cap) :
      isWait (.recvd (.ok fc)) = true → w < udsTpMaxWaitFrames →
      SendTrans (.await i w) (.recvd (.ok fc)) (.await i (w + 1))
  | waitLimit (i w : Nat) (fc : Frame cap) :
      isWait (.recvd (.ok fc)) = true → w = udsTpMaxWaitFrames →
      SendTrans (.await i w) (.recvd (.ok fc)) (.done .errWaitLimit)
  | frameFail (i b : Nat) (bs : UInt8) (e : UdsCanError) :
      SendTrans (.burst i b bs)
        (.sent (consecutiveFrame fmt txId data base i) (.error e)) (.done .errSend)
  | frameLast (i b : Nat) (bs : UInt8) : i + 1 = fmt.cfCount base data.length →
      SendTrans (.burst i b bs)
        (.sent (consecutiveFrame fmt txId data base i) (.ok ())) (.done .ok)
  | frameBlockEnd (i b : Nat) (bs : UInt8) : i + 1 < fmt.cfCount base data.length →
      0 < bs.toNat → b + 1 = bs.toNat →
      SendTrans (.burst i b bs)
        (.sent (consecutiveFrame fmt txId data base i) (.ok ())) (.await (i + 1) 0)
  | frameNext (i b : Nat) (bs : UInt8) : i + 1 < fmt.cfCount base data.length →
      (0 < bs.toNat → b + 1 < bs.toNat) →
      SendTrans (.burst i b bs)
        (.sent (consecutiveFrame fmt txId data base i) (.ok ())) (.burst (i + 1) (b + 1) bs)

theorem SendTrans.valid {pt pt' : SendPoint} {e : Event (Frame cap) UdsCanError}
    (hff : 0 < fmt.cfCount base data.length) (hv : pt.Valid fmt data base)
    (h : SendTrans fmt txId data base ff pt e pt') : pt'.Valid fmt data base := by
  cases h with
  | startFail => trivial
  | startOk => exact ⟨hff, Nat.zero_le _⟩
  | abort => trivial
  | cts => exact ⟨hv.1, id⟩
  | wait _ _ _ _ hw => exact ⟨hv.1, hw⟩
  | waitLimit => trivial
  | frameFail => trivial
  | frameLast => trivial
  | frameBlockEnd _ _ _ hi => exact ⟨hi, Nat.zero_le _⟩
  | frameNext _ _ _ hi hb => exact ⟨hi, hb⟩

/-! ## The process at each program point -/

theorem sendLoop_of_lt {offset : Nat} (sn : Nat) (h : offset < data.length) :
    sendLoop fmt txId data offset sn =
      recvFlowControl (waitLoop (fun bs => sendBlock fmt txId data offset sn 0 bs) 0) := by
  rw [sendLoop, dif_pos h]

theorem sendLoop_of_le {offset : Nat} (sn : Nat) (h : data.length ≤ offset) :
    sendLoop fmt txId data offset sn = .ret .ok := by
  rw [sendLoop, dif_neg (by omega)]

theorem sendBlock_of_le {offset : Nat} (sn bsSent : Nat) (bs : UInt8)
    (h : data.length ≤ offset) : sendBlock fmt txId data offset sn bsSent bs = .ret .ok := by
  rw [sendBlock, dif_neg (by omega), sendLoop_of_le fmt txId data sn h]

theorem sendBlock_of_lt {i : Nat} (bsSent : Nat) (bs : UInt8)
    (h : i < fmt.cfCount base data.length) :
    sendBlock fmt txId data (fmt.offset base i) ((i + 1) % 16) bsSent bs =
      sendFrame id (.ok (consecutiveFrame fmt txId data base i))
        (if 0 < bs.toNat ∧ bs.toNat ≤ (bsSent + 1) % 256 then
          sendLoop fmt txId data (fmt.offset base i +
            min fmt.cfDataBytes (data.length - fmt.offset base i)) ((i + 1 + 1) % 16)
        else sendBlock fmt txId data (fmt.offset base i +
            min fmt.cfDataBytes (data.length - fmt.offset base i)) ((i + 1 + 1) % 16)
            ((bsSent + 1) % 256) bs) := by
  have hlt := (fmt.lt_cfCount_iff base data.length i).mp h
  rw [sendBlock, dif_pos hlt]
  simp only [encodeCf_eq fmt txId data base h, sn_succ]

theorem sendBlock_next {i b : Nat} {bs : UInt8} (h : i + 1 < fmt.cfCount base data.length)
    (hb : 0 < bs.toNat → b < bs.toNat) :
    (if 0 < bs.toNat ∧ bs.toNat ≤ (b % 256 + 1) % 256 then
        sendLoop fmt txId data (fmt.offset base (i + 1)) ((i + 1 + 1) % 16)
      else sendBlock fmt txId data (fmt.offset base (i + 1)) ((i + 1 + 1) % 16)
        ((b % 256 + 1) % 256) bs) =
      if 0 < bs.toNat ∧ b + 1 = bs.toNat then (SendPoint.await (i + 1) 0).proc fmt txId data base ff
      else (SendPoint.burst (i + 1) (b + 1) bs).proc fmt txId data base ff := by
  have hlt := (fmt.lt_cfCount_iff base data.length (i + 1)).mp h
  have hbs : bs.toNat < 256 := bs.toNat_lt
  have hmod : (b % 256 + 1) % 256 = (b + 1) % 256 := by omega
  by_cases hend : 0 < bs.toNat ∧ b + 1 = bs.toNat
  · rw [if_pos hend, if_pos (by omega), sendLoop_of_lt fmt txId data _ hlt]
    rfl
  · rw [if_neg hend, if_neg (by omega), hmod]
    rfl

/-- Every action of the process is an action of the automaton. -/
theorem SendPoint.step_cases {pt : SendPoint} {e : Event (Frame cap) UdsCanError}
    {q : SendProc cap} (hff : 0 < fmt.cfCount base data.length)
    (hv : pt.Valid fmt data base) (h : Step (pt.proc fmt txId data base ff) e q) :
    ∃ pt' : SendPoint, q = pt'.proc fmt txId data base ff ∧
      SendTrans fmt txId data base ff pt e pt' := by
  cases pt with
  | start =>
      rcases step_sendFrame h with ⟨err, rfl, rfl⟩ | ⟨rfl, rfl⟩
      · exact ⟨.done .errSend, rfl, .startFail err⟩
      · have hlt := (fmt.lt_cfCount_iff base data.length 0).mp hff
        exact ⟨.await 0 0, sendLoop_of_lt fmt txId data 1 hlt, .startOk⟩
  | await i w =>
      rcases step_recvFlowControl h with
        ⟨r, rc, rfl, hw, h₁, h₂, h₃, rfl⟩ | ⟨fc, fs, bs, stmin, rfl, hfc, hfs, rfl⟩
      · exact ⟨.done rc, rfl, .abort i w r rc hw h₁ h₂ h₃⟩
      · cases fs with
        | cts =>
            refine ⟨.burst i 0 bs, ?_, .cts i w fc bs stmin hfc⟩
            rw [waitLoop, if_neg (by decide)]
            rfl
        | wait =>
            have hwait : isWait (.recvd (.ok fc) : Event (Frame cap) UdsCanError) = true := by
              simp [isWait, hfc]
            rw [waitLoop, if_pos rfl]
            by_cases hw : w + 1 > udsTpMaxWaitFrames
            · rw [dif_pos hw]
              have hbudget : w ≤ udsTpMaxWaitFrames := hv.2
              exact ⟨.done .errWaitLimit, rfl, .waitLimit i w fc hwait (by omega)⟩
            · rw [dif_neg hw]
              exact ⟨.await i (w + 1), rfl, .wait i w fc hwait (by omega)⟩
        | overflow => exact absurd rfl hfs
  | burst i b bs =>
      have hi : i < fmt.cfCount base data.length := hv.1
      rw [SendPoint.proc, sendBlock_of_lt fmt txId data base (b % 256) bs hi] at h
      rcases step_sendFrame h with ⟨err, rfl, rfl⟩ | ⟨rfl, rfl⟩
      · exact ⟨.done .errSend, rfl, .frameFail i b bs err⟩
      · by_cases hlast : i + 1 = fmt.cfCount base data.length
        · refine ⟨.done .ok, ?_, .frameLast i b bs hlast⟩
          rw [fmt.offset_add_chunk_last base hlast, sendLoop_of_le fmt txId data _ le_rfl,
            sendBlock_of_le fmt txId data _ _ _ le_rfl, ite_self]
          rfl
        · have hnext : i + 1 < fmt.cfCount base data.length := by omega
          rw [fmt.offset_add_chunk base hnext,
            sendBlock_next fmt txId data base ff hnext hv.2]
          by_cases hend : 0 < bs.toNat ∧ b + 1 = bs.toNat
          · rw [if_pos hend]
            exact ⟨_, rfl, .frameBlockEnd i b bs hnext hend.1 hend.2⟩
          · rw [if_neg hend]
            have hb := hv.2
            exact ⟨_, rfl, .frameNext i b bs hnext (by omega)⟩
  | done rc => cases h

/-- What every action of the automaton preserves holds at the end of every
partial run of the process. -/
theorem SendPoint.invariant (J : List (Event (Frame cap) UdsCanError) → SendPoint → Prop)
    {tr : List (Event (Frame cap) UdsCanError)} {q : SendProc cap}
    (hff : 0 < fmt.cfCount base data.length)
    (h : Steps (sendFrame id (.ok ff) (sendLoop fmt txId data base 1)) tr q)
    (hinit : J [] .start)
    (hstep : ∀ tr pt e pt', J tr pt → pt.Valid fmt data base →
      SendTrans fmt txId data base ff pt e pt' → J (tr ++ [e]) pt') :
    ∃ pt : SendPoint, q = pt.proc fmt txId data base ff ∧ pt.Valid fmt data base ∧ J tr pt := by
  apply Steps.invariant (fun tr q => ∃ pt : SendPoint,
    q = pt.proc fmt txId data base ff ∧ pt.Valid fmt data base ∧ J tr pt) h
  · exact ⟨.start, rfl, trivial, hinit⟩
  · rintro tr q e q' ⟨pt, rfl, hv, hJ⟩ hs
    obtain ⟨pt', hq', ht⟩ := SendPoint.step_cases fmt txId data base ff hff hv hs
    exact ⟨pt', hq', ht.valid fmt txId data base ff hff hv, hstep tr pt e pt' hJ hv ht⟩

end Automaton

end Uds.Tp
