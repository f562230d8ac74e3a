import Uds.Can.Identifiers
import Uds.Tools.Reception
import Uds.Tp.Sender
/-!
# What a party sends and takes

The C sender behind its socket filter and the Python transport use one identifier
to send and let through one other, whatever they receive and at every point of
their loops.
-/

namespace Uds.Tools

open Uds.Base Uds.Can Uds.Tp

variable {cap : Nat}

section Confined

variable (tp : IsoTpTransport)

/-- What is sent has the identifier `out`, and what is let through has `mine`. -/
abbrev UsesIds {α : Type} (out mine : UInt32) (a : Agent (Frame cap) α) : Prop :=
  a.Confined (fun f => f.canId = out) (fun f => f.canId = mine)

/-- The filter for the frames that the Python side sends, with the mask of every filter that the
C side sets. -/
def flowFilter : UdsCanFilter := ⟨tp.txId, 0x7FF⟩

theorem flowFilter_accepts {f : Frame cap} (h : f.canId = tp.txId) :
    (flowFilter tp).accepts f.canId = true := by
  rw [flowFilter, accepts_iff, h]

/-- A process of the C side on a socket with this filter. -/
def onSocket {α : Type} (p : Proc (Frame cap) UdsCanError α) : Agent (Frame cap) α :=
  p.agent (fun f => (flowFilter tp).accepts f.canId) .errTimeout

/-- `send` of the Python side: `_recv_frame` skips frames with another identifier. -/
def onBus (p : PyProc cap) : Agent (Frame cap) (Except PyError Unit) :=
  p.agent (fun f => f.canId = tp.rxId) .errTimeout

/-- The C sender sends to the receiver, and takes only what its filter lets through. -/
abbrev SendsOnly (p : SendProc cap) : Prop :=
  (onSocket tp p).Confined (fun f => f.canId = tp.rxId)
    fun f => (flowFilter tp).accepts f.canId = true

/-- The Python receiver sends to the sender, and takes only what the sender sends. -/
abbrev RecvsOnly (r : PyRecv cap) : Prop := UsesIds tp.txId tp.rxId r

/-- The same of the Python sender. -/
abbrev PySendsOnly (p : PyProc cap) : Prop := UsesIds tp.txId tp.rxId (onBus tp p)

/-! ## The C sender -/

theorem sendsOnly_sendFrame {frame : Except UdsTpError (Frame cap)} {k : SendProc cap}
    (hid : ∀ f, frame = .ok f → f.canId = tp.rxId) (hk : SendsOnly tp k) :
    SendsOnly tp (sendFrame id frame k) := by
  cases frame with
  | error rc => exact .ret rc
  | ok f => exact .send (hid f rfl) hk

theorem sendsOnly_recvFlowControl {k : UdsTpFlowStatus → UInt8 → SendProc cap}
    (hk : ∀ fs bs, SendsOnly tp (k fs bs)) : SendsOnly tp (recvFlowControl k) := by
  refine .recv (fun _ hf => hf) (fun f _ => ?_) (.ret _)
  change SendsOnly tp (onFlowControl k f)
  unfold onFlowControl
  split
  · exact .ret _
  · exact .ret _
  · exact hk _ _

theorem sendsOnly_waitLoop {k : UInt8 → SendProc cap} (hk : ∀ bs, SendsOnly tp (k bs))
    (n : Nat) {waitCount : Nat} (hn : udsTpMaxWaitFrames - waitCount = n) (fs : UdsTpFlowStatus)
    (bs : UInt8) : SendsOnly tp (waitLoop k waitCount fs bs) := by
  induction n generalizing waitCount fs bs with
  | zero =>
      rw [waitLoop]
      by_cases hfs : fs = .wait
      · rw [if_pos hfs, dif_pos (by omega)]
        exact .ret _
      · rw [if_neg hfs]
        exact hk bs
  | succ n ih =>
      rw [waitLoop]
      by_cases hfs : fs = .wait
      · rw [if_pos hfs]
        by_cases hlimit : waitCount + 1 > udsTpMaxWaitFrames
        · rw [dif_pos hlimit]
          exact .ret _
        · rw [dif_neg hlimit]
          exact sendsOnly_recvFlowControl tp (ih (by omega))
      · rw [if_neg hfs]
        exact hk bs

theorem canId_encodeCf (fmt : LinkFormat cap) (canId : UInt32) (chunk : List UInt8) (sn : Nat)
    (f : Frame cap) (h : encodeCf fmt canId chunk sn = .ok f) : f.canId = canId := by
  unfold encodeCf at h
  split at h
  · cases h
  · cases h
    rfl

theorem canId_encodeSfFd (canId : UInt32) (data : List UInt8) (f : CanFdFrame)
    (h : udsTpEncodeSfFd canId data = .ok f) : f.canId = canId := by
  unfold udsTpEncodeSfFd at h
  split at h
  · cases h
  · split at h
    · cases h
      rfl
    · cases h
      rfl

theorem canId_encodeFfFd (canId : UInt32) (data : List UInt8) (totalLen : Nat) (f : CanFdFrame)
    (h : udsTpEncodeFfFd canId data totalLen = .ok f) : f.canId = canId := by
  unfold udsTpEncodeFfFd at h
  split at h
  · cases h
  · split at h
    · split at h
      · cases h
      · cases h
        rfl
    · cases h
      rfl

/-- Both loops of the sender, by the bytes that are left. -/
theorem sendsOnly_loops (fmt : LinkFormat cap) (data : List UInt8) (n : Nat) {offset : Nat}
    (hn : data.length - offset ≤ n) (sn : Nat) :
    SendsOnly tp (sendLoop fmt tp.rxId data offset sn) ∧
      ∀ bsSent bs, SendsOnly tp (sendBlock fmt tp.rxId data offset sn bsSent bs) := by
  induction n generalizing offset sn with
  | zero =>
      have hle : data.length ≤ offset := by omega
      refine ⟨?_, fun bsSent bs => ?_⟩
      · rw [Tp.sendLoop_of_le fmt tp.rxId data sn hle]
        exact .ret _
      · rw [sendBlock_of_le fmt tp.rxId data sn bsSent bs hle]
        exact .ret _
  | succ n ih =>
      have hpos := fmt.cfDataBytes_pos
      have hblock : ∀ bsSent bs,
          SendsOnly tp (sendBlock fmt tp.rxId data offset sn bsSent bs) := by
        intro bsSent bs
        by_cases hlt : offset < data.length
        · have hless : data.length - (offset + min fmt.cfDataBytes (data.length - offset)) ≤ n := by
            omega
          have hrest := ih hless ((sn + 1) &&& 0x0F)
          rw [sendBlock, dif_pos hlt]
          apply sendsOnly_sendFrame tp (canId_encodeCf fmt tp.rxId _ _)
          split
          · exact hrest.1
          · exact hrest.2 _ _
        · rw [sendBlock_of_le fmt tp.rxId data sn bsSent bs (Nat.not_lt.mp hlt)]
          exact .ret _
      refine ⟨?_, hblock⟩
      by_cases hlt : offset < data.length
      · rw [Tp.sendLoop_of_lt fmt tp.rxId data sn hlt]
        exact sendsOnly_recvFlowControl tp
          (sendsOnly_waitLoop tp (hblock 0) (udsTpMaxWaitFrames - 0) rfl)
      · rw [Tp.sendLoop_of_le fmt tp.rxId data sn (Nat.not_lt.mp hlt)]
        exact .ret _

/-! ## The Python receiver -/

theorem recvsOnly_awaitFrame {k : Option (List UInt8) → PyRecv cap}
    (hk : ∀ frame, RecvsOnly tp (k frame)) : RecvsOnly tp (tp.awaitFrame k) :=
  .recv (fun _ hf => of_decide_eq_true hf) (fun _ _ => hk _) (hk none)

theorem recvsOnly_onConsecutive (fmt : LinkFormat cap) (total expectedSn : Nat)
    (buf : List UInt8) {k : List UInt8 → PyRecv cap} (hk : ∀ buf, RecvsOnly tp (k buf))
    (frame : Option (List UInt8)) :
    RecvsOnly tp (onConsecutive fmt total expectedSn buf k frame) := by
  unfold onConsecutive
  split
  · exact .ret _
  · exact .ret _
  · dsimp only
    split
    · exact .ret _
    · split
      · exact .ret _
      · exact hk _

theorem recvsOnly_recvLoop (fmt : LinkFormat cap) (total polls expectedSn : Nat)
    (buf : List UInt8) : RecvsOnly tp (tp.recvLoop fmt total polls expectedSn buf) := by
  induction polls generalizing expectedSn buf with
  | zero =>
      rw [IsoTpTransport.recvLoop]
      split
      · exact .ret _
      · exact .ret _
  | succ polls ih =>
      rw [IsoTpTransport.recvLoop]
      split
      · exact recvsOnly_awaitFrame tp (recvsOnly_onConsecutive tp fmt total expectedSn buf (ih _))
      · exact .ret _

theorem recvsOnly_recvMulti (fmt : LinkFormat cap) {fc : Frame cap} (hfc : fc.canId = tp.txId)
    (total polls : Nat) (buf : List UInt8) :
    RecvsOnly tp (tp.recvMulti fmt fc total polls buf) :=
  .send hfc (recvsOnly_recvLoop tp fmt total polls 1 buf)

theorem recvsOnly_onFirstFrame (fd : Bool) {multi : List UInt8 → PyRecv cap}
    (hmulti : ∀ frame, RecvsOnly tp (multi frame)) (frame : Option (List UInt8)) :
    RecvsOnly tp (IsoTpTransport.onFirstFrame fd multi frame) := by
  unfold IsoTpTransport.onFirstFrame
  split
  · exact .ret _
  · exact .ret _
  · split
    · exact .ret _
    · split
      · exact hmulti _
      · exact .ret _

theorem recvsOnly_recv : RecvsOnly tp tp.recv := by
  unfold IsoTpTransport.recv
  split
  · exact .ret _
  · refine recvsOnly_awaitFrame tp (recvsOnly_onFirstFrame tp false fun frame => ?_)
    unfold IsoTpTransport.recvMultiClassic
    split
    · exact recvsOnly_recvMulti tp classic rfl _ _ _
    · exact .ret _

theorem recvsOnly_recvFd : RecvsOnly tp tp.recvFd := by
  unfold IsoTpTransport.recvFd
  split
  · exact .ret _
  · refine recvsOnly_awaitFrame tp (recvsOnly_onFirstFrame tp true fun frame => ?_)
    unfold IsoTpTransport.recvMultiFd
    split
    · split
      · split
        · exact recvsOnly_recvMulti tp canFd rfl _ _ _
        · exact .ret _
      · exact recvsOnly_recvMulti tp canFd rfl _ _ _
    · exact .ret _

/-! ## The Python sender -/

section Offers

variable {out : Frame cap → Prop}

theorem offers_busSend {frame : Frame cap} (hframe : out frame) {k : PyProc cap}
    (hk : k.Offers out) : (busSend frame k).Offers out := by
  refine .send hframe fun r => ?_
  unfold onSent
  split
  · exact .ret _
  · exact hk

theorem offers_recvFrame {k : Option (List UInt8) → PyProc cap}
    (hk : ∀ frame, (k frame).Offers out) (polls : Nat) : (tp.recvFrame k polls).Offers out := by
  induction polls with
  | zero => exact hk none
  | succ polls ih =>
      refine .recv fun r => ?_
      unfold IsoTpTransport.onMessage
      split
      · exact ih
      · split
        · exact hk _
        · exact ih

theorem offers_recvFlowControl {k : Nat → PyProc cap}
    (hk : ∀ blockSize, (k blockSize).Offers out) : (tp.recvFlowControl k).Offers out := by
  apply offers_recvFrame
  intro frame
  unfold checkFcContinue
  split
  · exact .ret _
  · exact .ret _
  · split
    · exact .ret _
    · split
      · exact hk _
      · exact .ret _

theorem offers_sendLoop (fmt : LinkFormat cap) (hcf : ∀ chunk h sn, out (tp.makeCf fmt chunk h sn))
    (data : List UInt8) (n : Nat) {offset : Nat} (hn : data.length - offset ≤ n)
    (sn blockCount blockSize : Nat) :
    (tp.sendLoop fmt data offset sn blockCount blockSize).Offers out := by
  induction n generalizing offset sn blockCount blockSize with
  | zero =>
      rw [IsoTpTransport.sendLoop, dif_neg (by omega)]
      exact .ret _
  | succ n ih =>
      have hpos := fmt.cfDataBytes_pos
      by_cases hlt : offset < data.length
      · have hless : data.length - (offset +
            ((data.drop offset).take fmt.cfDataBytes).length) ≤ n := by
          rw [List.length_take, List.length_drop]
          omega
        rw [IsoTpTransport.sendLoop, dif_pos hlt]
        apply offers_busSend (hcf _ _ _)
        split
        · exact offers_recvFlowControl tp fun blockSize => ih hless _ 0 blockSize
        · exact ih hless _ _ _
      · rw [IsoTpTransport.sendLoop, dif_neg hlt]
        exact .ret _

theorem offers_sendMulti (fmt : LinkFormat cap)
    (hcf : ∀ chunk h sn, out (tp.makeCf fmt chunk h sn)) {ff : Frame cap} (hff : out ff)
    (data : List UInt8) (offset : Nat) : (tp.sendMulti fmt ff data offset).Offers out := by
  apply offers_busSend hff
  exact offers_recvFlowControl tp
    fun blockSize => offers_sendLoop tp fmt hcf data _ le_rfl 1 0 blockSize

end Offers

theorem pySendsOnly_send (data : List UInt8) : PySendsOnly tp (tp.send data) := by
  apply Proc.Offers.agent _ fun f hf => of_decide_eq_true hf
  unfold IsoTpTransport.send
  split
  · apply offers_busSend
    · rfl
    · exact .ret _
  · apply offers_sendMulti
    · exact fun _ _ _ => rfl
    · rfl

end Confined

end Uds.Tools
