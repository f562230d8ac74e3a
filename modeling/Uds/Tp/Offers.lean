import Uds.Base.Proc
import Uds.Tp.Receiver
import Uds.Tp.Sender
/-!
# What the C code sends

Every frame of a transfer has the identifier of the caller, whatever the answers to its
calls are.
-/

namespace Uds.Tp

open Uds.Base Uds.Can

section Offers

variable {cap : Nat} {α : Type} {out : Frame cap → Prop}

theorem offers_sendFrame {fail : UdsTpError → α} {frame : Except UdsTpError (Frame cap)}
    {k : Proc (Frame cap) UdsCanError α} (hframe : ∀ f, frame = .ok f → out f)
    (hk : k.Offers out) : (sendFrame fail frame k).Offers out := by
  cases frame with
  | error rc => exact .ret _
  | ok f =>
      refine .send (hframe f rfl) fun r => ?_
      cases r with
      | error e => exact .ret _
      | ok => exact hk

theorem offers_recvFrame {fail : UdsTpError → α} {k : Frame cap → Proc (Frame cap) UdsCanError α}
    (hk : ∀ f, (k f).Offers out) : (recvFrame fail k).Offers out := by
  refine .recv fun r => ?_
  cases r with
  | error e => cases e <;> exact .ret _
  | ok f => exact hk f

/-! ## Sending -/

theorem offers_recvFlowControl {k : UdsTpFlowStatus → UInt8 → SendProc cap}
    (hk : ∀ fs bs, (k fs bs).Offers out) : (recvFlowControl k).Offers out := by
  apply offers_recvFrame
  intro f
  unfold onFlowControl
  split
  · exact .ret _
  · exact .ret _
  · exact hk _ _

theorem offers_waitLoop {k : UInt8 → SendProc cap} (hk : ∀ bs, (k bs).Offers out) (n : Nat)
    {waitCount : Nat} (hn : udsTpMaxWaitFrames - waitCount = n) (fs : UdsTpFlowStatus)
    (bs : UInt8) : (waitLoop k waitCount fs bs).Offers out := by
  induction n generalizing waitCount fs bs with
  | zero =>
      rw [waitLoop]
      by_cases hfs : fs = .wait
      · rw [if_pos hfs, dif_pos (by omega)]
        exact .ret _
      · rw [if_neg hfs]
        exact hk bs
  | succ n ih =>
      rw [waitLoop]
      by_cases hfs : fs = .wait
      · rw [if_pos hfs]
        by_cases hlimit : waitCount + 1 > udsTpMaxWaitFrames
        · rw [dif_pos hlimit]
          exact .ret _
        · rw [dif_neg hlimit]
          exact offers_recvFlowControl (ih (by omega))
      · rw [if_neg hfs]
        exact hk bs

theorem offers_sendLoops (fmt : LinkFormat cap) {txId : UInt32}
    (hcf : ∀ chunk sn f, encodeCf fmt txId chunk sn = .ok f → out f) (data : List UInt8) (n : Nat)
    {offset : Nat} (hn : data.length - offset ≤ n) (sn : Nat) :
    (sendLoop fmt txId data offset sn).Offers out ∧
      ∀ bsSent bs, (sendBlock fmt txId data offset sn bsSent bs).Offers out := by
  induction n generalizing offset sn with
  | zero =>
      have hle : data.length ≤ offset := by omega
      refine ⟨?_, fun bsSent bs => ?_⟩
      · rw [sendLoop_of_le fmt txId data sn hle]
        exact .ret _
      · rw [sendBlock_of_le fmt txId data sn bsSent bs hle]
        exact .ret _
  | succ n ih =>
      have hpos := fmt.cfDataBytes_pos
      have hblock : ∀ bsSent bs, (sendBlock fmt txId data offset sn bsSent bs).Offers out := by
        intro bsSent bs
        by_cases hlt : offset < data.length
        · have hless : data.length - (offset + min fmt.cfDataBytes (data.length - offset)) ≤ n := by
            omega
          have hrest := ih hless ((sn + 1) &&& 0x0F)
          rw [sendBlock, dif_pos hlt]
          apply offers_sendFrame (hcf _ _)
          split
          · exact hrest.1
          · exact hrest.2 _ _
        · rw [sendBlock_of_le fmt txId data sn bsSent bs (Nat.not_lt.mp hlt)]
          exact .ret _
      refine ⟨?_, hblock⟩
      by_cases hlt : offset < data.length
      · rw [sendLoop_of_lt fmt txId data sn hlt]
        exact offers_recvFlowControl (offers_waitLoop (hblock 0) (udsTpMaxWaitFrames - 0) rfl)
      · rw [sendLoop_of_le fmt txId data sn (Nat.not_lt.mp hlt)]
        exact .ret _

/-! ## Receiving -/

section Recv

variable (fmt : LinkFormat cap) {txId : UInt32} {cfg : UdsTpConfig} (bufSize totalLen outLen : Nat)

theorem offers_recvLoop (hfc : ∀ f, encodeFc fmt txId .cts cfg.blockSize cfg.stMin = .ok f → out f)
    (n : Nat) {received : Nat} (hn : totalLen - received ≤ n) (sn bsCount : Nat)
    (buf : Mem UInt8) :
    (recvLoop fmt txId cfg bufSize totalLen outLen received sn bsCount buf).Offers out := by
  induction n generalizing received sn bsCount buf with
  | zero =>
      rw [recvLoop_of_le _ _ (by omega)]
      exact .ret _
  | succ n ih =>
      by_cases hlt : received < totalLen
      · have hpos := fmt.cfDataBytes_pos
        have hnext (bsCount : Nat) :
            (recvFrame (⟨·, buf, outLen⟩) (storeConsecutive fmt bufSize outLen received sn
              (min fmt.cfDataBytes (totalLen - received)) buf fun buf =>
                recvLoop fmt txId cfg bufSize totalLen outLen
                  (received + min fmt.cfDataBytes (totalLen - received)) ((sn + 1) &&& 0x0F)
                  ((bsCount + 1) % 256) buf)).Offers out := by
          apply offers_recvFrame
          intro f
          unfold storeConsecutive
          split
          · exact .ret _
          · split
            · exact .ret _
            · split
              · exact .ret _
              · exact ih (by omega) _ _ _
        rw [recvLoop, dif_pos hlt]
        dsimp only
        unfold resendFlowControl
        split
        · exact offers_sendFrame hfc (hnext _)
        · exact hnext _
      · rw [recvLoop_of_le _ _ (by omega)]
        exact .ret _

theorem offers_recvMulti
    (hfc : ∀ f, encodeFc fmt txId .cts cfg.blockSize cfg.stMin = .ok f → out f) (received : Nat)
    (buf : Mem UInt8) :
    (recvMulti fmt txId cfg bufSize totalLen outLen received buf).Offers out :=
  offers_sendFrame hfc (offers_recvLoop fmt bufSize totalLen outLen hfc _ le_rfl 1 0 buf)

end Recv

/-- A receiver sends its Flow Control and nothing else. -/
theorem offers_udsTpRecv_of {out : CanFrame → Prop} {txId : UInt32} (buf : Mem UInt8)
    (bufSize outLen : Nat) (cfg : UdsTpConfig)
    (hfc : ∀ f, encodeFc classic txId .cts cfg.blockSize cfg.stMin = .ok f → out f) :
    (udsTpRecv txId buf bufSize outLen cfg).Offers out := by
  unfold udsTpRecv
  split
  · exact .ret _
  · split
    · exact .ret _
    · apply offers_recvFrame
      intro f
      unfold onFirstFrame
      split
      · split
        · exact .ret _
        · exact .ret _
      · split
        · exact .ret _
        · split
          · exact .ret _
          · exact offers_recvMulti classic _ _ _ hfc _ _
      · exact .ret _

end Offers

/-! ## Identifiers -/

section CanId

variable {cap : Nat} {txId : UInt32}

theorem canId_of_encodeFc {fmt : LinkFormat cap} {fs : UdsTpFlowStatus} {bs st : UInt8}
    {f : Frame cap} (h : encodeFc fmt txId fs bs st = .ok f) : f.canId = txId := by
  unfold encodeFc at h
  cases h
  rfl

theorem canId_of_encodeCf {fmt : LinkFormat cap} {chunk : List UInt8} {sn : Nat} {f : Frame cap}
    (h : encodeCf fmt txId chunk sn = .ok f) : f.canId = txId := by
  unfold encodeCf at h
  split at h
  · cases h
  · cases h
    rfl

theorem offers_udsTpSend (data : List UInt8) (cfg : UdsTpConfig) :
    (udsTpSend txId data cfg).Offers fun f => f.canId = txId := by
  have hloop : (sendLoop classic txId data udsTpFfDataBytes 1).Offers fun f => f.canId = txId :=
    (offers_sendLoops classic (fun _ _ _ => canId_of_encodeCf) data _ le_rfl 1).1
  unfold udsTpSend
  split
  · exact .ret _
  · split
    · exact .ret _
    · split
      · refine offers_sendFrame (fun f hf => ?_) (.ret _)
        unfold udsTpEncodeSf at hf
        split at hf
        · cases hf
        · cases hf
          rfl
      · refine offers_sendFrame (fun f hf => ?_) hloop
        unfold udsTpEncodeFf at hf
        split at hf
        · cases hf
        · cases hf
          rfl

theorem offers_udsTpRecv (buf : Mem UInt8) (bufSize outLen : Nat) (cfg : UdsTpConfig) :
    (udsTpRecv txId buf bufSize outLen cfg).Offers fun f => f.canId = txId :=
  offers_udsTpRecv_of buf bufSize outLen cfg fun _ hf => canId_of_encodeFc hf

end CanId

end Uds.Tp
