import Uds.Base.Memory
import Uds.Base.Proc
import Uds.Tp.Frame
/-!
# Sending and receiving a PDU

`uds_tp_send`, `uds_tp_recv` and their CAN FD twins as processes: a call of
`uds_can_send` or `uds_can_recv` is one action, whose answer is the status of
the call.  The frame loops of the two variants are the same program over
different frame formats.  The pause between Consecutive Frames is left out: it
changes when a frame is sent, not which, as long as no deadline of the other side
passes during the pause.  Where a deadline may pass, it is an action of its own.
-/

namespace Uds.Tp

open Uds.Base Uds.Can

structure UdsTpConfig where
  timeoutMs : UInt32
  blockSize : UInt8
  stMin : UInt8
  deriving DecidableEq

variable {cap : Nat} {α : Type}

/-- The status checks after `uds_can_recv`. -/
def onRecv (fail : UdsTpError → α) (k : Frame cap → Proc (Frame cap) UdsCanError α) :
    Except UdsCanError (Frame cap) → Proc (Frame cap) UdsCanError α
  | .error .errTimeout => .ret (fail .errTimeout)
  | .error _ => .ret (fail .errRecv)
  | .ok frame => k frame

/-- `uds_can_recv` and the status checks after it. -/
def recvFrame (fail : UdsTpError → α) (k : Frame cap → Proc (Frame cap) UdsCanError α) :
    Proc (Frame cap) UdsCanError α :=
  .recv (onRecv fail k)

/-- The status check after `uds_can_send`. -/
def onSend (fail : UdsTpError → α) (k : Proc (Frame cap) UdsCanError α) :
    Except UdsCanError Unit → Proc (Frame cap) UdsCanError α
  | .error _ => .ret (fail .errSend)
  | .ok _ => k

/-- `uds_can_send` of a frame that was encoded with the given outcome. -/
def sendFrame (fail : UdsTpError → α) (frame : Except UdsTpError (Frame cap))
    (k : Proc (Frame cap) UdsCanError α) : Proc (Frame cap) UdsCanError α :=
  match frame with
  | .error rc => .ret (fail rc)
  | .ok frame => .send frame (onSend fail k)

/-! ## Sending -/

abbrev SendProc (cap : Nat) := Proc (Frame cap) UdsCanError UdsTpError

/-- The checks on a Flow Control frame; `k` gets its flow status and block size. -/
def onFlowControl (k : UdsTpFlowStatus → UInt8 → SendProc cap) (fc : Frame cap) :
    SendProc cap :=
  match decodeFc fc with
  | .error rc => .ret rc
  | .ok (.overflow, _, _) => .ret .errOverflow
  | .ok (fs, bs, _) => k fs bs

/-- Read one Flow Control frame. -/
def recvFlowControl (k : UdsTpFlowStatus → UInt8 → SendProc cap) : SendProc cap :=
  recvFrame id (onFlowControl k)

/-- The WAIT loop: `k` gets the block size of the first frame that is no WAIT. -/
def waitLoop (k : UInt8 → SendProc cap) (waitCount : Nat) (fs : UdsTpFlowStatus)
    (bs : UInt8) : SendProc cap :=
  if fs = .wait then
    if _h : waitCount + 1 > udsTpMaxWaitFrames then .ret .errWaitLimit
    else recvFlowControl (waitLoop k (waitCount + 1))
  else k bs
  termination_by udsTpMaxWaitFrames - waitCount

mutual

/-- The outer loop, at its head. -/
def sendLoop (fmt : LinkFormat cap) (txId : UInt32) (data : List UInt8) (offset sn : Nat) :
    SendProc cap :=
  if _h : offset < data.length then
    recvFlowControl (waitLoop (fun bs => sendBlock fmt txId data offset sn 0 bs) 0)
  else .ret .ok
  termination_by if offset < data.length then 2 * (data.length - offset) + 1 else 0
  decreasing_by
    rw [if_pos _h, if_pos _h]
    omega

/-- The inner loop, at its head: one block of Consecutive Frames. -/
def sendBlock (fmt : LinkFormat cap) (txId : UInt32) (data : List UInt8)
    (offset sn bsSent : Nat) (bs : UInt8) : SendProc cap :=
  if _h : offset < data.length then
    let chunk := min fmt.cfDataBytes (data.length - offset)
    let sn' := (sn + 1) &&& 0x0F
    let bsSent' := (bsSent + 1) % 256
    sendFrame id (encodeCf fmt txId ((data.drop offset).take chunk) sn)
      (if 0 < bs.toNat ∧ bs.toNat ≤ bsSent' then
        sendLoop fmt txId data (offset + chunk) sn'
      else sendBlock fmt txId data (offset + chunk) sn' bsSent' bs)
  else sendLoop fmt txId data offset sn
  termination_by if offset < data.length then 2 * (data.length - offset) else 1
  decreasing_by
    · have hpos := LinkFormat.cfDataBytes_pos ‹LinkFormat _›
      rw [if_pos _h]
      split <;> omega
    · have hpos := LinkFormat.cfDataBytes_pos ‹LinkFormat _›
      rw [if_pos _h]
      split <;> omega
    · rw [if_neg _h, if_neg _h]
      omega

end

def udsTpSend (txId : UInt32) (data : List UInt8) (cfg : UdsTpConfig) :
    Proc CanFrame UdsCanError UdsTpError :=
  if data.length = 0 ∨ data.length > udsTpMaxPduLen then .ret .errParam
  else if cfg.timeoutMs = 0 then .ret .errParam
  else if data.length ≤ udsTpSfMaxData then
    sendFrame id (udsTpEncodeSf txId data) (.ret .ok)
  else
    sendFrame id (udsTpEncodeFf txId data data.length)
      (sendLoop classic txId data udsTpFfDataBytes 1)

def udsTpSendFd (txId : UInt32) (data : List UInt8) (cfg : UdsTpConfig) :
    Proc CanFdFrame UdsCanError UdsTpError :=
  if data.length = 0 then .ret .errParam
  else if cfg.timeoutMs = 0 then .ret .errParam
  else if data.length ≤ udsTpCanfdSfMaxData then
    sendFrame id (udsTpEncodeSfFd txId data) (.ret .ok)
  else if data.length > udsTpCanfdMaxPduLen then .ret .errPduLen
  else
    let ffEmbed := if data.length ≤ udsTpCanfdFfExtThreshold then udsTpCanfdFfDataBytes
      else udsTpCanfdFfExtDataBytes
    sendFrame id (udsTpEncodeFfFd txId data data.length)
      (sendLoop canFd txId data (min ffEmbed data.length) 1)

/-! ## Receiving -/

/-- The return code, the caller's buffer and `*out_len` when the call returns. -/
structure UdsTpRecvResult where
  rc : UdsTpError
  buf : Mem UInt8
  outLen : Nat

abbrev RecvProc (cap : Nat) := Proc (Frame cap) UdsCanError UdsTpRecvResult

section RecvLoop

variable (fmt : LinkFormat cap) (txId : UInt32) (cfg : UdsTpConfig)
  (bufSize totalLen outLen : Nat)

/-- Send Flow Control again when the block is exhausted; `k` gets the count of
frames in the current block. -/
def resendFlowControl (buf : Mem UInt8) (bsCount : Nat) (k : Nat → RecvProc cap) :
    RecvProc cap :=
  if 0 < cfg.blockSize.toNat ∧ cfg.blockSize.toNat ≤ bsCount then
    sendFrame (⟨·, buf, outLen⟩) (encodeFc fmt txId .cts cfg.blockSize cfg.stMin) (k 0)
  else k bsCount

/-- Store a frame as the next Consecutive Frame; its content is copied before
the sequence number is compared. -/
def storeConsecutive (received expectedSn chunk : Nat) (buf : Mem UInt8)
    (k : Mem UInt8 → RecvProc cap) (frame : Frame cap) : RecvProc cap :=
  if frameType frame ≠ .cf then .ret ⟨.errFrameType, buf, outLen⟩
  else
    match decodeCf fmt frame (bufSize - received) chunk with
    | .error rc => .ret ⟨rc, buf, outLen⟩
    | .ok (sn, content) =>
      if sn ≠ expectedSn then .ret ⟨.errSequence, buf.store received content, outLen⟩
      else k (buf.store received content)

def recvLoop (received expectedSn bsCount : Nat) (buf : Mem UInt8) : RecvProc cap :=
  if _h : received < totalLen then
    let chunk := min fmt.cfDataBytes (totalLen - received)
    resendFlowControl fmt txId cfg outLen buf bsCount fun bsCount =>
      recvFrame (⟨·, buf, outLen⟩)
        (storeConsecutive fmt bufSize outLen received expectedSn chunk buf fun buf =>
          recvLoop (received + chunk) ((expectedSn + 1) &&& 0x0F) ((bsCount + 1) % 256) buf)
  else .ret ⟨.ok, buf, totalLen⟩
  termination_by totalLen - received
  decreasing_by
    have hpos := fmt.cfDataBytes_pos
    omega

/-- The first Flow Control and the loop, with `received` bytes already stored. -/
def recvMulti (received : Nat) (buf : Mem UInt8) : RecvProc cap :=
  sendFrame (⟨·, buf, outLen⟩) (encodeFc fmt txId .cts cfg.blockSize cfg.stMin)
    (recvLoop fmt txId cfg bufSize totalLen outLen received 1 0 buf)

end RecvLoop

/-- `uds_tp_recv` from its first frame on. -/
def onFirstFrame (txId : UInt32) (buf : Mem UInt8) (bufSize outLen : Nat) (cfg : UdsTpConfig)
    (frame : CanFrame) : RecvProc 8 :=
  match udsTpFrameType frame with
  | .sf =>
    match udsTpDecodeSf frame bufSize with
    | .error rc => .ret ⟨rc, buf, outLen⟩
    | .ok payload => .ret ⟨.ok, buf.store 0 payload, payload.length⟩
  | .ff =>
    match udsTpDecodeFf frame bufSize with
    | .error rc => .ret ⟨rc, buf, outLen⟩
    | .ok (totalLen, embedded) =>
      -- the source compares with `(uint32_t)buf_size`
      if totalLen > bufSize % 2 ^ 32 then .ret ⟨.errBufFull, buf.store 0 embedded, outLen⟩
      else
        recvMulti classic txId cfg bufSize totalLen outLen udsTpFfDataBytes
          (buf.store 0 embedded)
  | _ => .ret ⟨.errFrameType, buf, outLen⟩

def udsTpRecv (txId : UInt32) (buf : Mem UInt8) (bufSize outLen : Nat) (cfg : UdsTpConfig) :
    Proc CanFrame UdsCanError UdsTpRecvResult :=
  if bufSize = 0 then .ret ⟨.errParam, buf, outLen⟩
  else if cfg.timeoutMs = 0 then .ret ⟨.errParam, buf, outLen⟩
  else recvFrame (⟨·, buf, outLen⟩) (onFirstFrame txId buf bufSize outLen cfg)

/-- `uds_tp_recv_fd` from its first frame on. -/
def onFirstFrameFd (txId : UInt32) (buf : Mem UInt8) (bufSize outLen : Nat)
    (cfg : UdsTpConfig) (frame : CanFdFrame) : RecvProc 64 :=
  match udsTpFrameTypeFd frame with
  | .sf =>
    match udsTpDecodeSfFd frame bufSize with
    | .error rc => .ret ⟨rc, buf, outLen⟩
    | .ok payload => .ret ⟨.ok, buf.store 0 payload, payload.length⟩
  | .ff =>
    match udsTpDecodeFfFd frame bufSize with
    | .error rc => .ret ⟨rc, buf, outLen⟩
    | .ok (totalLen, embedded) =>
      if totalLen > bufSize then .ret ⟨.errBufFull, buf.store 0 embedded, outLen⟩
      else
        recvMulti canFd txId cfg bufSize totalLen outLen embedded.length
          (buf.store 0 embedded)
  | _ => .ret ⟨.errFrameType, buf, outLen⟩

def udsTpRecvFd (txId : UInt32) (buf : Mem UInt8) (bufSize outLen : Nat)
    (cfg : UdsTpConfig) : Proc CanFdFrame UdsCanError UdsTpRecvResult :=
  if bufSize = 0 then .ret ⟨.errParam, buf, outLen⟩
  else if cfg.timeoutMs = 0 then .ret ⟨.errParam, buf, outLen⟩
  else recvFrame (⟨·, buf, outLen⟩) (onFirstFrameFd txId buf bufSize outLen cfg)

end Uds.Tp
