import Uds.Can.Frame
import Uds.Base.Proc
import Uds.Tools.Client
import Uds.Tp.Frame
/-!
# The Python transport, sending

`IsoTpTransport.send` (`transport.py`) as a process on the bus: a call of
`bus.send` or `bus.recv` is one action.  A message that python-can sends fills
its frame up with zeros, and `msg.data` of a received one is as long as its
frame says.  The pause between Consecutive Frames is left out, as in the model of
the C sender: no deadline passes during a pause.
-/

namespace Uds.Tools

open Uds.Base Uds.Can Uds.Tp

/-- What sending uses of a transport that is open. -/
structure IsoTpTransport where
  txId : UInt32
  rxId : UInt32
  /-- How often `bus.recv` can be called before a deadline. -/
  polls : Nat

abbrev PyProc (cap : Nat) := Proc (Frame cap) UdsCanError (Except PyError Unit)

variable {cap : Nat}

/-- `bytes(msg.data)`. -/
def msgData (f : Frame cap) : List UInt8 := f.data.take f.len

/-- The answer to `bus.send`. -/
def onSent (k : PyProc cap) : Except UdsCanError Unit → PyProc cap
  | .error _ => .ret (.error .canError)
  | .ok _ => k

/-- `bus.send`. -/
def busSend (frame : Frame cap) (k : PyProc cap) : PyProc cap := .send frame (onSent k)

/-- `_check_fc_continue`; `k` gets the block size. -/
def checkFcContinue (k : Nat → PyProc cap) : Option (List UInt8) → PyProc cap
  | none => .ret (.error .udsTimeoutError)
  | some [] => .ret (.error .indexError)
  | some (b :: rest) =>
    if b ≠ 0x30 then
      .ret (.error (.udsProtocolError ("Expected FC ContinueToSend, got 0x" ++ (hex [b]).toUpper)))
    else
      match rest with
      | blockSize :: _ :: _ => k blockSize.toNat
      | _ => .ret (.error .indexError)

namespace IsoTpTransport

variable (tp : IsoTpTransport)

/-- The answer to one `bus.recv`: a frame with another identifier is skipped. -/
def onMessage (k : Option (List UInt8) → PyProc cap) (next : PyProc cap) :
    Except UdsCanError (Frame cap) → PyProc cap
  | .error _ => next
  | .ok f => if f.canId = tp.rxId then k (some (msgData f)) else next

/-- `_recv_frame`, when `bus.recv` can be called `polls` more times; `k` gets the
content of the first frame with the expected identifier. -/
def recvFrame (k : Option (List UInt8) → PyProc cap) : Nat → PyProc cap
  | 0 => k none
  | polls + 1 => .recv (tp.onMessage k (recvFrame k polls))

/-- Wait for Flow Control. -/
def recvFlowControl (k : Nat → PyProc cap) : PyProc cap :=
  tp.recvFrame (checkFcContinue k) tp.polls

/-- A Consecutive Frame: eight bytes on classic CAN, as long as its content on
CAN FD. -/
def makeCf (fmt : LinkFormat cap) (chunk : List UInt8) (h : chunk.length ≤ fmt.cfDataBytes)
    (sn : Nat) : Frame cap :=
  .ofBytes tp.txId (fmt.cfLen chunk.length) (fmt.cfLen_le _ h)
    (UInt8.ofNat (0x20 ||| (sn &&& 0x0F)) :: chunk)

/-- The loop over the Consecutive Frames, which `_send_multi_classic` and
`_send_multi_fd` share. -/
def sendLoop (fmt : LinkFormat cap) (data : List UInt8)
    (offset sn blockCount blockSize : Nat) : PyProc cap :=
  if _h : offset < data.length then
    let chunk := (data.drop offset).take fmt.cfDataBytes
    busSend (tp.makeCf fmt chunk (List.length_take_le ..) sn)
      -- Flow Control is awaited after every full block, also after the last frame
      (if blockSize ≠ 0 ∧ blockCount + 1 ≥ blockSize then
        tp.recvFlowControl fun blockSize =>
          sendLoop fmt data (offset + chunk.length) ((sn + 1) &&& 0x0F) 0 blockSize
      else
        sendLoop fmt data (offset + chunk.length) ((sn + 1) &&& 0x0F) (blockCount + 1) blockSize)
  else .ret (.ok ())
  termination_by data.length - offset
  decreasing_by
    all_goals
      have hpos := fmt.cfDataBytes_pos
      rw [List.length_take, List.length_drop]
      omega

/-- A First Frame, the first Flow Control and the loop. -/
def sendMulti (fmt : LinkFormat cap) (ff : Frame cap) (data : List UInt8) (offset : Nat) :
    PyProc cap :=
  busSend ff (tp.recvFlowControl fun blockSize => tp.sendLoop fmt data offset 1 0 blockSize)

def sendMultiClassic (data : List UInt8) : PyProc 8 :=
  let total := data.length
  tp.sendMulti classic
    (.ofBytes tp.txId 8 Frame.le_classic
      ([UInt8.ofNat (0x10 ||| ((total >>> 8) &&& 0x0F)), UInt8.ofNat (total &&& 0xFF)] ++
        data.take 6)) data 6

def sendMultiFd (data : List UInt8) : PyProc 64 :=
  let total := data.length
  if total ≤ 4095 then
    let embed := min total 62
    tp.sendMulti canFd
      (.ofBytes tp.txId (2 + embed) (by omega)
        ([UInt8.ofNat (0x10 ||| ((total >>> 8) &&& 0x0F)), UInt8.ofNat (total &&& 0xFF)] ++
          data.take embed)) data embed
  else
    let embed := min total 58
    tp.sendMulti canFd
      (.ofBytes tp.txId (6 + embed) (by omega)
        ([0x10, 0x00, UInt8.ofNat ((total >>> 24) &&& 0xFF),
          UInt8.ofNat ((total >>> 16) &&& 0xFF), UInt8.ofNat ((total >>> 8) &&& 0xFF),
          UInt8.ofNat (total &&& 0xFF)] ++ data.take embed)) data embed

/-- `send` of a classic transport. -/
def send (data : List UInt8) : PyProc 8 :=
  if data.length ≤ 7 then
    busSend (.ofBytes tp.txId 8 Frame.le_classic (UInt8.ofNat data.length :: data))
      (.ret (.ok ()))
  else tp.sendMultiClassic data

/-- `send` of a CAN FD transport; a short payload goes into a frame of eight
bytes, a longer one behind the escape sequence. -/
def sendFd (data : List UInt8) : PyProc 64 :=
  if h : data.length ≤ 62 then
    if data.length > 7 then
      busSend (.ofBytes tp.txId (2 + data.length) (by omega)
        ([0x00, UInt8.ofNat data.length] ++ data)) (.ret (.ok ()))
    else busSend (.ofBytes tp.txId 8 (by omega) (UInt8.ofNat data.length :: data)) (.ret (.ok ()))
  else tp.sendMultiFd data

end IsoTpTransport

end Uds.Tools
