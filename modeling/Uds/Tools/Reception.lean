import Uds.Base.Agent
import Uds.Tools.Transport
/-!
# The Python transport, receiving

`IsoTpTransport.recv` (`transport.py`) as an agent on the bus: a call of
`_recv_frame` is one receive, which drops the frames with another identifier.
One deadline holds for a whole call of `recv`; `polls` is the number of frames
that the call can take before it.
-/

namespace Uds.Tools

open Uds.Base Uds.Can Uds.Tp

abbrev PyRecv (cap : Nat) := Agent (Frame cap) (Except PyError (List UInt8))

variable {cap : Nat}

/-- `raise`. -/
def raiseError (e : PyError) : PyRecv cap := .ret (.error e)

/-- The upper nibble of a PCI byte. -/
def pciType (b : UInt8) : Nat := (b.toNat >>> 4) &&& 0x0F

/-- `f"0x{n:X}"` of a nibble. -/
def hexNibble (n : Nat) : String := "0x" ++ String.singleton (Nat.digitChar n).toUpper

/-- `_decode_sf`; the frame is not empty. -/
def decodeSf (fd : Bool) (frame : List UInt8) : Except PyError (List UInt8) :=
  let pci := (frame.getD 0 0).toNat
  if fd ∧ pci &&& 0x0F = 0 then
    -- the escape sequence: the length is in the second byte
    if frame.length < 2 then .error (.udsProtocolError "CAN FD SF escape sequence too short")
    else .ok ((frame.drop 2).take (frame.getD 1 0).toNat)
  else .ok ((frame.drop 1).take (pci &&& 0x0F))

/-- The checks on the next Consecutive Frame; `k` gets the buffer with its content. -/
def onConsecutive (fmt : LinkFormat cap) (total expectedSn : Nat) (buf : List UInt8)
    (k : List UInt8 → PyRecv cap) : Option (List UInt8) → PyRecv cap
  | none => raiseError .udsTimeoutError
  | some [] => raiseError .indexError
  | some (b :: content) =>
    let sn := b.toNat &&& 0x0F
    if pciType b ≠ 2 then
      raiseError (.udsProtocolError ("Expected CF, got frame type " ++ hexNibble (pciType b)))
    else if sn ≠ expectedSn then
      raiseError (.udsProtocolError
        ("CF sequence error: expected " ++ toString expectedSn ++ ", got " ++ toString sn))
    else k (buf ++ content.take (min fmt.cfDataBytes (total - buf.length)))

namespace IsoTpTransport

variable (tp : IsoTpTransport)

/-- `_recv_frame`; `k` gets the content of the frame. -/
def awaitFrame (k : Option (List UInt8) → PyRecv cap) : PyRecv cap :=
  .recv (fun f => f.canId = tp.rxId) (fun f => k (some (msgData f))) (k none)

theorem feed_awaitFrame {f : Frame cap} (h : f.canId = tp.rxId)
    (k : Option (List UInt8) → PyRecv cap) (frames : List (Frame cap)) :
    (tp.awaitFrame k).feed (f :: frames) = (k (some (msgData f))).feed frames := by
  rw [awaitFrame, Agent.feed_recv_cons]
  exact decide_eq_true h

/-- The loop over the Consecutive Frames, which `_recv_multi_classic` and
`_recv_multi_fd` share. -/
def recvLoop (fmt : LinkFormat cap) (total : Nat) : Nat → Nat → List UInt8 → PyRecv cap
  | 0, _, buf =>
    if buf.length < total then raiseError .udsTimeoutError else .ret (.ok (buf.take total))
  | polls + 1, expectedSn, buf =>
    if buf.length < total then
      tp.awaitFrame (onConsecutive fmt total expectedSn buf fun buf =>
        recvLoop fmt total polls ((expectedSn + 1) &&& 0x0F) buf)
    else .ret (.ok (buf.take total))

theorem recvLoop_of_lt (fmt : LinkFormat cap) {total : Nat} (polls sn : Nat) {buf : List UInt8}
    (h : buf.length < total) :
    tp.recvLoop fmt total (polls + 1) sn buf =
      tp.awaitFrame (onConsecutive fmt total sn buf fun buf =>
        tp.recvLoop fmt total polls ((sn + 1) &&& 0x0F) buf) := by
  rw [recvLoop, if_pos h]

theorem recvLoop_of_le (fmt : LinkFormat cap) {total : Nat} (polls sn : Nat) {buf : List UInt8}
    (h : total ≤ buf.length) :
    tp.recvLoop fmt total polls sn buf = .ret (.ok (buf.take total)) := by
  cases polls with
  | zero => rw [recvLoop, if_neg (Nat.not_lt.mpr h)]
  | succ polls => rw [recvLoop, if_neg (Nat.not_lt.mpr h)]

/-- Flow Control, ContinueToSend without limits, and the loop. -/
def recvMulti (fmt : LinkFormat cap) (fc : Frame cap) (total polls : Nat) (buf : List UInt8) :
    PyRecv cap :=
  .send fc (tp.recvLoop fmt total polls 1 buf)

def recvMultiClassic (firstFrame : List UInt8) (polls : Nat) : PyRecv 8 :=
  match firstFrame with
  | b₀ :: b₁ :: rest =>
    let total := ((b₀.toNat &&& 0x0F) <<< 8) ||| b₁.toNat
    tp.recvMulti classic (.ofBytes tp.txId 8 Frame.le_classic [0x30, 0x00, 0x00]) total polls
      (rest.take 6)
  | _ => raiseError .indexError

def recvMultiFd (firstFrame : List UInt8) (polls : Nat) : PyRecv 64 :=
  let fc : CanFdFrame := .ofBytes tp.txId 3 (by decide) [0x30, 0x00, 0x00]
  match firstFrame with
  | b₀ :: b₁ :: rest =>
    if b₁ = 0x00 ∧ b₀.toNat &&& 0x0F = 0 then
      match rest with
      | b₂ :: b₃ :: b₄ :: b₅ :: rest =>
        let total := (b₂.toNat <<< 24) ||| (b₃.toNat <<< 16) ||| (b₄.toNat <<< 8) ||| b₅.toNat
        tp.recvMulti canFd fc total polls rest
      | _ => raiseError .indexError
    else
      let total := ((b₀.toNat &&& 0x0F) <<< 8) ||| b₁.toNat
      tp.recvMulti canFd fc total polls rest
  | _ => raiseError .indexError

/-- `recv` from its first frame on. -/
def onFirstFrame (fd : Bool) (multi : List UInt8 → PyRecv cap) :
    Option (List UInt8) → PyRecv cap
  | none => raiseError .udsTimeoutError
  | some [] => raiseError .indexError
  | some (b :: rest) =>
    if pciType b = 0 then .ret (decodeSf fd (b :: rest))
    else if pciType b = 1 then multi (b :: rest)
    else
      raiseError (.udsProtocolError
        ("Unexpected frame type " ++ hexNibble (pciType b) ++ " as first frame"))

/-- `recv` of a classic transport. -/
def recv : PyRecv 8 :=
  match tp.polls with
  | 0 => raiseError .udsTimeoutError
  | polls + 1 => tp.awaitFrame (onFirstFrame false (tp.recvMultiClassic · polls))

/-- `recv` of a CAN FD transport. -/
def recvFd : PyRecv 64 :=
  match tp.polls with
  | 0 => raiseError .udsTimeoutError
  | polls + 1 => tp.awaitFrame (onFirstFrame true (tp.recvMultiFd · polls))

end IsoTpTransport

end Uds.Tools
