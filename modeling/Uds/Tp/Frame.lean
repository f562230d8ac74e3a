import Uds.Can.Frame
/-!
# ISO-TP frames

Classification, encoding and decoding of Single, First, Consecutive and Flow
Control frames (`iso_tp.c`), for classic CAN and for CAN FD.  The two variants
of an operation that differ only in the size of the frame are one definition
applied twice.  A decoder returns the bytes that the source copies to the
caller's buffer; a NULL argument is not representable.
-/

namespace Uds.Tp

open Uds.Base Uds.Can

def udsTpMaxPduLen : Nat := 4095
def udsTpSfMaxData : Nat := 7
def udsTpFfDataBytes : Nat := 6
def udsTpCfDataBytes : Nat := 7
def udsTpMaxWaitFrames : Nat := 10

def udsTpCanfdSfEscapeMinDl : Nat := udsTpSfMaxData + 1
def udsTpCanfdSfMaxData : Nat := 62
def udsTpCanfdFfDataBytes : Nat := 62
def udsTpCanfdFfExtDataBytes : Nat := 58
def udsTpCanfdCfDataBytes : Nat := 63
def udsTpCanfdFfExtThreshold : Nat := 4095
def udsTpCanfdMaxPduLen : Nat := 0xFFFFFFFF

inductive UdsTpFrameType where
  | sf
  | ff
  | cf
  | fc
  | unknown
  deriving DecidableEq

inductive UdsTpFlowStatus where
  | cts
  | wait
  | overflow
  deriving DecidableEq

def UdsTpFlowStatus.toNat : UdsTpFlowStatus → Nat
  | cts => 0
  | wait => 1
  | overflow => 2

inductive UdsTpError where
  | ok
  | errParam
  | errTimeout
  | errOverflow
  | errSequence
  | errFrameType
  | errBufFull
  | errSend
  | errInprogress
  | errRecv
  | errPduLen
  | errWaitLimit
  deriving DecidableEq

/-- What the transfer loops of the two frame formats differ in: how many bytes
a Consecutive Frame holds, and the length field of one that carries `n`. -/
structure LinkFormat (cap : Nat) where
  cfDataBytes : Nat
  cfLen : Nat → Nat
  cap_eq : cap = cfDataBytes + 1
  cfDataBytes_pos : 2 ≤ cfDataBytes
  cfLen_le : ∀ n, n ≤ cfDataBytes → cfLen n ≤ cap
  lt_cfLen : ∀ n, n ≤ cfDataBytes → n < cfLen n

/-- Classic CAN: a Consecutive Frame always has DLC 8. -/
def classic : LinkFormat 8 where
  cfDataBytes := udsTpCfDataBytes
  cfLen := fun _ => 8
  cap_eq := rfl
  cfDataBytes_pos := by decide
  cfLen_le := fun _ _ => le_rfl
  lt_cfLen := fun _ h => Nat.lt_succ_of_le h

/-- CAN FD: a Consecutive Frame is as long as its content. -/
def canFd : LinkFormat 64 where
  cfDataBytes := udsTpCanfdCfDataBytes
  cfLen := fun n => 1 + n
  cap_eq := rfl
  cfDataBytes_pos := by decide
  cfLen_le := fun _ h => by unfold udsTpCanfdCfDataBytes at h; omega
  lt_cfLen := fun _ _ => by omega

/-! ## Frame classification -/

variable {cap : Nat}

/-- The frame type in the upper nibble of the first byte. -/
def frameType (frame : Frame cap) : UdsTpFrameType :=
  if frame.len = 0 then .unknown
  else
    match ((frame.byte 0).toNat >>> 4) &&& 0x0F with
    | 0 => .sf
    | 1 => .ff
    | 2 => .cf
    | 3 => .fc
    | _ => .unknown

def udsTpFrameType : CanFrame → UdsTpFrameType := frameType

def udsTpFrameTypeFd : CanFdFrame → UdsTpFrameType := frameType

/-! ## Encoding -/

def udsTpEncodeSf (canId : UInt32) (data : List UInt8) : Except UdsTpError CanFrame :=
  if h : data.length = 0 ∨ data.length > udsTpSfMaxData then .error .errParam
  else .ok (.ofBytes canId (1 + data.length) (by unfold udsTpSfMaxData at h; omega)
    (UInt8.ofNat data.length :: data))

/-- `data` is the whole PDU, of which the first bytes are embedded. -/
def udsTpEncodeFf (canId : UInt32) (data : List UInt8) (totalLen : Nat) :
    Except UdsTpError CanFrame :=
  if totalLen < 8 ∨ totalLen > udsTpMaxPduLen then .error .errPduLen
  else .ok (.ofBytes canId 8 Frame.le_classic
    ([UInt8.ofNat (0x10 ||| ((totalLen >>> 8) &&& 0x0F)), UInt8.ofNat (totalLen &&& 0xFF)] ++
      data.take udsTpFfDataBytes))

def encodeCf (fmt : LinkFormat cap) (canId : UInt32) (data : List UInt8) (sn : Nat) :
    Except UdsTpError (Frame cap) :=
  if h : data.length = 0 ∨ data.length > fmt.cfDataBytes then .error .errParam
  else .ok (.ofBytes canId (fmt.cfLen data.length) (fmt.cfLen_le _ (by omega))
    (UInt8.ofNat (0x20 ||| (sn &&& 0x0F)) :: data))

def udsTpEncodeCf : UInt32 → List UInt8 → Nat → Except UdsTpError CanFrame :=
  encodeCf classic

def udsTpEncodeCfFd : UInt32 → List UInt8 → Nat → Except UdsTpError CanFdFrame :=
  encodeCf canFd

/-- The source's guard `fs > UDS_TP_FC_OVERFLOW` cannot fire on a flow status. -/
def encodeFc (fmt : LinkFormat cap) (canId : UInt32) (fs : UdsTpFlowStatus)
    (bs stmin : UInt8) : Except UdsTpError (Frame cap) :=
  .ok (.ofBytes canId 3 (by have := fmt.cap_eq; have := fmt.cfDataBytes_pos; omega)
    [UInt8.ofNat (0x30 ||| fs.toNat), bs, stmin])

def udsTpEncodeFc : UInt32 → UdsTpFlowStatus → UInt8 → UInt8 → Except UdsTpError CanFrame :=
  encodeFc classic

def udsTpEncodeFcFd :
    UInt32 → UdsTpFlowStatus → UInt8 → UInt8 → Except UdsTpError CanFdFrame :=
  encodeFc canFd

def udsTpEncodeSfFd (canId : UInt32) (data : List UInt8) : Except UdsTpError CanFdFrame :=
  if h : data.length = 0 ∨ data.length > udsTpCanfdSfMaxData then .error .errParam
  else if data.length ≤ udsTpSfMaxData then
    .ok (.ofBytes canId (1 + data.length) (by unfold udsTpCanfdSfMaxData at h; omega)
      (UInt8.ofNat data.length :: data))
  else
    -- escape sequence: a zero length nibble, then the length byte
    .ok (.ofBytes canId (2 + data.length) (by unfold udsTpCanfdSfMaxData at h; omega)
      ([0x00, UInt8.ofNat data.length] ++ data))

/-- `data` is the whole PDU, of which the first bytes are embedded. -/
def udsTpEncodeFfFd (canId : UInt32) (data : List UInt8) (totalLen : Nat) :
    Except UdsTpError CanFdFrame :=
  if totalLen = 0 then .error .errPduLen
  else if totalLen ≤ udsTpCanfdFfExtThreshold then
    if totalLen ≤ udsTpCanfdSfMaxData then .error .errPduLen
    else
      let embed := min totalLen udsTpCanfdFfDataBytes
      .ok (.ofBytes canId (2 + embed) (by unfold embed udsTpCanfdFfDataBytes; omega)
        ([UInt8.ofNat (0x10 ||| ((totalLen >>> 8) &&& 0x0F)),
          UInt8.ofNat (totalLen &&& 0xFF)] ++ data.take embed))
  else
    let embed := min totalLen udsTpCanfdFfExtDataBytes
    .ok (.ofBytes canId (6 + embed) (by unfold embed udsTpCanfdFfExtDataBytes; omega)
      ([0x10, 0x00, UInt8.ofNat ((totalLen >>> 24) &&& 0xFF),
        UInt8.ofNat ((totalLen >>> 16) &&& 0xFF), UInt8.ofNat ((totalLen >>> 8) &&& 0xFF),
        UInt8.ofNat (totalLen &&& 0xFF)] ++ data.take embed))

/-! ## Decoding -/

def udsTpDecodeSf (frame : CanFrame) (bufSize : Nat) : Except UdsTpError (List UInt8) :=
  if bufSize = 0 then .error .errParam
  else if udsTpFrameType frame ≠ .sf then .error .errFrameType
  else
    let len := (frame.byte 0).toNat &&& 0x0F
    if len = 0 ∨ len > udsTpSfMaxData then .error .errParam
    else if frame.len < 1 + len then .error .errParam
    else if len > bufSize then .error .errBufFull
    else .ok (frame.slice 1 len)

/-- The declared length and the embedded bytes. -/
def udsTpDecodeFf (frame : CanFrame) (bufSize : Nat) :
    Except UdsTpError (Nat × List UInt8) :=
  if bufSize < udsTpFfDataBytes then .error .errParam
  else if udsTpFrameType frame ≠ .ff then .error .errFrameType
  else if frame.len < 8 then .error .errParam
  else
    let len := (((frame.byte 0).toNat &&& 0x0F) <<< 8) ||| (frame.byte 1).toNat
    if len < 8 ∨ len > udsTpMaxPduLen then .error .errPduLen
    else .ok (len, frame.slice 2 udsTpFfDataBytes)

/-- The sequence number and the first `maxData` bytes of content. -/
def decodeCf (fmt : LinkFormat cap) (frame : Frame cap) (bufSize maxData : Nat) :
    Except UdsTpError (Nat × List UInt8) :=
  if bufSize = 0 then .error .errParam
  else if maxData = 0 ∨ maxData > fmt.cfDataBytes then .error .errParam
  else if frameType frame ≠ .cf then .error .errFrameType
  else if frame.len < 2 then .error .errParam
  else if maxData > bufSize then .error .errBufFull
  else .ok ((frame.byte 0).toNat &&& 0x0F, frame.slice 1 maxData)

def udsTpDecodeCf : CanFrame → Nat → Nat → Except UdsTpError (Nat × List UInt8) :=
  decodeCf classic

def udsTpDecodeCfFd : CanFdFrame → Nat → Nat → Except UdsTpError (Nat × List UInt8) :=
  decodeCf canFd

/-- The flow status, block size and raw separation time. -/
def decodeFc (frame : Frame cap) : Except UdsTpError (UdsTpFlowStatus × UInt8 × UInt8) :=
  if frameType frame ≠ .fc then .error .errFrameType
  else if frame.len < 3 then .error .errParam
  else
    match (frame.byte 0).toNat &&& 0x0F with
    | 0 => .ok (.cts, frame.byte 1, frame.byte 2)
    | 1 => .ok (.wait, frame.byte 1, frame.byte 2)
    | 2 => .ok (.overflow, frame.byte 1, frame.byte 2)
    | _ => .error .errParam

def udsTpDecodeFc : CanFrame → Except UdsTpError (UdsTpFlowStatus × UInt8 × UInt8) :=
  decodeFc

def udsTpDecodeFcFd : CanFdFrame → Except UdsTpError (UdsTpFlowStatus × UInt8 × UInt8) :=
  decodeFc

def udsTpDecodeSfFd (frame : CanFdFrame) (bufSize : Nat) : Except UdsTpError (List UInt8) :=
  if bufSize = 0 then .error .errParam
  else if udsTpFrameTypeFd frame ≠ .sf then .error .errFrameType
  else if (frame.byte 0).toNat &&& 0x0F = 0 then
    if frame.len < 2 then .error .errParam
    else
      let len := (frame.byte 1).toNat
      if len < udsTpCanfdSfEscapeMinDl ∨ len > udsTpCanfdSfMaxData then .error .errParam
      else if frame.len < 2 + len then .error .errParam
      else if len > bufSize then .error .errBufFull
      else .ok (frame.slice 2 len)
  else
    let len := (frame.byte 0).toNat &&& 0x0F
    if len > udsTpSfMaxData then .error .errParam
    else if frame.len < 1 + len then .error .errParam
    else if len > bufSize then .error .errBufFull
    else .ok (frame.slice 1 len)

/-- The declared length and the embedded bytes, as many as the frame's length
leaves room for. -/
def udsTpDecodeFfFd (frame : CanFdFrame) (bufSize : Nat) :
    Except UdsTpError (Nat × List UInt8) :=
  if udsTpFrameTypeFd frame ≠ .ff then .error .errFrameType
  else if frame.byte 1 = 0x00 ∧ (frame.byte 0).toNat &&& 0x0F = 0 then
    if frame.len < 6 then .error .errParam
    else
      let len := ((frame.byte 2).toNat <<< 24) ||| ((frame.byte 3).toNat <<< 16) |||
        ((frame.byte 4).toNat <<< 8) ||| (frame.byte 5).toNat
      if len = 0 then .error .errPduLen
      else
        let embed := min (frame.len - 6) udsTpCanfdFfExtDataBytes
        if embed > bufSize then .error .errBufFull
        else .ok (len, frame.slice 6 embed)
  else
    let len := (((frame.byte 0).toNat &&& 0x0F) <<< 8) ||| (frame.byte 1).toNat
    if len ≤ udsTpCanfdSfMaxData ∨ len > udsTpCanfdFfExtThreshold then .error .errPduLen
    else
      let embed := min (frame.len - 2) udsTpCanfdFfDataBytes
      if embed > bufSize then .error .errBufFull
      else .ok (len, frame.slice 2 embed)

end Uds.Tp
