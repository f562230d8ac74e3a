import Mathlib.Logic.Function.Basic
import Uds.Base.Observer
import Uds.Ecusim.Revocation
import Uds.Ecusim.Responses
import Uds.Ecusim.Transfers
import Uds.Core.DidStore
import Uds.Core.DtcReports
/-!
# What the answers tell

A tester that keeps a ledger of its requests and the answers to them knows the simulator:
the session, the unlocked level, the data of the identifiers, the status of the trouble
codes, the flash and the transfer in progress.  The ledger is kept in plain numbers, without
clocks, buffers and 32-bit arithmetic, and it foretells the answer to every request but
Security Access, byte for byte.
-/

namespace Uds.Ecusim

open Uds.Base Uds.Core Uds.Bootloader

/-! ## The ledger -/

/-- A transfer of `len` bytes from `address`, of which `offset` are transferred. -/
structure OpenTransfer where
  upload : Bool
  address : Nat
  len : Nat
  offset : Nat
  seq : UInt8

structure Ledger where
  session : UdsSessionType
  unlockedLevel : UInt8
  did : UInt16 → List UInt8
  dtcStatus : UInt32 → UInt8
  flash : Mem UInt8
  transfer : Option OpenTransfer

/-- The identifiers of the simulator, with other data. -/
def didsOf (reg : UdsDidRegistry) (value : UInt16 → List UInt8) : UdsDidRegistry :=
  reg.map fun e => { e with data := value e.didId }

/-- The trouble codes of the simulator, with another status. -/
def dtcsOf (status : UInt32 → UInt8) : UdsDtcRegistry :=
  defaultDtcs.map fun e => { e with status := status e.dtcCode }

/-- Every identifier as registered, two stored trouble codes, an erased flash. -/
def ledgerInit : Ledger where
  session := .default
  unlockedLevel := 0
  did := didData defaultDids
  dtcStatus := fun code => if code = 0x010001 then 0x28 else 0x04
  flash := fun _ => udsFlashEraseValue
  transfer := none

/-! ## Fields of a request -/

/-- Address and size of a 0x34 or 0x35 request; the low nibble of the format byte is the
width of the one, the high nibble that of the other. -/
def rangeOfRequest (req : List UInt8) : Option (Nat × Nat) :=
  let addrLen := (req.getD 2 0).toNat % 16
  let sizeLen := (req.getD 2 0).toNat / 16
  if 1 ≤ addrLen ∧ addrLen ≤ 4 ∧ 1 ≤ sizeLen ∧ sizeLen ≤ 4 ∧
      3 + addrLen + sizeLen ≤ req.length then
    some (natBE ((req.drop 3).take addrLen), natBE ((req.drop (3 + addrLen)).take sizeLen))
  else none

/-- The group of a 0x14 request. -/
def groupOfRequest (req : List UInt8) : UInt32 :=
  ((req.getD 1 0).toUInt32 <<< 16) ||| ((req.getD 2 0).toUInt32 <<< 8) ||| (req.getD 3 0).toUInt32

/-- The group names the code: it names all of them, or has the same high byte. -/
def Names (group code : UInt32) : Prop := group = 0xFFFFFF ∨ dtcGroup code = dtcGroup group

instance (group code : UInt32) : Decidable (Names group code) :=
  inferInstanceAs (Decidable (_ ∨ _))

/-! ## What an accepted request changes -/

/-- The transfer after a block of `n` bytes; the counter wraps to one. -/
def OpenTransfer.advance (t : OpenTransfer) (n : Nat) : OpenTransfer :=
  { t with offset := t.offset + n, seq := nextBlockSeq t.seq }

/-- The number of bytes in the next block of an upload. -/
def OpenTransfer.next (t : OpenTransfer) : Nat := min 15 (t.len - t.offset)

/-- An accepted block: the next bytes read, or the bytes of the request written. -/
def Ledger.acceptBlock (l : Ledger) (data : List UInt8) : Ledger :=
  match l.transfer with
  | none => l
  | some t =>
    if t.upload then { l with transfer := some (t.advance t.next) }
    else
      { l with
        flash := l.flash.store (t.address + t.offset) data
        transfer := some (t.advance data.length) }

def Ledger.accept (l : Ledger) (req : List UInt8) : Service → Ledger
  | .diagnosticSessionControl =>
    { l with session := (UdsSessionType.ofCode (req.getD 1 0)).getD l.session }
  | .securityAccess =>
    if req.getD 1 0 &&& 0x01 = 0 then { l with unlockedLevel := req.getD 1 0 - 1 } else l
  | .writeDataByIdentifier =>
    { l with did := Function.update l.did (writtenDid req) (req.drop 3) }
  | .ecuReset => { l with session := .default, unlockedLevel := 0 }
  | .clearDiagnosticInformation =>
    { l with
      dtcStatus := fun code => if Names (groupOfRequest req) code then 0 else l.dtcStatus code }
  | .requestDownload =>
    match rangeOfRequest req with
    | none => l
    | some (address, len) =>
      { l with
        flash := l.flash.fill address len udsFlashEraseValue
        transfer := some ⟨false, address, len, 0, 0x01⟩ }
  | .requestUpload =>
    match rangeOfRequest req with
    | none => l
    | some (address, len) => { l with transfer := some ⟨true, address, len, 0, 0x01⟩ }
  | .transferData => l.acceptBlock (req.drop 2)
  | .requestTransferExit => { l with transfer := none }
  | .testerPresent => l
  | .readDataByIdentifier => l
  | .communicationControl => l
  | .readDtcInformation => l

/-- Only a positive response is noted. -/
def Ledger.note (l : Ledger) (req resp : List UInt8) : Ledger :=
  match req with
  | [] => l
  | sid :: _ =>
    match Service.ofSid sid with
    | none => l
    | some svc => if resp.head? = some (svc.sid + 0x40) then l.accept req svc else l

/-! ## What is foretold -/

/-- The answer that is expected, an NRC or a positive response; no bytes stand for none. -/
abbrev Expected := Except UdsNrc (List UInt8)

section Answers

variable (l : Ledger) (req : List UInt8)

/-- A byte that selects something, in a request of two bytes or more. -/
def selects (sid : UInt8) (ok : UInt8 → Bool) (resp : List UInt8) : Expected :=
  if req.length < 2 then .error .incorrectMsgLenOrFormat
  else if ok (req.getD 1 0) then .ok (sid :: req.getD 1 0 :: resp)
  else .error .subFunctionNotSupported

def testerPresentAnswer : Expected :=
  if req.length < 2 then .error .incorrectMsgLenOrFormat
  else if req.getD 1 0 = 0x00 then .ok [0x7E, 0x00]
  else if req.getD 1 0 = 0x80 then .ok []
  else .error .subFunctionNotSupported

/-- The records of the identifiers, if all are registered. -/
def Ledger.readAnswer : Expected :=
  if req.length < 3 ∨ (req.length - 1) % 2 ≠ 0 then .error .incorrectMsgLenOrFormat
  else if (req.length - 1) / 2 ≤ 16 ∧
      ∀ did ∈ didListOf (req.drop 1), Registered defaultDids did then
    .ok (0x62 :: (didListOf (req.drop 1)).flatMap (didRecord l.did))
  else .error .requestOutOfRange

def Ledger.writeAnswer : Expected :=
  if req.length < 4 then .error .incorrectMsgLenOrFormat
  else
    match didFind defaultDids (writtenDid req) with
    | none => .error .requestOutOfRange
    | some entry =>
      if entry.writable = false ∨ l.session.code < entry.minWriteSession then
        .error .requestOutOfRange
      else if entry.requiresSecurity = true ∧ l.unlockedLevel ≠ 0x01 then
        .error .securityAccessDenied
      else if req.length - 3 ≠ entry.data.length then .error .incorrectMsgLenOrFormat
      else .ok (0x6E :: didBytes (writtenDid req))

def commControlAnswer : Expected :=
  if req.length < 3 then .error .incorrectMsgLenOrFormat
  else if 0x03 < req.getD 1 0 then .error .subFunctionNotSupported
  else if req.getD 2 0 = 0x00 then .error .requestOutOfRange
  else .ok [0x68, req.getD 1 0]

/-- The group must be that of some code. -/
def clearAnswer : Expected :=
  if req.length < 4 then .error .incorrectMsgLenOrFormat
  else if ∃ e ∈ defaultDtcs, Names (groupOfRequest req) e.dtcCode then .ok [0x54]
  else .error .requestOutOfRange

/-- Number, list by mask, and list of all the trouble codes. -/
def Ledger.dtcAnswer : Expected :=
  let stored := matchingDtcs (dtcsOf l.dtcStatus) (req.getD 2 0)
  if req.length < 2 then .error .incorrectMsgLenOrFormat
  else if req.getD 1 0 = 0x0A then
    .ok ([0x59, 0x0A, 0xFF] ++ (dtcsOf l.dtcStatus).flatMap dtcRecord)
  else if req.getD 1 0 = 0x01 ∨ req.getD 1 0 = 0x02 then
    if req.length < 3 then .error .incorrectMsgLenOrFormat
    else if req.getD 1 0 = 0x01 then .ok ([0x59, 0x01, 0xFF, 0x01] ++ countBytes stored.length)
    else .ok ([0x59, 0x02, req.getD 2 0] ++ stored.flatMap dtcRecord)
  else .error .subFunctionNotSupported

/-- Only one transfer at a time, of a range that is not empty and lies in the flash. -/
def Ledger.transferAnswer (sid : UInt8) : Expected :=
  if req.length < 3 then .error .incorrectMsgLenOrFormat
  else if l.transfer.isSome then .error .conditionsNotCorrect
  else
    match rangeOfRequest req with
    | none => .error .incorrectMsgLenOrFormat
    | some (address, len) =>
      if 0 < len ∧ address + len ≤ udsFlashMaxSize then .ok [sid, 0x20, 0x00, 0x0F]
      else .error .requestOutOfRange

/-- A block of an upload carries the bytes that the ledger has for the flash; a block of a
download is refused if it is too long, and not answered if it is empty. -/
def Ledger.blockAnswer : Expected :=
  if req.length < 2 then .error .incorrectMsgLenOrFormat
  else
    match l.transfer with
    | none => .error .conditionsNotCorrect
    | some t =>
      if req.getD 1 0 ≠ t.seq then .error .wrongBlockSequenceCounter
      else if t.upload then
        if t.offset < t.len then
          .ok ([0x76, t.seq] ++ l.flash.load (t.address + t.offset) t.next)
        else .error .generalProgrammingFailure
      else if req.length = 2 then .ok []
      else if t.len < t.offset + (req.length - 2) then .error .transferDataSuspended
      else .ok [0x76, t.seq]

def Ledger.exitAnswer : Expected :=
  if l.transfer.isSome then .ok [0x77] else .error .conditionsNotCorrect

/-- Seeds, keys and lockouts are not foretold. -/
def Ledger.expects : Service → Option Expected
  | .diagnosticSessionControl =>
    some (selects req 0x50 (fun b => (UdsSessionType.ofCode b).isSome) [0x00, 50, 0x00, 200])
  | .testerPresent => some (testerPresentAnswer req)
  | .securityAccess => none
  | .readDataByIdentifier => some (l.readAnswer req)
  | .writeDataByIdentifier => some (l.writeAnswer req)
  | .ecuReset => some (selects req 0x51 (fun b => 0x01 ≤ b ∧ b ≤ 0x03) [])
  | .communicationControl => some (commControlAnswer req)
  | .clearDiagnosticInformation => some (clearAnswer req)
  | .readDtcInformation => some (l.dtcAnswer req)
  | .requestDownload => some (l.transferAnswer req 0x74)
  | .requestUpload => some (l.transferAnswer req 0x75)
  | .transferData => some (l.blockAnswer req)
  | .requestTransferExit => some l.exitAnswer

/-- The bytes of an expected answer. -/
def wire (sid : UInt8) : Expected → List UInt8
  | .ok resp => resp
  | .error nrc => [0x7F, sid, nrc.code]

/-- The answer to a request; an unknown service is not supported. -/
def Ledger.foretell : Option (List UInt8) :=
  match req with
  | [] => some []
  | sid :: _ =>
    match Service.ofSid sid with
    | none => some (wire sid (.error .serviceNotSupported))
    | some svc => (l.expects req svc).map (wire sid)

end Answers

/-- The tester. -/
def tester : Observer Input (List UInt8) (List UInt8) Ledger where
  sees := Input.req
  note := Ledger.note
  foretell := Ledger.foretell

end Uds.Ecusim
