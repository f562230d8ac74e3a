import Uds.Base.Bytes
import Uds.Base.Dict
import Uds.Base.Rounding
/-!
# The Python simulator

State and request dispatch of `EcuSimulator` (`tools/uds/ecusim.py`).  Bytes are
`UInt8`, other numbers are unbounded as in Python; the level of a security
access is an integer because it can be -1.  A reading of `time.monotonic()` is the
number that the `float` stands for, and a difference of two is rounded as `float` does.
-/

namespace Uds.PyEcu

open Uds.Base

/-! ## Constants -/

def nrcServiceNotSupported : UInt8 := 0x11
def nrcSubFunctionNotSupported : UInt8 := 0x12
def nrcIncorrectMsgLen : UInt8 := 0x13
def nrcRequestSequenceError : UInt8 := 0x24
def nrcRequestOutOfRange : UInt8 := 0x31
def nrcInvalidKey : UInt8 := 0x35
def nrcExceededAttempts : UInt8 := 0x36
def nrcTimeDelayNotExpired : UInt8 := 0x37
def nrcWrongBlockSequenceCounter : UInt8 := 0x73

def securityMask : List UInt8 := [0xAB, 0xCD, 0x12, 0x34]
def seedLen : Nat := 4
def maxAttempts : Nat := 3
def lockoutSecs : Rat := 300

def flashBase : Nat := 0x00000000
def flashSize : Nat := 256 * 1024
def flashBlockSize : Nat := 256
def flashMaxBlockLen : Nat := flashBlockSize + 1

def computeKey (seed : List UInt8) : List UInt8 :=
  seed.mapIdx fun i b => b ^^^ securityMask.getD (i % 4) 0

/-! ## State -/

structure DidEntry where
  data : List UInt8
  writable : Bool
  minWriteSession : Nat
  deriving DecidableEq

structure EcuState where
  session : Nat
  sessionTs : Rat
  securityLevel : Int
  pendingSeed : Option (List UInt8)
  pendingLevel : Int
  failCount : Nat
  locked : Bool
  lockedTs : Rat
  dids : Dict Nat DidEntry
  dtcs : Dict Nat UInt8
  flash : List UInt8
  xferMode : Nat
  xferAddress : Nat
  xferSize : Nat
  xferOffset : Nat
  xferExpectedSn : Nat

/-- A `bytes` literal of ASCII characters. -/
def ascii (s : String) : List UInt8 := s.toList.map fun c => UInt8.ofNat c.toNat

def defaultDids : Dict Nat DidEntry :=
  [(0xF187, ⟨ascii "UDS-SIM-0001", true, 0x03⟩), (0xF191, ⟨ascii "HW-1.0", false, 0x03⟩),
    (0xF189, ⟨ascii "SW-1.0.0", false, 0x03⟩), (0xF190, ⟨ascii "1HGCM82633A123456", true, 0x03⟩),
    (0x0101, ⟨[0x00, 0x00, 0x12, 0x34], true, 0x03⟩)]

def defaultDtcs : Dict Nat UInt8 := [(0x010001, 0x28), (0x010002, 0x04)]

/-- `__init__`; `monotonic` is the reading of `time.monotonic()`. -/
def EcuState.init (monotonic : Rat) : EcuState where
  session := 0x01
  sessionTs := monotonic
  securityLevel := 0
  pendingSeed := none
  pendingLevel := 0
  failCount := 0
  locked := false
  lockedTs := 0
  dids := defaultDids
  dtcs := defaultDtcs
  flash := List.replicate flashSize 0
  xferMode := 0
  xferAddress := 0
  xferSize := 0
  xferOffset := 0
  xferExpectedSn := 1

/-- What one dispatch draws from its surroundings: the reading of the one call of
`time.monotonic()` and the bytes of the one call of `os.urandom(4)`. -/
structure Draws where
  monotonic : Rat
  urandom : Vector UInt8 4

/-! ## Services -/

def nrc (sid nrc : UInt8) : List UInt8 := [0x7F, sid, nrc]

section Services

variable (ecu : EcuState) (draws : Draws) (req : List UInt8)

def svcDsc : EcuState × Option (List UInt8) :=
  if req.length < 2 then (ecu, some (nrc 0x10 nrcIncorrectMsgLen))
  else
    let sessionType := req.getD 1 0
    if sessionType ∉ [0x01, 0x02, 0x03, 0x04] then
      (ecu, some (nrc 0x10 nrcSubFunctionNotSupported))
    else
      let ecu := { ecu with session := sessionType.toNat, sessionTs := draws.monotonic }
      let ecu :=
        if sessionType = 0x01 then { ecu with securityLevel := 0, pendingSeed := none } else ecu
      (ecu, some [0x50, sessionType, 0x00, 0x32, 0x00, 0xC8])

def svcTesterPresent : EcuState × Option (List UInt8) :=
  if req.length < 2 then (ecu, some (nrc 0x3E nrcIncorrectMsgLen))
  else
    let subFn := req.getD 1 0
    let suppress := subFn &&& 0x80 ≠ 0
    let actual := subFn &&& 0x7F
    if actual ≠ 0x00 then (ecu, some (nrc 0x3E nrcSubFunctionNotSupported))
    else
      let ecu := { ecu with sessionTs := draws.monotonic }
      if suppress then (ecu, none) else (ecu, some [0x7E, 0x00])

/-- Generate a seed, or answer with a zero seed if the level is unlocked. -/
def drawSeed (subFn : UInt8) : EcuState × Option (List UInt8) :=
  let level : Int := subFn.toNat
  if ecu.securityLevel = level then (ecu, some [0x67, subFn, 0x00, 0x00, 0x00, 0x00])
  else
    let seed := draws.urandom.toList
    ({ ecu with pendingSeed := some seed, pendingLevel := level }, some ([0x67, subFn] ++ seed))

def requestSeed (subFn : UInt8) : EcuState × Option (List UInt8) :=
  if ecu.locked then
    if binary64.sub draws.monotonic ecu.lockedTs < lockoutSecs then
      (ecu, some (nrc 0x27 nrcTimeDelayNotExpired))
    else
      -- lockout expired
      drawSeed { ecu with locked := false, failCount := 0 } draws subFn
  else drawSeed ecu draws subFn

def sendKey (subFn : UInt8) : EcuState × Option (List UInt8) :=
  let level : Int := (subFn.toNat : Int) - 1
  match ecu.pendingSeed with
  | none => (ecu, some (nrc 0x27 nrcRequestSequenceError))
  | some seed =>
    if ecu.pendingLevel ≠ level then (ecu, some (nrc 0x27 nrcRequestSequenceError))
    else if req.length < 2 + seedLen then (ecu, some (nrc 0x27 nrcIncorrectMsgLen))
    else
      let keyReceived := (req.drop 2).take seedLen
      let ecu := { ecu with pendingSeed := none }
      if keyReceived ≠ computeKey seed then
        let ecu := { ecu with failCount := ecu.failCount + 1 }
        if ecu.failCount ≥ maxAttempts then
          ({ ecu with locked := true, lockedTs := draws.monotonic },
            some (nrc 0x27 nrcExceededAttempts))
        else (ecu, some (nrc 0x27 nrcInvalidKey))
      else ({ ecu with securityLevel := level, failCount := 0 }, some [0x67, subFn])

def svcSecurityAccess : EcuState × Option (List UInt8) :=
  if req.length < 2 then (ecu, some (nrc 0x27 nrcIncorrectMsgLen))
  else
    let subFn := req.getD 1 0
    if subFn &&& 0x01 ≠ 0 then requestSeed ecu draws subFn else sendKey ecu draws req subFn

/-- The loop of `_svc_read_did` over the bytes of the identifiers; `none` is the
return inside it. -/
def readDidLoop (dids : Dict Nat DidEntry) : List UInt8 → List UInt8 → Option (List UInt8)
  | hi :: lo :: didBytes, result =>
    let didId := (hi.toNat <<< 8) ||| lo.toNat
    match dids.get didId with
    | none => none
    | some entry =>
      readDidLoop dids didBytes
        (result ++ [UInt8.ofNat (didId >>> 8), UInt8.ofNat (didId &&& 0xFF)] ++ entry.data)
  | _, result => some result

def svcReadDid : EcuState × Option (List UInt8) :=
  if req.length < 3 ∨ (req.length - 1) % 2 ≠ 0 then (ecu, some (nrc 0x22 nrcIncorrectMsgLen))
  else
    match readDidLoop ecu.dids (req.drop 1) [0x62] with
    | none => (ecu, some (nrc 0x22 nrcRequestOutOfRange))
    | some result => (ecu, some result)

def svcWriteDid : EcuState × Option (List UInt8) :=
  if req.length < 4 then (ecu, some (nrc 0x2E nrcIncorrectMsgLen))
  else
    let didId := ((req.getD 1 0).toNat <<< 8) ||| (req.getD 2 0).toNat
    let data := req.drop 3
    match ecu.dids.get didId with
    | none => (ecu, some (nrc 0x2E nrcRequestOutOfRange))
    | some entry =>
      if !entry.writable then (ecu, some (nrc 0x2E nrcRequestOutOfRange))
      else if ecu.session < entry.minWriteSession then
        (ecu, some (nrc 0x2E nrcRequestOutOfRange))
      else if data.length ≠ entry.data.length then (ecu, some (nrc 0x2E nrcIncorrectMsgLen))
      else
        ({ ecu with dids := ecu.dids.set didId { entry with data := data } },
          some [0x6E, req.getD 1 0, req.getD 2 0])

def svcEcuReset : EcuState × Option (List UInt8) :=
  if req.length < 2 then (ecu, some (nrc 0x11 nrcIncorrectMsgLen))
  else
    let resetType := req.getD 1 0
    if resetType ∉ [0x01, 0x02, 0x03] then (ecu, some (nrc 0x11 nrcSubFunctionNotSupported))
    else
      ({ ecu with session := 0x01, securityLevel := 0, pendingSeed := none },
        some [0x51, resetType])

/-- The high byte of a code or group. -/
def groupByte (code : Nat) : Nat := (code >>> 16) &&& 0xFF

def svcClearDtc : EcuState × Option (List UInt8) :=
  if req.length < 4 then (ecu, some (nrc 0x14 nrcIncorrectMsgLen))
  else
    let group := (((req.getD 1 0).toNat <<< 16) ||| ((req.getD 2 0).toNat <<< 8)) |||
      (req.getD 3 0).toNat
    if group = 0xFFFFFF then
      ({ ecu with dtcs := ecu.dtcs.map fun p => (p.1, 0x00) }, some [0x54])
    else
      let matched := ecu.dtcs.any fun p => groupByte p.1 = groupByte group
      let ecu := { ecu with
        dtcs := ecu.dtcs.map fun p =>
          if groupByte p.1 = groupByte group then (p.1, 0x00) else p }
      if !matched then (ecu, some (nrc 0x14 nrcRequestOutOfRange)) else (ecu, some [0x54])

/-- The four bytes of a DTC record. -/
def dtcRecord (p : Nat × UInt8) : List UInt8 :=
  [UInt8.ofNat ((p.1 >>> 16) &&& 0xFF), UInt8.ofNat ((p.1 >>> 8) &&& 0xFF),
    UInt8.ofNat (p.1 &&& 0xFF), p.2]

def svcReadDtc : EcuState × Option (List UInt8) :=
  if req.length < 2 then (ecu, some (nrc 0x19 nrcIncorrectMsgLen))
  else
    let subFn := req.getD 1 0
    let mask := req.getD 2 0
    if subFn = 0x01 then
      if req.length < 3 then (ecu, some (nrc 0x19 nrcIncorrectMsgLen))
      else
        let count := ecu.dtcs.values.countP fun s => s &&& mask ≠ 0
        (ecu, some [0x59, 0x01, 0xFF, 0x01, UInt8.ofNat (count >>> 8),
          UInt8.ofNat (count &&& 0xFF)])
    else if subFn = 0x02 then
      if req.length < 3 then (ecu, some (nrc 0x19 nrcIncorrectMsgLen))
      else
        (ecu, some ([0x59, 0x02, mask] ++
          (ecu.dtcs.filter fun p => p.2 &&& mask ≠ 0).flatMap dtcRecord))
    else if subFn = 0x0A then (ecu, some ([0x59, 0x0A, 0xFF] ++ ecu.dtcs.flatMap dtcRecord))
    else (ecu, some (nrc 0x19 nrcSubFunctionNotSupported))

/-! ## Flash services -/

/-- The checks of 0x34 and 0x35: the address and the size, or the NRC. -/
def parseTransferRequest : Except UInt8 (Nat × Nat) :=
  if req.length < 4 then .error nrcIncorrectMsgLen
  else
    let addrLenFmt := (req.getD 2 0).toNat
    let addrLen := addrLenFmt &&& 0x0F
    let sizeLen := (addrLenFmt >>> 4) &&& 0x0F
    if addrLen = 0 ∨ sizeLen = 0 then .error nrcRequestOutOfRange
    else if req.length < 3 + addrLen + sizeLen then .error nrcIncorrectMsgLen
    else
      let address := natBE ((req.drop 3).take addrLen)
      let size := natBE ((req.drop (3 + addrLen)).take sizeLen)
      if address < flashBase ∨ address + size > flashBase + flashSize then
        .error nrcRequestOutOfRange
      else .ok (address, size)

def startTransfer (mode address size : Nat) : EcuState :=
  { ecu with
    xferMode := mode
    xferAddress := address
    xferSize := size
    xferOffset := 0
    xferExpectedSn := 1 }

/-- `flash[start : start + len(bytes)] = bytes`. -/
def storeFlash (flash : List UInt8) (start : Nat) (bytes : List UInt8) : List UInt8 :=
  flash.take start ++ bytes ++ flash.drop (start + bytes.length)

/-- The length format byte and the two bytes of the maximum block length. -/
def maxBlockLength : List UInt8 :=
  [0x20, UInt8.ofNat ((flashMaxBlockLen >>> 8) &&& 0xFF), UInt8.ofNat (flashMaxBlockLen &&& 0xFF)]

def svcRequestDownload : EcuState × Option (List UInt8) :=
  match parseTransferRequest req with
  | .error e => (ecu, some (nrc 0x34 e))
  | .ok (address, size) =>
    let ecu := startTransfer ecu 0x34 address size
    ({ ecu with flash := storeFlash ecu.flash (address - flashBase) (List.replicate size 0) },
      some (0x74 :: maxBlockLength))

def svcRequestUpload : EcuState × Option (List UInt8) :=
  match parseTransferRequest req with
  | .error e => (ecu, some (nrc 0x35 e))
  | .ok (address, size) => (startTransfer ecu 0x35 address size, some (0x75 :: maxBlockLength))

/-- The block sequence counter wraps from 0xFF to 1. -/
def nextSn (sn : Nat) : Nat := if sn ≥ 0xFF then 1 else sn + 1

def svcTransferData : EcuState × Option (List UInt8) :=
  if ecu.xferMode = 0 then (ecu, some (nrc 0x36 nrcRequestSequenceError))
  else if req.length < 2 then (ecu, some (nrc 0x36 nrcIncorrectMsgLen))
  else
    let blockSn := req.getD 1 0
    let flashStart := ecu.xferAddress - flashBase + ecu.xferOffset
    let remaining := ecu.xferSize - ecu.xferOffset
    if blockSn.toNat ≠ ecu.xferExpectedSn &&& 0xFF then
      (ecu, some (nrc 0x36 nrcWrongBlockSequenceCounter))
    else if ecu.xferMode = 0x34 then
      let chunk := (req.drop 2).take remaining
      ({ ecu with
          flash := storeFlash ecu.flash flashStart chunk
          xferOffset := ecu.xferOffset + chunk.length
          xferExpectedSn := nextSn ecu.xferExpectedSn }, some [0x76, blockSn])
    else
      let chunkSize := min flashBlockSize remaining
      let chunk := (ecu.flash.drop flashStart).take chunkSize
      ({ ecu with
          xferOffset := ecu.xferOffset + chunkSize
          xferExpectedSn := nextSn ecu.xferExpectedSn }, some ([0x76, blockSn] ++ chunk))

def svcTransferExit : EcuState × Option (List UInt8) :=
  if ecu.xferMode = 0 then (ecu, some (nrc 0x37 nrcRequestSequenceError))
  else ({ ecu with xferMode := 0, xferOffset := 0 }, some [0x77])

/-- `_dispatch`. -/
def dispatch : EcuState × Option (List UInt8) :=
  match req with
  | [] => (ecu, none)
  | sid :: _ =>
    if sid = 0x10 then svcDsc ecu draws req
    else if sid = 0x3E then svcTesterPresent ecu draws req
    else if sid = 0x27 then svcSecurityAccess ecu draws req
    else if sid = 0x22 then svcReadDid ecu req
    else if sid = 0x2E then svcWriteDid ecu req
    else if sid = 0x11 then svcEcuReset ecu req
    else if sid = 0x14 then svcClearDtc ecu req
    else if sid = 0x19 then svcReadDtc ecu req
    else if sid = 0x34 then svcRequestDownload ecu req
    else if sid = 0x35 then svcRequestUpload ecu req
    else if sid = 0x36 then svcTransferData ecu req
    else if sid = 0x37 then svcTransferExit ecu
    else (ecu, some (nrc sid nrcServiceNotSupported))

/-- What holds of the outcome of every handler holds of the dispatch. -/
theorem dispatch_rule {P : EcuState × Option (List UInt8) → Prop} (hempty : P (ecu, none))
    (hunknown : ∀ sid, P (ecu, some (nrc sid nrcServiceNotSupported)))
    (hdsc : P (svcDsc ecu draws req)) (htester : P (svcTesterPresent ecu draws req))
    (hsecurity : P (svcSecurityAccess ecu draws req)) (hread : P (svcReadDid ecu req))
    (hwrite : P (svcWriteDid ecu req)) (hreset : P (svcEcuReset ecu req))
    (hclear : P (svcClearDtc ecu req)) (hdtc : P (svcReadDtc ecu req))
    (hdownload : P (svcRequestDownload ecu req)) (hupload : P (svcRequestUpload ecu req))
    (hdata : P (svcTransferData ecu req)) (hexit : P (svcTransferExit ecu)) :
    P (dispatch ecu draws req) := by
  cases req with
  | nil => exact hempty
  | cons sid args =>
      rw [dispatch]
      by_cases h10 : sid = 0x10
      · rwa [if_pos h10]
      rw [if_neg h10]
      by_cases h3e : sid = 0x3E
      · rwa [if_pos h3e]
      rw [if_neg h3e]
      by_cases h27 : sid = 0x27
      · rwa [if_pos h27]
      rw [if_neg h27]
      by_cases h22 : sid = 0x22
      · rwa [if_pos h22]
      rw [if_neg h22]
      by_cases h2e : sid = 0x2E
      · rwa [if_pos h2e]
      rw [if_neg h2e]
      by_cases h11 : sid = 0x11
      · rwa [if_pos h11]
      rw [if_neg h11]
      by_cases h14 : sid = 0x14
      · rwa [if_pos h14]
      rw [if_neg h14]
      by_cases h19 : sid = 0x19
      · rwa [if_pos h19]
      rw [if_neg h19]
      by_cases h34 : sid = 0x34
      · rwa [if_pos h34]
      rw [if_neg h34]
      by_cases h35 : sid = 0x35
      · rwa [if_pos h35]
      rw [if_neg h35]
      by_cases h36 : sid = 0x36
      · rwa [if_pos h36]
      rw [if_neg h36]
      by_cases h37 : sid = 0x37
      · rwa [if_pos h37]
      rw [if_neg h37]
      exact hunknown sid

end Services

end Uds.PyEcu
