import Uds.Bootloader.FlashServices
import Uds.Core.Data
import Uds.Core.Dtc
import Uds.Core.Security
import Uds.Core.Session
/-!
# The ECU simulator

State and request dispatch of `ecusim.c`.  The socket, the CAN identifiers and
the run flag play no part in a dispatch and are left out; so are the two
failures of `ecusim_init`, both of which are about the socket.
-/

namespace Uds.Ecusim

open Uds.Core Uds.Bootloader

def ecusimMaxPdu : Nat := 4095
def ecusimMaxDtcs : Nat := 8

structure EcuSimulator where
  ecuId : UInt8
  session : UdsCoreSession
  security : UdsCoreSecurity
  didReg : UdsDidRegistry
  dtcReg : UdsDtcRegistry
  flash : UdsFlashMemory
  xfer : UdsXferSession

/-- What one dispatch reads from its surroundings: the clock at each place where
the source calls `clock_gettime`, and the bytes `rand()` returns. -/
structure Env where
  clock : Nat → Timespec
  rand : Nat → UInt8

/-! ## Services -/

inductive Service where
  | diagnosticSessionControl
  | testerPresent
  | securityAccess
  | readDataByIdentifier
  | writeDataByIdentifier
  | ecuReset
  | communicationControl
  | clearDiagnosticInformation
  | readDtcInformation
  | requestDownload
  | requestUpload
  | transferData
  | requestTransferExit
  deriving DecidableEq

def Service.sid : Service → UInt8
  | diagnosticSessionControl => 0x10
  | testerPresent => 0x3E
  | securityAccess => 0x27
  | readDataByIdentifier => 0x22
  | writeDataByIdentifier => 0x2E
  | ecuReset => 0x11
  | communicationControl => 0x28
  | clearDiagnosticInformation => 0x14
  | readDtcInformation => 0x19
  | requestDownload => 0x34
  | requestUpload => 0x35
  | transferData => 0x36
  | requestTransferExit => 0x37

/-- The labels of the dispatcher's `switch`, in its order. -/
def services : List Service :=
  [.diagnosticSessionControl, .testerPresent, .securityAccess, .readDataByIdentifier,
    .writeDataByIdentifier, .ecuReset, .communicationControl, .clearDiagnosticInformation,
    .readDtcInformation, .requestDownload, .requestUpload, .transferData, .requestTransferExit]

/-- The `case` that a service identifier selects; `none` is `default`. -/
def Service.ofSid (sid : UInt8) : Option Service := services.find? fun svc => svc.sid = sid

/-- The early exit of a `case` whose request is too short or malformed. -/
def badLength : Response := .error (.errNrc .incorrectMsgLenOrFormat)

/-- The identifiers of a 0x22 request, two bytes each. -/
def didListOf : List UInt8 → List UInt16
  | hi :: lo :: rest => ((hi.toUInt16 <<< 8) ||| lo.toUInt16) :: didListOf rest
  | _ => []

variable (sim : EcuSimulator) (env : Env) (req : List UInt8) (respSz : Nat)

/-- One `case` of the `switch`; an early exit with a negative response is the
same as leaving the `switch` with that NRC. -/
def serve : Service → EcuSimulator × Response
  | .diagnosticSessionControl =>
    if req.length < 2 then (sim, badLength)
    else
      let out := udsCoreDsc sim.session (req.getD 1 0) respSz (env.clock 0)
      ({ sim with session := out.1 }, out.2)
  | .testerPresent =>
    if req.length < 2 then (sim, badLength)
    else
      let out := udsCoreTesterPresent sim.session (req.getD 1 0) respSz (env.clock 0)
      ({ sim with session := out.1 }, out.2)
  | .securityAccess =>
    if req.length < 2 then (sim, badLength)
    else if req.getD 1 0 &&& 0x01 ≠ 0 then
      let out := udsCoreSecRequestSeed sim.security (req.getD 1 0) respSz env.clock env.rand
      ({ sim with security := out.1 }, out.2)
    else if req.length < 2 + udsCoreSeedLen then (sim, badLength)
    else
      let out := udsCoreSecSendKey sim.security (req.getD 1 0) (req.drop 2) respSz env.clock
      match out.2 with
      | .ok resp =>
        -- propagate the unlocked level to the session
        ({ sim with
            security := out.1
            session := { sim.session with securityLevel := out.1.unlockedLevel } }, .ok resp)
      | .error e => ({ sim with security := out.1 }, .error e)
  | .readDataByIdentifier =>
    if req.length < 3 ∨ (req.length - 1) % 2 ≠ 0 then (sim, badLength)
    else if (req.length - 1) / 2 > 16 then (sim, .error (.errNrc .requestOutOfRange))
    else (sim, udsSvcReadDid sim.didReg (didListOf (req.drop 1)) respSz)
  | .writeDataByIdentifier =>
    if req.length < 4 then (sim, badLength)
    else
      let didId := ((req.getD 1 0).toUInt16 <<< 8) ||| (req.getD 2 0).toUInt16
      let secOk := udsCoreSecIsUnlocked sim.security 0x01
      let out := udsSvcWriteDid sim.didReg didId (req.drop 3) sim.session.type.code secOk respSz
      ({ sim with didReg := out.1 }, out.2)
  | .ecuReset =>
    if req.length < 2 then (sim, badLength)
    else
      match udsSvcEcuReset (req.getD 1 0) respSz with
      | .ok resp =>
        ({ sim with
            session := udsCoreSessionInit sim.ecuId none (env.clock 0)
            security := udsCoreSecurityInit }, .ok resp)
      | .error e => (sim, .error e)
  | .communicationControl =>
    if req.length < 3 then (sim, badLength)
    else (sim, udsSvcCommControl (req.getD 1 0) (req.getD 2 0) respSz)
  | .clearDiagnosticInformation =>
    if req.length < 4 then (sim, badLength)
    else
      let group := ((req.getD 1 0).toUInt32 <<< 16) ||| ((req.getD 2 0).toUInt32 <<< 8) |||
        (req.getD 3 0).toUInt32
      let out := udsSvcClearDtc sim.dtcReg group respSz
      ({ sim with dtcReg := out.1 }, out.2)
  | .readDtcInformation =>
    if req.length < 2 then (sim, badLength)
    else if (req.getD 1 0 = 0x01 ∨ req.getD 1 0 = 0x02) ∧ req.length < 3 then (sim, badLength)
    else (sim, udsSvcReadDtc sim.dtcReg (req.getD 1 0) (req.drop 2) respSz)
  | .requestDownload =>
    if req.length < 3 then (sim, badLength)
    else
      let out := udsSvcRequestDownload sim.xfer sim.flash (req.getD 2 0) (req.drop 3) respSz
      ({ sim with xfer := out.1.1, flash := out.1.2 }, out.2)
  | .requestUpload =>
    if req.length < 3 then (sim, badLength)
    else
      let out := udsSvcRequestUpload sim.xfer sim.flash (req.getD 2 0) (req.drop 3) respSz
      ({ sim with xfer := out.1 }, out.2)
  | .transferData =>
    if req.length < 2 then (sim, badLength)
    else
      let out := udsSvcTransferData sim.xfer sim.flash (req.getD 1 0) (req.drop 2) respSz
      ({ sim with xfer := out.1.1, flash := out.1.2 }, out.2)
  | .requestTransferExit =>
    let out := udsSvcTransferExit sim.xfer respSz
    ({ sim with xfer := out.1 }, out.2)

/-! ## Dispatch -/

def buildNrc (sid : UInt8) (nrc : UInt8) : List UInt8 := [0x7F, sid, nrc]

/-- The response left after the `switch`: nothing if the service failed without
an NRC. -/
def reply (sid : UInt8) : Response → List UInt8
  | .ok resp => resp
  | .error (.errNrc nrc) => if nrc.code ≠ 0 then buildNrc sid nrc.code else []
  | .error _ => []

def ecusimDispatch : EcuSimulator × List UInt8 :=
  match req with
  | [] => (sim, [])
  | sid :: _ =>
    match Service.ofSid sid with
    | none => (sim, buildNrc sid UdsNrc.serviceNotSupported.code)
    | some svc =>
      let out := serve sim env req respSz svc
      (out.1, reply sid out.2)

/-! ## Initial state -/

/-- The bytes of an ASCII string constant. -/
def ascii (s : String) : List UInt8 := s.toList.map fun c => UInt8.ofNat c.toNat

def defaultDids : UdsDidRegistry :=
  [{ didId := 0xF187, data := ascii "UDS-SIM-0001", writable := true, minSession := 0x01,
      minWriteSession := 0x03, requiresSecurity := false },
    { didId := 0xF191, data := ascii "HW-1.0", writable := false, minSession := 0x01,
      minWriteSession := 0x03, requiresSecurity := false },
    { didId := 0xF189, data := ascii "SW-1.0.0", writable := false, minSession := 0x01,
      minWriteSession := 0x03, requiresSecurity := false },
    { didId := 0xF190, data := ascii "1HGCM82633A123456", writable := true, minSession := 0x01,
      minWriteSession := 0x03, requiresSecurity := true },
    { didId := 0x0101, data := [0x00, 0x00, 0x12, 0x34], writable := true, minSession := 0x01,
      minWriteSession := 0x03, requiresSecurity := false }]

def defaultDtcs : UdsDtcRegistry :=
  [{ dtcCode := 0x010001, status := 0x08 ||| 0x20, snapshotData := Vector.replicate 16 0,
      snapshotLen := 0 },
    { dtcCode := 0x010002, status := 0x04, snapshotData := Vector.replicate 16 0,
      snapshotLen := 0 }]

/-- One unprotected region over the whole array. -/
def defaultRegions : List UdsFlashRegion := [⟨0x00000000, 256 * 1024, false⟩]

def ecusimInit (ecuId : UInt8) (now : Timespec) : EcuSimulator where
  ecuId := ecuId
  session := udsCoreSessionInit ecuId none now
  security := udsCoreSecurityInit
  didReg := defaultDids
  dtcReg := defaultDtcs
  flash := udsFlashInit defaultRegions
  xfer := udsXferInit

end Uds.Ecusim
