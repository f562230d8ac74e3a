import Mathlib.Algebra.Ring.Nat
import Uds.Core.Nrc
/-!
# DTC services

The DTC registry and services 0x14 and 0x19 (`dtc.c`).
-/

namespace Uds.Core

structure UdsDtcEntry where
  dtcCode : UInt32
  status : UInt8
  snapshotData : Vector UInt8 16
  snapshotLen : Nat
  deriving DecidableEq

abbrev UdsDtcRegistry := List UdsDtcEntry

/-- The high byte of a 24-bit code. -/
def dtcGroup (code : UInt32) : UInt8 := ((code >>> 16) &&& 0xFF).toUInt8

def UdsDtcEntry.clear (e : UdsDtcEntry) : UdsDtcEntry :=
  { e with status := 0, snapshotData := Vector.replicate 16 0, snapshotLen := 0 }

def udsSvcClearDtc (reg : UdsDtcRegistry) (groupOfDtc : UInt32) (respSize : Nat) :
    UdsDtcRegistry × Response :=
  if respSize < 1 then (reg, .error .errBuf)
  else
    let clearAll : Bool := groupOfDtc = 0xFFFFFF
    let selected := fun e : UdsDtcEntry => clearAll || dtcGroup e.dtcCode = dtcGroup groupOfDtc
    let found := reg.any selected
    let reg := reg.map fun e => if selected e then e.clear else e
    if !clearAll && !found then (reg, .error (.errNrc .requestOutOfRange))
    else (reg, .ok [0x54])

theorem length_udsSvcClearDtc (reg : UdsDtcRegistry) (groupOfDtc : UInt32) (respSize : Nat) :
    (udsSvcClearDtc reg groupOfDtc respSize).1.length = reg.length := by
  unfold udsSvcClearDtc
  split
  · rfl
  · simp only
    split <;> exact List.length_map ..

/-- The four bytes of a DTC record. -/
def dtcRecord (e : UdsDtcEntry) : List UInt8 :=
  [((e.dtcCode >>> 16) &&& 0xFF).toUInt8, ((e.dtcCode >>> 8) &&& 0xFF).toUInt8,
    (e.dtcCode &&& 0xFF).toUInt8, e.status]

/-- The loop that appends the records of the entries that `keep` selects. -/
def dtcRecordLoop (keep : UdsDtcEntry → Bool) (respSize : Nat) :
    UdsDtcRegistry → List UInt8 → Response
  | [], resp => .ok resp
  | e :: reg, resp =>
    if !keep e then dtcRecordLoop keep respSize reg resp
    else if resp.length + 4 > respSize then .error .errBuf
    else dtcRecordLoop keep respSize reg (resp ++ dtcRecord e)

def udsSvcReadDtc (reg : UdsDtcRegistry) (subFn : UInt8) (reqData : List UInt8)
    (respSize : Nat) : Response :=
  let statusMask := reqData.getD 0 0xFF
  if subFn = 0x01 then
    if respSize < 6 then .error .errBuf
    else
      let count := UInt16.ofNat (reg.countP fun e => e.status &&& statusMask ≠ 0)
      .ok [0x59, 0x01, 0xFF, 0x01, (count >>> 8).toUInt8, (count &&& 0xFF).toUInt8]
  else if subFn = 0x02 then
    if respSize < 3 then .error .errBuf
    else
      dtcRecordLoop (fun e => e.status &&& statusMask ≠ 0) respSize reg [0x59, 0x02, statusMask]
  else if subFn = 0x0A then
    if respSize < 3 then .error .errBuf
    else dtcRecordLoop (fun _ => true) respSize reg [0x59, 0x0A, 0xFF]
  else .error (.errNrc .subFunctionNotSupported)

end Uds.Core
