import Uds.Core.Nrc
/-!
# Session control

Services 0x10 and 0x3E (`session.c`).  A service takes the session, the request
bytes the dispatcher hands it, the capacity of the response buffer and the
clock reading of its one call, and returns the new session with its response.
-/

namespace Uds.Core

inductive UdsSessionType where
  | default
  | programming
  | extended
  | safety
  deriving DecidableEq

namespace UdsSessionType

def code : UdsSessionType → UInt8
  | default => 0x01
  | programming => 0x02
  | extended => 0x03
  | safety => 0x04

/-- The cast of a request byte to the enumeration, for the bytes that the
`switch` of `uds_core_dsc` lets through. -/
def ofCode (b : UInt8) : Option UdsSessionType :=
  if b = 0x01 then some default
  else if b = 0x02 then some programming
  else if b = 0x03 then some extended
  else if b = 0x04 then some safety
  else none

end UdsSessionType

structure UdsCoreSessionConfig where
  p2Ms : UInt16
  p2StarMs : UInt16
  s3Ms : UInt32
  deriving DecidableEq

def udsCoreSessionDefaultConfig : UdsCoreSessionConfig := ⟨50, 2000, 10000⟩

structure UdsCoreSession where
  ecuId : UInt8
  type : UdsSessionType
  cfg : UdsCoreSessionConfig
  securityLevel : UInt8
  lastActivity : Timespec
  deriving DecidableEq

def udsCoreSessionInit (ecuId : UInt8) (cfg : Option UdsCoreSessionConfig) (now : Timespec) :
    UdsCoreSession where
  ecuId := ecuId
  type := .default
  cfg := cfg.getD udsCoreSessionDefaultConfig
  securityLevel := 0
  lastActivity := now

def udsCoreDsc (sess : UdsCoreSession) (sessionType : UInt8) (respSize : Nat) (now : Timespec) :
    UdsCoreSession × Response :=
  match UdsSessionType.ofCode sessionType with
  | none => (sess, .error (.errNrc .subFunctionNotSupported))
  | some type =>
    if respSize < 6 then (sess, .error .errBuf)
    else
      let level := if sessionType = UdsSessionType.default.code then 0 else sess.securityLevel
      -- P2* is in units of 10 ms on the wire
      let p2Star10ms := sess.cfg.p2StarMs / 10
      ({ sess with type := type, securityLevel := level, lastActivity := now },
        .ok [0x50, sessionType, (sess.cfg.p2Ms >>> 8).toUInt8, (sess.cfg.p2Ms &&& 0xFF).toUInt8,
          (p2Star10ms >>> 8).toUInt8, (p2Star10ms &&& 0xFF).toUInt8])

def udsCoreTesterPresent (sess : UdsCoreSession) (subFn : UInt8) (respSize : Nat)
    (now : Timespec) : UdsCoreSession × Response :=
  let suppress := subFn &&& 0x80 ≠ 0
  let actualSubFn := subFn &&& 0x7F
  if actualSubFn ≠ 0 then (sess, .error (.errNrc .subFunctionNotSupported))
  else
    let sess := { sess with lastActivity := now }
    if suppress then (sess, .ok [])
    else if respSize < 2 then (sess, .error .errBuf)
    else (sess, .ok [0x7E, actualSubFn])

/-- `(a - b)` in milliseconds; the division of C truncates. -/
def timespecDiffMs (a b : Timespec) : Int :=
  (a.sec - b.sec) * 1000 + (a.nsec - b.nsec).tdiv 1000000

def udsCoreSessionExpired (sess : UdsCoreSession) (now : Timespec) : Bool :=
  timespecDiffMs now sess.lastActivity > sess.cfg.s3Ms.toNat

end Uds.Core
