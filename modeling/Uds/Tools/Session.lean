import Uds.Tools.Client
/-!
# The Python session service

`UdsSession` (`session.py`), and the requests of `data.py` and `dtc.py` whose responses
are not read.
-/

namespace Uds.Tools

open Uds.Base

/-- `{'session_type': int, 'p2_ms': int, 'p2_star_ms': int}`. -/
structure SessionInfo where
  sessionType : Nat
  p2Ms : Nat
  p2StarMs : Nat
  deriving DecidableEq

section Services

variable {σ : Type} (transport : Transport σ)

/-- `UdsSession.change_session`. -/
def changeSession (sessionType : Nat) : Py σ SessionInfo := do
  let req ← bytes [0x10, sessionType]
  let response ← request transport req
  if response.length < 6 ∨ response.getD 0 0 ≠ 0x50 then
    Py.raise (.udsProtocolError ("Unexpected DSC response: " ++ hex response))
  else
    -- P2* is transmitted in units of 10 ms
    pure ⟨(response.getD 1 0).toNat, natBE ((response.drop 2).take 2),
      natBE ((response.drop 4).take 2) * 10⟩

/-- `UdsSession.tester_present`. -/
def testerPresent (suppress : Bool) : Py σ Unit :=
  if suppress then transport.send [0x3E, 0x80]
  else do
    let _ ← request transport [0x3E, 0x00]
    pure ()

/-- `UdsDidService.ecu_reset`. -/
def ecuReset (resetType : Nat) : Py σ Unit := do
  let req ← bytes [0x11, resetType]
  let _ ← request transport req
  pure ()

/-- `UdsDidService.comm_control`. -/
def commControl (controlType commType : Nat) : Py σ Unit := do
  let req ← bytes [0x28, controlType, commType]
  let _ ← request transport req
  pure ()

/-- `UdsDtcService.clear`. -/
def clear (group : Nat) : Py σ Unit := do
  let groupBytes ← toBytes group 3
  let _ ← request transport ([0x14] ++ groupBytes)
  pure ()

end Services

end Uds.Tools
