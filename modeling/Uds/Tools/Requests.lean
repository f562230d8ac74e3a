import Uds.Base.Network
import Uds.Tools.Confinement
/-!
# The Python client on the bus

`UdsClient._request` (`client.py`) over its `IsoTpTransport`, and a program that
makes one request after the other.  What the program requests next may depend on
the results that it has got so far.
-/

namespace Uds.Tools

open Uds.Base Uds.Can

abbrev PyResult := Except PyError (List UInt8)

section Request

variable (tp : IsoTpTransport)

/-- What the loop of `_request` does with a response; `k` follows if it is pending. -/
def onResponse (k : PyRecv 8) : PyResult → PyRecv 8
  | .error e => raiseError e
  | .ok response =>
    if response.length ≥ 3 ∧ response.getD 0 0 = sidNrc then
      if response.getD 2 0 = nrcResponsePending then k
      else raiseError (.udsNrcError (response.getD 2 0) (response.getD 1 0) "")
    else .ret (.ok response)

/-- The `for` loop of `_request`. -/
def awaitPending (data : List UInt8) : Nat → PyRecv 8
  | 0 => raiseError (.udsNrcError nrcResponsePending (data.headD 0)
      "ECU kept responding with RESPONSE_PENDING")
  | attempts + 1 => tp.recv.bind (onResponse (awaitPending data attempts))

/-- `_request`. -/
def requestOnBus (data : List UInt8) : PyRecv 8 :=
  (onBus tp (tp.send data)).bind fun
    | .error e => raiseError e
    | .ok () => awaitPending tp data (maxPendingRetries + 1)

theorem recvsOnly_awaitPending (data : List UInt8) (attempts : Nat) :
    RecvsOnly tp (awaitPending tp data attempts) := by
  induction attempts with
  | zero => exact .ret _
  | succ attempts ih =>
      refine (recvsOnly_recv tp).bind fun result => ?_
      unfold onResponse
      split
      · exact .ret _
      · split
        · split
          · exact ih
          · exact .ret _
        · exact .ret _

theorem recvsOnly_requestOnBus (data : List UInt8) : RecvsOnly tp (requestOnBus tp data) := by
  refine (pySendsOnly_send tp data).bind fun result => ?_
  split
  · exact .ret _
  · exact recvsOnly_awaitPending tp data _

end Request

/-! ## A program with a client -/

/-- A program that makes requests. -/
inductive Program where
  | done
  | request (data : List UInt8) (next : PyResult → Program)

/-- A client between two requests, or in one. -/
inductive UdsClient where
  | ready (results : List PyResult) (program : Program)
  | requesting (results : List PyResult) (code : PyRecv 8) (next : PyResult → Program)

namespace UdsClient

/-- `__init__`. -/
def transport (polls ecuId : Nat) : IsoTpTransport where
  txId := UInt32.ofNat (0x600 + ecuId)
  rxId := UInt32.ofNat (0x680 + ecuId)
  polls := polls

/-- The results so far. -/
def results : UdsClient → List PyResult
  | ready results _ => results
  | requesting results _ _ => results

variable (tp : IsoTpTransport)

def act : UdsClient → Act CanFrame UdsClient
  | ready _ .done => .halt
  | ready results (.request data next) =>
    .internal (requesting results (requestOnBus tp data) next)
  | requesting results (.ret result) next =>
    .internal (ready (results ++ [result]) (next result))
  | requesting results code next => code.act.map fun code => requesting results code next

/-- A request under way keeps to the identifiers of the transport. -/
def Within : UdsClient → Prop
  | ready _ _ => True
  | requesting _ code _ => RecvsOnly tp code

theorem confined_act {client : UdsClient} (h : client.Within tp) :
    (client.act tp).Confined (fun f => f.canId = tp.txId) (fun f => f.canId = tp.rxId)
      (Within tp) := by
  cases client with
  | ready results program =>
      cases program with
      | done => trivial
      | request data next => exact recvsOnly_requestOnBus tp data
  | requesting results code next =>
      have hact := Agent.Confined.act h
      cases code with
      | ret result => trivial
      | send => exact hact.map fun _ hcode => hcode
      | recv => exact hact.map fun _ hcode => hcode

end UdsClient

end Uds.Tools
