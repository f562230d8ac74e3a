import Uds.Base.Bytes
/-!
# The Python client

`UdsClient._request` (`client.py`) over an arbitrary transport.  Python code
that can raise is a function of the state behind the transport, which keeps the
state it reached when an exception is raised.
-/

namespace Uds.Tools

open Uds.Base

/-- The exceptions of the modelled code. -/
inductive PyError where
  | udsNrcError (nrc serviceId : UInt8) (message : String)
  | udsTimeoutError
  | udsProtocolError (message : String)
  | overflowError
  | indexError
  | valueError
  /-- Raised by `bus.send` of python-can. -/
  | canError
  /-- Not an exception: a loop has used up the iterations it was given. -/
  | outOfFuel
  deriving DecidableEq

/-- Code that changes a state of type `σ` and returns or raises. -/
structure Py (σ α : Type) where
  run : σ → Except PyError α × σ

namespace Py

variable {σ α β : Type}

instance : Monad (Py σ) where
  pure a := ⟨fun s => (.ok a, s)⟩
  bind x f := ⟨fun s =>
    match x.run s with
    | (.ok a, s) => (f a).run s
    | (.error e, s) => (.error e, s)⟩

def raise (e : PyError) : Py σ α := ⟨fun s => (.error e, s)⟩

@[simp] theorem run_pure (a : α) (s : σ) : (pure a : Py σ α).run s = (.ok a, s) := rfl

theorem run_bind {x : Py σ α} {f : α → Py σ β} {s s' : σ} {a : α}
    (h : x.run s = (.ok a, s')) : (x >>= f).run s = (f a).run s' := by
  change (match x.run s with
    | (.ok a, s) => (f a).run s
    | (.error e, s) => (.error e, s)) = (f a).run s'
  rw [h]

theorem run_bind_ok {x : Py σ α} {f : α → Py σ β} {s s' : σ} {b : β}
    (h : (x >>= f).run s = (.ok b, s')) :
    ∃ a s₁, x.run s = (.ok a, s₁) ∧ (f a).run s₁ = (.ok b, s') := by
  change (match x.run s with
    | (.ok a, s) => (f a).run s
    | (.error e, s) => (.error e, s)) = (.ok b, s') at h
  cases hx : x.run s with
  | mk result s₁ =>
      rw [hx] at h
      cases result with
      | ok a => exact ⟨a, s₁, rfl, h⟩
      | error e => cases h

/-- An exception ends the program. -/
theorem run_bind_error {x : Py σ α} {f : α → Py σ β} {s s' : σ} {e : PyError}
    (h : x.run s = (.error e, s')) : (x >>= f).run s = (.error e, s') := by
  change (match x.run s with
    | (.ok a, s) => (f a).run s
    | (.error e, s) => (.error e, s)) = (.error e, s')
  rw [h]

/-- What comes after a statement depends on how it ended only. -/
theorem run_bind_congr {x y : Py σ α} {f : α → Py σ β} {s : σ} (h : x.run s = y.run s) :
    (x >>= f).run s = (y >>= f).run s := by
  change (match x.run s with
    | (.ok a, s) => (f a).run s
    | (.error e, s) => (.error e, s)) = _
  rw [h]
  rfl

theorem run_raise_ne {e : PyError} {s s' : σ} {a : α} :
    (raise e : Py σ α).run s ≠ (.ok a, s') := by
  intro h
  cases h

/-- `x` keeps the invariant `I` of the state, also when it raises an exception. -/
def Preserves (I : σ → Prop) (x : Py σ α) : Prop := ∀ s, I s → I (x.run s).2

variable {I : σ → Prop}

theorem preserves_pure (a : α) : Preserves I (pure a : Py σ α) := fun _ h => h

theorem preserves_raise (e : PyError) : Preserves I (raise e : Py σ α) := fun _ h => h

theorem Preserves.bind {x : Py σ α} {f : α → Py σ β} (hx : Preserves I x)
    (hf : ∀ a, Preserves I (f a)) : Preserves I (x >>= f) := by
  intro s hs
  have hmid := hx s hs
  cases hrun : x.run s with
  | mk result s₁ =>
      rw [hrun] at hmid
      cases result with
      | ok a =>
          rw [run_bind hrun]
          exact hf a s₁ hmid
      | error e =>
          rw [run_bind_error hrun]
          exact hmid

end Py

/-- What the client uses of `IsoTpTransport`. -/
structure Transport (σ : Type) where
  send : List UInt8 → Py σ Unit
  recv : Py σ (List UInt8)

def sidNrc : UInt8 := 0x7F
def nrcResponsePending : UInt8 := 0x78
def maxPendingRetries : Nat := 3

variable {σ : Type} (transport : Transport σ)

/-- The `for` loop of `_request`: wait for a response that is not pending. -/
def awaitResponse (data : List UInt8) : Nat → Py σ (List UInt8)
  | 0 => Py.raise (.udsNrcError nrcResponsePending (data.headD 0)
      "ECU kept responding with RESPONSE_PENDING")
  | attempts + 1 => do
    let response ← transport.recv
    if response.length ≥ 3 ∧ response.getD 0 0 = sidNrc then
      if response.getD 2 0 = nrcResponsePending then awaitResponse data attempts
      else Py.raise (.udsNrcError (response.getD 2 0) (response.getD 1 0) "")
    else pure response

/-- `UdsClient._request`. -/
def request (data : List UInt8) : Py σ (List UInt8) := do
  transport.send data
  awaitResponse transport data (maxPendingRetries + 1)

/-- What the transport preserves is preserved by `_request`. -/
theorem request_preserves {transport : Transport σ} {I : σ → Prop} {data : List UInt8}
    (hsend : (transport.send data).Preserves I) (hrecv : transport.recv.Preserves I) :
    (request transport data).Preserves I := by
  have hawait (attempts : Nat) : (awaitResponse transport data attempts).Preserves I := by
    induction attempts with
    | zero => exact Py.preserves_raise _
    | succ attempts ih =>
        apply hrecv.bind
        intro response
        split_ifs
        · exact ih
        · exact Py.preserves_raise _
        · exact Py.preserves_pure _
  exact hsend.bind fun _ => hawait _

/-- `int.to_bytes(width, "big")`. -/
def toBytes (n width : Nat) : Py σ (List UInt8) :=
  if n < 256 ^ width then pure (bytesBE width n) else Py.raise .overflowError

theorem toBytes_run {n width : Nat} (h : n < 256 ^ width) (s : σ) :
    (toBytes n width).run s = (.ok (bytesBE width n), s) := by
  rw [toBytes, if_pos h, Py.run_pure]

/-- `bytes(ns)`. -/
def bytes (ns : List Nat) : Py σ (List UInt8) :=
  if ∀ n ∈ ns, n < 256 then pure (ns.map UInt8.ofNat) else Py.raise .valueError

theorem bytes_run {ns : List Nat} (h : ∀ n ∈ ns, n < 256) (s : σ) :
    (bytes ns).run s = (.ok (ns.map UInt8.ofNat), s) := by
  rw [bytes, if_pos h, Py.run_pure]

/-- `bytes.hex()`. -/
def hex (bytes : List UInt8) : String :=
  String.ofList (bytes.flatMap fun b =>
    [Nat.digitChar (b.toNat / 16), Nat.digitChar (b.toNat % 16)])

/-- A response that is not negative is returned by the first attempt. -/
theorem request_run {data response : List UInt8} {s s₁ s₂ : σ}
    (hsend : (transport.send data).run s = (.ok (), s₁))
    (hrecv : transport.recv.run s₁ = (.ok response, s₂))
    (hpos : response.head? ≠ some sidNrc) :
    (request transport data).run s = (.ok response, s₂) := by
  have hnot : ¬(response.length ≥ 3 ∧ response.getD 0 0 = sidNrc) := by
    rintro ⟨hlen, hhead⟩
    cases response with
    | nil => simp at hlen
    | cons b response => exact hpos (congrArg some hhead)
  rw [request, Py.run_bind hsend]
  unfold maxPendingRetries awaitResponse
  rw [Py.run_bind hrecv, if_neg hnot, Py.run_pure]

/-- A bus on which every request is answered with `response`. -/
def answering (response : List UInt8) : Transport Unit where
  send _ := pure ()
  recv := pure response

theorem request_answering {data response : List UInt8} (hpos : response.head? ≠ some sidNrc) :
    (request (answering response) data).run () = (.ok response, ()) :=
  request_run (answering response) rfl rfl hpos

end Uds.Tools
