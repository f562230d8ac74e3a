import Uds.Tools.Client
/-!
# The Python flash service

`UdsFlashService` (`flash.py`): a download or upload as one initial request, a
loop of numbered blocks and an exit request.  The progress callbacks only watch
and are left out.  The upload loop ends only if the ECU sends data, so it runs
with a bound on its iterations.
-/

namespace Uds.Tools

open Uds.Base

variable {σ : Type} (transport : Transport σ)

/-- The body that `_request_download` and `_request_upload` share; `sid` is the
service and `name` how its errors call it. -/
def requestTransfer (sid : UInt8) (name : String) (address size addrLen sizeLen : Nat) :
    Py σ Nat := do
  let addrAndLenFmt := ((sizeLen &&& 0x0F) <<< 4) ||| (addrLen &&& 0x0F)
  let addressBytes ← toBytes address addrLen
  let sizeBytes ← toBytes size sizeLen
  let response ← request transport
    ([sid, 0x00, UInt8.ofNat addrAndLenFmt] ++ addressBytes ++ sizeBytes)
  if response.head? ≠ some (sid + 0x40) then
    Py.raise (.udsProtocolError ("Unexpected " ++ name ++ " response: " ++ hex response))
  else if response.length < 2 then Py.raise .indexError
  else
    let mblLen := ((response.getD 1 0).toNat >>> 4) &&& 0x0F
    if response.length < 2 + mblLen then
      Py.raise (.udsProtocolError (name ++ " response too short for maxBlockLength"))
    else pure (natBE ((response.drop 2).take mblLen))

def requestDownload : Nat → Nat → Nat → Nat → Py σ Nat :=
  requestTransfer transport 0x34 "RequestDownload"

def requestUpload : Nat → Nat → Nat → Nat → Py σ Nat :=
  requestTransfer transport 0x35 "RequestUpload"

def transferData (blockSn : Nat) (data : List UInt8) : Py σ (List UInt8) := do
  let response ← request transport ([0x36, UInt8.ofNat (blockSn &&& 0xFF)] ++ data)
  if response.head? ≠ some 0x76 then
    Py.raise (.udsProtocolError ("Unexpected TransferData response: " ++ hex response))
  else pure (response.drop 2)

def transferExit : Py σ Unit := do
  let response ← request transport [0x37]
  if response.head? ≠ some 0x77 then
    Py.raise (.udsProtocolError ("Unexpected TransferExit response: " ++ hex response))
  else pure ()

/-- The block counter wraps from 0xFF to 1. -/
def nextBlockSn (blockSn : Nat) : Nat := if blockSn ≥ 0xFF then 1 else blockSn + 1

/-- The loop of `download`. -/
def downloadLoop (chunkSize : Nat) (hpos : 0 < chunkSize) (data : List UInt8)
    (offset blockSn : Nat) : Py σ Unit :=
  if offset < data.length then do
    let chunk := (data.drop offset).take chunkSize
    let _ ← transferData transport blockSn chunk
    downloadLoop chunkSize hpos data (offset + chunk.length) (nextBlockSn blockSn)
  else pure ()
termination_by data.length - offset
decreasing_by
  simp only [List.length_take, List.length_drop]
  omega

def download (address : Nat) (data : List UInt8) (addrLen sizeLen : Nat) : Py σ Unit := do
  let maxBlockLen ← requestDownload transport address data.length addrLen sizeLen
  -- the block length includes the byte of the counter
  let chunkSize := max 1 (maxBlockLen - 1)
  downloadLoop transport chunkSize (Nat.le_max_left ..) data 0 1
  transferExit transport

/-- The loop of `upload`, for at most `fuel` blocks. -/
def uploadLoop (length : Nat) : Nat → List UInt8 → Nat → Py σ (List UInt8)
  | 0, result, _ => if result.length < length then Py.raise .outOfFuel else pure result
  | fuel + 1, result, blockSn =>
    if result.length < length then do
      let chunk ← transferData transport blockSn []
      uploadLoop length fuel (result ++ chunk) (nextBlockSn blockSn)
    else pure result

def upload (fuel address length addrLen sizeLen : Nat) : Py σ (List UInt8) := do
  let _ ← requestUpload transport address length addrLen sizeLen
  let result ← uploadLoop transport length fuel [] 1
  transferExit transport
  pure (result.take length)

/-! ## Rules for the two loops -/

section Rules

/-- What every block of a download passes on holds at the end of the loop. -/
theorem downloadLoop_rule {chunkSize : Nat} (hpos : 0 < chunkSize) {data : List UInt8}
    (I : Nat → Nat → σ → Prop)
    (hblock : ∀ offset sn s chunk, I offset sn s → chunk ≠ [] → chunk <+: data.drop offset →
      ∃ bytes s', (transferData transport sn chunk).run s = (.ok bytes, s') ∧
        I (offset + chunk.length) (nextBlockSn sn) s')
    {offset sn : Nat} {s : σ} (hoff : offset ≤ data.length) (h : I offset sn s) :
    ∃ sn' s', (downloadLoop transport chunkSize hpos data offset sn).run s = (.ok (), s') ∧
      I data.length sn' s' := by
  induction offset, sn using downloadLoop.induct chunkSize hpos data generalizing s with
  | case1 offset sn hmore chunk =>
      rename_i ih
      have hlen : chunk.length = min chunkSize (data.length - offset) := by
        rw [List.length_take, List.length_drop]
      have hne : chunk ≠ [] := List.ne_nil_of_length_pos (by omega)
      obtain ⟨bytes, s', hrun, hnext⟩ := hblock offset sn s chunk h hne (List.take_prefix ..)
      obtain ⟨sn', s'', hloop, hend⟩ := ih (by omega) hnext
      refine ⟨sn', s'', ?_, hend⟩
      rw [downloadLoop, if_pos hmore, Py.run_bind hrun]
      exact hloop
  | case2 offset sn hend =>
      have hdone : offset = data.length := by omega
      refine ⟨sn, s, ?_, hdone ▸ h⟩
      rw [downloadLoop, if_neg hend, Py.run_pure]

/-- What every block of an upload passes on holds when all bytes are there. -/
theorem uploadLoop_rule {length : Nat} (I : List UInt8 → Nat → σ → Prop)
    (hblock : ∀ result sn s, I result sn s → result.length < length →
      ∃ chunk s', (transferData transport sn []).run s = (.ok chunk, s') ∧ chunk ≠ [] ∧
        (result ++ chunk).length ≤ length ∧ I (result ++ chunk) (nextBlockSn sn) s')
    {fuel : Nat} {result : List UInt8} {sn : Nat} {s : σ} (hle : result.length ≤ length)
    (hfuel : length - result.length ≤ fuel) (h : I result sn s) :
    ∃ result' sn' s', (uploadLoop transport length fuel result sn).run s = (.ok result', s') ∧
      result'.length = length ∧ I result' sn' s' := by
  induction fuel generalizing result sn s with
  | zero =>
      refine ⟨result, sn, s, ?_, by omega, h⟩
      rw [uploadLoop, if_neg (by omega), Py.run_pure]
  | succ fuel ih =>
      by_cases hmore : result.length < length
      · obtain ⟨chunk, s', hrun, hne, hle', hnext⟩ := hblock result sn s h hmore
        have hpos := List.length_pos_iff.mpr hne
        have hfuel' : length - (result ++ chunk).length ≤ fuel := by
          rw [List.length_append]
          omega
        obtain ⟨result', sn', s'', hloop, hend⟩ := ih hle' hfuel' hnext
        refine ⟨result', sn', s'', ?_, hend⟩
        rw [uploadLoop, if_pos hmore, Py.run_bind hrun]
        exact hloop
      · refine ⟨result, sn, s, ?_, by omega, h⟩
        rw [uploadLoop, if_neg hmore, Py.run_pure]

end Rules

end Uds.Tools
