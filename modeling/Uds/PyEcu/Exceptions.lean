import Mathlib.Tactic.SplitIfs
import Uds.PyEcu.Simulator
import Uds.Tools.Client
/-!
# Exceptions of the handlers

`_dispatch` and its handlers with the operations that can raise: an index into the request and
a number among the elements of `bytes([...])`.  Every handler looks at the length of the
request before it indexes it, so none of them raises while the DTCs can be counted in two
bytes, and each does what its model without exceptions does.
-/

namespace Uds.PyEcu

open Uds.Base Uds.Tools

/-- `bs[i]`. -/
def item (bs : List UInt8) (i : Nat) : Except PyError UInt8 :=
  match bs[i]? with
  | some b => .ok b
  | none => .error .indexError

/-- An element of `bytes([...])`. -/
def byteItem (n : Nat) : Except PyError UInt8 :=
  if n < 256 then .ok (UInt8.ofNat n) else .error .valueError

/-- What a handler returns, with the state it leaves, or its exception. -/
abbrev Raising := Except PyError (EcuState × Option (List UInt8))

namespace Raising

section Handlers

variable (ecu : EcuState) (draws : Draws) (req : List UInt8)

def svcDsc : Raising :=
  if req.length < 2 then pure (ecu, some (nrc 0x10 nrcIncorrectMsgLen))
  else do
    let sessionType ← item req 1
    if sessionType ∉ [0x01, 0x02, 0x03, 0x04] then
      pure (ecu, some (nrc 0x10 nrcSubFunctionNotSupported))
    else
      let ecu := { ecu with session := sessionType.toNat, sessionTs := draws.monotonic }
      let ecu :=
        if sessionType = 0x01 then { ecu with securityLevel := 0, pendingSeed := none } else ecu
      pure (ecu, some [0x50, sessionType, 0x00, 0x32, 0x00, 0xC8])

def svcTesterPresent : Raising :=
  if req.length < 2 then pure (ecu, some (nrc 0x3E nrcIncorrectMsgLen))
  else do
    let subFn ← item req 1
    let suppress := subFn &&& 0x80 ≠ 0
    let actual := subFn &&& 0x7F
    if actual ≠ 0x00 then pure (ecu, some (nrc 0x3E nrcSubFunctionNotSupported))
    else
      let ecu := { ecu with sessionTs := draws.monotonic }
      if suppress then pure (ecu, none) else pure (ecu, some [0x7E, 0x00])

/-- Neither branch indexes the request; the key is a slice of it. -/
def svcSecurityAccess : Raising :=
  if req.length < 2 then pure (ecu, some (nrc 0x27 nrcIncorrectMsgLen))
  else do
    let subFn ← item req 1
    if subFn &&& 0x01 ≠ 0 then pure (requestSeed ecu draws subFn)
    else pure (sendKey ecu draws req subFn)

/-- The loop of `_svc_read_did`; with an odd number of bytes left, `did_bytes[i + 1]` is
missing. -/
def readDidLoop (dids : Dict Nat DidEntry) :
    List UInt8 → List UInt8 → Except PyError (Option (List UInt8))
  | [], result => pure (some result)
  | [_], _ => .error .indexError
  | hi :: lo :: didBytes, result =>
    let didId := (hi.toNat <<< 8) ||| lo.toNat
    match dids.get didId with
    | none => pure none
    | some entry => do
      let high ← byteItem (didId >>> 8)
      let low ← byteItem (didId &&& 0xFF)
      readDidLoop dids didBytes (result ++ [high, low] ++ entry.data)

def svcReadDid : Raising :=
  if req.length < 3 ∨ (req.length - 1) % 2 ≠ 0 then pure (ecu, some (nrc 0x22 nrcIncorrectMsgLen))
  else do
    match ← readDidLoop ecu.dids (req.drop 1) [0x62] with
    | none => pure (ecu, some (nrc 0x22 nrcRequestOutOfRange))
    | some result => pure (ecu, some result)

def svcWriteDid : Raising :=
  if req.length < 4 then pure (ecu, some (nrc 0x2E nrcIncorrectMsgLen))
  else do
    let high ← item req 1
    let low ← item req 2
    let didId := (high.toNat <<< 8) ||| low.toNat
    let data := req.drop 3
    match ecu.dids.get didId with
    | none => pure (ecu, some (nrc 0x2E nrcRequestOutOfRange))
    | some entry =>
      if !entry.writable then pure (ecu, some (nrc 0x2E nrcRequestOutOfRange))
      else if ecu.session < entry.minWriteSession then
        pure (ecu, some (nrc 0x2E nrcRequestOutOfRange))
      else if data.length ≠ entry.data.length then pure (ecu, some (nrc 0x2E nrcIncorrectMsgLen))
      else
        pure ({ ecu with dids := ecu.dids.set didId { entry with data := data } },
          some [0x6E, high, low])

def svcEcuReset : Raising :=
  if req.length < 2 then pure (ecu, some (nrc 0x11 nrcIncorrectMsgLen))
  else do
    let resetType ← item req 1
    if resetType ∉ [0x01, 0x02, 0x03] then pure (ecu, some (nrc 0x11 nrcSubFunctionNotSupported))
    else
      pure ({ ecu with session := 0x01, securityLevel := 0, pendingSeed := none },
        some [0x51, resetType])

def svcClearDtc : Raising :=
  if req.length < 4 then pure (ecu, some (nrc 0x14 nrcIncorrectMsgLen))
  else do
    let high ← item req 1
    let middle ← item req 2
    let low ← item req 3
    let group := ((high.toNat <<< 16) ||| (middle.toNat <<< 8)) ||| low.toNat
    if group = 0xFFFFFF then
      pure ({ ecu with dtcs := ecu.dtcs.map fun p => (p.1, 0x00) }, some [0x54])
    else
      let matched := ecu.dtcs.any fun p => groupByte p.1 = groupByte group
      let ecu := { ecu with
        dtcs := ecu.dtcs.map fun p =>
          if groupByte p.1 = groupByte group then (p.1, 0x00) else p }
      if !matched then pure (ecu, some (nrc 0x14 nrcRequestOutOfRange))
      else pure (ecu, some [0x54])

def dtcRecord (p : Nat × UInt8) : Except PyError (List UInt8) := do
  let high ← byteItem ((p.1 >>> 16) &&& 0xFF)
  let middle ← byteItem ((p.1 >>> 8) &&& 0xFF)
  let low ← byteItem (p.1 &&& 0xFF)
  pure [high, middle, low, p.2]

def svcReadDtc : Raising :=
  if req.length < 2 then pure (ecu, some (nrc 0x19 nrcIncorrectMsgLen))
  else do
    let subFn ← item req 1
    if subFn = 0x01 then
      if req.length < 3 then pure (ecu, some (nrc 0x19 nrcIncorrectMsgLen))
      else do
        let mask ← item req 2
        let count := ecu.dtcs.values.countP fun s => s &&& mask ≠ 0
        let high ← byteItem (count >>> 8)
        let low ← byteItem (count &&& 0xFF)
        pure (ecu, some [0x59, 0x01, 0xFF, 0x01, high, low])
    else if subFn = 0x02 then
      if req.length < 3 then pure (ecu, some (nrc 0x19 nrcIncorrectMsgLen))
      else do
        let mask ← item req 2
        let records ← (ecu.dtcs.filter fun p => p.2 &&& mask ≠ 0).mapM dtcRecord
        pure (ecu, some ([0x59, 0x02, mask] ++ records.flatten))
    else if subFn = 0x0A then do
      let records ← ecu.dtcs.mapM dtcRecord
      pure (ecu, some ([0x59, 0x0A, 0xFF] ++ records.flatten))
    else pure (ecu, some (nrc 0x19 nrcSubFunctionNotSupported))

/-- The checks of 0x34 and 0x35. -/
def parseTransferRequest : Except PyError (Except UInt8 (Nat × Nat)) :=
  if req.length < 4 then pure (.error nrcIncorrectMsgLen)
  else do
    let addrLenFmt ← item req 2
    let addrLen := addrLenFmt.toNat &&& 0x0F
    let sizeLen := (addrLenFmt.toNat >>> 4) &&& 0x0F
    if addrLen = 0 ∨ sizeLen = 0 then pure (.error nrcRequestOutOfRange)
    else if req.length < 3 + addrLen + sizeLen then pure (.error nrcIncorrectMsgLen)
    else
      let address := natBE ((req.drop 3).take addrLen)
      let size := natBE ((req.drop (3 + addrLen)).take sizeLen)
      if address < flashBase ∨ address + size > flashBase + flashSize then
        pure (.error nrcRequestOutOfRange)
      else pure (.ok (address, size))

def maxBlockLength : Except PyError (List UInt8) := do
  let high ← byteItem ((flashMaxBlockLen >>> 8) &&& 0xFF)
  let low ← byteItem (flashMaxBlockLen &&& 0xFF)
  pure [0x20, high, low]

def svcRequestDownload : Raising := do
  match ← parseTransferRequest req with
  | .error e => pure (ecu, some (nrc 0x34 e))
  | .ok (address, size) =>
    let ecu := startTransfer ecu 0x34 address size
    let mbl ← maxBlockLength
    pure ({ ecu with
        flash := storeFlash ecu.flash (address - flashBase) (List.replicate size 0) },
      some (0x74 :: mbl))

def svcRequestUpload : Raising := do
  match ← parseTransferRequest req with
  | .error e => pure (ecu, some (nrc 0x35 e))
  | .ok (address, size) =>
    let mbl ← maxBlockLength
    pure (startTransfer ecu 0x35 address size, some (0x75 :: mbl))

def svcTransferData : Raising :=
  if ecu.xferMode = 0 then pure (ecu, some (nrc 0x36 nrcRequestSequenceError))
  else if req.length < 2 then pure (ecu, some (nrc 0x36 nrcIncorrectMsgLen))
  else do
    let blockSn ← item req 1
    let flashStart := ecu.xferAddress - flashBase + ecu.xferOffset
    let remaining := ecu.xferSize - ecu.xferOffset
    if blockSn.toNat ≠ ecu.xferExpectedSn &&& 0xFF then
      pure (ecu, some (nrc 0x36 nrcWrongBlockSequenceCounter))
    else if ecu.xferMode = 0x34 then
      let chunk := (req.drop 2).take remaining
      pure ({ ecu with
          flash := storeFlash ecu.flash flashStart chunk
          xferOffset := ecu.xferOffset + chunk.length
          xferExpectedSn := nextSn ecu.xferExpectedSn }, some [0x76, blockSn])
    else
      let chunkSize := min flashBlockSize remaining
      let chunk := (ecu.flash.drop flashStart).take chunkSize
      pure ({ ecu with
          xferOffset := ecu.xferOffset + chunkSize
          xferExpectedSn := nextSn ecu.xferExpectedSn }, some ([0x76, blockSn] ++ chunk))

/-- `_dispatch`; `_svc_transfer_exit` has nothing that raises. -/
def dispatch : Raising :=
  match req with
  | [] => pure (ecu, none)
  | sid :: _ =>
    if sid = 0x10 then svcDsc ecu draws req
    else if sid = 0x3E then svcTesterPresent ecu draws req
    else if sid = 0x27 then svcSecurityAccess ecu draws req
    else if sid = 0x22 then svcReadDid ecu req
    else if sid = 0x2E then svcWriteDid ecu req
    else if sid = 0x11 then svcEcuReset ecu req
    else if sid = 0x14 then svcClearDtc ecu req
    else if sid = 0x19 then svcReadDtc ecu req
    else if sid = 0x34 then svcRequestDownload ecu req
    else if sid = 0x35 then svcRequestUpload ecu req
    else if sid = 0x36 then svcTransferData ecu req
    else if sid = 0x37 then pure (svcTransferExit ecu)
    else pure (ecu, some (nrc sid nrcServiceNotSupported))

end Handlers

/-! ## Nothing is raised -/

section Total

variable (ecu : EcuState) (draws : Draws) (req : List UInt8)

theorem item_eq {bs : List UInt8} {i : Nat} (h : i < bs.length) :
    item bs i = .ok (bs.getD i 0) := by
  unfold item
  rw [List.getElem?_eq_getElem h, List.getD_eq_getElem _ _ h]

theorem byteItem_eq {n : Nat} (h : n < 256) : byteItem n = .ok (UInt8.ofNat n) := if_pos h

theorem byteItem_and (n : Nat) : byteItem (n &&& 0xFF) = .ok (UInt8.ofNat (n &&& 0xFF)) := by
  apply byteItem_eq
  rw [and_FF]
  omega

theorem byteItem_shr {n : Nat} (h : n < 65536) :
    byteItem (n >>> 8) = .ok (UInt8.ofNat (n >>> 8)) := by
  apply byteItem_eq
  rw [shr_8]
  omega

theorem ok_bind {α β : Type} (a : α) (f : α → Except PyError β) : (Except.ok a >>= f) = f a :=
  rfl

theorem ite_ok {α : Type} {p : Prop} [Decidable p] {a b : α} {x y : Except PyError α}
    (h : p → x = .ok a) (h' : ¬p → y = .ok b) :
    (if p then x else y) = .ok (if p then a else b) := by
  by_cases hp : p
  · rw [if_pos hp, if_pos hp, h hp]
  · rw [if_neg hp, if_neg hp, h' hp]

theorem ite_pure {α : Type} {p : Prop} [Decidable p] {a b : α} {body : Except PyError α}
    (h : ¬p → body = .ok b) : (if p then pure a else body) = .ok (if p then a else b) :=
  ite_ok (fun _ => rfl) h

theorem svcDsc_eq : svcDsc ecu draws req = .ok (PyEcu.svcDsc ecu draws req) := by
  unfold svcDsc PyEcu.svcDsc
  apply ite_pure
  intro hlen
  rw [item_eq (by omega), ok_bind]
  dsimp only
  split_ifs <;> rfl

theorem svcTesterPresent_eq :
    svcTesterPresent ecu draws req = .ok (PyEcu.svcTesterPresent ecu draws req) := by
  unfold svcTesterPresent PyEcu.svcTesterPresent
  apply ite_pure
  intro hlen
  rw [item_eq (by omega), ok_bind]
  dsimp only
  split_ifs <;> rfl

theorem svcSecurityAccess_eq :
    svcSecurityAccess ecu draws req = .ok (PyEcu.svcSecurityAccess ecu draws req) := by
  unfold svcSecurityAccess PyEcu.svcSecurityAccess
  apply ite_pure
  intro hlen
  rw [item_eq (by omega), ok_bind]
  dsimp only
  split_ifs <;> rfl

/-- The loop has an even number of bytes, so both bytes of every identifier are there. -/
theorem readDidLoop_eq (dids : Dict Nat DidEntry) (didBytes result : List UInt8)
    (heven : didBytes.length % 2 = 0) :
    readDidLoop dids didBytes result = .ok (PyEcu.readDidLoop dids didBytes result) := by
  induction didBytes, result using PyEcu.readDidLoop.induct dids with
  | case1 hi lo didBytes result didId hnone =>
      rw [readDidLoop, PyEcu.readDidLoop, hnone]
      rfl
  | case2 hi lo didBytes result didId entry hsome ih =>
      have hid : didId < 65536 := by
        have hhi := hi.toNat_lt
        have hlo := lo.toNat_lt
        change (hi.toNat <<< 8) ||| lo.toNat < 65536
        rw [shl_or _ _ 8 hlo]
        omega
      rw [readDidLoop, PyEcu.readDidLoop, hsome]
      change (byteItem (didId >>> 8) >>= _) = _
      rw [byteItem_shr hid, ok_bind]
      change (byteItem (didId &&& 0xFF) >>= _) = _
      rw [byteItem_and, ok_bind]
      apply ih
      simp only [List.length_cons] at heven
      omega
  | case3 didBytes result hshort =>
      cases didBytes with
      | nil => rfl
      | cons hi didBytes =>
          cases didBytes with
          | nil => cases heven
          | cons lo didBytes => exact absurd rfl (hshort hi lo didBytes)

theorem svcReadDid_eq : svcReadDid ecu req = .ok (PyEcu.svcReadDid ecu req) := by
  unfold svcReadDid PyEcu.svcReadDid
  apply ite_pure
  intro hlen
  have heven : (req.drop 1).length % 2 = 0 := by
    rw [List.length_drop]
    omega
  rw [readDidLoop_eq _ _ _ heven, ok_bind]
  cases PyEcu.readDidLoop ecu.dids (req.drop 1) [0x62] with
  | none => rfl
  | some result => rfl

theorem svcWriteDid_eq : svcWriteDid ecu req = .ok (PyEcu.svcWriteDid ecu req) := by
  unfold svcWriteDid PyEcu.svcWriteDid
  apply ite_pure
  intro hlen
  rw [item_eq (by omega), ok_bind, item_eq (by omega), ok_bind]
  dsimp only
  cases ecu.dids.get (((req.getD 1 0).toNat <<< 8) ||| (req.getD 2 0).toNat) with
  | none => rfl
  | some entry =>
      dsimp only
      split_ifs <;> rfl

theorem svcEcuReset_eq : svcEcuReset ecu req = .ok (PyEcu.svcEcuReset ecu req) := by
  unfold svcEcuReset PyEcu.svcEcuReset
  apply ite_pure
  intro hlen
  rw [item_eq (by omega), ok_bind]
  dsimp only
  split_ifs <;> rfl

theorem svcClearDtc_eq : svcClearDtc ecu req = .ok (PyEcu.svcClearDtc ecu req) := by
  unfold svcClearDtc PyEcu.svcClearDtc
  apply ite_pure
  intro hlen
  rw [item_eq (by omega), ok_bind, item_eq (by omega), ok_bind, item_eq (by omega), ok_bind]
  dsimp only
  split_ifs <;> rfl

theorem dtcRecord_eq (p : Nat × UInt8) : dtcRecord p = .ok (PyEcu.dtcRecord p) := by
  unfold dtcRecord
  rw [byteItem_and, ok_bind, byteItem_and, ok_bind, byteItem_and, ok_bind]
  rfl

theorem mapM_dtcRecord (dtcs : Dict Nat UInt8) :
    dtcs.mapM dtcRecord = .ok (dtcs.map PyEcu.dtcRecord) := by
  have hpure : dtcRecord = fun p => pure (PyEcu.dtcRecord p) := funext dtcRecord_eq
  rw [hpure]
  exact List.mapM_pure

theorem svcReadDtc_eq (hdtcs : ecu.dtcs.length < 65536) :
    svcReadDtc ecu req = .ok (PyEcu.svcReadDtc ecu req) := by
  unfold svcReadDtc PyEcu.svcReadDtc
  apply ite_pure
  intro hlen
  rw [item_eq (by omega), ok_bind]
  dsimp only
  apply ite_ok
  · intro h01
    apply ite_pure
    intro hshort
    have hcount : ∀ p : UInt8 → Bool, ecu.dtcs.values.countP p < 65536 := by
      intro p
      have hle := List.countP_le_length (p := p) (l := ecu.dtcs.values)
      rw [Dict.values, List.length_map] at hle
      exact Nat.lt_of_le_of_lt hle hdtcs
    rw [item_eq (by omega), ok_bind, byteItem_shr (hcount _), ok_bind, byteItem_and, ok_bind]
    rfl
  · intro h01
    apply ite_ok
    · intro h02
      apply ite_pure
      intro hshort
      rw [item_eq (by omega), ok_bind, mapM_dtcRecord, ok_bind, ← List.flatMap_def]
      rfl
    · intro h02
      apply ite_ok
      · intro h0a
        rw [mapM_dtcRecord, ok_bind, ← List.flatMap_def]
        rfl
      · exact fun _ => rfl

theorem parseTransferRequest_eq :
    parseTransferRequest req = .ok (PyEcu.parseTransferRequest req) := by
  unfold parseTransferRequest PyEcu.parseTransferRequest
  apply ite_pure
  intro hlen
  rw [item_eq (by omega), ok_bind]
  dsimp only
  split_ifs <;> rfl

theorem maxBlockLength_eq : maxBlockLength = .ok PyEcu.maxBlockLength := by
  unfold maxBlockLength
  rw [byteItem_and, ok_bind, byteItem_and, ok_bind]
  rfl

theorem svcRequestDownload_eq :
    svcRequestDownload ecu req = .ok (PyEcu.svcRequestDownload ecu req) := by
  unfold svcRequestDownload PyEcu.svcRequestDownload
  rw [parseTransferRequest_eq, ok_bind, maxBlockLength_eq]
  cases PyEcu.parseTransferRequest req with
  | error e => rfl
  | ok range => rfl

theorem svcRequestUpload_eq : svcRequestUpload ecu req = .ok (PyEcu.svcRequestUpload ecu req) := by
  unfold svcRequestUpload PyEcu.svcRequestUpload
  rw [parseTransferRequest_eq, ok_bind, maxBlockLength_eq]
  cases PyEcu.parseTransferRequest req with
  | error e => rfl
  | ok range => rfl

theorem svcTransferData_eq : svcTransferData ecu req = .ok (PyEcu.svcTransferData ecu req) := by
  unfold svcTransferData PyEcu.svcTransferData
  apply ite_pure
  intro hactive
  apply ite_pure
  intro hlen
  rw [item_eq (by omega), ok_bind]
  dsimp only
  split_ifs <;> rfl

theorem dispatch_eq (hdtcs : ecu.dtcs.length < 65536) :
    dispatch ecu draws req = .ok (PyEcu.dispatch ecu draws req) := by
  unfold dispatch PyEcu.dispatch
  cases req with
  | nil => rfl
  | cons sid args =>
      dsimp only
      rw [svcDsc_eq, svcTesterPresent_eq, svcSecurityAccess_eq, svcReadDid_eq, svcWriteDid_eq,
        svcEcuReset_eq, svcClearDtc_eq, svcReadDtc_eq _ _ hdtcs, svcRequestDownload_eq,
        svcRequestUpload_eq, svcTransferData_eq]
      simp only [apply_ite Except.ok]
      rfl

end Total

end Raising

/-! ## The codes of the DTCs -/

/-- The codes in the DTC table. -/
def dtcCodes (ecu : EcuState) : List Nat := ecu.dtcs.map Prod.fst

section Codes

variable (ecu : EcuState) (draws : Draws) (req : List UInt8)

theorem dtcCodes_svcDsc : dtcCodes (svcDsc ecu draws req).1 = dtcCodes ecu := by
  unfold svcDsc
  dsimp only
  split_ifs <;> rfl

theorem dtcCodes_svcTesterPresent :
    dtcCodes (svcTesterPresent ecu draws req).1 = dtcCodes ecu := by
  unfold svcTesterPresent
  dsimp only
  split_ifs <;> rfl

theorem dtcCodes_drawSeed (subFn : UInt8) :
    dtcCodes (drawSeed ecu draws subFn).1 = dtcCodes ecu := by
  unfold drawSeed
  dsimp only
  split_ifs <;> rfl

theorem dtcCodes_requestSeed (subFn : UInt8) :
    dtcCodes (requestSeed ecu draws subFn).1 = dtcCodes ecu := by
  unfold requestSeed
  split_ifs
  · rfl
  · exact dtcCodes_drawSeed { ecu with locked := false, failCount := 0 } draws subFn
  · exact dtcCodes_drawSeed ecu draws subFn

theorem dtcCodes_sendKey (subFn : UInt8) :
    dtcCodes (sendKey ecu draws req subFn).1 = dtcCodes ecu := by
  unfold sendKey
  cases ecu.pendingSeed with
  | none => rfl
  | some seed =>
      dsimp only
      split_ifs <;> rfl

theorem dtcCodes_svcSecurityAccess :
    dtcCodes (svcSecurityAccess ecu draws req).1 = dtcCodes ecu := by
  unfold svcSecurityAccess
  dsimp only
  split_ifs
  · rfl
  · exact dtcCodes_requestSeed ecu draws _
  · exact dtcCodes_sendKey ecu draws req _

theorem dtcCodes_svcReadDid : dtcCodes (svcReadDid ecu req).1 = dtcCodes ecu := by
  unfold svcReadDid
  split_ifs
  · rfl
  · cases readDidLoop ecu.dids (req.drop 1) [0x62] with
    | none => rfl
    | some result => rfl

theorem dtcCodes_svcWriteDid : dtcCodes (svcWriteDid ecu req).1 = dtcCodes ecu := by
  unfold svcWriteDid
  dsimp only
  split_ifs
  · rfl
  · cases ecu.dids.get (((req.getD 1 0).toNat <<< 8) ||| (req.getD 2 0).toNat) with
    | none => rfl
    | some entry =>
        dsimp only
        split_ifs <;> rfl

theorem dtcCodes_svcEcuReset : dtcCodes (svcEcuReset ecu req).1 = dtcCodes ecu := by
  unfold svcEcuReset
  dsimp only
  split_ifs <;> rfl

theorem dtcCodes_svcClearDtc : dtcCodes (svcClearDtc ecu req).1 = dtcCodes ecu := by
  have hmap : ∀ f : Nat × UInt8 → Nat × UInt8, (∀ p, (f p).1 = p.1) →
      (ecu.dtcs.map f).map Prod.fst = ecu.dtcs.map Prod.fst := by
    intro f hf
    rw [List.map_map]
    exact List.map_congr_left fun p _ => hf p
  have hgroup : ∀ group : Nat, ∀ p : Nat × UInt8,
      (if groupByte p.1 = groupByte group then (p.1, (0x00 : UInt8)) else p).1 = p.1 := by
    intro group p
    split_ifs <;> rfl
  unfold svcClearDtc
  dsimp only
  split_ifs
  · rfl
  · exact hmap _ fun _ => rfl
  · exact hmap _ (hgroup _)
  · exact hmap _ (hgroup _)

theorem dtcCodes_svcReadDtc : dtcCodes (svcReadDtc ecu req).1 = dtcCodes ecu := by
  unfold svcReadDtc
  dsimp only
  split_ifs <;> rfl

theorem dtcCodes_svcRequestDownload :
    dtcCodes (svcRequestDownload ecu req).1 = dtcCodes ecu := by
  unfold svcRequestDownload
  cases parseTransferRequest req with
  | error e => rfl
  | ok range => rfl

theorem dtcCodes_svcRequestUpload : dtcCodes (svcRequestUpload ecu req).1 = dtcCodes ecu := by
  unfold svcRequestUpload
  cases parseTransferRequest req with
  | error e => rfl
  | ok range => rfl

theorem dtcCodes_svcTransferData : dtcCodes (svcTransferData ecu req).1 = dtcCodes ecu := by
  unfold svcTransferData
  dsimp only
  split_ifs <;> rfl

theorem dtcCodes_svcTransferExit : dtcCodes (svcTransferExit ecu).1 = dtcCodes ecu := by
  unfold svcTransferExit
  split_ifs <;> rfl

/-- No request adds or removes a DTC. -/
theorem dtcCodes_dispatch : dtcCodes (dispatch ecu draws req).1 = dtcCodes ecu := by
  apply dispatch_rule ecu draws req (P := fun out => dtcCodes out.1 = dtcCodes ecu)
  · rfl
  · exact fun _ => rfl
  · exact dtcCodes_svcDsc ecu draws req
  · exact dtcCodes_svcTesterPresent ecu draws req
  · exact dtcCodes_svcSecurityAccess ecu draws req
  · exact dtcCodes_svcReadDid ecu req
  · exact dtcCodes_svcWriteDid ecu req
  · exact dtcCodes_svcEcuReset ecu req
  · exact dtcCodes_svcClearDtc ecu req
  · exact dtcCodes_svcReadDtc ecu req
  · exact dtcCodes_svcRequestDownload ecu req
  · exact dtcCodes_svcRequestUpload ecu req
  · exact dtcCodes_svcTransferData ecu req
  · exact dtcCodes_svcTransferExit ecu

end Codes

end Uds.PyEcu
