import Uds.Core.DtcReports
import Uds.Tools.Client
/-!
# The Python DTC service

`UdsDtcService` (`dtc.py`) and what its parsers make of the responses that
`uds_svc_read_dtc` builds.
-/

namespace Uds.Tools

open Uds.Base Uds.Core

/-- One `{'code': int, 'status': int}` of the parsed list. -/
structure DtcRecord where
  code : Nat
  status : Nat
  deriving DecidableEq

/-- `UdsDtcService._parse_dtc_records`; a last piece of less than four bytes is ignored. -/
def parseDtcRecords : List UInt8 → List DtcRecord
  | b2 :: b1 :: b0 :: status :: data =>
    ⟨((b2.toNat <<< 16) ||| (b1.toNat <<< 8)) ||| b0.toNat, status.toNat⟩ :: parseDtcRecords data
  | _ => []

section Client

variable {σ : Type} (transport : Transport σ)

def readCount (statusMask : Nat) : Py σ Nat := do
  let req ← bytes [0x19, 0x01, statusMask]
  let response ← request transport req
  if response.length < 5 ∨ response.getD 0 0 ≠ 0x59 ∨ response.getD 1 0 ≠ 0x01 then
    Py.raise (.udsProtocolError ("Unexpected ReadDTCCount response: " ++ hex response))
  else pure (((response.getD 3 0).toNat <<< 8) ||| (response.getD 4 0).toNat)

def readByStatus (statusMask : Nat) : Py σ (List DtcRecord) := do
  let req ← bytes [0x19, 0x02, statusMask]
  let response ← request transport req
  if response.length < 3 ∨ response.getD 0 0 ≠ 0x59 ∨ response.getD 1 0 ≠ 0x02 then
    Py.raise (.udsProtocolError ("Unexpected ReadDTCByStatus response: " ++ hex response))
  else pure (parseDtcRecords (response.drop 3))

def readAll : Py σ (List DtcRecord) := do
  let response ← request transport [0x19, 0x0A]
  if response.length < 3 ∨ response.getD 0 0 ≠ 0x59 ∨ response.getD 1 0 ≠ 0x0A then
    Py.raise (.udsProtocolError ("Unexpected ReadAllDTC response: " ++ hex response))
  else pure (parseDtcRecords (response.drop 3))

end Client

/-! ## Records -/

/-- What the client should learn about an entry. -/
def dtcRecordOf (e : UdsDtcEntry) : DtcRecord := ⟨e.dtcCode.toNat, e.status.toNat⟩

theorem shl_or_threeBytes (a b c : Nat) (ha : a < 256) (hb : b < 256) (hc : c < 256) :
    ((a <<< 16) ||| (b <<< 8)) ||| c = a * 65536 + b * 256 + c := by
  have h := shl_or_bytes 0 a b c ha hb hc
  rw [Nat.zero_shiftLeft, Nat.zero_or] at h
  rw [h]
  omega

theorem parseDtcRecords_record (e : UdsDtcEntry) (data : List UInt8)
    (hcode : e.dtcCode < 0x1000000) :
    parseDtcRecords (dtcRecord e ++ data) = dtcRecordOf e :: parseDtcRecords data := by
  have hlt : e.dtcCode.toNat < 0x1000000 := hcode
  have hhigh : ((e.dtcCode >>> 16) &&& 0xFF).toUInt8.toNat = e.dtcCode.toNat / 65536 % 256 :=
    toNat_dtcByte e.dtcCode 16
  have hmid : ((e.dtcCode >>> 8) &&& 0xFF).toUInt8.toNat = e.dtcCode.toNat / 256 % 256 :=
    toNat_dtcByte e.dtcCode 8
  have hlow := toNat_dtcByte_low e.dtcCode
  have hvalue : ((((e.dtcCode >>> 16) &&& 0xFF).toUInt8.toNat <<< 16) |||
      (((e.dtcCode >>> 8) &&& 0xFF).toUInt8.toNat <<< 8)) |||
        ((e.dtcCode &&& 0xFF).toUInt8).toNat = e.dtcCode.toNat := by
    rw [shl_or_threeBytes _ _ _ (UInt8.toNat_lt _) (UInt8.toNat_lt _) (UInt8.toNat_lt _)]
    rw [hhigh, hmid, hlow]
    omega
  unfold dtcRecord dtcRecordOf
  rw [← hvalue]
  rfl

theorem parseDtcRecords_records {reg : UdsDtcRegistry}
    (hcodes : ∀ e ∈ reg, e.dtcCode < 0x1000000) :
    parseDtcRecords (reg.flatMap dtcRecord) = reg.map dtcRecordOf := by
  induction reg with
  | nil => rfl
  | cons e reg ih =>
      have hrest := ih fun e' he' => hcodes e' (List.mem_cons_of_mem e he')
      rw [List.flatMap_cons, parseDtcRecords_record e _ (hcodes e List.mem_cons_self), hrest]
      rfl

/-! ## Reports -/

section Reports

variable {reg : UdsDtcRegistry} {statusMask : UInt8} {respSize : Nat}

theorem count_of_bytes {n : Nat} (h : n ≤ 65535) :
    ((countBytes n).getD 0 0).toNat * 256 + ((countBytes n).getD 1 0).toNat = n := by
  unfold countBytes
  simp only [List.getD_cons_zero, List.getD_cons_succ, UInt8.toNat_ofNat']
  omega

/-- The reports on a registry of at most 65535 entries with 24-bit codes: where
they fit, the parsed records are the matching entries, respectively all entries,
in registry order, and the count is the number of matching entries.  Where the
list does not fit, the call fails and leaves `*resp_len` alone. -/
theorem readDtc_reports (reg : UdsDtcRegistry) (statusMask : UInt8) (args : List UInt8)
    (respSize respLen : Nat) (hreg : reg.length ≤ 65535)
    (hcodes : ∀ e ∈ reg, e.dtcCode < 0x1000000) :
    (3 + 4 * (matchingDtcs reg statusMask).length ≤ respSize →
      ∃ resp, udsSvcReadDtc reg 0x02 (statusMask :: args) respSize = .ok resp ∧
        parseDtcRecords (resp.drop 3) = (matchingDtcs reg statusMask).map dtcRecordOf) ∧
    (3 + 4 * reg.length ≤ respSize →
      ∃ resp, udsSvcReadDtc reg 0x0A args respSize = .ok resp ∧
        parseDtcRecords (resp.drop 3) = reg.map dtcRecordOf) ∧
    (6 ≤ respSize →
      ∃ resp, udsSvcReadDtc reg 0x01 (statusMask :: args) respSize = .ok resp ∧ resp.length = 6 ∧
        (resp.getD 4 0).toNat * 256 + (resp.getD 5 0).toNat =
          ((matchingDtcs reg statusMask).map dtcRecordOf).length) ∧
    (respSize < 3 + 4 * (matchingDtcs reg statusMask).length →
      udsSvcReadDtc reg 0x02 (statusMask :: args) respSize = .error .errBuf ∧
        udsSvcReadDtcRespLen reg 0x02 (statusMask :: args) respSize respLen = respLen) ∧
    (respSize < 3 + 4 * reg.length →
      udsSvcReadDtc reg 0x0A args respSize = .error .errBuf ∧
        udsSvcReadDtcRespLen reg 0x0A args respSize respLen = respLen) := by
  have hmatching : ∀ e ∈ matchingDtcs reg statusMask, e.dtcCode < 0x1000000 := fun e he =>
    hcodes e (List.mem_filter.mp he).1
  have hcount := length_matchingDtcs_le reg statusMask
  have hbyStatus := udsSvcReadDtc_byStatus reg statusMask args respSize
  have hsupported := udsSvcReadDtc_supported reg respSize args
  refine ⟨?_, ?_, ?_, ?_, ?_⟩
  · intro hfit
    rw [if_pos hfit] at hbyStatus
    exact ⟨_, hbyStatus, parseDtcRecords_records hmatching⟩
  · intro hfit
    rw [if_pos hfit] at hsupported
    exact ⟨_, hsupported, parseDtcRecords_records hcodes⟩
  · intro hfit
    refine ⟨_, udsSvcReadDtc_count reg statusMask args respSize hreg hfit, rfl, ?_⟩
    rw [List.length_map]
    exact count_of_bytes (by omega)
  · intro hfit
    rw [if_neg (by omega)] at hbyStatus
    refine ⟨hbyStatus, ?_⟩
    rw [udsSvcReadDtcRespLen_eq, hbyStatus]
    rfl
  · intro hfit
    rw [if_neg (by omega)] at hsupported
    refine ⟨hsupported, ?_⟩
    rw [udsSvcReadDtcRespLen_eq, hsupported]
    rfl

end Reports

/-! ## The client against the server -/

section Client

variable {σ : Type} {transport : Transport σ} {s s' : σ} {reg : UdsDtcRegistry}
  {statusMask : UInt8} {respSize : Nat} {response : List UInt8}

theorem bytes_dtcRequest (subFn statusMask : UInt8) (s : σ) :
    (bytes [0x19, subFn.toNat, statusMask.toNat]).run s =
      (.ok [0x19, subFn, statusMask], s) := by
  rw [bytes_run]
  · simp
  · intro n hn
    simp only [List.mem_cons, List.not_mem_nil, or_false] at hn
    rcases hn with rfl | rfl | rfl
    · decide
    · exact subFn.toNat_lt
    · exact statusMask.toNat_lt

/-- The client parses a response that begins as it expects. -/
theorem readByStatus_run {body : List UInt8}
    (hrequest : (request transport [0x19, 0x02, statusMask]).run s =
      (.ok ([0x59, 0x02, statusMask] ++ body), s')) :
    (readByStatus transport statusMask.toNat).run s = (.ok (parseDtcRecords body), s') := by
  have hbytes : (bytes [0x19, 0x02, statusMask.toNat]).run s = (.ok [0x19, 0x02, statusMask], s) :=
    bytes_dtcRequest 0x02 statusMask s
  unfold readByStatus
  rw [Py.run_bind hbytes, Py.run_bind hrequest]
  rfl

theorem readAll_run {body : List UInt8}
    (hrequest : (request transport [0x19, 0x0A]).run s =
      (.ok ([0x59, 0x0A, 0xFF] ++ body), s')) :
    (readAll transport).run s = (.ok (parseDtcRecords body), s') := by
  unfold readAll
  rw [Py.run_bind hrequest]
  rfl

theorem readCount_run {n : Nat} (hn : n ≤ 65535)
    (hrequest : (request transport [0x19, 0x01, statusMask]).run s =
      (.ok ([0x59, 0x01, 0xFF, 0x01] ++ countBytes n), s')) :
    (readCount transport statusMask.toNat).run s = (.ok (256 + n / 256), s') := by
  have hhigh : (UInt8.ofNat (n / 256)).toNat = n / 256 := by
    rw [UInt8.toNat_ofNat']
    omega
  have hvalue : ((1 : UInt8).toNat <<< 8) ||| (UInt8.ofNat (n / 256)).toNat = 256 + n / 256 := by
    rw [hhigh, shl_or _ _ 8 (by omega)]
    rfl
  have hbytes : (bytes [0x19, 0x01, statusMask.toNat]).run s = (.ok [0x19, 0x01, statusMask], s) :=
    bytes_dtcRequest 0x01 statusMask s
  unfold readCount
  rw [Py.run_bind hbytes, Py.run_bind hrequest, ← hvalue]
  rfl

/-- `read_count` returns the number of matching entries exactly when there are
257 of them. -/
theorem readCount_iff (hreg : reg.length ≤ 65535)
    (hserver : udsSvcReadDtc reg 0x01 [statusMask] respSize = .ok response)
    (hrequest : (request transport [0x19, 0x01, statusMask]).run s = (.ok response, s')) :
    (readCount transport statusMask.toNat).run s =
        (.ok (matchingDtcs reg statusMask).length, s') ↔
      (matchingDtcs reg statusMask).length = 257 := by
  have hle := length_matchingDtcs_le reg statusMask
  have hsize : 6 ≤ respSize := by
    apply Nat.not_lt.mp
    intro hsmall
    have herror : udsSvcReadDtc reg 0x01 [statusMask] respSize = .error .errBuf := if_pos hsmall
    rw [herror] at hserver
    cases hserver
  rw [udsSvcReadDtc_count reg statusMask [] respSize hreg hsize] at hserver
  rw [← Except.ok.inj hserver] at hrequest
  rw [readCount_run (by omega) hrequest]
  constructor
  · intro h
    have hcount := Except.ok.inj (congrArg Prod.fst h)
    omega
  · intro h
    rw [h]

end Client

/-- One entry that every mask matches. -/
def failedDtc : UdsDtcEntry := ⟨0x010001, 0xFF, Vector.replicate 16 0, 0⟩

theorem readDtc_reports_twoEntries :
    (∃ resp, udsSvcReadDtc [failedDtc, failedDtc] 0x02 [0x08] 11 = .ok resp ∧
        parseDtcRecords (resp.drop 3) = [⟨0x010001, 0xFF⟩, ⟨0x010001, 0xFF⟩]) ∧
      udsSvcReadDtc [failedDtc, failedDtc] 0x0A [0x08] 10 = .error .errBuf ∧
        udsSvcReadDtcRespLen [failedDtc, failedDtc] 0x0A [0x08] 10 77 = 77 := by
  have hcodes : ∀ e ∈ [failedDtc, failedDtc], e.dtcCode < 0x1000000 := by
    intro e he
    rw [List.eq_of_mem_replicate (n := 2) he]
    decide
  have hfits := readDtc_reports [failedDtc, failedDtc] 0x08 [] 11 77 (by decide) hcodes
  have hshort := readDtc_reports [failedDtc, failedDtc] 0x08 [0x08] 10 77 (by decide) hcodes
  exact ⟨hfits.1 (by decide), hshort.2.2.2.2 (by decide)⟩

theorem readCount_iff_twoEntries :
    (readCount (answering [0x59, 0x01, 0xFF, 0x01, 0x00, 0x02]) (0xFF : UInt8).toNat).run () =
        (.ok (matchingDtcs [failedDtc, failedDtc] 0xFF).length, ()) ↔
      (matchingDtcs [failedDtc, failedDtc] 0xFF).length = 257 := by
  have hserver : udsSvcReadDtc [failedDtc, failedDtc] 0x01 [0xFF] 4095 =
      .ok [0x59, 0x01, 0xFF, 0x01, 0x00, 0x02] := rfl
  exact readCount_iff (by decide) hserver (request_answering (by decide))

/-- Two entries match, and `read_count` returns 256. -/
theorem readCount_twoEntries :
    (matchingDtcs [failedDtc, failedDtc] 0xFF).length = 2 ∧
      (∃ response, udsSvcReadDtc [failedDtc, failedDtc] 0x01 [0xFF] 4095 = .ok response ∧
        (readCount (answering response) 0xFF).run () = (.ok 256, ())) :=
  ⟨rfl, _, rfl, rfl⟩

end Uds.Tools
