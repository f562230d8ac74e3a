import Uds.Core.Dtc
/-!
# What a DTC report contains

The three sub-functions of service 0x19 in closed form: the records of the
selected entries behind a header, as far as they fit, and the number of selected
entries.  The out-parameter `*resp_len` is modelled beside them.
-/

namespace Uds.Core

/-- The entries whose status shares a bit with the mask, in registry order. -/
def matchingDtcs (reg : UdsDtcRegistry) (statusMask : UInt8) : UdsDtcRegistry :=
  reg.filter fun e => e.status &&& statusMask ≠ 0

theorem length_matchingDtcs_le (reg : UdsDtcRegistry) (statusMask : UInt8) :
    (matchingDtcs reg statusMask).length ≤ reg.length :=
  List.length_filter_le ..

/-! ## The out-parameter `*resp_len` -/

/-- `*resp_len` after the loops of `uds_svc_read_dtc`, at position `pos`: stored
behind the loop, and left alone by the return inside it. -/
def dtcRecordLoopRespLen (keep : UdsDtcEntry → Bool) (respSize respLen : Nat) :
    UdsDtcRegistry → Nat → Nat
  | [], pos => pos
  | e :: reg, pos =>
    if !keep e then dtcRecordLoopRespLen keep respSize respLen reg pos
    else if pos + 4 > respSize then respLen
    else dtcRecordLoopRespLen keep respSize respLen reg (pos + 4)

/-- `*resp_len` after a call that finds `respLen` there. -/
def udsSvcReadDtcRespLen (reg : UdsDtcRegistry) (subFn : UInt8) (reqData : List UInt8)
    (respSize respLen : Nat) : Nat :=
  let statusMask := reqData.getD 0 0xFF
  if subFn = 0x01 then
    if respSize < 6 then respLen else 6
  else if subFn = 0x02 then
    if respSize < 3 then respLen
    else
      dtcRecordLoopRespLen (fun e => e.status &&& statusMask ≠ 0) respSize respLen reg 3
  else if subFn = 0x0A then
    if respSize < 3 then respLen
    else dtcRecordLoopRespLen (fun _ => true) respSize respLen reg 3
  else respLen

/-- The length of the response, or what was there before. -/
def respLenOf (respLen : Nat) : Response → Nat
  | .ok resp => resp.length
  | .error _ => respLen

theorem dtcRecordLoopRespLen_eq (keep : UdsDtcEntry → Bool) (respSize respLen : Nat)
    (reg : UdsDtcRegistry) (resp : List UInt8) :
    dtcRecordLoopRespLen keep respSize respLen reg resp.length =
      respLenOf respLen (dtcRecordLoop keep respSize reg resp) := by
  induction reg generalizing resp with
  | nil => rfl
  | cons e reg ih =>
      unfold dtcRecordLoopRespLen dtcRecordLoop
      by_cases hkeep : (!keep e) = true
      · rw [if_pos hkeep, if_pos hkeep]
        exact ih resp
      · rw [if_neg hkeep, if_neg hkeep]
        by_cases hroom : resp.length + 4 > respSize
        · rw [if_pos hroom, if_pos hroom]
          rfl
        · rw [if_neg hroom, if_neg hroom, ← ih]
          rw [List.length_append]
          rfl

/-- `*resp_len` changes exactly when there is a response. -/
theorem udsSvcReadDtcRespLen_eq (reg : UdsDtcRegistry) (subFn : UInt8) (reqData : List UInt8)
    (respSize respLen : Nat) :
    udsSvcReadDtcRespLen reg subFn reqData respSize respLen =
      respLenOf respLen (udsSvcReadDtc reg subFn reqData respSize) := by
  have hloop (keep : UdsDtcEntry → Bool) (a b c : UInt8) :
      dtcRecordLoopRespLen keep respSize respLen reg 3 =
        respLenOf respLen (dtcRecordLoop keep respSize reg [a, b, c]) :=
    dtcRecordLoopRespLen_eq keep respSize respLen reg [a, b, c]
  unfold udsSvcReadDtcRespLen udsSvcReadDtc
  simp only
  by_cases h01 : subFn = 0x01
  · rw [if_pos h01, if_pos h01]
    by_cases hsize : respSize < 6
    · rw [if_pos hsize, if_pos hsize]
      rfl
    · rw [if_neg hsize, if_neg hsize]
      rfl
  · rw [if_neg h01, if_neg h01]
    by_cases hsize : respSize < 3
    · simp only [if_pos hsize]
      by_cases h02 : subFn = 0x02
      · rw [if_pos h02, if_pos h02]
        rfl
      · rw [if_neg h02, if_neg h02]
        by_cases h0A : subFn = 0x0A
        · rw [if_pos h0A, if_pos h0A]
          rfl
        · rw [if_neg h0A, if_neg h0A]
          rfl
    · simp only [if_neg hsize]
      by_cases h02 : subFn = 0x02
      · rw [if_pos h02, if_pos h02]
        exact hloop _ _ _ _
      · rw [if_neg h02, if_neg h02]
        by_cases h0A : subFn = 0x0A
        · rw [if_pos h0A, if_pos h0A]
          exact hloop _ _ _ _
        · rw [if_neg h0A, if_neg h0A]
          rfl

/-! ## Closed forms -/

/-- A byte of a code, by the position of its lowest bit. -/
theorem toNat_dtcByte (code s : UInt32) :
    (((code >>> s) &&& 0xFF).toUInt8).toNat = code.toNat / 2 ^ (s.toNat % 32) % 256 := by
  rw [UInt32.toNat_toUInt8, UInt32.toNat_and, UInt32.toNat_shiftRight, Nat.shiftRight_eq_div_pow]
  rw [show (0xFF : UInt32).toNat = 2 ^ 8 - 1 from rfl, Nat.and_two_pow_sub_one_eq_mod]
  exact Nat.mod_mod_of_dvd _ (Nat.dvd_refl _)

theorem toNat_dtcByte_low (code : UInt32) :
    ((code &&& 0xFF).toUInt8).toNat = code.toNat % 256 := by
  rw [UInt32.toNat_toUInt8, UInt32.toNat_and]
  rw [show (0xFF : UInt32).toNat = 2 ^ 8 - 1 from rfl, Nat.and_two_pow_sub_one_eq_mod]
  exact Nat.mod_mod_of_dvd _ (Nat.dvd_refl _)

@[simp] theorem length_dtcRecord (e : UdsDtcEntry) : (dtcRecord e).length = 4 := rfl

theorem dtcRecordLoop_eq (keep : UdsDtcEntry → Bool) {respSize : Nat} (reg : UdsDtcRegistry)
    {resp : List UInt8} (hresp : resp.length ≤ respSize) :
    dtcRecordLoop keep respSize reg resp =
      if resp.length + 4 * (reg.filter keep).length ≤ respSize then
        .ok (resp ++ (reg.filter keep).flatMap dtcRecord)
      else .error .errBuf := by
  induction reg generalizing resp with
  | nil =>
      rw [List.filter_nil, List.length_nil, List.flatMap_nil, List.append_nil]
      exact (if_pos (by omega)).symm
  | cons e reg ih =>
      unfold dtcRecordLoop
      by_cases hkeep : keep e = true
      · have hnot : ¬(!keep e) = true := by simp [hkeep]
        rw [if_neg hnot, List.filter_cons_of_pos hkeep]
        rw [List.length_cons, List.flatMap_cons]
        by_cases hroom : resp.length + 4 > respSize
        · rw [if_pos hroom, if_neg (by omega)]
        · have hlen : (resp ++ dtcRecord e).length = resp.length + 4 := List.length_append
          rw [if_neg hroom, ih (by omega), hlen, List.append_assoc]
          congr 1
          apply propext
          omega
      · have hnot : (!keep e) = true := by simp [hkeep]
        rw [if_pos hnot, List.filter_cons_of_neg hkeep]
        exact ih hresp

/-- Behind a header of three bytes. -/
theorem dtcRecords_eq (keep : UdsDtcEntry → Bool) (respSize : Nat) (reg : UdsDtcRegistry)
    (a b c : UInt8) :
    (if respSize < 3 then .error .errBuf else dtcRecordLoop keep respSize reg [a, b, c]) =
      if 3 + 4 * (reg.filter keep).length ≤ respSize then
        .ok ([a, b, c] ++ (reg.filter keep).flatMap dtcRecord)
      else (.error .errBuf : Response) := by
  by_cases hsize : respSize < 3
  · rw [if_pos hsize, if_neg (by omega)]
  · rw [if_neg hsize]
    exact dtcRecordLoop_eq keep reg (Nat.not_lt.mp hsize)

variable (reg : UdsDtcRegistry) (statusMask : UInt8) (args : List UInt8) (respSize : Nat)

/-- `reportDTCByStatusMask`. -/
theorem udsSvcReadDtc_byStatus :
    udsSvcReadDtc reg 0x02 (statusMask :: args) respSize =
      if 3 + 4 * (matchingDtcs reg statusMask).length ≤ respSize then
        .ok ([0x59, 0x02, statusMask] ++ (matchingDtcs reg statusMask).flatMap dtcRecord)
      else .error .errBuf :=
  dtcRecords_eq (fun e => e.status &&& statusMask ≠ 0) respSize reg 0x59 0x02 statusMask

/-- `reportSupportedDTC`. -/
theorem udsSvcReadDtc_supported (reqData : List UInt8) :
    udsSvcReadDtc reg 0x0A reqData respSize =
      if 3 + 4 * reg.length ≤ respSize then
        .ok ([0x59, 0x0A, 0xFF] ++ reg.flatMap dtcRecord)
      else .error .errBuf := by
  have hall : reg.filter (fun _ => true) = reg := List.filter_eq_self.mpr fun _ _ => rfl
  have h := dtcRecords_eq (fun _ => true) respSize reg 0x59 0x0A 0xFF
  rwa [hall] at h

/-- The bytes of a 16-bit count. -/
def countBytes (n : Nat) : List UInt8 := [UInt8.ofNat (n / 256), UInt8.ofNat (n % 256)]

theorem countBytes_ofNat {n : Nat} (h : n ≤ 65535) :
    [(UInt16.ofNat n >>> 8).toUInt8, (UInt16.ofNat n &&& 0xFF).toUInt8] = countBytes n := by
  have hmod : n % 2 ^ 16 = n := Nat.mod_eq_of_lt (by omega)
  have hhigh : (UInt16.ofNat n >>> 8).toUInt8 = UInt8.ofNat (n / 256) := by
    apply UInt8.toNat_inj.mp
    simp only [UInt16.toNat_toUInt8, UInt16.toNat_shiftRight, UInt16.toNat_ofNat', hmod,
      UInt8.toNat_ofNat']
    rw [show (8 : UInt16).toNat % 16 = 8 from rfl, Nat.shiftRight_eq_div_pow]
  have hlow : (UInt16.ofNat n &&& 0xFF).toUInt8 = UInt8.ofNat (n % 256) := by
    apply UInt8.toNat_inj.mp
    simp only [UInt16.toNat_toUInt8, UInt16.toNat_and, UInt16.toNat_ofNat', hmod,
      UInt8.toNat_ofNat']
    rw [show (0xFF : UInt16).toNat = 2 ^ 8 - 1 from rfl, Nat.and_two_pow_sub_one_eq_mod]
  rw [hhigh, hlow, countBytes]

/-- `reportNumberOfDTCByStatusMask`, for a number that fits its field. -/
theorem udsSvcReadDtc_count (hreg : reg.length ≤ 65535) (hsize : 6 ≤ respSize) :
    udsSvcReadDtc reg 0x01 (statusMask :: args) respSize =
      .ok ([0x59, 0x01, 0xFF, 0x01] ++ countBytes (matchingDtcs reg statusMask).length) := by
  have hle := length_matchingDtcs_le reg statusMask
  rw [← countBytes_ofNat (by omega), matchingDtcs, ← List.countP_eq_length_filter]
  exact if_neg (Nat.not_lt.mpr hsize)

end Uds.Core
