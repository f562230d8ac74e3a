import Mathlib.Data.List.Forall2
import Uds.Core.DtcReports
/-!
# Clearing DTCs

What `uds_svc_clear_dtc` leaves in the registry, and what service 0x19 reports of it
afterwards.  The loop clears an entry as soon as it sees that the group is the one of the
entry, so a group that is not there clears nothing.
-/

namespace Uds.Core

/-- The entry is in the group: all are in the universal one, and every other group is
given by the high byte of a 24-bit code. -/
def InGroup (groupOfDtc : UInt32) (e : UdsDtcEntry) : Prop :=
  groupOfDtc = 0xFFFFFF ∨ e.dtcCode.toNat / 2 ^ 16 = groupOfDtc.toNat / 2 ^ 16

instance (groupOfDtc : UInt32) (e : UdsDtcEntry) : Decidable (InGroup groupOfDtc e) :=
  inferInstanceAs (Decidable (_ ∨ _))

/-- What becomes of an entry: in the group it is cleared but for its code, and otherwise
it is left alone. -/
structure ClearedEntry (groupOfDtc : UInt32) (e e' : UdsDtcEntry) : Prop where
  code : e'.dtcCode = e.dtcCode
  inGroup : InGroup groupOfDtc e →
    e'.status = 0 ∧ e'.snapshotData = Vector.replicate 16 0 ∧ e'.snapshotLen = 0
  other : ¬InGroup groupOfDtc e → e' = e

def clearEntry (groupOfDtc : UInt32) (e : UdsDtcEntry) : UdsDtcEntry :=
  if InGroup groupOfDtc e then e.clear else e

def clearEntries (groupOfDtc : UInt32) (reg : UdsDtcRegistry) : UdsDtcRegistry :=
  reg.map (clearEntry groupOfDtc)

/-! ## The entries -/

section Entries

variable {groupOfDtc : UInt32}

theorem dtcGroup_eq_iff {code : UInt32} (hcode : code.toNat < 2 ^ 24)
    (hgroup : groupOfDtc.toNat < 2 ^ 24) :
    dtcGroup code = dtcGroup groupOfDtc ↔ code.toNat / 2 ^ 16 = groupOfDtc.toNat / 2 ^ 16 := by
  have hbyte (c : UInt32) (hc : c.toNat < 2 ^ 24) : (dtcGroup c).toNat = c.toNat / 2 ^ 16 := by
    unfold dtcGroup
    rw [toNat_dtcByte]
    change c.toNat / 2 ^ 16 % 256 = _
    exact Nat.mod_eq_of_lt (by omega)
  rw [← UInt8.toNat_inj, hbyte code hcode, hbyte groupOfDtc hgroup]

theorem clearedEntry (e : UdsDtcEntry) : ClearedEntry groupOfDtc e (clearEntry groupOfDtc e) := by
  unfold clearEntry
  by_cases hin : InGroup groupOfDtc e
  · rw [if_pos hin]
    exact ⟨rfl, fun _ => ⟨rfl, rfl, rfl⟩, fun hnot => absurd hin hnot⟩
  · rw [if_neg hin]
    exact ⟨rfl, fun h => absurd h hin, fun _ => rfl⟩

@[simp] theorem inGroup_clearEntry (e : UdsDtcEntry) :
    InGroup groupOfDtc (clearEntry groupOfDtc e) ↔ InGroup groupOfDtc e := by
  unfold InGroup
  rw [(clearedEntry e).code]

@[simp] theorem clearEntry_clearEntry (e : UdsDtcEntry) :
    clearEntry groupOfDtc (clearEntry groupOfDtc e) = clearEntry groupOfDtc e := by
  by_cases hin : InGroup groupOfDtc e
  · have hin' := (inGroup_clearEntry e).mpr hin
    rw [clearEntry, if_pos hin']
    rw [clearEntry, if_pos hin]
    rfl
  · exact (clearedEntry _).other (mt (inGroup_clearEntry e).mp hin)

theorem clearEntries_idem (reg : UdsDtcRegistry) :
    clearEntries groupOfDtc (clearEntries groupOfDtc reg) = clearEntries groupOfDtc reg := by
  unfold clearEntries
  rw [List.map_map]
  apply List.map_congr_left
  intro e _
  exact clearEntry_clearEntry e

theorem clearEntries_of_none {reg : UdsDtcRegistry} (h : ¬∃ e ∈ reg, InGroup groupOfDtc e) :
    clearEntries groupOfDtc reg = reg := by
  calc clearEntries groupOfDtc reg = reg.map id := by
        apply List.map_congr_left
        intro e he
        exact (clearedEntry e).other fun hin => h ⟨e, he, hin⟩
    _ = reg := List.map_id reg

theorem forall₂_clearEntries (reg : UdsDtcRegistry) :
    List.Forall₂ (ClearedEntry groupOfDtc) reg (clearEntries groupOfDtc reg) := by
  unfold clearEntries
  induction reg with
  | nil => exact .nil
  | cons e reg ih => exact .cons (clearedEntry e) ih

theorem matchingDtcs_clearEntries (reg : UdsDtcRegistry) (statusMask : UInt8) :
    matchingDtcs (clearEntries groupOfDtc reg) statusMask =
      (matchingDtcs reg statusMask).filter fun e => ¬InGroup groupOfDtc e := by
  unfold matchingDtcs clearEntries
  induction reg with
  | nil => rfl
  | cons e reg ih =>
      rw [List.map_cons]
      by_cases hin : InGroup groupOfDtc e
      · have hstatus := ((clearedEntry e).inGroup hin).1
        rw [List.filter_cons_of_neg (by simp [hstatus]), ih]
        by_cases hkeep : e.status &&& statusMask ≠ 0
        · rw [List.filter_cons_of_pos (by simpa using hkeep),
            List.filter_cons_of_neg (by simpa using hin)]
        · rw [List.filter_cons_of_neg (by simpa using hkeep)]
      · rw [(clearedEntry e).other hin]
        by_cases hkeep : e.status &&& statusMask ≠ 0
        · rw [List.filter_cons_of_pos (by simpa using hkeep), ih,
            List.filter_cons_of_pos (by simpa using hkeep),
            List.filter_cons_of_pos (by simpa using hin)]
        · rw [List.filter_cons_of_neg (by simpa using hkeep), ih,
            List.filter_cons_of_neg (by simpa using hkeep)]

end Entries

/-! ## The service -/

/-- The mask of a request, which is 0xFF where the request has none. -/
def statusMaskOf (reqData : List UInt8) : UInt8 := reqData.getD 0 0xFF

/-- A report of the given entries, where it fits. -/
def dtcReport (statusMask : UInt8) (entries : UdsDtcRegistry) (respSize : Nat) : Response :=
  if 3 + 4 * entries.length ≤ respSize then
    .ok ([0x59, 0x02, statusMask] ++ entries.flatMap dtcRecord)
  else .error .errBuf

theorem udsSvcReadDtc_report (reg : UdsDtcRegistry) (reqData : List UInt8) (respSize : Nat) :
    udsSvcReadDtc reg 0x02 reqData respSize =
      dtcReport (statusMaskOf reqData) (matchingDtcs reg (statusMaskOf reqData)) respSize :=
  dtcRecords_eq (fun e => e.status &&& statusMaskOf reqData ≠ 0) respSize reg 0x59 0x02
    (statusMaskOf reqData)

section Service

variable {reg : UdsDtcRegistry} {groupOfDtc : UInt32} {respSize : Nat}

/-- The group is one that a request may name. -/
def KnownGroup (groupOfDtc : UInt32) (reg : UdsDtcRegistry) : Prop :=
  groupOfDtc = 0xFFFFFF ∨ ∃ e ∈ reg, e.dtcCode.toNat / 2 ^ 16 = groupOfDtc.toNat / 2 ^ 16

theorem udsSvcClearDtc_cases (hcodes : ∀ e ∈ reg, e.dtcCode.toNat < 2 ^ 24)
    (hgroup : groupOfDtc.toNat < 2 ^ 24) (hsize : 1 ≤ respSize) :
    (KnownGroup groupOfDtc reg ∧
        udsSvcClearDtc reg groupOfDtc respSize = (clearEntries groupOfDtc reg, .ok [0x54])) ∨
      (¬KnownGroup groupOfDtc reg ∧
        udsSvcClearDtc reg groupOfDtc respSize =
          (reg, .error (.errNrc .requestOutOfRange))) := by
  let selected := fun e : UdsDtcEntry =>
    (groupOfDtc = 0xFFFFFF : Bool) || dtcGroup e.dtcCode = dtcGroup groupOfDtc
  have hselected : ∀ e ∈ reg, selected e = true ↔ InGroup groupOfDtc e := by
    intro e he
    have hbytes := dtcGroup_eq_iff (hcodes e he) hgroup
    simp only [selected, Bool.or_eq_true, decide_eq_true_eq, hbytes]
    exact Iff.rfl
  have hcleared : (reg.map fun e => if selected e = true then e.clear else e) =
      clearEntries groupOfDtc reg := by
    apply List.map_congr_left
    intro e he
    unfold clearEntry
    by_cases hin : InGroup groupOfDtc e
    · rw [if_pos ((hselected e he).mpr hin), if_pos hin]
    · rw [if_neg (mt (hselected e he).mp hin), if_neg hin]
  have hknown : (!(groupOfDtc = 0xFFFFFF : Bool) && !reg.any selected) = true ↔
      ¬KnownGroup groupOfDtc reg := by
    have hfound : reg.any selected = true ↔ ∃ e ∈ reg, InGroup groupOfDtc e := by
      rw [List.any_eq_true]
      exact exists_congr fun e => and_congr_right (hselected e)
    unfold KnownGroup
    by_cases hall : groupOfDtc = 0xFFFFFF
    · simp [hall]
    · have hnot : reg.any selected = false ↔ ¬∃ e ∈ reg, InGroup groupOfDtc e := by
        rw [← hfound, Bool.not_eq_true]
      simp only [hall, decide_false, Bool.not_false, Bool.true_and, Bool.not_eq_true', hnot,
        InGroup, false_or]
  have hcall : udsSvcClearDtc reg groupOfDtc respSize =
      if (!(groupOfDtc = 0xFFFFFF : Bool) && !reg.any selected) = true then
        (clearEntries groupOfDtc reg, .error (.errNrc .requestOutOfRange))
      else (clearEntries groupOfDtc reg, .ok [0x54]) := by
    rw [← hcleared, udsSvcClearDtc, if_neg (by omega)]
  rw [hcall]
  by_cases hgroup : KnownGroup groupOfDtc reg
  · rw [if_neg (fun h => hknown.mp h hgroup)]
    exact Or.inl ⟨hgroup, rfl⟩
  · rw [if_pos (hknown.mpr hgroup), clearEntries_of_none]
    · exact Or.inr ⟨hgroup, rfl⟩
    · rintro ⟨e, he, hall | hbyte⟩
      · exact hgroup (Or.inl hall)
      · exact hgroup (Or.inr ⟨e, he, hbyte⟩)

/-- What a call does to a registry. -/
structure ClearsDtcs (reg reg' : UdsDtcRegistry) (groupOfDtc : UInt32) (response : Response) :
    Prop where
  accepted_iff : (∃ resp, response = .ok resp) ↔ KnownGroup groupOfDtc reg
  cleared : (∃ resp, response = .ok resp) → List.Forall₂ (ClearedEntry groupOfDtc) reg reg'
  refused : ∀ e, response = .error e → reg' = reg
  again : (∃ resp, response = .ok resp) →
    ∀ n, 1 ≤ n → udsSvcClearDtc reg' groupOfDtc n = (reg', .ok [0x54])
  before : ∀ reqData n, udsSvcReadDtc reg 0x02 reqData n =
    dtcReport (statusMaskOf reqData) (matchingDtcs reg (statusMaskOf reqData)) n
  after : ∀ reqData n, udsSvcReadDtc reg' 0x02 reqData n =
    dtcReport (statusMaskOf reqData)
      ((matchingDtcs reg (statusMaskOf reqData)).filter fun e => ¬InGroup groupOfDtc e) n

theorem knownGroup_clearEntries : KnownGroup groupOfDtc (clearEntries groupOfDtc reg) ↔
    KnownGroup groupOfDtc reg := by
  unfold KnownGroup clearEntries
  simp only [List.mem_map, exists_exists_and_eq_and, (clearedEntry _).code]

theorem dtcCode_clearEntries (hcodes : ∀ e ∈ reg, e.dtcCode.toNat < 2 ^ 24) :
    ∀ e ∈ clearEntries groupOfDtc reg, e.dtcCode.toNat < 2 ^ 24 := by
  unfold clearEntries
  rw [List.forall_mem_map]
  intro e he
  rw [(clearedEntry e).code]
  exact hcodes e he

/-- A call clears exactly the entries of its group, if the group is known, and a report
then lacks exactly their records. -/
theorem clear_dtc_exact (hcodes : ∀ e ∈ reg, e.dtcCode.toNat < 2 ^ 24)
    (hgroup : groupOfDtc.toNat < 2 ^ 24) (hsize : 1 ≤ respSize) :
    ClearsDtcs reg (udsSvcClearDtc reg groupOfDtc respSize).1 groupOfDtc
      (udsSvcClearDtc reg groupOfDtc respSize).2 := by
  rcases udsSvcClearDtc_cases hcodes hgroup hsize with ⟨hknown, hcall⟩ | ⟨hunknown, hcall⟩
  · rw [hcall]
    constructor
    · exact iff_of_true ⟨_, rfl⟩ hknown
    · exact fun _ => forall₂_clearEntries reg
    · exact fun e he => by cases he
    · intro _ n hn
      rcases udsSvcClearDtc_cases (dtcCode_clearEntries hcodes) hgroup hn with
        ⟨-, hagain⟩ | ⟨hunknown, -⟩
      · rw [hagain, clearEntries_idem]
      · exact absurd (knownGroup_clearEntries.mpr hknown) hunknown
    · exact fun reqData n => udsSvcReadDtc_report reg reqData n
    · intro reqData n
      rw [udsSvcReadDtc_report, matchingDtcs_clearEntries]
  · have hnone : ∀ e ∈ reg, ¬InGroup groupOfDtc e := by
      rintro e he (hall | hbyte)
      · exact hunknown (Or.inl hall)
      · exact hunknown (Or.inr ⟨e, he, hbyte⟩)
    rw [hcall]
    constructor
    · exact iff_of_false (fun ⟨_, hok⟩ => by cases hok) hunknown
    · exact fun ⟨_, hok⟩ => by cases hok
    · exact fun _ _ => rfl
    · exact fun ⟨_, hok⟩ => by cases hok
    · exact fun reqData n => udsSvcReadDtc_report reg reqData n
    · intro reqData n
      rw [udsSvcReadDtc_report, List.filter_eq_self.mpr]
      intro e he
      simpa using hnone e (List.mem_of_mem_filter he)

end Service

/-- Two codes of one group and a code of group 0xFF. -/
def mixedGroups : UdsDtcRegistry :=
  [⟨0x010100, 0x08, Vector.replicate 16 0xAA, 4⟩, ⟨0x010200, 0x00, Vector.replicate 16 0, 0⟩,
    ⟨0xFF0001, 0x2F, Vector.replicate 16 0x55, 16⟩]

theorem clear_dtc_exact_mixedGroups :
    ClearsDtcs mixedGroups (udsSvcClearDtc mixedGroups 0xFF0000 8).1 0xFF0000
      (udsSvcClearDtc mixedGroups 0xFF0000 8).2 :=
  clear_dtc_exact (by decide) (by decide) (by decide)

end Uds.Core
