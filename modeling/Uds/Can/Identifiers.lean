import Uds.Can.Frame
/-!
# CAN identifiers

The identifiers and filters of `can_socket.c`.  A filter of the kernel compares the
identifier of a frame with its own under its mask.
-/

namespace Uds.Can

def udsCanReqBase : UInt32 := 0x600
def udsCanRespBase : UInt32 := 0x680
def udsCanFunctionalId : UInt32 := 0x7DF
def udsCanEcuIdMin : UInt8 := 0x01
def udsCanEcuIdMax : UInt8 := 0x7F

structure UdsCanFilter where
  canId : UInt32
  canMask : UInt32

/-- The kernel hands a frame with this identifier over. -/
def UdsCanFilter.accepts (filter : UdsCanFilter) (canId : UInt32) : Bool :=
  canId &&& filter.canMask = filter.canId &&& filter.canMask

/-- A socket with several filters gets what one of them lets through. -/
def acceptedBy (filters : List UdsCanFilter) (canId : UInt32) : Bool :=
  filters.any fun filter => filter.accepts canId

/-- The arbitration identifier that a `can_id` stands for: the flag of extended frames decides
how many of the bits belong to it. -/
def arbitrationId (canId : UInt32) : UInt32 :=
  if canId &&& 0x80000000 ≠ 0 then canId &&& 0x1FFFFFFF else canId &&& 0x7FF

/-- `uds_can_req_id`. -/
def udsCanReqId (ecuId : UInt8) : UInt32 :=
  if ecuId < udsCanEcuIdMin ∨ ecuId > udsCanEcuIdMax then 0 else udsCanReqBase + ecuId.toUInt32

/-- `uds_can_resp_id`. -/
def udsCanRespId (ecuId : UInt8) : UInt32 :=
  if ecuId < udsCanEcuIdMin ∨ ecuId > udsCanEcuIdMax then 0 else udsCanRespBase + ecuId.toUInt32

/-- `uds_can_ecu_id_from_resp`. -/
def udsCanEcuIdFromResp (respId : UInt32) : UInt8 :=
  if respId ≤ udsCanRespBase then 0
  else
    let offset := respId - udsCanRespBase
    if offset < udsCanEcuIdMin.toUInt32 ∨ offset > udsCanEcuIdMax.toUInt32 then 0
    else offset.toUInt8

/-- `uds_can_ecu_filters`; no filters for an identifier that is out of range. -/
def udsCanEcuFilters (ecuId : UInt8) : List UdsCanFilter :=
  if ecuId < udsCanEcuIdMin ∨ ecuId > udsCanEcuIdMax then []
  else
    [⟨udsCanReqBase + ecuId.toUInt32, 0x7FF⟩, ⟨udsCanFunctionalId, 0x7FF⟩,
      ⟨udsCanRespBase + ecuId.toUInt32, 0x7FF⟩]

/-! ## Numbers -/

/-- An identifier that an ECU may have. -/
def ValidEcuId (ecuId : UInt8) : Prop := 1 ≤ ecuId.toNat ∧ ecuId.toNat ≤ 127

instance (ecuId : UInt8) : Decidable (ValidEcuId ecuId) := inferInstanceAs (Decidable (_ ∧ _))

theorem outOfRange_iff (ecuId : UInt8) :
    (ecuId < udsCanEcuIdMin ∨ ecuId > udsCanEcuIdMax) ↔ ¬ValidEcuId ecuId := by
  have hmin : udsCanEcuIdMin.toNat = 1 := rfl
  have hmax : udsCanEcuIdMax.toNat = 127 := rfl
  rw [UInt8.lt_iff_toNat_lt, gt_iff_lt, UInt8.lt_iff_toNat_lt, hmin, hmax, ValidEcuId]
  omega

theorem toNat_reqId {ecuId : UInt8} (h : ValidEcuId ecuId) :
    (udsCanReqId ecuId).toNat = 0x600 + ecuId.toNat := by
  have hbase : udsCanReqBase.toNat = 0x600 := rfl
  have hle := h.2
  rw [udsCanReqId, if_neg (mt (outOfRange_iff ecuId).mp (not_not_intro h)), UInt32.toNat_add,
    UInt8.toNat_toUInt32, hbase]
  omega

theorem toNat_respId {ecuId : UInt8} (h : ValidEcuId ecuId) :
    (udsCanRespId ecuId).toNat = 0x680 + ecuId.toNat := by
  have hbase : udsCanRespBase.toNat = 0x680 := rfl
  have hle := h.2
  rw [udsCanRespId, if_neg (mt (outOfRange_iff ecuId).mp (not_not_intro h)), UInt32.toNat_add,
    UInt8.toNat_toUInt32, hbase]
  omega

/-- The low eleven bits of an identifier. -/
def standardId (canId : UInt32) : Nat := canId.toNat % 2048

theorem and_mask (canId : UInt32) : (canId &&& 0x7FF).toNat = standardId canId := by
  rw [UInt32.toNat_and]
  exact Nat.and_two_pow_sub_one_eq_mod canId.toNat 11

/-- A filter on all bits of a standard identifier. -/
theorem accepts_iff (filterId canId : UInt32) :
    (UdsCanFilter.mk filterId 0x7FF).accepts canId = true ↔
      standardId canId = standardId filterId := by
  rw [UdsCanFilter.accepts, decide_eq_true_iff, ← UInt32.toNat_inj]
  change (canId &&& 0x7FF).toNat = (filterId &&& 0x7FF).toNat ↔ _
  rw [and_mask, and_mask]

theorem standardId_reqId {ecuId : UInt8} (h : ValidEcuId ecuId) :
    standardId (udsCanReqId ecuId) = 0x600 + ecuId.toNat := by
  have hle := h.2
  rw [standardId, toNat_reqId h]
  omega

theorem standardId_respId {ecuId : UInt8} (h : ValidEcuId ecuId) :
    standardId (udsCanRespId ecuId) = 0x680 + ecuId.toNat := by
  have hle := h.2
  rw [standardId, toNat_respId h]
  omega

/-! ## Every identifier has one owner -/

theorem ecuIdFromResp_eq_iff {ecuId : UInt8} (h : ecuId ≠ 0) (respId : UInt32) :
    udsCanEcuIdFromResp respId = ecuId ↔ ValidEcuId ecuId ∧ respId = udsCanRespId ecuId := by
  have hbase : udsCanRespBase.toNat = 0x680 := rfl
  have hmin : udsCanEcuIdMin.toUInt32.toNat = 1 := rfl
  have hmax : udsCanEcuIdMax.toUInt32.toNat = 127 := rfl
  have hnot : ∀ {p : Prop}, (p → False) → ((0 : UInt8) = ecuId ↔ p) :=
    fun hp => iff_of_false (Ne.symm h) hp
  unfold udsCanEcuIdFromResp
  by_cases hlow : respId ≤ udsCanRespBase
  · rw [if_pos hlow]
    apply hnot
    rintro ⟨hvalid, rfl⟩
    rw [UInt32.le_iff_toNat_le, toNat_respId hvalid, hbase] at hlow
    have hpos := hvalid.1
    omega
  · rw [if_neg hlow]
    have hge : udsCanRespBase.toNat ≤ respId.toNat := by
      rw [UInt32.le_iff_toNat_le] at hlow
      omega
    have hoffset : (respId - udsCanRespBase).toNat = respId.toNat - 0x680 := by
      rw [UInt32.toNat_sub_of_le _ _ (UInt32.le_iff_toNat_le.mpr hge), hbase]
    rw [UInt32.le_iff_toNat_le, hbase] at hlow
    have hcond : (respId - udsCanRespBase < udsCanEcuIdMin.toUInt32 ∨
        respId - udsCanRespBase > udsCanEcuIdMax.toUInt32) ↔
          respId.toNat - 0x680 < 1 ∨ 127 < respId.toNat - 0x680 := by
      rw [gt_iff_lt, UInt32.lt_iff_toNat_lt, UInt32.lt_iff_toNat_lt, hoffset, hmin, hmax]
    by_cases hrange : respId.toNat - 0x680 < 1 ∨ 127 < respId.toNat - 0x680
    · rw [if_pos (hcond.mpr hrange)]
      apply hnot
      rintro ⟨hvalid, rfl⟩
      rw [toNat_respId hvalid] at hrange
      have hpos := hvalid.1
      have hle := hvalid.2
      omega
    · rw [if_neg (mt hcond.mp hrange), ← UInt8.toNat_inj, UInt32.toNat_toUInt8, hoffset]
      constructor
      · intro heq
        have hvalid : ValidEcuId ecuId := by
          unfold ValidEcuId
          omega
        refine ⟨hvalid, UInt32.toNat_inj.mp ?_⟩
        rw [toNat_respId hvalid]
        omega
      · rintro ⟨hvalid, rfl⟩
        rw [toNat_respId hvalid]
        have hle := hvalid.2
        omega

theorem acceptedBy_ecuFilters {ecuId : UInt8} (h : ValidEcuId ecuId) (canId : UInt32) :
    acceptedBy (udsCanEcuFilters ecuId) canId = true ↔
      standardId canId = 0x600 + ecuId.toNat ∨ standardId canId = 0x7DF ∨
        standardId canId = 0x680 + ecuId.toNat := by
  have hreq : standardId (udsCanReqBase + ecuId.toUInt32) = 0x600 + ecuId.toNat := by
    rw [← standardId_reqId h, udsCanReqId,
      if_neg (mt (outOfRange_iff ecuId).mp (not_not_intro h))]
  have hresp : standardId (udsCanRespBase + ecuId.toUInt32) = 0x680 + ecuId.toNat := by
    rw [← standardId_respId h, udsCanRespId,
      if_neg (mt (outOfRange_iff ecuId).mp (not_not_intro h))]
  have hfunc : standardId udsCanFunctionalId = 0x7DF := rfl
  rw [udsCanEcuFilters, if_neg (mt (outOfRange_iff ecuId).mp (not_not_intro h)), acceptedBy]
  simp only [List.any_cons, List.any_nil, Bool.or_false, Bool.or_eq_true, accepts_iff, hreq, hresp,
    hfunc]

/-- The filters of an ECU accept its request identifier, its response identifier and the
functional one, in the low eleven bits; two ECUs have the functional one in common only,
and a response identifier leads back to its ECU and to no other. -/
theorem udsCanEcuFilters_own (ecuId : UInt8) (canId : UInt32) :
    (acceptedBy (udsCanEcuFilters ecuId) canId = true ↔
      ValidEcuId ecuId ∧ (standardId canId = standardId (udsCanReqId ecuId) ∨
        standardId canId = standardId udsCanFunctionalId ∨
          standardId canId = standardId (udsCanRespId ecuId))) ∧
    (∀ other, other ≠ ecuId → acceptedBy (udsCanEcuFilters ecuId) canId = true →
      acceptedBy (udsCanEcuFilters other) canId = true →
        standardId canId = standardId udsCanFunctionalId) ∧
    (ecuId ≠ 0 → (udsCanEcuIdFromResp canId = ecuId ↔
      ValidEcuId ecuId ∧ canId = udsCanRespId ecuId)) := by
  have hfunc : standardId udsCanFunctionalId = 0x7DF := rfl
  have hinvalid {e : UInt8} (h : ¬ValidEcuId e) :
      acceptedBy (udsCanEcuFilters e) canId = false := by
    rw [udsCanEcuFilters, if_pos ((outOfRange_iff e).mpr h)]
    rfl
  refine ⟨?_, fun other hne h h' => ?_, fun h => ecuIdFromResp_eq_iff h canId⟩
  · by_cases hvalid : ValidEcuId ecuId
    · rw [acceptedBy_ecuFilters hvalid, standardId_reqId hvalid, standardId_respId hvalid, hfunc,
        and_iff_right hvalid]
    · rw [hinvalid hvalid]
      exact iff_of_false Bool.false_ne_true fun h => hvalid h.1
  · have hvalid : ValidEcuId ecuId := by
      by_contra hnot
      rw [hinvalid hnot] at h
      cases h
    have hvalid' : ValidEcuId other := by
      by_contra hnot
      rw [hinvalid hnot] at h'
      cases h'
    rw [acceptedBy_ecuFilters hvalid] at h
    rw [acceptedBy_ecuFilters hvalid'] at h'
    have hnum : other.toNat ≠ ecuId.toNat := fun heq => hne (UInt8.toNat_inj.mp heq)
    have hle := hvalid.2
    have hle' := hvalid'.2
    have hpos := hvalid.1
    have hpos' := hvalid'.1
    rw [hfunc]
    omega

end Uds.Can
