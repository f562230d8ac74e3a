import Mathlib.Data.List.Nodup
import Uds.Core.Unlocking
import Uds.Ecusim.Ledger
/-!
# The ledger tracks the simulator

Each service of the simulator is put side by side with what the ledger expects of it.  The
registries are given by the ledger in closed form, a transfer is under way where the ledger
has it, and the 32-bit checks of the flash services are comparisons of numbers.
-/

namespace Uds.Ecusim

open Uds.Base Uds.Core Uds.Bootloader

/-! ## Registries in closed form -/

section Registries

variable {reg : UdsDidRegistry} (value : UInt16 → List UInt8)

theorem didFind_didsOf (did : UInt16) :
    didFind (didsOf reg value) did =
      (didFind reg did).map fun e => { e with data := value did } := by
  unfold didFind didsOf
  induction reg with
  | nil => rfl
  | cons e reg ih =>
      rw [List.map_cons]
      by_cases hid : e.didId = did
      · rw [List.find?_cons_of_pos (by simpa using hid),
          List.find?_cons_of_pos (by simpa using hid), ← hid]
        rfl
      · rw [List.find?_cons_of_neg (by simpa using hid),
          List.find?_cons_of_neg (by simpa using hid)]
        exact ih

theorem registered_didsOf (did : UInt16) :
    Registered (didsOf reg value) did ↔ Registered reg did := by
  unfold Registered
  rw [didFind_didsOf, Option.isSome_map]

theorem didData_didsOf {did : UInt16} (h : Registered reg did) :
    didData (didsOf reg value) did = value did := by
  obtain ⟨entry, hfind⟩ := Option.isSome_iff_exists.mp h
  unfold didData
  rw [didFind_didsOf, hfind]
  rfl

theorem didStore_didsOf (hids : (reg.map UdsDidEntry.didId).Nodup) (data : List UInt8)
    (did : UInt16) :
    didStore data did (didsOf reg value) = didsOf reg (Function.update value did data) := by
  unfold didsOf
  induction reg with
  | nil => rfl
  | cons e reg ih =>
      rw [List.map_cons, List.nodup_cons] at hids
      obtain ⟨hhead, htail⟩ := hids
      rw [List.map_cons, List.map_cons, didStore]
      by_cases hid : e.didId = did
      · rw [if_pos hid, hid, Function.update_self]
        congr 1
        apply List.map_congr_left
        intro e' he'
        have hne : e'.didId ≠ did := fun heq =>
          hhead (by rw [hid, ← heq]; exact List.mem_map_of_mem he')
        rw [Function.update_of_ne hne]
      · rw [if_neg hid, Function.update_of_ne hid, ih htail]

theorem eq_of_didFind (hids : (reg.map UdsDidEntry.didId).Nodup) {did : UInt16}
    {entry e : UdsDidEntry} (hfind : didFind reg did = some entry) (he : e ∈ reg)
    (hid : e.didId = did) : e = entry := by
  have hentry : entry.didId = did := by simpa using List.find?_some hfind
  exact List.inj_on_of_nodup_map hids he (mem_of_didFind hfind) (hid.trans hentry.symm)

theorem dtcsOf_congr {status status' : UInt32 → UInt8}
    (h : ∀ e ∈ defaultDtcs, status e.dtcCode = status' e.dtcCode) :
    dtcsOf status = dtcsOf status' := by
  apply List.map_congr_left
  intro e he
  rw [h e he]

theorem length_dtcsOf (status : UInt32 → UInt8) : (dtcsOf status).length = 2 := rfl

theorem udsSvcClearDtc_dtcsOf (group : UInt32) (status : UInt32 → UInt8) {respSize : Nat}
    (hsize : 1 ≤ respSize) :
    udsSvcClearDtc (dtcsOf status) group respSize =
      (dtcsOf fun code => if Names group code then 0 else status code,
        if ∃ e ∈ defaultDtcs, Names group e.dtcCode then .ok [0x54]
        else .error (.errNrc .requestOutOfRange)) := by
  let selected := fun e : UdsDtcEntry =>
    (group = 0xFFFFFF : Bool) || dtcGroup e.dtcCode = dtcGroup group
  have hselected (e : UdsDtcEntry) : selected e = true ↔ Names group e.dtcCode := by
    simp [selected, Names]
  have hcleared : (dtcsOf status).map (fun e => if selected e = true then e.clear else e) =
      dtcsOf fun code => if Names group code then 0 else status code := by
    unfold dtcsOf
    rw [List.map_map]
    apply List.map_congr_left
    -- the snapshots of the table are empty, cleared or not
    intro e he
    have hzero : e.snapshotData = Vector.replicate 16 0 ∧ e.snapshotLen = 0 := by
      rcases List.mem_pair.mp he with rfl | rfl <;> exact ⟨rfl, rfl⟩
    rw [Function.comp_apply]
    simp only [hselected]
    by_cases hin : Names group e.dtcCode
    · simp only [if_pos hin, UdsDtcEntry.clear, hzero.1, hzero.2]
    · simp only [if_neg hin]
  have hfound : (!(group = 0xFFFFFF : Bool) && !(dtcsOf status).any selected) = true ↔
      ¬∃ e ∈ defaultDtcs, Names group e.dtcCode := by
    have hany : (dtcsOf status).any selected = true ↔ ∃ e ∈ defaultDtcs, Names group e.dtcCode := by
      unfold dtcsOf
      rw [List.any_map, List.any_eq_true]
      exact exists_congr fun e => and_congr_right fun _ => hselected _
    rw [← hany]
    by_cases hall : group = 0xFFFFFF
    · have hex : ∃ e ∈ defaultDtcs, Names group e.dtcCode :=
        ⟨_, List.mem_cons_self, Or.inl hall⟩
      simp [hany.mpr hex]
    · simp [hall]
  unfold udsSvcClearDtc
  rw [if_neg (by omega)]
  simp only
  rw [← hcleared]
  by_cases hknown : ∃ e ∈ defaultDtcs, Names group e.dtcCode
  · rw [if_pos hknown]
    exact if_neg fun h => hfound.mp h hknown
  · rw [if_neg hknown]
    exact if_pos (hfound.mpr hknown)

end Registries

/-! ## Ranges -/

theorem toNat_decodeBe {bytes : List UInt8} (h : bytes.length ≤ 4) :
    (decodeBe bytes).toNat = natBE bytes :=
  toNat_foldl_shiftIn bytes 0 0 (by decide) (by omega)

theorem rangeOfRequest_eq {req : List UInt8} (hlen : 3 ≤ req.length) :
    rangeOfRequest req =
      (parseAddrLenFmt (req.getD 2 0) (req.drop 3)).map fun r => (r.1.toNat, r.2.toNat) := by
  have hfmt := (req.getD 2 0).toNat_lt
  have hlow : ((req.getD 2 0) &&& 0x0F).toNat = (req.getD 2 0).toNat % 16 := by
    have hmask : (0x0F : UInt8).toNat = 0x0F := rfl
    rw [UInt8.toNat_and, hmask, and_0F]
  have hhigh : (((req.getD 2 0) >>> 4) &&& 0x0F).toNat = (req.getD 2 0).toNat / 16 := by
    have hmask : (0x0F : UInt8).toNat = 0x0F := rfl
    have hfour : (4 : UInt8).toNat % 8 = 4 := rfl
    rw [UInt8.toNat_and, hmask, UInt8.toNat_shiftRight, hfour, and_0F, shr_4]
    omega
  unfold rangeOfRequest parseAddrLenFmt
  simp only [hlow, hhigh, List.length_drop]
  generalize (req.getD 2 0).toNat % 16 = addrLen
  generalize (req.getD 2 0).toNat / 16 = sizeLen
  by_cases hwidths : addrLen < 1 ∨ addrLen > 4 ∨ sizeLen < 1 ∨ sizeLen > 4
  · rw [if_neg (by omega), if_pos hwidths]
    rfl
  · rw [if_neg hwidths]
    by_cases hshort : req.length - 3 < addrLen + sizeLen
    · rw [if_neg (by omega), if_pos hshort]
      rfl
    · rw [if_pos (by omega), if_neg hshort, Option.map_some,
        toNat_decodeBe (by rw [List.length_take]; omega),
        toNat_decodeBe (by rw [List.length_take]; omega), List.drop_drop]

theorem udsFlashAddressValid_default {flash : UdsFlashMemory} {address memSize : UInt32}
    (hregions : flash.regions = defaultRegions) :
    udsFlashAddressValid flash address memSize = true ↔
      0 < memSize.toNat ∧ address.toNat + memSize.toNat ≤ udsFlashMaxSize := by
  constructor
  · intro h
    obtain ⟨hne, r, hfind⟩ := (udsFlashAddressValid_iff ..).mp h
    exact ⟨toNat_pos hne, (programmable_of_findRegion hregions hfind).inArray⟩
  · intro ⟨hpos, hin⟩
    have hprog : Programmable flash.regions address.toNat memSize.toNat := by
      rw [hregions]
      exact programmable_defaultRegions hin
    have hvalid := udsFlashAddressValid_of_programmable hprog hpos
    rwa [UInt32.ofNat_toNat, UInt32.ofNat_toNat] at hvalid

/-! ## Agreement -/

def OpenTransfer.mode (t : OpenTransfer) : UdsXferMode := if t.upload then .upload else .download

/-- The transfer session is that of the ledger. -/
structure OpenTransfer.Shown (t : OpenTransfer) (xfer : UdsXferSession) : Prop where
  xfer_eq : xfer = xferAt t.mode t.address t.len t.offset t.seq
  len_pos : 0 < t.len
  offset_le : t.offset ≤ t.len
  inFlash : t.address + t.len ≤ udsFlashMaxSize

/-- The state is what the ledger tells. -/
structure Agrees (l : Ledger) (sim : EcuSimulator) : Prop where
  session : sim.session.type = l.session
  cfg : sim.session.cfg = udsCoreSessionDefaultConfig
  unlockedLevel : sim.security.unlockedLevel = l.unlockedLevel
  dids : sim.didReg = didsOf defaultDids l.did
  lengths : ∀ e ∈ defaultDids, (l.did e.didId).length = e.data.length
  dtcs : sim.dtcReg = dtcsOf l.dtcStatus
  regions : sim.flash.regions = defaultRegions
  flash : sim.flash.data = l.flash
  idle : l.transfer = none → sim.xfer = udsXferInit
  transfer : ∀ t ∈ l.transfer, t.Shown sim.xfer

theorem Agrees.init (ecuId : UInt8) (now : Timespec) :
    Agrees ledgerInit (ecusimInit ecuId now) where
  session := rfl
  cfg := rfl
  unlockedLevel := rfl
  dids := rfl
  lengths := by
    simp only [defaultDids, List.forall_mem_cons]
    exact ⟨rfl, rfl, rfl, rfl, rfl, fun e he => absurd he List.not_mem_nil⟩
  dtcs := rfl
  regions := rfl
  flash := rfl
  idle := fun _ => rfl
  transfer := fun t ht => by cases ht

/-- What a service does and answers is what the ledger expects of it. -/
inductive Meets (l : Ledger) (req : List UInt8) (svc : Service) :
    Expected → EcuSimulator × Response → Prop
  | refused (nrc : UdsNrc) {sim : EcuSimulator} (h : Agrees l sim) :
      Meets l req svc (.error nrc) (sim, .error (.errNrc nrc))
  | accepted {resp : List UInt8} {sim : EcuSimulator} (h : Agrees (l.accept req svc) sim) :
      Meets l req svc (.ok ((svc.sid + 0x40) :: resp)) (sim, .ok ((svc.sid + 0x40) :: resp))
  | silent {r : Response} {sim : EcuSimulator} (hr : r = .ok [] ∨ r = .error .errParam)
      (h : Agrees l sim) : Meets l req svc (.ok []) (sim, r)

theorem note_of_head {req : List UInt8} {svc : Service} (hreq : req.head? = some svc.sid)
    (l : Ledger) (resp : List UInt8) :
    l.note req resp = if resp.head? = some (svc.sid + 0x40) then l.accept req svc else l := by
  obtain ⟨args, rfl⟩ := List.head?_eq_some_iff.mp hreq
  unfold Ledger.note
  simp only [ofSid_sid]

theorem foretell_of_head {req : List UInt8} {svc : Service} (hreq : req.head? = some svc.sid)
    (l : Ledger) : l.foretell req = (l.expects req svc).map (wire svc.sid) := by
  obtain ⟨args, rfl⟩ := List.head?_eq_some_iff.mp hreq
  unfold Ledger.foretell
  simp only [ofSid_sid]

theorem ofSid_of_unknown {sid : UInt8} {args : List UInt8}
    (h : ∀ svc : Service, (sid :: args).head? ≠ some svc.sid) : Service.ofSid sid = none := by
  cases hsid : Service.ofSid sid with
  | none => rfl
  | some svc => exact absurd (congrArg some (sid_of_ofSid hsid).symm) (h svc)

theorem note_of_unknown {req : List UInt8} (h : ∀ svc : Service, req.head? ≠ some svc.sid)
    (l : Ledger) (resp : List UInt8) : l.note req resp = l := by
  unfold Ledger.note
  cases req with
  | nil => rfl
  | cons sid args => simp only [ofSid_of_unknown h]

theorem foretell_of_unknown {i : Input} (h : ∀ svc : Service, i.req.head? ≠ some svc.sid)
    (l : Ledger) (sim : EcuSimulator) : l.foretell i.req = some (ecusimStep sim i).2 := by
  unfold Ledger.foretell ecusimStep
  cases hreq : i.req with
  | nil => rfl
  | cons sid args =>
      rw [hreq] at h
      have hsid := ofSid_of_unknown h
      rw [ecusimDispatch_unknown hsid]
      simp only [hsid]
      rfl

theorem reply_error_head (svc : Service) (e : UdsCoreError) :
    (reply svc.sid (.error e)).head? ≠ some (svc.sid + 0x40) := by
  intro h
  cases ok_of_reply h

theorem Meets.reply_eq {l : Ledger} {req : List UInt8} {svc : Service} {expected : Expected}
    {out : EcuSimulator × Response} (h : Meets l req svc expected out) :
    reply svc.sid out.2 = wire svc.sid expected := by
  cases h with
  | refused nrc _ => exact reply_error svc.sid nrc
  | accepted _ => rfl
  | silent hr _ => rcases hr with rfl | rfl <;> rfl

theorem note_ok {req : List UInt8} {svc : Service} (hreq : req.head? = some svc.sid) (l : Ledger)
    (resp : List UInt8) :
    l.note req (reply svc.sid (.ok ((svc.sid + 0x40) :: resp))) = l.accept req svc := by
  rw [note_of_head hreq, reply, List.head?_cons, if_pos rfl]

theorem note_error {req : List UInt8} {svc : Service} (hreq : req.head? = some svc.sid) (l : Ledger)
    (e : UdsCoreError) : l.note req (reply svc.sid (.error e)) = l := by
  rw [note_of_head hreq, if_neg (reply_error_head svc e)]

theorem Meets.agrees {l : Ledger} {req : List UInt8} {svc : Service} {expected : Expected}
    {out : EcuSimulator × Response} (h : Meets l req svc expected out)
    (hreq : req.head? = some svc.sid) : Agrees (l.note req (reply svc.sid out.2)) out.1 := by
  cases h with
  | refused nrc h =>
      rw [note_error hreq]
      exact h
  | accepted h =>
      rw [note_ok hreq]
      exact h
  | silent hr h =>
      rw [note_of_head hreq]
      rcases hr with rfl | rfl <;> exact h

/-! ## Services -/

theorem zero_or_suppressed {b : UInt8} (h : b &&& 0x7F = 0) : b = 0x00 ∨ b = 0x80 := by
  have hlow : b.toNat % 128 = 0 := by
    rw [← and_7F]
    simpa using congrArg UInt8.toNat h
  have hlt := b.toNat_lt
  by_cases hzero : b.toNat = 0
  · exact Or.inl (UInt8.toNat_inj.mp hzero)
  · apply Or.inr
    apply UInt8.toNat_inj.mp
    change b.toNat = 128
    omega

theorem readDidLoop_refused {reg : UdsDidRegistry} {respSize : Nat} {dids : List UInt16}
    {resp : List UInt8} {nrc : UdsNrc}
    (h : readDidLoop reg respSize dids resp = .error (.errNrc nrc)) :
    nrc = .requestOutOfRange ∧ ¬∀ did ∈ dids, Registered reg did := by
  induction dids generalizing resp with
  | nil => cases h
  | cons did dids ih =>
      unfold readDidLoop at h
      cases hfind : didFind reg did with
      | none =>
          rw [hfind] at h
          refine ⟨by simpa using h.symm, fun hall => ?_⟩
          have hdid := hall did List.mem_cons_self
          rw [Registered, hfind] at hdid
          cases hdid
      | some entry =>
          simp only [hfind] at h
          split at h
          · cases h
          · obtain ⟨hnrc, hnot⟩ := ih h
            exact ⟨hnrc, fun hall => hnot fun d hd => hall d (List.mem_cons_of_mem _ hd)⟩

theorem nodup_defaultDids : (defaultDids.map UdsDidEntry.didId).Nodup := by decide

theorem length_defaultDids : ∀ e ∈ defaultDids, e.data.length ≤ didDataSize := by decide

section Keys

variable {sim : EcuSimulator} {req : List UInt8} (env : Env)
  (hlen : 2 + udsCoreSeedLen ≤ req.length) (heven : req.getD 1 0 &&& 0x01 = 0)
include hlen heven

theorem serve_keyAccepted {resp : List UInt8}
    (hok : (udsCoreSecSendKey sim.security (req.getD 1 0) (req.drop 2) ecusimMaxPdu
      env.clock).2 = .ok resp) :
    serve sim env req ecusimMaxPdu .securityAccess =
      ({ sim with
          security := (udsCoreSecSendKey sim.security (req.getD 1 0) (req.drop 2) ecusimMaxPdu
            env.clock).1
          session := { sim.session with
            securityLevel := (udsCoreSecSendKey sim.security (req.getD 1 0) (req.drop 2)
              ecusimMaxPdu env.clock).1.unlockedLevel } }, .ok resp) := by
  simp only [serve]
  rw [if_neg (show ¬req.length < 2 by omega), if_neg (fun hodd => hodd heven),
    if_neg (Nat.not_lt.mpr hlen), hok]

theorem serve_keyRefused {e : UdsCoreError}
    (herr : (udsCoreSecSendKey sim.security (req.getD 1 0) (req.drop 2) ecusimMaxPdu
      env.clock).2 = .error e) :
    serve sim env req ecusimMaxPdu .securityAccess =
      ({ sim with security := (udsCoreSecSendKey sim.security (req.getD 1 0) (req.drop 2)
          ecusimMaxPdu env.clock).1 }, .error e) := by
  simp only [serve]
  rw [if_neg (show ¬req.length < 2 by omega), if_neg (fun hodd => hodd heven),
    if_neg (Nat.not_lt.mpr hlen), herr]

end Keys

section Services

variable {l : Ledger} {sim : EcuSimulator} {req : List UInt8} (env : Env) (h : Agrees l sim)
include h

theorem meets_dsc :
    Meets l req .diagnosticSessionControl
      (selects req 0x50 (fun b => (UdsSessionType.ofCode b).isSome) [0x00, 50, 0x00, 200])
      (serve sim env req ecusimMaxPdu .diagnosticSessionControl) := by
  cases hcode : UdsSessionType.ofCode (req.getD 1 0) with
  | none =>
      simp only [serve, selects, udsCoreDsc, hcode]
      by_cases hlen : req.length < 2
      · rw [if_pos hlen, if_pos hlen]
        exact .refused _ h
      · rw [if_neg hlen, if_neg hlen]
        exact .refused _ h
  | some type =>
      simp only [serve, selects, udsCoreDsc, hcode, h.cfg]
      by_cases hlen : req.length < 2
      · rw [if_pos hlen, if_pos hlen]
        exact .refused _ h
      · rw [if_neg hlen, if_neg hlen]
        exact .accepted { h with session := by rw [Ledger.accept, hcode]; rfl, cfg := rfl }

theorem meets_testerPresent :
    Meets l req .testerPresent (testerPresentAnswer req)
      (serve sim env req ecusimMaxPdu .testerPresent) := by
  simp only [serve, testerPresentAnswer]
  by_cases hlen : req.length < 2
  · rw [if_pos hlen, if_pos hlen]
    exact .refused _ h
  · rw [if_neg hlen, if_neg hlen]
    by_cases hzero : req.getD 1 0 = 0x00
    · rw [if_pos hzero, hzero]
      exact .accepted { h with session := h.session }
    · rw [if_neg hzero]
      by_cases hsuppress : req.getD 1 0 = 0x80
      · rw [if_pos hsuppress, hsuppress]
        exact .silent (Or.inl rfl) { h with session := h.session }
      · have hlow : req.getD 1 0 &&& 0x7F ≠ 0 := fun hlow =>
          (zero_or_suppressed hlow).elim hzero hsuppress
        rw [if_neg hsuppress, udsCoreTesterPresent, if_pos hlow]
        exact .refused _ h

theorem meets_ecuReset :
    Meets l req .ecuReset (selects req 0x51 (fun b => 0x01 ≤ b ∧ b ≤ 0x03) [])
      (serve sim env req ecusimMaxPdu .ecuReset) := by
  simp only [serve, selects, udsSvcEcuReset]
  by_cases hlen : req.length < 2
  · rw [if_pos hlen, if_pos hlen]
    exact .refused _ h
  · rw [if_neg hlen, if_neg hlen]
    by_cases hkind : req.getD 1 0 < 0x01 ∨ req.getD 1 0 > 0x03
    · have hnot : ¬(0x01 ≤ req.getD 1 0 ∧ req.getD 1 0 ≤ 0x03) := by
        rw [← UInt8.not_lt, ← UInt8.not_lt]
        tauto
      rw [if_pos hkind, if_neg (by simpa using hnot)]
      exact .refused _ h
    · have hkind' : 0x01 ≤ req.getD 1 0 ∧ req.getD 1 0 ≤ 0x03 := by
        rw [← UInt8.not_lt, ← UInt8.not_lt]
        tauto
      rw [if_neg hkind, if_pos (by simpa using hkind')]
      exact .accepted { h with session := rfl, cfg := rfl, unlockedLevel := rfl }

theorem meets_commControl :
    Meets l req .communicationControl (commControlAnswer req)
      (serve sim env req ecusimMaxPdu .communicationControl) := by
  simp only [serve, commControlAnswer, udsSvcCommControl]
  by_cases hlen : req.length < 3
  · rw [if_pos hlen, if_pos hlen]
    exact .refused _ h
  · rw [if_neg hlen, if_neg hlen]
    by_cases hcontrol : 0x03 < req.getD 1 0
    · rw [if_pos hcontrol, if_pos hcontrol]
      exact .refused _ h
    · rw [if_neg hcontrol, if_neg hcontrol]
      by_cases hcomm : req.getD 2 0 = 0x00
      · rw [if_pos hcomm, if_pos hcomm]
        exact .refused _ h
      · rw [if_neg hcomm, if_neg hcomm]
        exact .accepted h

theorem answers_readDid {dids : List UInt16} (hlen : dids.length ≤ 16) :
    Answers (readDidLoop sim.didReg ecusimMaxPdu dids [0x62]) := by
  apply answers_readDidLoop
  · rw [h.dids]
    intro e he
    obtain ⟨e', he', rfl⟩ := List.mem_map.mp he
    change (l.did e'.didId).length ≤ didDataSize
    rw [h.lengths e' he']
    exact length_defaultDids e' he'
  · exact List.cons_ne_nil _ _
  · unfold didDataSize ecusimMaxPdu
    rw [List.length_singleton]
    omega

theorem meets_readDid :
    Meets l req .readDataByIdentifier (l.readAnswer req)
      (serve sim env req ecusimMaxPdu .readDataByIdentifier) := by
  have hlist : (didListOf (req.drop 1)).length = (req.length - 1) / 2 := by
    rw [length_didListOf, List.length_drop]
  simp only [serve, Ledger.readAnswer]
  by_cases hformat : req.length < 3 ∨ (req.length - 1) % 2 ≠ 0
  · rw [if_pos hformat, if_pos hformat]
    exact .refused _ h
  · rw [if_neg hformat, if_neg hformat]
    by_cases hcount : (req.length - 1) / 2 > 16
    · rw [if_pos hcount, if_neg (by omega)]
      exact .refused _ h
    · rw [if_neg hcount]
      generalize didListOf (req.drop 1) = dids at hlist ⊢
      have hread : udsSvcReadDid sim.didReg dids ecusimMaxPdu =
          readDidLoop sim.didReg ecusimMaxPdu dids [0x62] := by
        unfold udsSvcReadDid
        rw [if_neg (by omega), if_neg (by decide)]
      have hanswers := answers_readDid h (show dids.length ≤ 16 by omega)
      have hregistered : (∀ did ∈ dids, Registered sim.didReg did) ↔
          ∀ did ∈ dids, Registered defaultDids did := by
        rw [h.dids]
        exact forall₂_congr fun did _ => registered_didsOf l.did did
      rw [hread]
      cases hloop : readDidLoop sim.didReg ecusimMaxPdu dids [0x62] with
      | ok resp =>
          obtain ⟨hall, rfl⟩ := readDidLoop_ok hloop
          rw [hregistered] at hall
          have hrecords : dids.flatMap (didRecord (didData sim.didReg)) =
              dids.flatMap (didRecord l.did) := by
            apply List.flatMap_congr
            intro did hdid
            rw [h.dids, didRecord, didData_didsOf l.did (hall did hdid), didRecord]
          rw [if_pos ⟨by omega, hall⟩, hrecords]
          exact .accepted h
      | error e =>
          rw [hloop] at hanswers
          cases e with
          | errNrc nrc =>
              obtain ⟨rfl, hnot⟩ := readDidLoop_refused hloop
              rw [hregistered] at hnot
              rw [if_neg fun hboth => hnot hboth.2]
              exact .refused _ h
          | errParam => cases hanswers
          | errBuf => cases hanswers

theorem Agrees.write {data : List UInt8} {did : UInt16} {entry : UdsDidEntry}
    (hfind : didFind defaultDids did = some entry) (hdata : data.length = entry.data.length) :
    Agrees { l with did := Function.update l.did did data }
      { sim with didReg := didStore data did sim.didReg } :=
  { h with
    dids := by
      rw [h.dids]
      exact didStore_didsOf l.did (by decide) data did
    lengths := by
      intro e he
      change (Function.update l.did did data e.didId).length = e.data.length
      by_cases hid : e.didId = did
      · rw [hid, Function.update_self, hdata, eq_of_didFind nodup_defaultDids hfind he hid]
      · rw [Function.update_of_ne hid]
        exact h.lengths e he }

theorem meets_writeDid :
    Meets l req .writeDataByIdentifier (l.writeAnswer req)
      (serve sim env req ecusimMaxPdu .writeDataByIdentifier) := by
  have hserve : serve sim env req ecusimMaxPdu .writeDataByIdentifier =
      if req.length < 4 then (sim, badLength)
      else
        ({ sim with didReg := (udsSvcWriteDid sim.didReg (writtenDid req) (req.drop 3)
            sim.session.type.code (udsCoreSecIsUnlocked sim.security 0x01) ecusimMaxPdu).1 },
          (udsSvcWriteDid sim.didReg (writtenDid req) (req.drop 3) sim.session.type.code
            (udsCoreSecIsUnlocked sim.security 0x01) ecusimMaxPdu).2) := rfl
  rw [hserve, Ledger.writeAnswer]
  by_cases hlen : req.length < 4
  · rw [if_pos hlen, if_pos hlen]
    exact .refused _ h
  · rw [if_neg hlen, if_neg hlen]
    have hdrop : (req.drop 3).length = req.length - 3 := List.length_drop
    have hfound : didFind sim.didReg (writtenDid req) = (didFind defaultDids (writtenDid req)).map
        fun e => { e with data := l.did (writtenDid req) } := by
      rw [h.dids]
      exact didFind_didsOf l.did (writtenDid req)
    unfold udsSvcWriteDid
    rw [hfound, h.session]
    cases hfind : didFind defaultDids (writtenDid req) with
    | none => exact .refused _ h
    | some entry =>
        have hentry : entry.didId = writtenDid req := by simpa using List.find?_some hfind
        have hvalue : (l.did (writtenDid req)).length = entry.data.length := by
          rw [← hentry]
          exact h.lengths entry (mem_of_didFind hfind)
        have hdenies : (entry.requiresSecurity && !udsCoreSecIsUnlocked sim.security 0x01) = true ↔
            entry.requiresSecurity = true ∧ l.unlockedLevel ≠ 0x01 := by
          rw [← h.unlockedLevel, Bool.and_eq_true, Bool.not_eq_true', ← Bool.not_eq_true,
            isUnlocked_iff]
        simp only [Option.map_some, hvalue, hdrop]
        by_cases hwritable : entry.writable = false
        · rw [if_pos (Or.inl hwritable : entry.writable = false ∨ _),
            if_pos (show (!entry.writable) = true by simpa using hwritable)]
          exact .refused _ h
        · by_cases hsession : l.session.code < entry.minWriteSession
          · rw [if_pos (Or.inr hsession : entry.writable = false ∨ _),
              if_neg (show ¬(!entry.writable) = true by simpa using hwritable), if_pos hsession]
            exact .refused _ h
          · rw [if_neg (not_or.mpr ⟨hwritable, hsession⟩),
              if_neg (show ¬(!entry.writable) = true by simpa using hwritable), if_neg hsession]
            by_cases hdenied : entry.requiresSecurity = true ∧ l.unlockedLevel ≠ 0x01
            · rw [if_pos hdenied, if_pos (hdenies.mpr hdenied)]
              exact .refused _ h
            · rw [if_neg hdenied, if_neg (mt hdenies.mp hdenied)]
              by_cases hlength : req.length - 3 ≠ entry.data.length
              · rw [if_pos hlength, if_pos hlength]
                exact .refused _ h
              · rw [if_neg hlength, if_neg hlength, if_neg (by decide)]
                apply Meets.accepted
                exact h.write hfind (by rw [hdrop]; exact Decidable.of_not_not hlength)

theorem meets_clearDtc :
    Meets l req .clearDiagnosticInformation (clearAnswer req)
      (serve sim env req ecusimMaxPdu .clearDiagnosticInformation) := by
  have hserve : serve sim env req ecusimMaxPdu .clearDiagnosticInformation =
      if req.length < 4 then (sim, badLength)
      else
        ({ sim with dtcReg := (udsSvcClearDtc sim.dtcReg (groupOfRequest req) ecusimMaxPdu).1 },
          (udsSvcClearDtc sim.dtcReg (groupOfRequest req) ecusimMaxPdu).2) := rfl
  rw [hserve, clearAnswer, h.dtcs, udsSvcClearDtc_dtcsOf _ _ (by decide)]
  by_cases hlen : req.length < 4
  · rw [if_pos hlen, if_pos hlen]
    exact .refused _ h
  · rw [if_neg hlen, if_neg hlen]
    by_cases hknown : ∃ e ∈ defaultDtcs, Names (groupOfRequest req) e.dtcCode
    · rw [if_pos hknown, if_pos hknown]
      exact .accepted { h with dtcs := rfl }
    · have hsame : (dtcsOf fun code => if Names (groupOfRequest req) code then 0
          else l.dtcStatus code) = dtcsOf l.dtcStatus :=
        dtcsOf_congr fun e he => if_neg fun hnames => hknown ⟨e, he, hnames⟩
      rw [if_neg hknown, if_neg hknown, hsame]
      exact .refused _ { h with dtcs := rfl }

theorem meets_readDtc :
    Meets l req .readDtcInformation (l.dtcAnswer req)
      (serve sim env req ecusimMaxPdu .readDtcInformation) := by
  simp only [serve, Ledger.dtcAnswer, h.dtcs]
  by_cases hlen : req.length < 2
  · rw [if_pos hlen, if_pos hlen]
    exact .refused _ h
  · rw [if_neg hlen, if_neg hlen]
    by_cases hall : req.getD 1 0 = 0x0A
    · have hroom : 3 + 4 * (dtcsOf l.dtcStatus).length ≤ ecusimMaxPdu := by
        rw [length_dtcsOf]
        decide
      rw [hall, if_pos rfl, if_neg (by simp), udsSvcReadDtc_supported, if_pos hroom]
      exact .accepted h
    · rw [if_neg hall]
      by_cases hmask : req.getD 1 0 = 0x01 ∨ req.getD 1 0 = 0x02
      · rw [if_pos hmask]
        by_cases hshort : req.length < 3
        · rw [if_pos hshort, if_pos ⟨hmask, hshort⟩]
          exact .refused _ h
        · have hargs : req.drop 2 = req.getD 2 0 :: req.drop 3 := by
            rw [List.drop_eq_getElem_cons (by omega), List.getD_eq_getElem _ _ (by omega)]
          have hle := length_matchingDtcs_le (dtcsOf l.dtcStatus) (req.getD 2 0)
          rw [length_dtcsOf] at hle
          have hlong : ¬((req.getD 1 0 = 0x01 ∨ req.getD 1 0 = 0x02) ∧ req.length < 3) :=
            fun hboth => hshort hboth.2
          rw [if_neg hshort, if_neg hlong, hargs]
          by_cases hcount : req.getD 1 0 = 0x01
          · rw [if_pos hcount, hcount, udsSvcReadDtc_count _ _ _ _ (by rw [length_dtcsOf]; omega)
              (by decide)]
            exact .accepted h
          · have hreport : req.getD 1 0 = 0x02 := hmask.resolve_left hcount
            have hroom : 3 + 4 * (matchingDtcs (dtcsOf l.dtcStatus) (req.getD 2 0)).length ≤
                ecusimMaxPdu := by
              unfold ecusimMaxPdu
              omega
            rw [if_neg hcount, hreport, udsSvcReadDtc_byStatus, if_pos hroom]
            exact .accepted h
      · rw [if_neg hmask, if_neg fun hboth => hmask hboth.1]
        unfold udsSvcReadDtc
        rw [if_neg fun heq => hmask (Or.inl heq), if_neg fun heq => hmask (Or.inr heq), if_neg hall]
        exact .refused _ h

/-! ## Transfers -/

theorem Agrees.mode_idle (hnone : l.transfer = none) : sim.xfer.mode = .idle := by
  rw [h.idle hnone]
  rfl

theorem Agrees.active {t : OpenTransfer} (ht : l.transfer = some t) : sim.xfer.mode ≠ .idle := by
  rw [(h.transfer t ht).xfer_eq, xferAt_mode, OpenTransfer.mode]
  split <;> decide

theorem transferAnswer_cases (hlen : 3 ≤ req.length) (sid : UInt8) :
    (sim.xfer.mode ≠ .idle ∧ l.transferAnswer req sid = .error .conditionsNotCorrect) ∨
      (sim.xfer.mode = .idle ∧ parseAddrLenFmt (req.getD 2 0) (req.drop 3) = none ∧
        l.transferAnswer req sid = .error .incorrectMsgLenOrFormat) ∨
      (∃ address memSize, sim.xfer.mode = .idle ∧
        parseAddrLenFmt (req.getD 2 0) (req.drop 3) = some (address, memSize) ∧
          udsFlashAddressValid sim.flash address memSize = false ∧
            l.transferAnswer req sid = .error .requestOutOfRange) ∨
      ∃ address len, sim.xfer.mode = .idle ∧ 0 < len ∧ address + len ≤ udsFlashMaxSize ∧
        parseAddrLenFmt (req.getD 2 0) (req.drop 3) =
          some (UInt32.ofNat address, UInt32.ofNat len) ∧
          rangeOfRequest req = some (address, len) ∧
            l.transferAnswer req sid = .ok [sid, 0x20, 0x00, 0x0F] := by
  have hrange := rangeOfRequest_eq hlen
  unfold Ledger.transferAnswer
  rw [if_neg (by omega)]
  cases htransfer : l.transfer with
  | some t =>
      exact Or.inl ⟨h.active htransfer, rfl⟩
  | none =>
      have hidle := h.mode_idle htransfer
      cases hparse : parseAddrLenFmt (req.getD 2 0) (req.drop 3) with
      | none =>
          rw [hparse] at hrange
          exact Or.inr (Or.inl ⟨hidle, rfl, by rw [hrange]; rfl⟩)
      | some range =>
          obtain ⟨address, memSize⟩ := range
          rw [hparse, Option.map_some] at hrange
          have hvalid : udsFlashAddressValid sim.flash address memSize = true ↔
              0 < memSize.toNat ∧ address.toNat + memSize.toNat ≤ udsFlashMaxSize :=
            udsFlashAddressValid_default h.regions
          simp only [hrange]
          by_cases hin : 0 < memSize.toNat ∧ address.toNat + memSize.toNat ≤ udsFlashMaxSize
          · refine Or.inr (Or.inr (Or.inr ⟨_, _, hidle, hin.1, hin.2, ?_, rfl, ?_⟩))
            · rw [UInt32.ofNat_toNat, UInt32.ofNat_toNat]
            · exact if_pos hin
          · refine Or.inr (Or.inr (Or.inl ⟨_, _, hidle, rfl, ?_, if_neg hin⟩))
            rw [← Bool.not_eq_true, hvalid]
            exact hin

theorem meets_requestDownload :
    Meets l req .requestDownload (l.transferAnswer req 0x74)
      (serve sim env req ecusimMaxPdu .requestDownload) := by
  simp only [serve]
  by_cases hlen : req.length < 3
  · rw [if_pos hlen, Ledger.transferAnswer, if_pos hlen]
    exact .refused _ h
  · rw [if_neg hlen]
    rcases transferAnswer_cases h (Nat.not_lt.mp hlen) 0x74 with
      ⟨hactive, hanswer⟩ | ⟨hidle, hparse, hanswer⟩ |
      ⟨address, memSize, hidle, hparse, hvalid, hanswer⟩ |
        ⟨address, len, hidle, hpos, hin, hparse, hrange, hanswer⟩
    · rw [hanswer, udsSvcRequestDownload, if_pos hactive]
      exact .refused _ h
    · rw [hanswer, udsSvcRequestDownload, if_neg (by simpa using hidle), hparse]
      exact .refused _ h
    · rw [hanswer, udsSvcRequestDownload, if_neg (by simpa using hidle), hparse]
      simp only [hvalid]
      exact .refused _ h
    · have hprog : Programmable sim.flash.regions address len := by
        rw [h.regions]
        exact programmable_defaultRegions hin
      rw [hanswer, requestDownload_accepted hprog hidle hpos hparse (by decide)]
      have haccept : l.accept req .requestDownload =
          { l with
            flash := l.flash.fill address len udsFlashEraseValue
            transfer := some ⟨false, address, len, 0, 0x01⟩ } := by
        rw [Ledger.accept, hrange]
      apply Meets.accepted
      rw [haccept]
      exact { h with
        flash := by rw [h.flash]
        idle := fun hnone => by cases hnone
        transfer := by
          intro t ht
          obtain rfl := Option.some.inj ht
          exact ⟨rfl, hpos, Nat.zero_le _, hin⟩ }

theorem meets_requestUpload :
    Meets l req .requestUpload (l.transferAnswer req 0x75)
      (serve sim env req ecusimMaxPdu .requestUpload) := by
  simp only [serve]
  by_cases hlen : req.length < 3
  · rw [if_pos hlen, Ledger.transferAnswer, if_pos hlen]
    exact .refused _ h
  · rw [if_neg hlen]
    rcases transferAnswer_cases h (Nat.not_lt.mp hlen) 0x75 with
      ⟨hactive, hanswer⟩ | ⟨hidle, hparse, hanswer⟩ |
      ⟨address, memSize, hidle, hparse, hvalid, hanswer⟩ |
        ⟨address, len, hidle, hpos, hin, hparse, hrange, hanswer⟩
    · rw [hanswer, udsSvcRequestUpload, if_pos hactive]
      exact .refused _ h
    · rw [hanswer, udsSvcRequestUpload, if_neg (by simpa using hidle), hparse]
      exact .refused _ h
    · rw [hanswer, udsSvcRequestUpload, if_neg (by simpa using hidle), hparse]
      simp only [hvalid]
      exact .refused _ h
    · have hprog : Programmable sim.flash.regions address len := by
        rw [h.regions]
        exact programmable_defaultRegions hin
      rw [hanswer, requestUpload_accepted hprog hidle hpos hparse (by decide)]
      have haccept : l.accept req .requestUpload =
          { l with transfer := some ⟨true, address, len, 0, 0x01⟩ } := by
        rw [Ledger.accept, hrange]
      apply Meets.accepted
      rw [haccept]
      exact { h with
        idle := fun hnone => by cases hnone
        transfer := by
          intro t ht
          obtain rfl := Option.some.inj ht
          exact ⟨rfl, hpos, Nat.zero_le _, hin⟩ }

theorem meets_uploadBlock {t : OpenTransfer} (ht : l.transfer = some t) (hup : t.upload = true)
    (data : List UInt8) (haccept : l.accept req .transferData = l.acceptBlock data) :
    Meets l req .transferData
      (if t.offset < t.len then .ok ([0x76, t.seq] ++ l.flash.load (t.address + t.offset) t.next)
      else .error .generalProgrammingFailure)
      ({ sim with
          xfer := (udsSvcTransferData sim.xfer sim.flash t.seq data ecusimMaxPdu).1.1
          flash := (udsSvcTransferData sim.xfer sim.flash t.seq data ecusimMaxPdu).1.2 },
        (udsSvcTransferData sim.xfer sim.flash t.seq data ecusimMaxPdu).2) := by
  obtain ⟨hxfer, hpos, hle, hin⟩ := h.transfer t ht
  have hmode : t.mode = .upload := if_pos hup
  have hprog : Programmable sim.flash.regions t.address t.len := by
    rw [h.regions]
    exact programmable_defaultRegions hin
  rw [hmode] at hxfer
  by_cases hmore : t.offset < t.len
  · rw [if_pos hmore, hxfer, transferUpload_accepted t.seq hprog data rfl hmore (by decide),
      h.flash]
    apply Meets.accepted
    rw [haccept, Ledger.acceptBlock, ht]
    simp only [hup, if_true]
    exact { h with
      idle := fun hnone => by cases hnone
      transfer := by
        intro t' ht'
        obtain rfl := Option.some.inj ht'
        refine ⟨?_, hpos, ?_, hin⟩
        · rw [show (t.advance t.next).mode = .upload from hmode]
          rfl
        · change t.offset + t.next ≤ t.len
          unfold OpenTransfer.next
          omega }
  · have hread : (xferAt .upload t.address t.len t.offset t.seq).toRead = 0 := by
      have hlt := hprog.lt
      rw [xferAt_toRead .upload t.seq hle (by omega), Nat.sub_eq_zero_of_le (by omega)]
      rfl
    have hcall : udsSvcTransferData sim.xfer sim.flash t.seq data ecusimMaxPdu =
        ((sim.xfer, sim.flash), .error (.errNrc .generalProgrammingFailure)) := by
      rw [hxfer, udsSvcTransferData, if_neg (by simp), if_neg (by simp), if_neg (by simp),
        transferUpload, hread, if_neg (by decide)]
      rfl
    rw [if_neg hmore, hcall]
    exact .refused _ h

theorem meets_downloadBlock {t : OpenTransfer} (ht : l.transfer = some t) (hup : t.upload = false)
    {data : List UInt8} (hfits : data.length < 2 ^ 32)
    (haccept : l.accept req .transferData = l.acceptBlock data) :
    Meets l req .transferData
      (if data.length = 0 then .ok []
      else if t.len < t.offset + data.length then .error .transferDataSuspended
      else .ok [0x76, t.seq])
      ({ sim with
          xfer := (udsSvcTransferData sim.xfer sim.flash t.seq data ecusimMaxPdu).1.1
          flash := (udsSvcTransferData sim.xfer sim.flash t.seq data ecusimMaxPdu).1.2 },
        (udsSvcTransferData sim.xfer sim.flash t.seq data ecusimMaxPdu).2) := by
  obtain ⟨hxfer, hpos, hle, hin⟩ := h.transfer t ht
  have hmode : t.mode = .download := if_neg (by simp [hup])
  have hprog : Programmable sim.flash.regions t.address t.len := by
    rw [h.regions]
    exact programmable_defaultRegions hin
  rw [hmode] at hxfer
  by_cases hempty : data.length = 0
  · have hcall : udsSvcTransferData sim.xfer sim.flash t.seq data ecusimMaxPdu =
        ((sim.xfer, sim.flash), .error .errParam) := by
      rw [hxfer, udsSvcTransferData, if_neg (by simp), if_neg (by simp), if_pos (xferAt_mode ..),
        transferDownload, if_pos hempty]
    rw [if_pos hempty, hcall]
    exact .silent (Or.inr rfl) h
  · rw [if_neg hempty]
    by_cases hlong : t.len < t.offset + data.length
    · have hroom : UInt32.ofNat data.length > UInt32.ofNat (t.len - t.offset) := by
        have hlt := hprog.lt
        rw [gt_iff_lt, UInt32.ofNat_lt_iff_lt (show t.len - t.offset < 2 ^ 32 by omega) hfits]
        omega
      have hcall : udsSvcTransferData sim.xfer sim.flash t.seq data ecusimMaxPdu =
          ((sim.xfer, sim.flash), .error (.errNrc .transferDataSuspended)) := by
        rw [hxfer, udsSvcTransferData, if_neg (by simp), if_neg (by simp), if_pos (xferAt_mode ..),
          transferDownload, if_neg hempty, xferAt_remaining _ _ hle, if_pos hroom]
      rw [if_pos hlong, hcall]
      exact .refused _ h
    · have hdata : data ≠ [] := fun hnil => hempty (by rw [hnil]; rfl)
      rw [if_neg hlong, hxfer, transferDownload_accepted t.seq hprog hdata (by omega) (by decide)]
      apply Meets.accepted
      rw [haccept, Ledger.acceptBlock, ht]
      simp only [hup, Bool.false_eq_true, if_false]
      exact { h with
        flash := by rw [h.flash]
        idle := fun hnone => by cases hnone
        transfer := by
          intro t' ht'
          obtain rfl := Option.some.inj ht'
          refine ⟨?_, hpos, Nat.not_lt.mp hlong, hin⟩
          rw [show (t.advance data.length).mode = .download from hmode]
          rfl }

theorem meets_transferData (hfits : req.length ≤ ecusimMaxPdu) :
    Meets l req .transferData (l.blockAnswer req)
      (serve sim env req ecusimMaxPdu .transferData) := by
  simp only [serve, Ledger.blockAnswer]
  by_cases hlen : req.length < 2
  · rw [if_pos hlen, if_pos hlen]
    exact .refused _ h
  · rw [if_neg hlen, if_neg hlen]
    cases htransfer : l.transfer with
    | none =>
        rw [udsSvcTransferData, if_pos (h.mode_idle htransfer)]
        exact .refused _ h
    | some t =>
        simp only
        by_cases hseq : req.getD 1 0 ≠ t.seq
        · have hcounter : sim.xfer.blockSeq = t.seq := by
            rw [(h.transfer t htransfer).xfer_eq, xferAt_blockSeq]
          rw [if_pos hseq, udsSvcTransferData, if_neg (h.active htransfer),
            if_pos (by rwa [hcounter])]
          exact .refused _ h
        · rw [if_neg hseq, Decidable.of_not_not hseq]
          cases hup : t.upload with
          | true =>
              rw [if_pos rfl]
              exact meets_uploadBlock h htransfer hup (req.drop 2) rfl
          | false =>
              have hdrop : (req.drop 2).length = req.length - 2 := List.length_drop
              have hshort : (req.drop 2).length < 2 ^ 32 := by
                unfold ecusimMaxPdu at hfits
                omega
              have hblock := meets_downloadBlock h htransfer hup hshort rfl
              rw [hdrop] at hblock
              rw [if_neg (by decide)]
              by_cases hempty : req.length = 2
              · rw [if_pos (by omega)] at hblock
                rwa [if_pos hempty]
              · rw [if_neg (by omega)] at hblock
                rwa [if_neg hempty]

theorem meets_transferExit :
    Meets l req .requestTransferExit l.exitAnswer
      (serve sim env req ecusimMaxPdu .requestTransferExit) := by
  have hserve : serve sim env req ecusimMaxPdu .requestTransferExit =
      ({ sim with xfer := (udsSvcTransferExit sim.xfer ecusimMaxPdu).1 },
        (udsSvcTransferExit sim.xfer ecusimMaxPdu).2) := rfl
  rw [hserve, Ledger.exitAnswer, udsSvcTransferExit]
  cases htransfer : l.transfer with
  | none =>
      rw [if_pos (h.mode_idle htransfer)]
      exact .refused _ h
  | some t =>
      rw [if_pos (show (some t).isSome = true from rfl), if_neg (h.active htransfer),
        if_neg (show ¬ecusimMaxPdu < 1 by decide)]
      apply Meets.accepted
      exact { h with idle := fun _ => rfl, transfer := fun t ht => by cases ht }

/-! ## The switch -/

theorem meets_serve (hfits : req.length ≤ ecusimMaxPdu) {svc : Service} {expected : Expected}
    (hexpected : l.expects req svc = some expected) :
    Meets l req svc expected (serve sim env req ecusimMaxPdu svc) := by
  cases svc with
  | securityAccess => cases hexpected
  | diagnosticSessionControl =>
      obtain rfl := Option.some.inj hexpected
      exact meets_dsc env h
  | testerPresent =>
      obtain rfl := Option.some.inj hexpected
      exact meets_testerPresent env h
  | readDataByIdentifier =>
      obtain rfl := Option.some.inj hexpected
      exact meets_readDid env h
  | writeDataByIdentifier =>
      obtain rfl := Option.some.inj hexpected
      exact meets_writeDid env h
  | ecuReset =>
      obtain rfl := Option.some.inj hexpected
      exact meets_ecuReset env h
  | communicationControl =>
      obtain rfl := Option.some.inj hexpected
      exact meets_commControl env h
  | clearDiagnosticInformation =>
      obtain rfl := Option.some.inj hexpected
      exact meets_clearDtc env h
  | readDtcInformation =>
      obtain rfl := Option.some.inj hexpected
      exact meets_readDtc env h
  | requestDownload =>
      obtain rfl := Option.some.inj hexpected
      exact meets_requestDownload env h
  | requestUpload =>
      obtain rfl := Option.some.inj hexpected
      exact meets_requestUpload env h
  | transferData =>
      obtain rfl := Option.some.inj hexpected
      exact meets_transferData env h hfits
  | requestTransferExit =>
      obtain rfl := Option.some.inj hexpected
      exact meets_transferExit env h

/-! ## Security Access -/

theorem agrees_securityAccess (hreq : req.head? = some Service.securityAccess.sid) :
    Agrees (l.note req (reply 0x27 (serve sim env req ecusimMaxPdu .securityAccess).2))
      (serve sim env req ecusimMaxPdu .securityAccess).1 := by
  by_cases hshort : req.length < 2 ∨
      (req.getD 1 0 &&& 0x01 = 0 ∧ req.length < 2 + udsCoreSeedLen)
  · rw [serve_securityAccess_short sim env req ecusimMaxPdu hshort]
    change Agrees (l.note req (reply Service.securityAccess.sid badLength)) sim
    rw [badLength, note_error hreq]
    exact h
  · rw [not_or] at hshort
    by_cases heven : req.getD 1 0 &&& 0x01 = 0
    · have hlen : 2 + udsCoreSeedLen ≤ req.length := by
        by_contra hlt
        exact hshort.2 ⟨heven, by omega⟩
      have hrefused {e : UdsCoreError}
          (hlevel : (udsCoreSecSendKey sim.security (req.getD 1 0) (req.drop 2) ecusimMaxPdu
            env.clock).1.unlockedLevel = sim.security.unlockedLevel)
          (herr : (udsCoreSecSendKey sim.security (req.getD 1 0) (req.drop 2) ecusimMaxPdu
            env.clock).2 = .error e) :
          Agrees (l.note req (reply 0x27 (serve sim env req ecusimMaxPdu .securityAccess).2))
            (serve sim env req ecusimMaxPdu .securityAccess).1 := by
        rw [serve_keyRefused env hlen heven herr]
        change Agrees (l.note req (reply Service.securityAccess.sid (.error e))) _
        rw [note_error hreq]
        exact { h with unlockedLevel := hlevel.trans h.unlockedLevel }
      rcases sendKey_pending sim.security (req.getD 1 0) (req.drop 2) ecusimMaxPdu env.clock with
        ⟨-, -, ⟨-, hlevel, hok⟩ | ⟨-, hlevel, e, herr⟩⟩ | ⟨-, -, hlevel, e, herr⟩
      · have haccept : l.accept req .securityAccess =
            { l with unlockedLevel := req.getD 1 0 - 1 } := if_pos heven
        rw [serve_keyAccepted env hlen heven hok]
        change Agrees (l.note req (reply Service.securityAccess.sid (.ok (_ :: _)))) _
        rw [show (0x67 : UInt8) = Service.securityAccess.sid + 0x40 from rfl, note_ok hreq, haccept]
        exact { h with session := h.session, unlockedLevel := hlevel }
      · exact hrefused hlevel herr
      · exact hrefused hlevel herr
    · have haccept : l.accept req .securityAccess = l := if_neg heven
      rw [serve_requestSeed sim env req ecusimMaxPdu (Nat.not_lt.mp hshort.1) heven,
        note_of_head hreq, haccept, ite_self]
      exact { h with
        unlockedLevel := by rw [← h.unlockedLevel]; exact requestSeed_unlockedLevel .. }

end Services

/-! ## Runs -/

theorem tracks_tester :
    tester.Tracks ecusimStep (fun i => i.req.length ≤ ecusimMaxPdu) Agrees where
  note := by
    intro l sim i h hfits
    change Agrees (l.note i.req (ecusimStep sim i).2) (ecusimStep sim i).1
    rcases ecusimStep_cases sim i with ⟨svc, hreq⟩ | ⟨hno, hsame⟩
    · rw [ecusimStep_of_head sim hreq]
      cases hexpected : l.expects i.req svc with
      | some expected => exact (meets_serve i.env h hfits hexpected).agrees hreq
      | none =>
          have hsvc : svc = .securityAccess := by
            cases svc <;> first | rfl | cases hexpected
          subst hsvc
          exact agrees_securityAccess i.env h hreq
    · rw [hsame, note_of_unknown hno]
      exact h
  foretell := by
    intro l sim i h hfits o ho
    change o ∈ l.foretell i.req at ho
    rcases ecusimStep_cases sim i with ⟨svc, hreq⟩ | ⟨hno, -⟩
    · rw [foretell_of_head hreq] at ho
      obtain ⟨expected, hexpected, rfl⟩ := Option.map_eq_some_iff.mp ho
      rw [ecusimStep_of_head sim hreq]
      exact (meets_serve i.env h hfits hexpected).reply_eq
    · rw [foretell_of_unknown hno l sim] at ho
      exact Option.some.inj ho

theorem securityAccess_of_none {l : Ledger} {req : List UInt8} (h : l.foretell req = none) :
    req.head? = some Service.securityAccess.sid := by
  unfold Ledger.foretell at h
  cases req with
  | nil => cases h
  | cons sid args =>
      cases hsid : Service.ofSid sid with
      | none => simp [hsid] at h
      | some svc =>
          simp only [hsid, Option.map_eq_none_iff] at h
          rw [← sid_of_ofSid hsid]
          cases svc <;> first | rfl | cases h

/-! ## Results -/

/-- Before every request, the ledger of the requests and answers so far shows the state of
the simulator, and foretells the answer, unless the request is for Security Access. -/
theorem ledger_foretells (ecuId : UInt8) (now : Timespec) {inputs : List Input}
    (hfit : Fitting inputs) (before after : List EcuTurn) (x : EcuTurn)
    (heq : turnsFrom ecusimStep (ecusimInit ecuId now) inputs = before ++ x :: after) :
    Agrees (tester.ledger ledgerInit before) x.pre ∧
      (¬Requests .securityAccess x →
        (tester.ledger ledgerInit before).foretell x.input.req = some x.output) := by
  obtain ⟨hagrees, hforetold⟩ := tracks_tester.turn (Agrees.init ecuId now) hfit heq
  refine ⟨hagrees, fun hother => ?_⟩
  cases hsays : (tester.ledger ledgerInit before).foretell x.input.req with
  | none => exact absurd (securityAccess_of_none hsays) hother
  | some o => rw [hforetold o hsays]

/-- A write, and a read of what was written. -/
def writeThenRead : List Input :=
  schedule [(0, [0x10, 0x03]), (1, [0x2E, 0x01, 0x01, 0xCA, 0xFE, 0xBA, 0xBE]),
    (2, [0x22, 0x01, 0x01])]

theorem ledger_foretells_writeThenRead :
    Agrees (tester.ledger ledgerInit (turnsFrom ecusimStep (ecusimInit 1 .zero)
        (writeThenRead.take 2))) (runFrom ecusimStep (ecusimInit 1 .zero) (writeThenRead.take 2)) ∧
      (tester.ledger ledgerInit (turnsFrom ecusimStep (ecusimInit 1 .zero)
        (writeThenRead.take 2))).foretell [0x22, 0x01, 0x01] =
          some [0x62, 0x01, 0x01, 0xCA, 0xFE, 0xBA, 0xBE] := by
  have h := ledger_foretells 1 .zero (show Fitting writeThenRead by decide)
    (turnsFrom ecusimStep (ecusimInit 1 .zero) (writeThenRead.take 2)) []
    ⟨_, ⟨⟨fun _ => ⟨2, 0⟩, fun _ => 0⟩, [0x22, 0x01, 0x01]⟩,
      [0x62, 0x01, 0x01, 0xCA, 0xFE, 0xBA, 0xBE]⟩ rfl
  exact ⟨h.1, h.2 (by decide)⟩

/-- Two simulators that get the same requests, and answer those for Security Access alike,
answer all of them alike: neither clocks nor random bytes nor the ECU identifier are to be
told from the other services. -/
theorem answers_determined {ecuId ecuId' : UInt8} {now now' : Timespec}
    {inputs inputs' : List Input} (hfit : Fitting inputs) (hfit' : Fitting inputs')
    (halike : List.Forall₂
      (fun x y => x.input.req = y.input.req ∧ (Requests .securityAccess x → x.output = y.output))
      (turnsFrom ecusimStep (ecusimInit ecuId now) inputs)
      (turnsFrom ecusimStep (ecusimInit ecuId' now') inputs')) :
    (turnsFrom ecusimStep (ecusimInit ecuId now) inputs).map Turn.output =
      (turnsFrom ecusimStep (ecusimInit ecuId' now') inputs').map Turn.output := by
  have hopen : ∀ (l : Ledger) (req : List UInt8), tester.foretell l req = none →
      req.head? = some Service.securityAccess.sid := fun _ _ => securityAccess_of_none
  exact tracks_tester.outputs_eq tracks_tester hopen (Agrees.init ecuId now)
    (Agrees.init ecuId' now') hfit hfit' halike

/-- One simulator is asked at once, the other an hour later; there is no seed for the key. -/
theorem answers_determined_later :
    (turnsFrom ecusimStep (ecusimInit 1 .zero)
        (schedule [(0, [0x27, 0x02, 1, 2, 3, 4]), (1, [0x22, 0xF1, 0x89])])).map Turn.output =
      (turnsFrom ecusimStep (ecusimInit 2 .zero)
        (schedule [(0, [0x27, 0x02, 1, 2, 3, 4]), (3600, [0x22, 0xF1, 0x89])])).map Turn.output :=
  answers_determined (by decide) (by decide)
    (.cons ⟨rfl, fun _ => rfl⟩ (.cons ⟨rfl, fun _ => rfl⟩ .nil))

end Uds.Ecusim
