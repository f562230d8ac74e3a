import Uds.Core.DidStore
import Uds.Core.DtcReports
import Uds.Ecusim.ResponseFormat
import Uds.Ecusim.Responses
import Uds.Ecusim.Revocation
import Uds.PyEcu.Simulator
/-!
# The two simulators

The Python and the C simulator on the services that the integration tests use in
common.  Both states mirror each other along every run, and the responses agree,
except for two kinds of request on which the two programs differ.
-/

namespace Uds.PyEcu

open Uds.Base Uds.Core Uds.Ecusim

/-! ## The relation between the states -/

/-- An entry of the C registry without the bytes of its data. -/
def didShape (e : UdsDidEntry) : UdsDidEntry := { e with data := List.replicate e.data.length 0 }

/-- An entry of the C registry as an item of the Python table. -/
def didItem (e : UdsDidEntry) : Nat × DidEntry :=
  (e.didId.toNat, ⟨e.data, e.writable, e.minWriteSession.toNat⟩)

def dtcItem (e : UdsDtcEntry) : Nat × UInt8 := (e.dtcCode.toNat, e.status)

/-- The Python state holds what the C state holds, and the C state is one that
no request for other services has touched. -/
structure Mirrors (sim : EcuSimulator) (ecu : EcuState) : Prop where
  session : ecu.session = sim.session.type.code.toNat
  cfg : sim.session.cfg = udsCoreSessionDefaultConfig
  security : sim.security = udsCoreSecurityInit
  dids : ecu.dids = sim.didReg.map didItem
  shape : sim.didReg.map didShape = Ecusim.defaultDids.map didShape
  dtcs : ecu.dtcs = sim.dtcReg.map dtcItem

theorem mirrors_init (ecuId : UInt8) (now : Timespec) (monotonic : Rat) :
    Mirrors (ecusimInit ecuId now) (EcuState.init monotonic) where
  session := rfl
  cfg := rfl
  security := rfl
  dids := by
    change defaultDids = Ecusim.defaultDids.map didItem
    decide
  shape := rfl
  dtcs := by
    change defaultDtcs = Ecusim.defaultDtcs.map dtcItem
    decide

/-- What is sent of a response: nothing if it is empty. -/
def sent (resp : List UInt8) : Option (List UInt8) := if resp = [] then none else some resp

/-- The outcomes of one service agree. -/
structure Agree (svc : Service) (out : EcuSimulator × Response)
    (out' : EcuState × Option (List UInt8)) : Prop where
  mirrors : Mirrors out.1 out'.1
  response : out'.2 = sent (reply svc.sid out.2)

theorem sent_cons (b : UInt8) (resp : List UInt8) : sent (b :: resp) = some (b :: resp) :=
  if_neg (by simp)

theorem sent_reply_error (sid : UInt8) (n : UdsNrc) :
    sent (reply sid (.error (.errNrc n))) = some (nrc sid n.code) := by
  rw [reply_error, sent_cons, nrc]

section Services

variable {sim : EcuSimulator} {ecu : EcuState} (env : Env) (draws : Draws) (req : List UInt8)

theorem Agree.refused {svc : Service} (h : Mirrors sim ecu) (n : UdsNrc) {resp : List UInt8}
    (hresp : resp = nrc svc.sid n.code) :
    Agree svc (sim, .error (.errNrc n)) (ecu, some resp) where
  mirrors := h
  response := by rw [hresp, sent_reply_error]

/-! ## Session control and reset -/

theorem mem_sessionTypes_iff (b : UInt8) :
    b ∈ [(0x01 : UInt8), 0x02, 0x03, 0x04] ↔ ∃ type, UdsSessionType.ofCode b = some type := by
  unfold UdsSessionType.ofCode
  simp only [List.mem_cons, List.not_mem_nil, or_false]
  split_ifs with h₁ h₂ h₃ h₄
  · exact ⟨fun _ => ⟨_, rfl⟩, fun _ => Or.inl h₁⟩
  · exact ⟨fun _ => ⟨_, rfl⟩, fun _ => Or.inr (Or.inl h₂)⟩
  · exact ⟨fun _ => ⟨_, rfl⟩, fun _ => Or.inr (Or.inr (Or.inl h₃))⟩
  · exact ⟨fun _ => ⟨_, rfl⟩, fun _ => Or.inr (Or.inr (Or.inr h₄))⟩
  · simp [h₁, h₂, h₃, h₄]

theorem code_of_ofCode {b : UInt8} {type : UdsSessionType}
    (h : UdsSessionType.ofCode b = some type) : type.code = b := by
  unfold UdsSessionType.ofCode at h
  split_ifs at h with h₁ h₂ h₃ h₄
  · rw [h₁, ← Option.some.inj h]
    rfl
  · rw [h₂, ← Option.some.inj h]
    rfl
  · rw [h₃, ← Option.some.inj h]
    rfl
  · rw [h₄, ← Option.some.inj h]
    rfl

theorem agree_dsc (h : Mirrors sim ecu) :
    Agree .diagnosticSessionControl
      (serve sim env req ecusimMaxPdu .diagnosticSessionControl) (svcDsc ecu draws req) := by
  simp only [serve, svcDsc]
  by_cases hlen : req.length < 2
  · rw [if_pos hlen, if_pos hlen]
    exact .refused h .incorrectMsgLenOrFormat rfl
  · rw [if_neg hlen, if_neg hlen]
    unfold udsCoreDsc
    cases htype : UdsSessionType.ofCode (req.getD 1 0) with
    | none =>
        have hnot : req.getD 1 0 ∉ [(0x01 : UInt8), 0x02, 0x03, 0x04] := by
          rw [mem_sessionTypes_iff, htype]
          simp
        rw [if_pos hnot]
        exact .refused h .subFunctionNotSupported rfl
    | some type =>
        have hmem := (mem_sessionTypes_iff (req.getD 1 0)).mpr ⟨type, htype⟩
        have hcode := code_of_ofCode htype
        rw [if_neg (not_not_intro hmem)]
        simp only
        rw [if_neg (by decide), h.cfg]
        constructor
        · constructor
          · simp only [hcode]
            split <;> rfl
          · rfl
          · exact h.security
          · simp only
            split <;> exact h.dids
          · exact h.shape
          · simp only
            split <;> exact h.dtcs
        · rfl

theorem agree_testerPresent (h : Mirrors sim ecu) :
    Agree .testerPresent (serve sim env req ecusimMaxPdu .testerPresent)
      (svcTesterPresent ecu draws req) := by
  simp only [serve, svcTesterPresent]
  by_cases hlen : req.length < 2
  · rw [if_pos hlen, if_pos hlen]
    exact .refused h .incorrectMsgLenOrFormat rfl
  · rw [if_neg hlen, if_neg hlen]
    unfold udsCoreTesterPresent
    by_cases hactual : req.getD 1 0 &&& 0x7F ≠ 0
    · simp only [if_pos hactual]
      exact .refused h .subFunctionNotSupported rfl
    · have hzero : req.getD 1 0 &&& 0x7F = 0 := Decidable.of_not_not hactual
      have hmirrors : Mirrors
          { sim with session := { sim.session with lastActivity := env.clock 0 } }
          { ecu with sessionTs := draws.monotonic } :=
        { h with session := h.session, cfg := h.cfg }
      simp only [if_neg hactual]
      by_cases hsuppress : req.getD 1 0 &&& 0x80 ≠ 0
      · rw [if_pos hsuppress, if_pos hsuppress]
        exact ⟨hmirrors, rfl⟩
      · rw [if_neg hsuppress, if_neg hsuppress, if_neg (by decide), hzero]
        exact ⟨hmirrors, rfl⟩

theorem mem_resetTypes_iff (b : UInt8) :
    b ∈ [(0x01 : UInt8), 0x02, 0x03] ↔ ¬(b < 0x01 ∨ b > 0x03) := by
  simp only [List.mem_cons, List.not_mem_nil, or_false, ← UInt8.toNat_inj, not_or, gt_iff_lt,
    UInt8.not_lt, UInt8.le_iff_toNat_le]
  change b.toNat = 1 ∨ b.toNat = 2 ∨ b.toNat = 3 ↔ 1 ≤ b.toNat ∧ b.toNat ≤ 3
  omega

theorem agree_ecuReset (h : Mirrors sim ecu) :
    Agree .ecuReset (serve sim env req ecusimMaxPdu .ecuReset) (svcEcuReset ecu req) := by
  simp only [serve, svcEcuReset]
  by_cases hlen : req.length < 2
  · rw [if_pos hlen, if_pos hlen]
    exact .refused h .incorrectMsgLenOrFormat rfl
  · rw [if_neg hlen, if_neg hlen]
    unfold udsSvcEcuReset
    by_cases htype : req.getD 1 0 < 0x01 ∨ req.getD 1 0 > 0x03
    · have hnot : req.getD 1 0 ∉ [(0x01 : UInt8), 0x02, 0x03] := fun hmem =>
        (mem_resetTypes_iff _).mp hmem htype
      rw [if_pos htype, if_pos hnot]
      exact .refused h .subFunctionNotSupported rfl
    · have hmem := (mem_resetTypes_iff _).mpr htype
      rw [if_neg htype, if_neg (by decide), if_neg (not_not_intro hmem)]
      exact ⟨{ h with session := rfl, cfg := rfl, security := rfl }, rfl⟩

/-! ## Reading identifiers -/

theorem get_didItems (reg : UdsDidRegistry) (did : UInt16) :
    Dict.get (reg.map didItem) did.toNat = (didFind reg did).map fun e => (didItem e).2 := by
  have hkey : (fun e => decide ((didItem e).1 = did.toNat)) = fun e => decide (e.didId = did) := by
    funext e
    simp only [didItem, UInt16.toNat_inj]
  unfold Dict.get didFind
  rw [List.find?_map, Option.map_map]
  change ((reg.find? fun e => decide ((didItem e).1 = did.toNat)).map _) = _
  rw [hkey]
  rfl

theorem toNat_didOf (hi lo : UInt8) :
    (hi.toNat <<< 8) ||| lo.toNat = ((hi.toUInt16 <<< 8) ||| lo.toUInt16).toNat := by
  rw [toNat_did, shl_or _ _ 8 lo.toNat_lt]

theorem didBytes_didOf (hi lo : UInt8) :
    didBytes ((hi.toUInt16 <<< 8) ||| lo.toUInt16) = [hi, lo] := by
  rw [didBytes, did_high, did_low]

theorem bytes_didOf (hi lo : UInt8) :
    [UInt8.ofNat (((hi.toNat <<< 8) ||| lo.toNat) >>> 8),
      UInt8.ofNat (((hi.toNat <<< 8) ||| lo.toNat) &&& 0xFF)] = [hi, lo] := by
  have hlo := lo.toNat_lt
  have hhigh : UInt8.ofNat (((hi.toNat <<< 8) ||| lo.toNat) >>> 8) = hi := by
    apply UInt8.toNat_inj.mp
    have hhi := hi.toNat_lt
    rw [shl_or _ _ 8 hlo, shr_8, UInt8.toNat_ofNat']
    omega
  have hlow : UInt8.ofNat (((hi.toNat <<< 8) ||| lo.toNat) &&& 0xFF) = lo := by
    apply UInt8.toNat_inj.mp
    rw [shl_or _ _ 8 hlo, and_FF, UInt8.toNat_ofNat']
    omega
  rw [hhigh, hlow]

/-- The Python loop appends the records of the C side if every identifier is
registered. -/
theorem readDidLoop_eq (reg : UdsDidRegistry) (bytes result : List UInt8) :
    readDidLoop (reg.map didItem) bytes result =
      if ∀ did ∈ didListOf bytes, Registered reg did then
        some (result ++ (didListOf bytes).flatMap (didRecord (didData reg)))
      else none := by
  induction bytes using didListOf.induct generalizing result with
  | case1 hi lo rest ih =>
      unfold readDidLoop didListOf
      simp only [List.forall_mem_cons, List.flatMap_cons]
      rw [toNat_didOf, get_didItems, ← toNat_didOf, bytes_didOf]
      cases hfind : didFind reg ((hi.toUInt16 <<< 8) ||| lo.toUInt16) with
      | none =>
          have hnot : ¬Registered reg ((hi.toUInt16 <<< 8) ||| lo.toUInt16) := by
            rw [Registered, hfind]
            simp
          rw [if_neg fun h => hnot h.1]
          rfl
      | some entry =>
          have hreg : Registered reg ((hi.toUInt16 <<< 8) ||| lo.toUInt16) := by
            rw [Registered, hfind]
            rfl
          simp only [Option.map_some, didItem]
          rw [ih, didRecord, didBytes_didOf, didData_of_find hfind]
          by_cases hrest : ∀ did ∈ didListOf rest, Registered reg did
          · rw [if_pos hrest, if_pos ⟨hreg, hrest⟩]
            simp only [List.append_assoc]
          · rw [if_neg hrest, if_neg fun h => hrest h.2]
  | case2 bytes hshort =>
      cases bytes with
      | nil => simp [readDidLoop, didListOf]
      | cons hi bytes =>
          cases bytes with
          | nil => simp [readDidLoop, didListOf]
          | cons lo rest => exact absurd rfl (hshort hi lo rest)

theorem readDidLoop_answered {reg : UdsDidRegistry} {respSize : Nat} {dids : List UInt16}
    {resp : List UInt8} (hanswer : Answers (Core.readDidLoop reg respSize dids resp)) :
    Core.readDidLoop reg respSize dids resp =
      if ∀ did ∈ dids, Registered reg did then
        .ok (resp ++ dids.flatMap (didRecord (didData reg)))
      else .error (.errNrc .requestOutOfRange) := by
  induction dids generalizing resp with
  | nil =>
      rw [if_pos fun did hdid => absurd hdid List.not_mem_nil, List.flatMap_nil, List.append_nil]
      rfl
  | cons did dids ih =>
      unfold Core.readDidLoop at hanswer ⊢
      simp only [List.forall_mem_cons, List.flatMap_cons]
      cases hfind : didFind reg did with
      | none =>
          have hnot : ¬Registered reg did := by
            rw [Registered, hfind]
            simp
          rw [if_neg fun h => hnot h.1]
      | some entry =>
          have hdid : Registered reg did := by
            rw [Registered, hfind]
            rfl
          simp only [hfind] at hanswer ⊢
          by_cases hroom : resp.length + (2 + entry.data.length) > respSize
          · rw [if_pos hroom] at hanswer
            exact hanswer.elim
          · rw [if_neg hroom] at hanswer ⊢
            rw [ih hanswer, didRecord, didBytes, didData_of_find hfind]
            by_cases hrest : ∀ did ∈ dids, Registered reg did
            · rw [if_pos hrest, if_pos ⟨hdid, hrest⟩]
              simp only [List.append_assoc]
            · rw [if_neg hrest, if_neg fun h => hrest h.2]

/-- More identifiers than the C simulator reads, all of them registered. -/
def TooManyDids (sim : EcuSimulator) (req : List UInt8) : Prop :=
  req.head? = some 0x22 ∧ (req.length - 1) % 2 = 0 ∧ (req.length - 1) / 2 > 16 ∧
    ∀ did ∈ didListOf (req.drop 1), Registered sim.didReg did

/-- The response to identifiers that are looked up, on both sides. -/
def readDidResponse (reg : UdsDidRegistry) (didBytes : List UInt8) : List UInt8 :=
  if ∀ did ∈ didListOf didBytes, Registered reg did then
    0x62 :: (didListOf didBytes).flatMap (didRecord (didData reg))
  else nrc 0x22 nrcRequestOutOfRange

theorem reply_readDid (hinv : SimInv sim) (hlen : 3 ≤ req.length)
    (hfew : (req.length - 1) / 2 ≤ 16) :
    sent (reply 0x22 (udsSvcReadDid sim.didReg (didListOf (req.drop 1)) ecusimMaxPdu)) =
      some (readDidResponse sim.didReg (req.drop 1)) := by
  have hdids : (didListOf (req.drop 1)).length = (req.length - 1) / 2 := by
    rw [length_didListOf, List.length_drop]
  have hanswer : Answers
      (Core.readDidLoop sim.didReg ecusimMaxPdu (didListOf (req.drop 1)) [0x62]) := by
    apply answers_readDidLoop sim.didReg hinv.didData _ _ (List.cons_ne_nil _ _)
    unfold didDataSize ecusimMaxPdu
    rw [hdids, List.length_singleton]
    omega
  unfold udsSvcReadDid readDidResponse
  rw [if_neg (by omega), if_neg (by decide), readDidLoop_answered hanswer]
  by_cases hall : ∀ did ∈ didListOf (req.drop 1), Registered sim.didReg did
  · rw [if_pos hall, if_pos hall, reply, List.singleton_append, sent_cons]
  · rw [if_neg hall, if_neg hall, sent_reply_error]
    rfl

/-- The Python side looks up any number of identifiers. -/
theorem svcReadDid_eq (h : Mirrors sim ecu)
    (hlen : ¬(req.length < 3 ∨ (req.length - 1) % 2 ≠ 0)) :
    svcReadDid ecu req = (ecu, some (readDidResponse sim.didReg (req.drop 1))) := by
  unfold svcReadDid readDidResponse
  rw [if_neg hlen, h.dids, readDidLoop_eq]
  by_cases hall : ∀ did ∈ didListOf (req.drop 1), Registered sim.didReg did
  · rw [if_pos hall, if_pos hall]
    rfl
  · rw [if_neg hall, if_neg hall]

theorem agree_readDid (h : Mirrors sim ecu) (hinv : SimInv sim) (hhead : req.head? = some 0x22)
    (hfew : ¬TooManyDids sim req) :
    Agree .readDataByIdentifier (serve sim env req ecusimMaxPdu .readDataByIdentifier)
      (svcReadDid ecu req) := by
  by_cases hlen : req.length < 3 ∨ (req.length - 1) % 2 ≠ 0
  · simp only [serve, svcReadDid]
    rw [if_pos hlen, if_pos hlen]
    exact .refused h .incorrectMsgLenOrFormat rfl
  · rw [svcReadDid_eq req h hlen]
    simp only [serve]
    rw [if_neg hlen]
    by_cases hmany : (req.length - 1) / 2 > 16
    · rw [if_pos hmany]
      apply Agree.refused h .requestOutOfRange
      apply if_neg
      intro hall
      exact hfew ⟨hhead, Decidable.of_not_not (not_or.mp hlen).2, hmany, hall⟩
    · rw [if_neg hmany]
      exact ⟨h, (reply_readDid req hinv (by omega) (by omega)).symm⟩

theorem differ_readDid (h : Mirrors sim ecu) (hmany : TooManyDids sim req) :
    (svcReadDid ecu req).2 ≠
      sent (reply 0x22 (serve sim env req ecusimMaxPdu .readDataByIdentifier).2) := by
  obtain ⟨-, heven, hcount, hall⟩ := hmany
  have hlen : ¬(req.length < 3 ∨ (req.length - 1) % 2 ≠ 0) := by omega
  rw [svcReadDid_eq req h hlen]
  simp only [serve]
  rw [if_neg hlen, if_pos hcount, sent_reply_error, readDidResponse, if_pos hall]
  simp [nrc]

/-! ## Writing an identifier -/

/-- A write to the VIN in a session in which it can be written. -/
def ProtectedWrite (sim : EcuSimulator) (req : List UInt8) : Prop :=
  req.head? = some 0x2E ∧ 4 ≤ req.length ∧ writtenDid req = 0xF190 ∧
    0x03 ≤ sim.session.type.code

theorem find_shape (h : Mirrors sim ecu) (did : UInt16) :
    (didFind sim.didReg did).map didShape = (didFind Ecusim.defaultDids did).map didShape := by
  have hmap (reg : UdsDidRegistry) :
      (didFind reg did).map didShape = didFind (reg.map didShape) did := by
    unfold didFind
    rw [List.find?_map]
    rfl
  rw [hmap, hmap, h.shape]

theorem vin_of_requiresSecurity (h : Mirrors sim ecu) {did : UInt16} {entry : UdsDidEntry}
    (hfind : didFind sim.didReg did = some entry) (hsec : entry.requiresSecurity = true) :
    did = 0xF190 ∧ entry.minWriteSession = 0x03 := by
  have hshape := find_shape h did
  rw [hfind] at hshape
  cases hdefault : didFind Ecusim.defaultDids did with
  | none => simp [hdefault] at hshape
  | some entry₀ =>
      rw [hdefault] at hshape
      have heq : didShape entry = didShape entry₀ := Option.some.inj hshape
      have hsec₀ : entry₀.requiresSecurity = true :=
        (congrArg UdsDidEntry.requiresSecurity heq).symm.trans hsec
      have hvin : ∀ e ∈ Ecusim.defaultDids, e.requiresSecurity = true →
          e.didId = 0xF190 ∧ e.minWriteSession = 0x03 := by decide
      obtain ⟨hid, hmin⟩ := hvin entry₀ (mem_of_didFind hdefault) hsec₀
      have hdid : entry₀.didId = did := by simpa using List.find?_some hdefault
      exact ⟨hdid.symm.trans hid, (congrArg UdsDidEntry.minWriteSession heq).trans hmin⟩

theorem find_vin (h : Mirrors sim ecu) :
    ∃ entry, didFind sim.didReg 0xF190 = some entry ∧ entry.writable = true ∧
      entry.minWriteSession = 0x03 ∧ entry.requiresSecurity = true := by
  have hshape := find_shape h 0xF190
  cases hfind : didFind sim.didReg 0xF190 with
  | none =>
      rw [hfind] at hshape
      cases hshape
  | some entry =>
      rw [hfind] at hshape
      have heq := Option.some.inj hshape
      exact ⟨entry, rfl, congrArg UdsDidEntry.writable heq,
        congrArg UdsDidEntry.minWriteSession heq, congrArg UdsDidEntry.requiresSecurity heq⟩

theorem set_didItems {reg : UdsDidRegistry} {did : UInt16} {entry : UdsDidEntry}
    (hfind : didFind reg did = some entry) (data : List UInt8) :
    Dict.set (reg.map didItem) did.toNat { (didItem entry).2 with data := data } =
      (didStore data did reg).map didItem := by
  induction reg with
  | nil => cases hfind
  | cons e reg ih =>
      unfold didStore Dict.set
      simp only [List.map_cons]
      by_cases hid : e.didId = did
      · have hsame : didFind (e :: reg) did = some e := List.find?_cons_of_pos (by simpa using hid)
        obtain rfl := Option.some.inj (hsame.symm.trans hfind)
        have hkey : e.didId.toNat = did.toNat := congrArg UInt16.toNat hid
        rw [if_pos hid]
        exact if_pos hkey
      · have hskip : didFind (e :: reg) did = didFind reg did :=
          List.find?_cons_of_neg (by simpa using hid)
        have hkey : ¬e.didId.toNat = did.toNat := fun heq => hid (UInt16.toNat_inj.mp heq)
        rw [if_neg hid, List.map_cons, ← ih (hskip.symm.trans hfind)]
        exact if_neg hkey

theorem map_didShape_didStore {reg : UdsDidRegistry} {did : UInt16} {entry : UdsDidEntry}
    {data : List UInt8} (hfind : didFind reg did = some entry)
    (hlen : data.length = entry.data.length) :
    (didStore data did reg).map didShape = reg.map didShape := by
  induction reg with
  | nil => rfl
  | cons e reg ih =>
      unfold didStore
      by_cases hid : e.didId = did
      · have hsame : didFind (e :: reg) did = some e := List.find?_cons_of_pos (by simpa using hid)
        obtain rfl := Option.some.inj (hsame.symm.trans hfind)
        rw [if_pos hid, List.map_cons, List.map_cons]
        unfold didShape
        rw [hlen]
      · have hskip : didFind (e :: reg) did = didFind reg did :=
          List.find?_cons_of_neg (by simpa using hid)
        rw [if_neg hid, List.map_cons, List.map_cons, ih (hskip.symm.trans hfind)]

theorem locked_of_mirrors (h : Mirrors sim ecu) :
    udsCoreSecIsUnlocked sim.security 0x01 = false := by
  rw [h.security]
  rfl

theorem session_lt_iff (h : Mirrors sim ecu) (min : UInt8) :
    ecu.session < min.toNat ↔ sim.session.type.code < min := by
  rw [h.session, UInt8.lt_iff_toNat_lt]

theorem get_writtenDid (h : Mirrors sim ecu) :
    ecu.dids.get (((req.getD 1 0).toNat <<< 8) ||| (req.getD 2 0).toNat) =
      (didFind sim.didReg (writtenDid req)).map fun e => (didItem e).2 := by
  rw [toNat_didOf, h.dids]
  exact get_didItems sim.didReg (writtenDid req)

theorem svcWriteDid_found (h : Mirrors sim ecu) (hlen : ¬req.length < 4) {entry : UdsDidEntry}
    (hfind : didFind sim.didReg (writtenDid req) = some entry) :
    svcWriteDid ecu req =
      if !entry.writable then (ecu, some (nrc 0x2E nrcRequestOutOfRange))
      else if sim.session.type.code < entry.minWriteSession then
        (ecu, some (nrc 0x2E nrcRequestOutOfRange))
      else if (req.drop 3).length ≠ entry.data.length then
        (ecu, some (nrc 0x2E nrcIncorrectMsgLen))
      else
        ({ ecu with
            dids := (didStore (req.drop 3) (writtenDid req) sim.didReg).map didItem },
          some [0x6E, req.getD 1 0, req.getD 2 0]) := by
  have hset := set_didItems hfind (req.drop 3)
  have hkey := toNat_didOf (req.getD 1 0) (req.getD 2 0)
  unfold svcWriteDid
  simp only [get_writtenDid req h, hfind, Option.map_some]
  rw [if_neg hlen, ← hset, ← h.dids, hkey]
  simp only [didItem, session_lt_iff h]
  rfl

theorem secured_open (h : Mirrors sim ecu) (hhead : req.head? = some 0x2E)
    (hlen : ¬req.length < 4) (hvin : ¬ProtectedWrite sim req) {entry : UdsDidEntry}
    (hfind : didFind sim.didReg (writtenDid req) = some entry)
    (hsession : ¬sim.session.type.code < entry.minWriteSession) :
    ¬(entry.requiresSecurity && !udsCoreSecIsUnlocked sim.security 0x01) = true := by
  intro hsec
  obtain ⟨hid, hmin⟩ := vin_of_requiresSecurity h hfind (Bool.and_eq_true_iff.mp hsec).1
  rw [hmin] at hsession
  exact hvin ⟨hhead, Nat.not_lt.mp hlen, hid, UInt8.not_lt.mp hsession⟩

theorem agree_writeDid (h : Mirrors sim ecu) (hhead : req.head? = some 0x2E)
    (hvin : ¬ProtectedWrite sim req) :
    Agree .writeDataByIdentifier (serve sim env req ecusimMaxPdu .writeDataByIdentifier)
      (svcWriteDid ecu req) := by
  by_cases hlen : req.length < 4
  · simp only [serve, svcWriteDid]
    rw [if_pos hlen, if_pos hlen]
    exact .refused h .incorrectMsgLenOrFormat rfl
  · simp only [serve]
    rw [if_neg hlen]
    change Agree .writeDataByIdentifier
      ({ sim with didReg := (udsSvcWriteDid sim.didReg (writtenDid req) (req.drop 3)
        sim.session.type.code (udsCoreSecIsUnlocked sim.security 0x01) ecusimMaxPdu).1 },
        (udsSvcWriteDid sim.didReg (writtenDid req) (req.drop 3)
          sim.session.type.code (udsCoreSecIsUnlocked sim.security 0x01) ecusimMaxPdu).2) _
    unfold udsSvcWriteDid
    cases hfind : didFind sim.didReg (writtenDid req) with
    | none =>
        have hnone : svcWriteDid ecu req = (ecu, some (nrc 0x2E nrcRequestOutOfRange)) := by
          unfold svcWriteDid
          simp only [get_writtenDid req h, hfind, Option.map_none]
          exact if_neg hlen
        rw [hnone]
        exact .refused h .requestOutOfRange rfl
    | some entry =>
        rw [svcWriteDid_found req h hlen hfind]
        simp only
        by_cases hwritable : (!entry.writable) = true
        · rw [if_pos hwritable, if_pos hwritable]
          exact .refused h .requestOutOfRange rfl
        · rw [if_neg hwritable, if_neg hwritable]
          by_cases hsession : sim.session.type.code < entry.minWriteSession
          · rw [if_pos hsession, if_pos hsession]
            exact .refused h .requestOutOfRange rfl
          · have hopen := secured_open req h hhead hlen hvin hfind hsession
            rw [if_neg hsession, if_neg hsession, if_neg hopen]
            by_cases hdata : (req.drop 3).length ≠ entry.data.length
            · rw [if_pos hdata, if_pos hdata]
              exact .refused h .incorrectMsgLenOrFormat rfl
            · have hshape := map_didShape_didStore hfind (Decidable.of_not_not hdata)
              have hhigh : (writtenDid req >>> 8).toUInt8 = req.getD 1 0 := did_high ..
              have hlow : (writtenDid req &&& 0xFF).toUInt8 = req.getD 2 0 := did_low ..
              rw [if_neg hdata, if_neg hdata, if_neg (by decide), hhigh, hlow]
              exact ⟨{ h with dids := rfl, shape := hshape.trans h.shape }, rfl⟩

theorem differ_writeDid (h : Mirrors sim ecu) (hvin : ProtectedWrite sim req) :
    (svcWriteDid ecu req).2 ≠
      sent (reply 0x2E (serve sim env req ecusimMaxPdu .writeDataByIdentifier).2) := by
  obtain ⟨-, hlen, hid, hsession⟩ := hvin
  obtain ⟨entry, hfind, hwritable, hmin, hsec⟩ := find_vin h
  have hshort : ¬req.length < 4 := by omega
  have hlow : ¬sim.session.type.code < entry.minWriteSession := by
    rw [hmin]
    exact UInt8.not_lt.mpr hsession
  rw [← hid] at hfind
  have hrefused : (serve sim env req ecusimMaxPdu .writeDataByIdentifier).2 =
      .error (.errNrc .securityAccessDenied) := by
    simp only [serve]
    rw [if_neg hshort]
    change (udsSvcWriteDid sim.didReg (writtenDid req) (req.drop 3) sim.session.type.code
      (udsCoreSecIsUnlocked sim.security 0x01) ecusimMaxPdu).2 = _
    unfold udsSvcWriteDid
    rw [hfind, locked_of_mirrors h]
    simp only [hwritable, hsec, if_neg hlow]
    rfl
  rw [svcWriteDid_found req h hshort hfind, hrefused, sent_reply_error,
    if_neg (by simp [hwritable]), if_neg hlow]
  split
  · intro heq
    have hcode : (0x13 : UInt8) = 0x33 := congrArg (fun r => (r.getD []).getD 2 0) heq
    exact absurd hcode (by decide)
  · intro heq
    have hcode : (0x6E : UInt8) = 0x7F := congrArg (fun r => (r.getD []).getD 0 0) heq
    exact absurd hcode (by decide)

/-! ## Trouble codes -/

theorem groupByte_eq_iff (a b : UInt32) :
    groupByte a.toNat = groupByte b.toNat ↔ dtcGroup a = dtcGroup b := by
  have hbyte (code : UInt32) : groupByte code.toNat = (dtcGroup code).toNat := by
    unfold groupByte dtcGroup
    rw [shr_16, and_FF, toNat_dtcByte]
    rfl
  rw [hbyte, hbyte, UInt8.toNat_inj]

theorem toNat_groupOf (a b c : UInt8) :
    ((a.toNat <<< 16) ||| (b.toNat <<< 8)) ||| c.toNat =
      ((a.toUInt32 <<< 16) ||| (b.toUInt32 <<< 8) ||| c.toUInt32).toNat := by
  have ha := a.toNat_lt
  have hb := b.toNat_lt
  have hhigh : (a.toUInt32 <<< 16).toNat = a.toNat <<< 16 := by
    rw [UInt32.toNat_shiftLeft, UInt8.toNat_toUInt32, show (16 : UInt32).toNat % 32 = 16 from rfl]
    apply Nat.mod_eq_of_lt
    rw [Nat.shiftLeft_eq]
    omega
  have hmid : (b.toUInt32 <<< 8).toNat = b.toNat <<< 8 := by
    rw [UInt32.toNat_shiftLeft, UInt8.toNat_toUInt32, show (8 : UInt32).toNat % 32 = 8 from rfl]
    apply Nat.mod_eq_of_lt
    rw [Nat.shiftLeft_eq]
    omega
  rw [UInt32.toNat_or, UInt32.toNat_or, hhigh, hmid, UInt8.toNat_toUInt32]

theorem dtcRecord_dtcItem (e : UdsDtcEntry) : dtcRecord (dtcItem e) = Core.dtcRecord e := by
  have hhigh : UInt8.ofNat ((e.dtcCode.toNat >>> 16) &&& 0xFF) =
      ((e.dtcCode >>> 16) &&& 0xFF).toUInt8 := by
    apply UInt8.toNat_inj.mp
    rw [toNat_dtcByte, and_FF, shr_16, UInt8.toNat_ofNat']
    exact Nat.mod_mod _ _
  have hmid : UInt8.ofNat ((e.dtcCode.toNat >>> 8) &&& 0xFF) =
      ((e.dtcCode >>> 8) &&& 0xFF).toUInt8 := by
    apply UInt8.toNat_inj.mp
    rw [toNat_dtcByte, and_FF, shr_8, UInt8.toNat_ofNat']
    exact Nat.mod_mod _ _
  have hlow : UInt8.ofNat (e.dtcCode.toNat &&& 0xFF) = (e.dtcCode &&& 0xFF).toUInt8 := by
    apply UInt8.toNat_inj.mp
    rw [toNat_dtcByte_low, and_FF, UInt8.toNat_ofNat']
    exact Nat.mod_mod _ _
  unfold dtcRecord dtcItem Core.dtcRecord
  rw [hhigh, hmid, hlow]

theorem any_dtcItems (reg : UdsDtcRegistry) (group : UInt32) :
    ((reg.map dtcItem).any fun p => groupByte p.1 = groupByte group.toNat) =
      reg.any fun e => dtcGroup e.dtcCode = dtcGroup group := by
  rw [List.any_map]
  congr 1
  funext e
  simp only [Function.comp, dtcItem, groupByte_eq_iff]

theorem map_clear_dtcItems (reg : UdsDtcRegistry) (group : UInt32) :
    ((reg.map dtcItem).map fun p =>
        if groupByte p.1 = groupByte group.toNat then (p.1, 0x00) else p) =
      (reg.map fun e => if dtcGroup e.dtcCode = dtcGroup group then e.clear else e).map
        dtcItem := by
  rw [List.map_map, List.map_map]
  apply List.map_congr_left
  intro e _
  simp only [Function.comp, dtcItem, groupByte_eq_iff]
  split <;> rfl

theorem agree_clearDtc (h : Mirrors sim ecu) :
    Agree .clearDiagnosticInformation
      (serve sim env req ecusimMaxPdu .clearDiagnosticInformation) (svcClearDtc ecu req) := by
  simp only [serve, svcClearDtc]
  by_cases hlen : req.length < 4
  · rw [if_pos hlen, if_pos hlen]
    exact .refused h .incorrectMsgLenOrFormat rfl
  · rw [if_neg hlen, if_neg hlen, toNat_groupOf]
    generalize ((req.getD 1 0).toUInt32 <<< 16) ||| ((req.getD 2 0).toUInt32 <<< 8) |||
      (req.getD 3 0).toUInt32 = group
    unfold udsSvcClearDtc
    rw [if_neg (by decide)]
    by_cases hall : group = 0xFFFFFF
    · subst hall
      simp only [decide_true, Bool.true_or, if_true, Bool.not_true, Bool.false_and,
        Bool.false_eq_true, if_false]
      refine ⟨{ h with dtcs := ?_ }, rfl⟩
      simp only [h.dtcs, List.map_map]
      rfl
    · have hnat : ¬group.toNat = 0xFFFFFF := fun heq => hall (UInt32.toNat_inj.mp heq)
      have hclear : Mirrors
          { sim with
            dtcReg := sim.dtcReg.map fun e =>
              if dtcGroup e.dtcCode = dtcGroup group then e.clear else e }
          { ecu with
            dtcs := ecu.dtcs.map fun p =>
              if groupByte p.1 = groupByte group.toNat then (p.1, 0x00) else p } := by
        refine { h with dtcs := ?_ }
        simp only [h.dtcs, map_clear_dtcItems]
      have hmatched : (ecu.dtcs.any fun p => groupByte p.1 = groupByte group.toNat) =
          sim.dtcReg.any fun e => dtcGroup e.dtcCode = dtcGroup group := by
        rw [h.dtcs, any_dtcItems]
      simp only [if_neg hnat, hall, decide_false, Bool.false_or, Bool.not_false, Bool.true_and,
        decide_eq_true_eq, hmatched]
      by_cases hfound : (!sim.dtcReg.any fun e => dtcGroup e.dtcCode = dtcGroup group) = true
      · rw [if_pos hfound, if_pos hfound]
        exact .refused hclear .requestOutOfRange rfl
      · rw [if_neg hfound, if_neg hfound]
        exact ⟨hclear, rfl⟩

theorem filter_dtcItems (reg : UdsDtcRegistry) (mask : UInt8) :
    ((reg.map dtcItem).filter fun p => p.2 &&& mask ≠ 0) = (matchingDtcs reg mask).map dtcItem := by
  unfold matchingDtcs
  rw [List.filter_map]
  rfl

theorem count_dtcItems (reg : UdsDtcRegistry) (mask : UInt8) :
    (Dict.values (reg.map dtcItem)).countP (fun s => s &&& mask ≠ 0) =
      (matchingDtcs reg mask).length := by
  unfold Dict.values matchingDtcs
  rw [List.map_map, List.countP_map, List.countP_eq_length_filter]
  rfl

theorem flatMap_dtcItems (reg : UdsDtcRegistry) :
    (reg.map dtcItem).flatMap dtcRecord = reg.flatMap Core.dtcRecord := by
  rw [List.flatMap_map, funext dtcRecord_dtcItem]

theorem drop_two (hlen : ¬req.length < 3) : req.drop 2 = req.getD 2 0 :: req.drop 3 := by
  match req, hlen with
  | [], hlen => simp at hlen
  | [_], hlen => simp at hlen
  | [_, _], hlen => simp at hlen
  | _ :: _ :: _ :: _, _ => rfl

section ReadDtc

variable (h : Mirrors sim ecu) (hinv : SimInv sim) (hshort : ¬req.length < 2)
include h hinv hshort

theorem agree_readDtc_count (h01 : req.getD 1 0 = 0x01) :
    Agree .readDtcInformation (serve sim env req ecusimMaxPdu .readDtcInformation)
      (svcReadDtc ecu req) := by
  have hreg := hinv.dtcs
  unfold ecusimMaxDtcs at hreg
  simp only [serve, svcReadDtc]
  rw [if_neg hshort, if_neg hshort, if_pos h01]
  by_cases hlen : req.length < 3
  · rw [if_pos ⟨Or.inl h01, hlen⟩, if_pos hlen]
    exact .refused h .incorrectMsgLenOrFormat rfl
  · have hcount := udsSvcReadDtc_count sim.dtcReg (req.getD 2 0) (req.drop 3) ecusimMaxPdu
      (by omega) (by decide)
    rw [if_neg fun hbad => hlen hbad.2, if_neg hlen, h01, drop_two req hlen, hcount]
    refine ⟨h, ?_⟩
    simp only [h.dtcs, count_dtcItems, shr_8, and_FF]
    rfl

theorem agree_readDtc_byStatus (h02 : req.getD 1 0 = 0x02) :
    Agree .readDtcInformation (serve sim env req ecusimMaxPdu .readDtcInformation)
      (svcReadDtc ecu req) := by
  have hreg := hinv.dtcs
  have h01 : ¬req.getD 1 0 = 0x01 := by
    rw [h02]
    decide
  unfold ecusimMaxDtcs at hreg
  simp only [serve, svcReadDtc]
  rw [if_neg hshort, if_neg hshort, if_neg h01, if_pos h02]
  by_cases hlen : req.length < 3
  · rw [if_pos ⟨Or.inr h02, hlen⟩, if_pos hlen]
    exact .refused h .incorrectMsgLenOrFormat rfl
  · have hbyStatus := udsSvcReadDtc_byStatus sim.dtcReg (req.getD 2 0) (req.drop 3) ecusimMaxPdu
    have hmatching := length_matchingDtcs_le sim.dtcReg (req.getD 2 0)
    rw [if_pos (by unfold ecusimMaxPdu; omega)] at hbyStatus
    rw [if_neg fun hbad => hlen hbad.2, if_neg hlen, h02, drop_two req hlen, hbyStatus]
    refine ⟨h, ?_⟩
    simp only [h.dtcs]
    rw [filter_dtcItems, flatMap_dtcItems]
    rfl

theorem agree_readDtc_other (h01 : ¬req.getD 1 0 = 0x01) (h02 : ¬req.getD 1 0 = 0x02) :
    Agree .readDtcInformation (serve sim env req ecusimMaxPdu .readDtcInformation)
      (svcReadDtc ecu req) := by
  have hreg := hinv.dtcs
  have hneither : ¬((req.getD 1 0 = 0x01 ∨ req.getD 1 0 = 0x02) ∧ req.length < 3) :=
    fun hbad => hbad.1.elim h01 h02
  unfold ecusimMaxDtcs at hreg
  simp only [serve, svcReadDtc]
  rw [if_neg hshort, if_neg hshort, if_neg h01, if_neg h02, if_neg hneither]
  by_cases h0A : req.getD 1 0 = 0x0A
  · have hsupported := udsSvcReadDtc_supported sim.dtcReg ecusimMaxPdu (req.drop 2)
    rw [if_pos (by unfold ecusimMaxPdu; omega)] at hsupported
    rw [if_pos h0A, h0A, hsupported]
    refine ⟨h, ?_⟩
    simp only [h.dtcs]
    rw [flatMap_dtcItems]
    rfl
  · have hnrc : udsSvcReadDtc sim.dtcReg (req.getD 1 0) (req.drop 2) ecusimMaxPdu =
        .error (.errNrc .subFunctionNotSupported) := by
      unfold udsSvcReadDtc
      simp only [h01, h02, h0A, if_false]
    rw [if_neg h0A, hnrc]
    exact .refused h .subFunctionNotSupported rfl

end ReadDtc

theorem agree_readDtc (h : Mirrors sim ecu) (hinv : SimInv sim) :
    Agree .readDtcInformation (serve sim env req ecusimMaxPdu .readDtcInformation)
      (svcReadDtc ecu req) := by
  by_cases hshort : req.length < 2
  · simp only [serve, svcReadDtc]
    rw [if_pos hshort, if_pos hshort]
    exact .refused h .incorrectMsgLenOrFormat rfl
  · by_cases h01 : req.getD 1 0 = 0x01
    · exact agree_readDtc_count env req h hinv hshort h01
    · by_cases h02 : req.getD 1 0 = 0x02
      · exact agree_readDtc_byStatus env req h hinv hshort h02
      · exact agree_readDtc_other env req h hinv hshort h01 h02

end Services

/-! ## Runs -/

/-- The services that the two simulators are compared on. -/
def commonServices : List Service :=
  [.diagnosticSessionControl, .testerPresent, .readDataByIdentifier, .writeDataByIdentifier,
    .ecuReset, .clearDiagnosticInformation, .readDtcInformation]

/-- One request, with what either simulator draws from its surroundings. -/
structure CommonInput where
  env : Env
  draws : Draws
  req : List UInt8

def CommonInput.Common (i : CommonInput) : Prop :=
  ∃ svc ∈ commonServices, i.req.head? = some svc.sid

/-- One request to the C simulator and what it sends. -/
def cStep (sim : EcuSimulator) (i : CommonInput) : EcuSimulator × Option (List UInt8) :=
  ((ecusimDispatch sim i.env i.req ecusimMaxPdu).1,
    sent (ecusimDispatch sim i.env i.req ecusimMaxPdu).2)

/-- One request to the Python simulator and what it sends. -/
def pyStep (ecu : EcuState) (i : CommonInput) : EcuState × Option (List UInt8) :=
  dispatch ecu i.draws i.req

/-- The requests on which the simulators differ. -/
def Differs (sim : EcuSimulator) (req : List UInt8) : Prop :=
  TooManyDids sim req ∨ ProtectedWrite sim req

/-- One request: the responses are the same unless the request is one of those,
and if it is not, the states mirror each other afterwards. -/
structure StepAgrees (sim : EcuSimulator) (ecu : EcuState) (i : CommonInput) : Prop where
  response : (pyStep ecu i).2 = (cStep sim i).2 ↔ ¬Differs sim i.req
  mirrors : ¬Differs sim i.req → Mirrors (cStep sim i).1 (pyStep ecu i).1

section Runs

variable {sim : EcuSimulator} {ecu : EcuState} {i : CommonInput}

theorem cStep_of_head {svc : Service} (h : i.req.head? = some svc.sid) :
    cStep sim i = ((serve sim i.env i.req ecusimMaxPdu svc).1,
      sent (reply svc.sid (serve sim i.env i.req ecusimMaxPdu svc).2)) := by
  have hstep := ecusimStep_of_head sim (i := ⟨i.env, i.req⟩) h
  unfold ecusimStep at hstep
  unfold cStep
  rw [hstep]

theorem StepAgrees.of_agree {svc : Service} (hhead : i.req.head? = some svc.sid)
    (hsame : ¬Differs sim i.req)
    (hagree : Agree svc (serve sim i.env i.req ecusimMaxPdu svc) (pyStep ecu i)) :
    StepAgrees sim ecu i := by
  have hstep : cStep sim i = _ := cStep_of_head hhead
  constructor
  · rw [hstep]
    exact ⟨fun _ => hsame, fun _ => hagree.response⟩
  · intro _
    rw [hstep]
    exact hagree.mirrors

theorem not_differs {svc : Service} (hhead : i.req.head? = some svc.sid)
    (h22 : svc ≠ .readDataByIdentifier) (h2E : svc ≠ .writeDataByIdentifier) :
    ¬Differs sim i.req := by
  rintro (hmany | hvin)
  · exact h22 (sid_injective (Option.some.inj (hhead.symm.trans hmany.1)))
  · exact h2E (sid_injective (Option.some.inj (hhead.symm.trans hvin.1)))

theorem pyStep_of_head {svc : Service} (handler : List UInt8 → EcuState × Option (List UInt8))
    (hhead : i.req.head? = some svc.sid)
    (hhandler : ∀ args, dispatch ecu i.draws (svc.sid :: args) = handler (svc.sid :: args)) :
    pyStep ecu i = handler i.req := by
  obtain ⟨args, hreq⟩ := List.head?_eq_some_iff.mp hhead
  unfold pyStep
  rw [hreq, hhandler]

theorem stepAgrees_readDid (h : Mirrors sim ecu) (hinv : SimInv sim)
    (hhead : i.req.head? = some Service.readDataByIdentifier.sid) : StepAgrees sim ecu i := by
  have hpy := pyStep_of_head (svcReadDid ecu) hhead fun _ => rfl
  by_cases hmany : TooManyDids sim i.req
  · have hdiffers : Differs sim i.req := Or.inl hmany
    constructor
    · rw [hpy, cStep_of_head hhead]
      exact ⟨fun heq => absurd heq (differ_readDid i.env i.req h hmany),
        fun hsame => absurd hdiffers hsame⟩
    · exact fun hsame => absurd hdiffers hsame
  · have hsame : ¬Differs sim i.req := by
      rintro (hmany' | hvin)
      · exact hmany hmany'
      · exact absurd (hhead.symm.trans hvin.1) (by decide)
    apply StepAgrees.of_agree hhead hsame
    rw [hpy]
    exact agree_readDid i.env i.req h hinv hhead hmany

theorem stepAgrees_writeDid (h : Mirrors sim ecu)
    (hhead : i.req.head? = some Service.writeDataByIdentifier.sid) : StepAgrees sim ecu i := by
  have hpy := pyStep_of_head (svcWriteDid ecu) hhead fun _ => rfl
  by_cases hvin : ProtectedWrite sim i.req
  · have hdiffers : Differs sim i.req := Or.inr hvin
    constructor
    · rw [hpy, cStep_of_head hhead]
      exact ⟨fun heq => absurd heq (differ_writeDid i.env i.req h hvin),
        fun hsame => absurd hdiffers hsame⟩
    · exact fun hsame => absurd hdiffers hsame
  · have hsame : ¬Differs sim i.req := by
      rintro (hmany | hvin')
      · exact absurd (hhead.symm.trans hmany.1) (by decide)
      · exact hvin hvin'
    apply StepAgrees.of_agree hhead hsame
    rw [hpy]
    exact agree_writeDid i.env i.req h hhead hvin

theorem stepAgrees (h : Mirrors sim ecu) (hinv : SimInv sim) (hcommon : i.Common) :
    StepAgrees sim ecu i := by
  obtain ⟨svc, hsvc, hhead⟩ := hcommon
  have halways (h22 : svc ≠ .readDataByIdentifier) (h2E : svc ≠ .writeDataByIdentifier)
      (hagree : Agree svc (serve sim i.env i.req ecusimMaxPdu svc) (pyStep ecu i)) :
      StepAgrees sim ecu i := .of_agree hhead (not_differs hhead h22 h2E) hagree
  unfold commonServices at hsvc
  simp only [List.mem_cons, List.not_mem_nil, or_false] at hsvc
  rcases hsvc with rfl | rfl | rfl | rfl | rfl | rfl | rfl
  · apply halways (by decide) (by decide)
    rw [pyStep_of_head (svcDsc ecu i.draws) hhead fun _ => rfl]
    exact agree_dsc i.env i.draws i.req h
  · apply halways (by decide) (by decide)
    rw [pyStep_of_head (svcTesterPresent ecu i.draws) hhead fun _ => rfl]
    exact agree_testerPresent i.env i.draws i.req h
  · exact stepAgrees_readDid h hinv hhead
  · exact stepAgrees_writeDid h hhead
  · apply halways (by decide) (by decide)
    rw [pyStep_of_head (svcEcuReset ecu) hhead fun _ => rfl]
    exact agree_ecuReset i.env i.req h
  · apply halways (by decide) (by decide)
    rw [pyStep_of_head (svcClearDtc ecu) hhead fun _ => rfl]
    exact agree_clearDtc i.env i.req h
  · apply halways (by decide) (by decide)
    rw [pyStep_of_head (svcReadDtc ecu) hhead fun _ => rfl]
    exact agree_readDtc i.env i.req h hinv

theorem simInv_cStep (hinv : SimInv sim) (i : CommonInput) : SimInv (cStep sim i).1 :=
  hinv.step ⟨i.env, i.req⟩

theorem responses_eq_iff_of_mirrors {inputs : List CommonInput} (h : Mirrors sim ecu)
    (hinv : SimInv sim) (hcommon : ∀ i ∈ inputs, i.Common) :
    (turnsFrom pyStep ecu inputs).map Turn.output = (turnsFrom cStep sim inputs).map Turn.output ↔
      ∀ x ∈ turnsFrom cStep sim inputs, ¬Differs x.pre x.input.req := by
  induction inputs generalizing sim ecu with
  | nil => simp [turnsFrom]
  | cons i inputs ih =>
      obtain ⟨hhead, hrest⟩ := List.forall_mem_cons.mp hcommon
      have hstep := stepAgrees h hinv hhead
      simp only [turnsFrom, List.map_cons, List.cons_eq_cons, List.forall_mem_cons]
      constructor
      · intro heq
        have hsame := hstep.response.mp heq.1
        exact ⟨hsame, (ih (hstep.mirrors hsame) (simInv_cStep hinv i) hrest).mp heq.2⟩
      · intro hall
        have hsame : ¬Differs sim i.req := hall.1
        exact ⟨hstep.response.mpr hsame,
          (ih (hstep.mirrors hsame) (simInv_cStep hinv i) hrest).mpr hall.2⟩

/-- Started side by side, the two simulators send the same responses exactly when
the sequence of requests has no read of more than 16 registered identifiers and
no write to the VIN in a session that permits it. -/
theorem simulators_agree_iff (ecuId : UInt8) (now : Timespec) (monotonic : Rat)
    (inputs : List CommonInput) (hcommon : ∀ i ∈ inputs, i.Common) :
    (turnsFrom pyStep (EcuState.init monotonic) inputs).map Turn.output =
        (turnsFrom cStep (ecusimInit ecuId now) inputs).map Turn.output ↔
      ∀ x ∈ turnsFrom cStep (ecusimInit ecuId now) inputs,
        ¬TooManyDids x.pre x.input.req ∧ ¬ProtectedWrite x.pre x.input.req := by
  rw [responses_eq_iff_of_mirrors (mirrors_init ecuId now monotonic) (SimInv.init ecuId now)
    hcommon]
  simp only [Differs, not_or]

end Runs

/-- Extended session, then a write to the VIN. -/
def writeVin : List CommonInput :=
  [[0x10, 0x03], [0x2E, 0xF1, 0x90] ++ List.replicate 17 0x41].map fun req =>
    ⟨⟨fun _ => Timespec.zero, fun _ => 0⟩, ⟨0, Vector.replicate 4 0⟩, req⟩

theorem simulators_agree_iff_writeVin :
    (turnsFrom pyStep (EcuState.init 0) writeVin).map Turn.output =
        (turnsFrom cStep (ecusimInit 1 Timespec.zero) writeVin).map Turn.output ↔
      ∀ x ∈ turnsFrom cStep (ecusimInit 1 Timespec.zero) writeVin,
        ¬TooManyDids x.pre x.input.req ∧ ¬ProtectedWrite x.pre x.input.req := by
  apply simulators_agree_iff
  unfold writeVin
  simp only [List.map_cons, List.map_nil, List.forall_mem_cons]
  refine ⟨⟨.diagnosticSessionControl, by decide, rfl⟩,
    ⟨.writeDataByIdentifier, by decide, rfl⟩, fun _ h => absurd h List.not_mem_nil⟩

/-- The C simulator asks for security access, the Python one stores the VIN. -/
theorem simulators_differ :
    ((turnsFrom cStep (ecusimInit 1 Timespec.zero) writeVin).map Turn.output).getLast? =
        some (some [0x7F, 0x2E, 0x33]) ∧
      ((turnsFrom pyStep (EcuState.init 0) writeVin).map Turn.output).getLast? =
        some (some [0x6E, 0xF1, 0x90]) :=
  ⟨rfl, rfl⟩

end Uds.PyEcu
