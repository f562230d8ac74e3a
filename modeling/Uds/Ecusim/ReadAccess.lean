import Mathlib.Data.List.Basic
import Uds.Core.DidStore
import Uds.Ecusim.ResponseFormat
import Uds.Ecusim.Responses
/-!
# Read access to identifiers

Which requests for 0x22 are answered with data, and whether the session in which
they arrive may read it.  An entry carries `min_session` beside
`min_write_session`; `uds_svc_write_did` compares the latter with the session,
`uds_svc_read_did` compares neither.
-/

namespace Uds.Ecusim

open Uds.Base Uds.Core

/-- The records of a list of identifiers, as a positive response holds them. -/
def didRecords (reg : UdsDidRegistry) (dids : List UInt16) : List UInt8 :=
  dids.flatMap (didRecord (didData reg))

theorem didRecord_isInfix (reg : UdsDidRegistry) {did : UInt16} {dids : List UInt16}
    (h : did ∈ dids) : didRecord (didData reg) did <:+: didRecords reg dids := by
  obtain ⟨before, after, hdids⟩ := List.append_of_mem h
  refine ⟨didRecords reg before, didRecords reg after, ?_⟩
  unfold didRecords
  rw [hdids, List.flatMap_append, List.flatMap_cons, List.append_assoc]

/-- Everything that is checked before a request for 0x22 is answered with data. -/
structure ReadAnswered (sim : EcuSimulator) (req : List UInt8) (respSz : Nat) : Prop where
  service : req.head? = some Service.readDataByIdentifier.sid
  format : ¬(req.length < 3 ∨ (req.length - 1) % 2 ≠ 0)
  count : ¬(req.length - 1) / 2 > 16
  registered : ∀ did ∈ didListOf (req.drop 1), Registered sim.didReg did
  fits : 1 + (didRecords sim.didReg (didListOf (req.drop 1))).length ≤ respSz

/-- The positive response to a read that lists an identifier of `entry` holds the
record of `entry`. -/
def Discloses (sim : EcuSimulator) (env : Env) (req : List UInt8) (respSz : Nat)
    (entry : UdsDidEntry) : Prop :=
  req.head? = some Service.readDataByIdentifier.sid ∧
    (ecusimDispatch sim env req respSz).2.head? = some 0x62 ∧
      ∃ did ∈ didListOf (req.drop 1), didFind sim.didReg did = some entry ∧
        didBytes did ++ entry.data <:+: (ecusimDispatch sim env req respSz).2

/-- The current session may read the entry. -/
def Readable (sim : EcuSimulator) (entry : UdsDidEntry) : Prop :=
  entry.minSession ≤ sim.session.type.code

section Dispatch

variable {sim : EcuSimulator} {env : Env} {req : List UInt8} {respSz : Nat}

theorem didListOf_ne_nil (h : ¬(req.length < 3 ∨ (req.length - 1) % 2 ≠ 0)) :
    didListOf (req.drop 1) ≠ [] := by
  intro hnil
  have hlen := length_didListOf (req.drop 1)
  rw [hnil, List.length_nil, List.length_drop] at hlen
  omega

theorem udsSvcReadDid_fits {reg : UdsDidRegistry} {dids : List UInt16} {resp : List UInt8}
    (h : udsSvcReadDid reg dids respSz = .ok resp) : resp.length ≤ respSz := by
  cases dids with
  | nil => cases h
  | cons did dids =>
      have hsends := sends_readDid respSz reg did dids
      rw [h] at hsends
      exact hsends.2

theorem ReadAnswered.response (h : ReadAnswered sim req respSz) :
    (ecusimDispatch sim env req respSz).2 =
      0x62 :: didRecords sim.didReg (didListOf (req.drop 1)) := by
  have hne : ¬(didListOf (req.drop 1)).length = 0 := by
    intro hzero
    exact didListOf_ne_nil h.format (List.length_eq_zero_iff.mp hzero)
  have hsize : ¬respSz < 1 := by
    have hfits := h.fits
    omega
  have hloop := readDidLoop_registered [0x62] h.registered h.fits
  have hread : udsSvcReadDid sim.didReg (didListOf (req.drop 1)) respSz =
      .ok (0x62 :: didRecords sim.didReg (didListOf (req.drop 1))) := by
    unfold udsSvcReadDid
    rw [if_neg hne, if_neg hsize]
    exact hloop
  rw [ecusimDispatch_of_head sim env h.service]
  simp only [serve]
  rw [if_neg h.format, if_neg h.count, hread]
  rfl

theorem readAnswered_of_positive (hreq : req.head? = some Service.readDataByIdentifier.sid)
    (hpos : (ecusimDispatch sim env req respSz).2.head? = some 0x62) :
    ReadAnswered sim req respSz := by
  rw [ecusimDispatch_of_head sim env hreq] at hpos
  have hok := ok_of_reply hpos
  generalize reply _ _ = resp at hok
  simp only [serve] at hok
  by_cases hformat : req.length < 3 ∨ (req.length - 1) % 2 ≠ 0
  · rw [if_pos hformat] at hok
    cases hok
  · rw [if_neg hformat] at hok
    by_cases hcount : (req.length - 1) / 2 > 16
    · rw [if_pos hcount] at hok
      cases hok
    · rw [if_neg hcount] at hok
      obtain ⟨-, hregistered, hresp⟩ := udsSvcReadDid_ok hok
      have hroom : resp.length ≤ respSz := udsSvcReadDid_fits hok
      constructor
      · exact hreq
      · exact hformat
      · exact hcount
      · exact hregistered
      · rw [hresp, List.length_cons, Nat.add_comm] at hroom
        exact hroom

theorem discloses_iff (entry : UdsDidEntry) :
    Discloses sim env req respSz entry ↔
      ReadAnswered sim req respSz ∧
        ∃ did ∈ didListOf (req.drop 1), didFind sim.didReg did = some entry := by
  constructor
  · intro h
    obtain ⟨hreq, hpos, did, hdid, hfind, -⟩ := h
    exact ⟨readAnswered_of_positive hreq hpos, did, hdid, hfind⟩
  · intro h
    obtain ⟨hanswered, did, hdid, hfind⟩ := h
    have hresp : (ecusimDispatch sim env req respSz).2 = _ := hanswered.response
    refine ⟨hanswered.service, by rw [hresp]; rfl, did, hdid, hfind, ?_⟩
    have hinfix := didRecord_isInfix sim.didReg hdid
    rw [didRecord, didData_of_find hfind] at hinfix
    rw [hresp]
    exact hinfix.trans (List.suffix_cons _ _).isInfix

end Dispatch

/-- The session has read only what it may exactly when every entry listed in an
answered request is readable: nothing but the table keeps the others back. -/
theorem disclosed_readable_iff (sim : EcuSimulator) (env : Env) (req : List UInt8)
    (respSz : Nat) :
    (∀ entry, Discloses sim env req respSz entry → Readable sim entry) ↔
      (ReadAnswered sim req respSz →
        ∀ did ∈ didListOf (req.drop 1), ∀ entry, didFind sim.didReg did = some entry →
          Readable sim entry) := by
  constructor
  · intro h hanswered did hdid entry hfind
    apply h
    exact (discloses_iff entry).mpr ⟨hanswered, did, hdid, hfind⟩
  · intro h entry hdisclosed
    obtain ⟨hanswered, did, hdid, hfind⟩ := (discloses_iff entry).mp hdisclosed
    exact h hanswered did hdid entry hfind

/-- A part number that the table reserves for the extended session. -/
def reservedDid : UdsDidEntry where
  didId := 0xF187
  data := [0x41, 0x42]
  writable := false
  minSession := 0x03
  minWriteSession := 0x03
  requiresSecurity := false

/-- The default session reads the reserved part number. -/
theorem reservedDid_disclosed :
    ∃ (sim : EcuSimulator) (env : Env) (req : List UInt8),
      Discloses sim env req ecusimMaxPdu reservedDid ∧ ¬Readable sim reservedDid := by
  refine ⟨{ ecusimInit 0 ⟨0, 0⟩ with didReg := [reservedDid] }, ⟨fun _ => ⟨0, 0⟩, fun _ => 0⟩,
    [0x22, 0xF1, 0x87], ?_, ?_⟩
  · have hlist : didListOf [0xF1, 0x87] = [0xF187] := by decide
    have hregistered : ∀ did ∈ didListOf [0xF1, 0x87], Registered [reservedDid] did := by
      rw [hlist]
      exact List.forall_mem_singleton.mpr (by decide)
    have hmem : 0xF187 ∈ didListOf [0xF1, 0x87] := by
      rw [hlist]
      exact List.mem_singleton_self _
    apply (discloses_iff reservedDid).mpr
    constructor
    · exact ⟨rfl, by decide, by decide, hregistered, by decide⟩
    · exact ⟨0xF187, hmem, by decide⟩
  · unfold Readable
    decide

/-! ## What the table has to keep back -/

theorem didListOf_didBytes (did : UInt16) : didListOf (didBytes did) = [did] := by
  have hdid := did.toNat_lt
  have height : (8 : UInt16).toNat % 16 = 8 := rfl
  have hmask : (0xFF : UInt16).toNat = 0xFF := rfl
  have hhigh : (did >>> 8).toUInt8.toNat = did.toNat / 256 := by
    rw [UInt16.toNat_toUInt8, UInt16.toNat_shiftRight, height, shr_8]
    omega
  have hlow : (did &&& 0xFF).toUInt8.toNat = did.toNat % 256 := by
    rw [UInt16.toNat_toUInt8, UInt16.toNat_and, hmask, and_FF]
    omega
  have hvalue : ((did >>> 8).toUInt8.toUInt16 <<< 8) ||| (did &&& 0xFF).toUInt8.toUInt16 = did := by
    apply UInt16.toNat_inj.mp
    rw [toNat_did, hhigh, hlow]
    omega
  simp only [didBytes, didListOf, hvalue]

/-- In a given state no request reads what the session may not exactly when the table keeps
no entry from it that fits a response. -/
theorem disclosures_readable_iff (sim : EcuSimulator) (respSz : Nat) :
    (∀ env req entry, Discloses sim env req respSz entry → Readable sim entry) ↔
      ∀ did entry, didFind sim.didReg did = some entry → 3 + entry.data.length ≤ respSz →
        Readable sim entry := by
  constructor
  · intro h did entry hfind hfits
    have hlist : didListOf (didBytes did) = [did] := didListOf_didBytes did
    have hregistered : Registered sim.didReg did := by
      rw [Registered, hfind]
      rfl
    have hrecords : (didRecords sim.didReg [did]).length = 2 + entry.data.length := by
      rw [didRecords, List.flatMap_singleton, length_didRecord, didData_of_find hfind]
    have hanswered :
        ReadAnswered sim (Service.readDataByIdentifier.sid :: didBytes did) respSz := by
      refine ⟨rfl, by simp [didBytes], by simp [didBytes], ?_, ?_⟩
      · rw [List.drop_one, List.tail_cons, hlist]
        exact List.forall_mem_singleton.mpr hregistered
      · rw [List.drop_one, List.tail_cons, hlist, hrecords]
        omega
    apply h ⟨fun _ => .zero, fun _ => 0⟩ (Service.readDataByIdentifier.sid :: didBytes did)
    apply (discloses_iff entry).mpr
    refine ⟨hanswered, did, ?_, hfind⟩
    rw [List.drop_one, List.tail_cons, hlist]
    exact List.mem_singleton_self did
  · intro h env req entry hdisclosed
    obtain ⟨hanswered, did, hdid, hfind⟩ := (discloses_iff entry).mp hdisclosed
    apply h did entry hfind
    -- the record is a part of a response that fits
    have hlen := (didRecord_isInfix sim.didReg hdid).length_le
    have hfits := hanswered.fits
    rw [length_didRecord, didData_of_find hfind] at hlen
    omega

/-! ## The shipped table -/

/-- Every entry may be read in any session. -/
def ReadableByAll (sim : EcuSimulator) : Prop := ∀ e ∈ sim.didReg, e.minSession = 0x01

theorem ReadableByAll.serve {sim : EcuSimulator} (h : ReadableByAll sim) (env : Env)
    (req : List UInt8) (respSz : Nat) (svc : Service) :
    ReadableByAll (serve sim env req respSz svc).1 := by
  unfold ReadableByAll
  rcases serve_didReg_cases sim env req respSz svc with hsame | ⟨didId, data, -, -, -, hreg⟩
  · rw [hsame]
    exact h
  · rw [hreg]
    exact forall_didStore (fun _ he => he) h

theorem ReadableByAll.step {sim : EcuSimulator} (h : ReadableByAll sim) (i : Input) :
    ReadableByAll (ecusimStep sim i).1 := by
  rcases ecusimStep_cases sim i with ⟨svc, hreq⟩ | ⟨-, hsame⟩
  · rw [ecusimStep_of_head sim hreq]
    exact h.serve i.env i.req ecusimMaxPdu svc
  · rw [hsame]
    exact h

/-- From power-on no run reads what its session may not: the table of the simulator
reserves nothing. -/
theorem readable_of_reachable {ecuId : UInt8} {now : Timespec} {sim : EcuSimulator}
    (h : Reachable ecusimStep (ecusimInit ecuId now) sim) {env : Env} {req : List UInt8}
    {respSz : Nat} {entry : UdsDidEntry} (hdisclosed : Discloses sim env req respSz entry) :
    Readable sim entry := by
  have hall : ReadableByAll sim := by
    apply h.invariant ecusimStep ReadableByAll
    · change ∀ e ∈ defaultDids, e.minSession = 0x01
      decide
    · intro s i hs
      exact hs.step i
  obtain ⟨-, -, did, -, hfind, -⟩ := hdisclosed
  unfold Readable
  rw [hall entry (mem_of_didFind hfind)]
  cases sim.session.type <;> decide

end Uds.Ecusim
