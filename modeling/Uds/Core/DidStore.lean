import Mathlib.Algebra.Ring.Nat
import Mathlib.Data.List.Pairwise
import Uds.Base.History
import Uds.Base.Machine
import Uds.Base.Memory
import Uds.Core.Data
/-!
# The DID registry as a store

What a read returns in closed form, and the two services on memory: the table of
entries points to buffers, a write copies into one and a read copies out of them.
If the buffers are disjoint, the memory of a table is a registry, and a read
returns what was written last.
-/

namespace Uds.Core

open Uds.Base

/-! ## Closed form of a read -/

/-- The two bytes of an identifier. -/
def didBytes (did : UInt16) : List UInt8 := [(did >>> 8).toUInt8, (did &&& 0xFF).toUInt8]

/-- The record of a listed identifier, for the data that `value` gives it. -/
def didRecord (value : UInt16 → List UInt8) (did : UInt16) : List UInt8 :=
  didBytes did ++ value did

/-- The data of the first entry with the identifier. -/
def didData (reg : UdsDidRegistry) (did : UInt16) : List UInt8 :=
  match didFind reg did with
  | some entry => entry.data
  | none => []

def Registered (reg : UdsDidRegistry) (did : UInt16) : Prop := (didFind reg did).isSome

instance (reg : UdsDidRegistry) (did : UInt16) : Decidable (Registered reg did) :=
  inferInstanceAs (Decidable (_ = true))

/-- One lookup for each identifier of the list. -/
instance (reg : UdsDidRegistry) (dids : List UInt16) :
    Decidable (∀ did ∈ dids, Registered reg did) :=
  List.decidableBAll _ _

section Reading

variable {reg : UdsDidRegistry} {respSize : Nat} {dids : List UInt16}

theorem length_didRecord (value : UInt16 → List UInt8) (did : UInt16) :
    (didRecord value did).length = 2 + (value did).length := by
  unfold didRecord didBytes
  rw [List.length_append]
  rfl

theorem didData_of_find {did : UInt16} {entry : UdsDidEntry} (h : didFind reg did = some entry) :
    didData reg did = entry.data := by
  unfold didData
  rw [h]

/-- A loop that ends has found every identifier and appended its record. -/
theorem readDidLoop_ok {resp out : List UInt8} (h : readDidLoop reg respSize dids resp = .ok out) :
    (∀ did ∈ dids, Registered reg did) ∧
      out = resp ++ dids.flatMap (didRecord (didData reg)) := by
  induction dids generalizing resp with
  | nil =>
      refine ⟨fun did hdid => absurd hdid List.not_mem_nil, ?_⟩
      rw [List.flatMap_nil, List.append_nil]
      exact (Except.ok.inj h).symm
  | cons did dids ih =>
      unfold readDidLoop at h
      cases hfind : didFind reg did with
      | none => simp [hfind] at h
      | some entry =>
          simp only [hfind] at h
          by_cases hroom : resp.length + (2 + entry.data.length) > respSize
          · simp [hroom] at h
          · rw [if_neg hroom] at h
            obtain ⟨hrest, hout⟩ := ih h
            have hdid : Registered reg did := by
              rw [Registered, hfind]
              rfl
            constructor
            · exact List.forall_mem_cons.mpr ⟨hdid, hrest⟩
            · rw [hout, List.flatMap_cons, didRecord, didData_of_find hfind, didBytes]
              simp only [List.append_assoc]

/-- The loop appends the records if they fit. -/
theorem readDidLoop_registered (resp : List UInt8) (hdids : ∀ did ∈ dids, Registered reg did)
    (hfits : resp.length + (dids.flatMap (didRecord (didData reg))).length ≤ respSize) :
    readDidLoop reg respSize dids resp =
      .ok (resp ++ dids.flatMap (didRecord (didData reg))) := by
  induction dids generalizing resp with
  | nil =>
      rw [List.flatMap_nil, List.append_nil]
      rfl
  | cons did dids ih =>
      obtain ⟨hdid, hrest⟩ := List.forall_mem_cons.mp hdids
      obtain ⟨entry, hfind⟩ := Option.isSome_iff_exists.mp hdid
      have hdata := didData_of_find hfind
      have hlen := length_didRecord (didData reg) did
      rw [List.flatMap_cons] at hfits ⊢
      rw [List.length_append] at hfits
      have hroom : ¬resp.length + (2 + entry.data.length) > respSize := by
        rw [← hdata]
        omega
      have hnext := ih (resp ++ didRecord (didData reg) did) hrest (by
        rw [List.length_append]
        omega)
      unfold readDidLoop
      simp only [hfind]
      rw [if_neg hroom, ← List.append_assoc, ← hnext, ← hdata, List.append_assoc]
      rfl

/-- A read that succeeds returns the records in the order of the request. -/
theorem udsSvcReadDid_ok {resp : List UInt8} (h : udsSvcReadDid reg dids respSize = .ok resp) :
    dids ≠ [] ∧ (∀ did ∈ dids, Registered reg did) ∧
      resp = 0x62 :: dids.flatMap (didRecord (didData reg)) := by
  unfold udsSvcReadDid at h
  by_cases hempty : dids.length = 0
  · simp [hempty] at h
  · rw [if_neg hempty] at h
    by_cases hsize : respSize < 1
    · simp [hsize] at h
    · rw [if_neg hsize] at h
      refine ⟨?_, readDidLoop_ok h⟩
      intro hnil
      rw [hnil] at hempty
      exact hempty rfl

/-- A read of a non-empty list whose response fits succeeds exactly when every
identifier is registered. -/
theorem udsSvcReadDid_isOk_iff (hne : dids ≠ [])
    (hfits : 1 + (dids.flatMap (didRecord (didData reg))).length ≤ respSize) :
    (∃ resp, udsSvcReadDid reg dids respSize = .ok resp) ↔ ∀ did ∈ dids, Registered reg did := by
  constructor
  · intro h
    obtain ⟨resp, hresp⟩ := h
    exact (udsSvcReadDid_ok hresp).2.1
  · intro h
    have hlen : ¬dids.length = 0 := fun h => hne (List.length_eq_zero_iff.mp h)
    have hsize : ¬respSize < 1 := by omega
    unfold udsSvcReadDid
    rw [if_neg hlen, if_neg hsize]
    exact ⟨_, readDidLoop_registered [0x62] h hfits⟩

end Reading

theorem didData_didStore {reg : UdsDidRegistry} {did : UInt16} {data : List UInt8}
    (h : Registered reg did) (did' : UInt16) :
    didData (didStore data did reg) did' = if did' = did then data else didData reg did' := by
  induction reg with
  | nil => cases h
  | cons e reg ih =>
      unfold didStore
      by_cases hid : e.didId = did
      · rw [if_pos hid]
        by_cases heq : did' = did
        · rw [if_pos heq]
          have hfind : didFind ({ e with data := data } :: reg) did' =
              some { e with data := data } :=
            List.find?_cons_of_pos (by simp [hid, heq])
          exact didData_of_find hfind
        · have hne : ¬e.didId = did' := fun h => heq (h.symm.trans hid)
          rw [if_neg heq]
          unfold didData didFind
          rw [List.find?_cons_of_neg (by simpa using hne),
            List.find?_cons_of_neg (by simpa using hne)]
      · rw [if_neg hid]
        have hreg : Registered reg did := by
          unfold Registered didFind at h ⊢
          rwa [List.find?_cons_of_neg (by simpa using hid)] at h
        have hrest := ih hreg
        by_cases hhead : e.didId = did'
        · have hne : ¬did' = did := fun h => hid (hhead.trans h)
          rw [if_neg hne]
          unfold didData didFind
          rw [List.find?_cons_of_pos (by simpa using hhead),
            List.find?_cons_of_pos (by simpa using hhead)]
        · unfold didData didFind at hrest ⊢
          rw [List.find?_cons_of_neg (by simpa using hhead),
            List.find?_cons_of_neg (by simpa using hhead)]
          exact hrest

/-! ## The services on memory -/

/-- An entry as the source has it, with a pointer to its buffer. -/
structure DidSlot where
  didId : UInt16
  data : Nat
  dataLen : Nat
  writable : Bool
  minSession : UInt8
  minWriteSession : UInt8
  requiresSecurity : Bool
  deriving DecidableEq

abbrev DidTable := List DidSlot

namespace DidTable

def find (table : DidTable) (didId : UInt16) : Option DidSlot :=
  table.find? fun e => e.didId = didId

/-- The loop of `uds_svc_read_did`, with `memcpy` out of the buffers. -/
def readLoop (table : DidTable) (m : Mem UInt8) (respSize : Nat) :
    List UInt16 → List UInt8 → Response
  | [], resp => .ok resp
  | did :: didList, resp =>
    match table.find did with
    | none => .error (.errNrc .requestOutOfRange)
    | some entry =>
      if resp.length + (2 + entry.dataLen) > respSize then .error .errBuf
      else
        readLoop table m respSize didList
          (resp ++ [(did >>> 8).toUInt8, (did &&& 0xFF).toUInt8] ++
            m.load entry.data entry.dataLen)

def readDid (table : DidTable) (m : Mem UInt8) (didList : List UInt16) (respSize : Nat) :
    Response :=
  if didList.length = 0 then .error .errParam
  else if respSize < 1 then .error .errBuf
  else table.readLoop m respSize didList [0x62]

/-- `uds_svc_write_did`, with `memcpy` into the buffer. -/
def writeDid (table : DidTable) (m : Mem UInt8) (didId : UInt16) (data : List UInt8)
    (sessionType : UInt8) (securityUnlocked : Bool) (respSize : Nat) : Mem UInt8 × Response :=
  match table.find didId with
  | none => (m, .error (.errNrc .requestOutOfRange))
  | some entry =>
    if !entry.writable then (m, .error (.errNrc .requestOutOfRange))
    else if sessionType < entry.minWriteSession then (m, .error (.errNrc .requestOutOfRange))
    else if entry.requiresSecurity && !securityUnlocked then
      (m, .error (.errNrc .securityAccessDenied))
    else if data.length ≠ entry.dataLen then (m, .error (.errNrc .incorrectMsgLenOrFormat))
    else if respSize < 3 then (m, .error .errBuf)
    else
      (m.store entry.data data,
        .ok [0x6E, (didId >>> 8).toUInt8, (didId &&& 0xFF).toUInt8])

end DidTable

/-! ## The memory of a table is a registry -/

def DidSlot.entry (m : Mem UInt8) (e : DidSlot) : UdsDidEntry where
  didId := e.didId
  data := m.load e.data e.dataLen
  writable := e.writable
  minSession := e.minSession
  minWriteSession := e.minWriteSession
  requiresSecurity := e.requiresSecurity

/-- The buffers of two entries share no byte. -/
def DidSlot.Disjoint (e e' : DidSlot) : Prop :=
  e.data + e.dataLen ≤ e'.data ∨ e'.data + e'.dataLen ≤ e.data

namespace DidTable

def registry (table : DidTable) (m : Mem UInt8) : UdsDidRegistry :=
  table.map fun e => e.entry m

/-- The buffers are pairwise disjoint. -/
def Disjoint (table : DidTable) : Prop := List.Pairwise DidSlot.Disjoint table

variable {table : DidTable} {m : Mem UInt8} {did : UInt16} {entry : DidSlot}

theorem didFind_registry (table : DidTable) (m : Mem UInt8) (did : UInt16) :
    didFind (table.registry m) did = (table.find did).map fun e => e.entry m := by
  unfold didFind registry find
  rw [List.find?_map]
  rfl

theorem readDid_eq (table : DidTable) (m : Mem UInt8) (dids : List UInt16) (respSize : Nat) :
    table.readDid m dids respSize = udsSvcReadDid (table.registry m) dids respSize := by
  have hloop (dids : List UInt16) (resp : List UInt8) :
      table.readLoop m respSize dids resp =
        readDidLoop (table.registry m) respSize dids resp := by
    induction dids generalizing resp with
    | nil => rfl
    | cons did dids ih =>
        unfold readLoop readDidLoop
        rw [didFind_registry]
        cases table.find did with
        | none => rfl
        | some entry =>
            simp only [Option.map_some, DidSlot.entry, Mem.length_load]
            rw [ih]
  unfold readDid udsSvcReadDid
  rw [hloop]

theorem load_store_other {e e' : DidSlot} {data : List UInt8} (h : e.Disjoint e')
    (hlen : data.length = e'.dataLen) :
    (m.store e'.data data).load e.data e.dataLen = m.load e.data e.dataLen := by
  rcases h with hbelow | habove
  · exact m.load_store_below _ _ _ _ hbelow
  · exact m.load_store_above _ _ _ _ (by omega)

theorem registry_store {data : List UInt8} (hdisj : table.Disjoint)
    (hfind : table.find did = some entry) (hlen : data.length = entry.dataLen) :
    table.registry (m.store entry.data data) = didStore data did (table.registry m) := by
  induction table with
  | nil => cases hfind
  | cons e table ih =>
      obtain ⟨hothers, hrest⟩ := List.pairwise_cons.mp hdisj
      have hcons (m : Mem UInt8) :
          registry (e :: table) m = e.entry m :: registry table m := List.map_cons
      rw [hcons, hcons]
      by_cases hid : e.didId = did
      · have hfound : find (e :: table) did = some e := List.find?_cons_of_pos (by simpa using hid)
        obtain rfl := Option.some.inj (hfound.symm.trans hfind)
        have hhead : e.entry (m.store e.data data) = { e.entry m with data := data } := by
          unfold DidSlot.entry
          rw [← hlen, Mem.load_store]
        have htail : registry table (m.store e.data data) = registry table m := by
          apply List.map_congr_left
          intro e' he'
          unfold DidSlot.entry
          rw [load_store_other (hothers e' he').symm hlen]
        rw [hhead, htail]
        exact (if_pos hid).symm
      · have hskip : find (e :: table) did = find table did :=
          List.find?_cons_of_neg (by simpa using hid)
        rw [hskip] at hfind
        have hmem : entry ∈ table := List.mem_of_find?_eq_some hfind
        have hhead : e.entry (m.store entry.data data) = e.entry m := by
          unfold DidSlot.entry
          rw [load_store_other (hothers entry hmem) hlen]
        rw [hhead, ih hrest hfind]
        exact (if_neg hid).symm

/-- Where the buffers are disjoint, a write to memory is a write to the registry. -/
theorem writeDid_eq (hdisj : table.Disjoint) (data : List UInt8) (sessionType : UInt8)
    (securityUnlocked : Bool) (respSize : Nat) :
    (table.registry (table.writeDid m did data sessionType securityUnlocked respSize).1,
        (table.writeDid m did data sessionType securityUnlocked respSize).2) =
      udsSvcWriteDid (table.registry m) did data sessionType securityUnlocked respSize := by
  unfold writeDid udsSvcWriteDid
  rw [didFind_registry]
  cases hfind : table.find did with
  | none => rfl
  | some entry =>
      simp only [Option.map_some, DidSlot.entry, Mem.length_load]
      split_ifs with hwritable hsession hsecurity hlen hsize
      · rfl
      · rfl
      · rfl
      · rfl
      · rfl
      · rw [registry_store hdisj hfind (Decidable.of_not_not hlen)]

end DidTable

/-! ## Runs of calls -/

inductive DidCall where
  | write (didId : UInt16) (data : List UInt8) (sessionType : UInt8) (securityUnlocked : Bool)
      (respSize : Nat)
  | read (didList : List UInt16) (respSize : Nat)

def DidTable.step (table : DidTable) (m : Mem UInt8) : DidCall → Mem UInt8 × Response
  | .write didId data sessionType securityUnlocked respSize =>
    table.writeDid m didId data sessionType securityUnlocked respSize
  | .read didList respSize => (m, table.readDid m didList respSize)

abbrev DidTurn := Turn (Mem UInt8) DidCall Response

/-- The data of a turn that is an accepted write to `did`. -/
def writtenTo (did : UInt16) (x : DidTurn) : Option (List UInt8) :=
  match x.input, x.output with
  | .write didId data _ _ _, .ok _ => if didId = did then some data else none
  | _, _ => none

/-- The data of the last accepted write to `did`. -/
def lastWritten (did : UInt16) (h : List DidTurn) : Option (List UInt8) :=
  h.reverse.findSome? (writtenTo did)

theorem lastWritten_snoc (did : UInt16) (h : List DidTurn) (x : DidTurn) :
    lastWritten did (h ++ [x]) = (writtenTo did x).or (lastWritten did h) :=
  latest_snoc (writtenTo did) h x

/-- What was written to `did` last, or its content in the initial memory `m`. -/
def currentData (table : DidTable) (m : Mem UInt8) (h : List DidTurn) (did : UInt16) : List UInt8 :=
  (lastWritten did h).getD (didData (table.registry m) did)

/-- The checks that a write of `dataLen` bytes has to pass. -/
def DidSlot.Permits (entry : DidSlot) (dataLen : Nat) (sessionType : UInt8)
    (securityUnlocked : Bool) (respSize : Nat) : Prop :=
  entry.writable = true ∧ entry.minWriteSession ≤ sessionType ∧
    (entry.requiresSecurity = true → securityUnlocked = true) ∧ dataLen = entry.dataLen ∧
      3 ≤ respSize

/-- The length of the response to a read of registered identifiers. -/
def DidTable.responseLen (table : DidTable) (dids : List UInt16) : Nat :=
  1 + (dids.map fun did =>
    match table.find did with
    | some entry => 2 + entry.dataLen
    | none => 0).sum

/-- What a write does: it is accepted exactly when the first entry permits it;
then it stores the data in the buffer of that entry and nowhere else, and
otherwise it changes nothing. -/
structure WriteSpec (table : DidTable) (m m' : Mem UInt8) (didId : UInt16) (data : List UInt8)
    (sessionType : UInt8) (securityUnlocked : Bool) (respSize : Nat) (r : Response) : Prop where
  accepted : (∃ resp, r = .ok resp) ↔
    ∃ entry, table.find didId = some entry ∧
      entry.Permits data.length sessionType securityUnlocked respSize
  stored : ∀ resp entry, r = .ok resp → table.find didId = some entry →
    m'.load entry.data entry.dataLen = data
  frame : ∀ resp entry, r = .ok resp → table.find didId = some entry →
    ∀ i, i < entry.data ∨ entry.data + entry.dataLen ≤ i → m' i = m i
  refused : ∀ e, r = .error e → m' = m

/-- What a read does: where the response fits, it succeeds exactly when every
identifier is registered, and it returns their records, in the order of the
request, with the data that `value` gives them. -/
structure ReadSpec (table : DidTable) (value : UInt16 → List UInt8) (dids : List UInt16)
    (r : Response) : Prop where
  succeeds : (∃ resp, r = .ok resp) ↔ ∀ did ∈ dids, (table.find did).isSome
  returns : ∀ resp, r = .ok resp → resp = 0x62 :: dids.flatMap (didRecord value)

section Store

variable {table : DidTable} {m : Mem UInt8}

theorem DidTable.writeDid_cases (table : DidTable) (m : Mem UInt8) (didId : UInt16)
    (data : List UInt8) (sessionType : UInt8) (securityUnlocked : Bool) (respSize : Nat) :
    (∃ entry resp, table.find didId = some entry ∧
        entry.Permits data.length sessionType securityUnlocked respSize ∧
          table.writeDid m didId data sessionType securityUnlocked respSize =
            (m.store entry.data data, .ok resp)) ∨
      ((¬∃ entry, table.find didId = some entry ∧
          entry.Permits data.length sessionType securityUnlocked respSize) ∧
        ∃ e, table.writeDid m didId data sessionType securityUnlocked respSize =
          (m, .error e)) := by
  unfold DidTable.writeDid
  cases hfind : table.find didId with
  | none =>
      right
      refine ⟨?_, _, rfl⟩
      rintro ⟨entry, hentry, -⟩
      cases hentry
  | some entry =>
      simp only
      -- a check that fails refuses the write
      have hrefuse (hnot : ¬entry.Permits data.length sessionType securityUnlocked respSize) :
          ¬∃ entry', some entry = some entry' ∧
            entry'.Permits data.length sessionType securityUnlocked respSize := by
        rintro ⟨entry', hentry, hpermits⟩
        rw [← Option.some.inj hentry] at hpermits
        exact hnot hpermits
      split_ifs with hwritable hsession hsecurity hlen hsize
      · refine Or.inr ⟨hrefuse fun h => ?_, _, rfl⟩
        simp [h.1] at hwritable
      · exact Or.inr ⟨hrefuse fun h => UInt8.not_lt.mpr h.2.1 hsession, _, rfl⟩
      · refine Or.inr ⟨hrefuse fun h => ?_, _, rfl⟩
        obtain ⟨hreq, hlocked⟩ := Bool.and_eq_true_iff.mp hsecurity
        simp [h.2.2.1 hreq] at hlocked
      · exact Or.inr ⟨hrefuse fun h => hlen h.2.2.2.1, _, rfl⟩
      · exact Or.inr ⟨hrefuse fun h => absurd hsize (Nat.not_lt.mpr h.2.2.2.2), _, rfl⟩
      · refine Or.inl ⟨entry, _, rfl, ⟨by simpa using hwritable, UInt8.not_lt.mp hsession, ?_,
          Decidable.of_not_not hlen, Nat.not_lt.mp hsize⟩, rfl⟩
        intro hreq
        simpa [hreq] using hsecurity

theorem DidTable.writeDid_spec (table : DidTable) (m : Mem UInt8) (didId : UInt16)
    (data : List UInt8) (sessionType : UInt8) (securityUnlocked : Bool) (respSize : Nat) :
    WriteSpec table m (table.writeDid m didId data sessionType securityUnlocked respSize).1 didId
      data sessionType securityUnlocked respSize
      (table.writeDid m didId data sessionType securityUnlocked respSize).2 := by
  rcases table.writeDid_cases m didId data sessionType securityUnlocked respSize with
    ⟨entry, resp, hfind, hpermits, hwrite⟩ | ⟨hnot, e, hwrite⟩
  · have hlen : data.length = entry.dataLen := hpermits.2.2.2.1
    rw [hwrite]
    constructor
    · exact ⟨fun _ => ⟨entry, hfind, hpermits⟩, fun _ => ⟨resp, rfl⟩⟩
    · intro _ entry' _ hfind'
      obtain rfl := Option.some.inj (hfind.symm.trans hfind')
      rw [← hlen]
      exact m.load_store entry.data data
    · intro _ entry' _ hfind' i hi
      obtain rfl := Option.some.inj (hfind.symm.trans hfind')
      rcases hi with hbelow | habove
      · exact m.store_of_lt entry.data data hbelow
      · exact m.store_of_ge entry.data data (by omega)
    · intro e he
      cases he
  · rw [hwrite]
    constructor
    · constructor
      · rintro ⟨resp, hresp⟩
        cases hresp
      · intro h
        exact absurd h hnot
    · intro resp _ hresp
      cases hresp
    · intro resp _ hresp
      cases hresp
    · exact fun _ _ => rfl

theorem currentData_snoc (table : DidTable) (m : Mem UInt8) (h : List DidTurn) (x : DidTurn)
    (did : UInt16) :
    currentData table m (h ++ [x]) did = (writtenTo did x).getD (currentData table m h did) := by
  unfold currentData
  rw [lastWritten_snoc]
  cases writtenTo did x with
  | none => rfl
  | some data => rfl

theorem registered_registry (table : DidTable) (m : Mem UInt8) (did : UInt16) :
    Registered (table.registry m) did ↔ (table.find did).isSome := by
  unfold Registered
  rw [DidTable.didFind_registry, Option.isSome_map]

theorem didData_step (hdisj : table.Disjoint) (m : Mem UInt8) (c : DidCall) (did : UInt16) :
    didData (table.registry (table.step m c).1) did =
      (writtenTo did (turn table.step m c)).getD (didData (table.registry m) did) := by
  cases c with
  | read didList respSize => rfl
  | write didId data sessionType securityUnlocked respSize =>
      unfold turn DidTable.step writtenTo
      simp only
      rcases table.writeDid_cases m didId data sessionType securityUnlocked respSize with
        ⟨entry, resp, hfind, hpermits, hwrite⟩ | ⟨-, e, hwrite⟩
      · have hreg : Registered (table.registry m) didId := by
          rw [registered_registry, hfind]
          rfl
        rw [hwrite, DidTable.registry_store hdisj hfind hpermits.2.2.2.1, didData_didStore hreg]
        simp only
        by_cases hid : did = didId
        · rw [if_pos hid, if_pos hid.symm, Option.getD_some]
        · rw [if_neg hid, if_neg (Ne.symm hid), Option.getD_none]
      · rw [hwrite, Option.getD_none]

theorem registry_current (hdisj : table.Disjoint) (m : Mem UInt8) (calls : List DidCall) :
    didData (table.registry (runFrom table.step m calls)) =
      currentData table m (turnsFrom table.step m calls) := by
  funext did
  apply run_invariant table.step (C := fun _ => True)
    (fun h m' => didData (table.registry m') did = currentData table m h did)
  · rfl
  · intro h m' c hI _
    rw [currentData_snoc, ← hI]
    exact didData_step hdisj m' c did
  · exact fun _ _ => trivial

theorem length_records (table : DidTable) (m : Mem UInt8) {dids : List UInt16}
    (h : ∀ did ∈ dids, (table.find did).isSome) :
    1 + (dids.flatMap (didRecord (didData (table.registry m)))).length =
      table.responseLen dids := by
  unfold DidTable.responseLen
  congr 1
  rw [List.length_flatMap]
  congr 1
  apply List.map_congr_left
  intro did hdid
  obtain ⟨entry, hfind⟩ := Option.isSome_iff_exists.mp (h did hdid)
  have hentry : didFind (table.registry m) did = some (entry.entry m) := by
    rw [DidTable.didFind_registry, hfind]
    rfl
  rw [length_didRecord, didData_of_find hentry, hfind]
  simp only [DidSlot.entry, Mem.length_load]

theorem DidTable.readDid_spec (table : DidTable) (m : Mem UInt8) {dids : List UInt16}
    {respSize : Nat} (hne : dids ≠ []) (hfits : table.responseLen dids ≤ respSize) :
    ReadSpec table (didData (table.registry m)) dids (table.readDid m dids respSize) := by
  rw [DidTable.readDid_eq]
  constructor
  · constructor
    · intro h did hdid
      obtain ⟨resp, hresp⟩ := h
      exact (registered_registry table m did).mp ((udsSvcReadDid_ok hresp).2.1 did hdid)
    · intro h
      apply (udsSvcReadDid_isOk_iff hne _).mpr
      · intro did hdid
        exact (registered_registry table m did).mpr (h did hdid)
      · rw [length_records table m h]
        exact hfits
  · intro resp hresp
    exact (udsSvcReadDid_ok hresp).2.2

/-- In every run of reads and writes over disjoint buffers, each write is
accepted exactly when the first entry of its identifier permits it and then
changes just that buffer; each read of a non-empty list whose response fits
succeeds exactly when the identifiers are registered, and it returns what was
written to them last. -/
theorem didTable_correct (hdisj : table.Disjoint) (m : Mem UInt8) (calls : List DidCall)
    {h h' : List DidTurn} {x : DidTurn}
    (hturns : turnsFrom table.step m calls = h ++ x :: h') :
    (∀ didId data sessionType securityUnlocked respSize,
      x.input = .write didId data sessionType securityUnlocked respSize →
        WriteSpec table x.pre (table.step x.pre x.input).1 didId data sessionType
          securityUnlocked respSize x.output) ∧
      (∀ dids respSize, x.input = .read dids respSize → dids ≠ [] →
        table.responseLen dids ≤ respSize →
          ReadSpec table (currentData table m h) dids x.output) := by
  obtain ⟨before, c, after, -, rfl, rfl, -⟩ := turnsFrom_eq_append_cons table.step hturns
  constructor
  · intro didId data sessionType securityUnlocked respSize hinput
    obtain rfl : c = _ := hinput
    exact table.writeDid_spec _ didId data sessionType securityUnlocked respSize
  · intro dids respSize hinput hne hfits
    obtain rfl : c = _ := hinput
    rw [← registry_current hdisj m before]
    exact table.readDid_spec _ hne hfits

end Store

/-- Two entries with one identifier, of which the first is found. -/
def twoSlots : DidTable :=
  [⟨0x0101, 0, 2, true, 0x01, 0x03, false⟩, ⟨0x0101, 2, 1, true, 0x01, 0x01, false⟩]

/-- An accepted write and a refused one. -/
def twoWrites : List DidCall :=
  [.write 0x0101 [0x12, 0x34] 0x03 false 3, .write 0x0101 [0x56, 0x78] 0x01 false 3]

theorem didTable_correct_twoSlots :
    ReadSpec twoSlots
      (currentData twoSlots (fun _ => 0) (turnsFrom twoSlots.step (fun _ => 0) twoWrites)) [0x0101]
      (.ok [0x62, 0x01, 0x01, 0x12, 0x34]) := by
  have hdisj : twoSlots.Disjoint := by
    apply List.Pairwise.cons
    · intro e he
      rw [List.mem_singleton.mp he]
      exact Or.inl (Nat.le_refl 2)
    · exact List.pairwise_singleton ..
  have hturns : turnsFrom twoSlots.step (fun _ => 0) (twoWrites ++ [.read [0x0101] 5]) =
      turnsFrom twoSlots.step (fun _ => 0) twoWrites ++
        turn twoSlots.step (runFrom twoSlots.step (fun _ => 0) twoWrites) (.read [0x0101] 5) ::
          [] := rfl
  exact (didTable_correct hdisj (fun _ => 0) _ hturns).2 [0x0101] 5 rfl (by decide) (by decide)

/-- A read of no identifier is refused, although its response would fit and no
identifier is unregistered. -/
theorem didTable_emptyList :
    twoSlots.responseLen [] ≤ 4095 ∧ (∀ did ∈ ([] : List UInt16), (twoSlots.find did).isSome) ∧
      twoSlots.readDid (fun _ => 0) [] 4095 = .error .errParam :=
  ⟨by decide, fun _ h => absurd h List.not_mem_nil, rfl⟩

end Uds.Core
