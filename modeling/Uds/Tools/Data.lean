import Mathlib.Data.List.Infix
import Uds.Core.DidStore
import Uds.Tools.Client
/-!
# The Python data service

`UdsDidService.read` (`data.py`) and what it makes of the responses that
`uds_svc_read_did` builds.  The records carry no lengths: the client ends a record
where it finds the next identifier.
-/

namespace Uds.Tools

open Uds.Base Uds.Core

/-- A `dict[int, bytes]`. -/
abbrev DidDict := Nat → Option (List UInt8)

def DidDict.empty : DidDict := fun _ => none

def DidDict.set (result : DidDict) (did : Nat) (data : List UInt8) : DidDict := fun did' =>
  if did' = did then some data else result did'

/-- The search for the next identifier: the bytes before it, and it with the
bytes after it. -/
def splitAtDid (nextDid : Nat) : List UInt8 → List UInt8 × List UInt8
  | hi :: lo :: payload =>
    if (hi.toNat <<< 8) ||| lo.toNat = nextDid then ([], hi :: lo :: payload)
    else
      let found := splitAtDid nextDid (lo :: payload)
      (hi :: found.1, found.2)
  | payload => (payload, [])

/-- The loop over several identifiers; `payload` are the bytes from `idx` on. -/
def parseDidRecords : List Nat → List UInt8 → DidDict → DidDict
  | _ :: dids, hi :: lo :: payload, result =>
    let respDid := (hi.toNat <<< 8) ||| lo.toNat
    match dids with
    | [] => result.set respDid payload
    | nextDid :: _ =>
      let found := splitAtDid nextDid payload
      parseDidRecords dids found.2 (result.set respDid found.1)
  | _, _, result => result

/-- The identifiers of the request. -/
def didsToBytes {σ : Type} : List Nat → Py σ (List UInt8)
  | [] => pure []
  | did :: dids => do
    let didId ← toBytes did 2
    let rest ← didsToBytes dids
    pure (didId ++ rest)

/-- `UdsDidService.read`. -/
def readDids {σ : Type} (transport : Transport σ) (dids : List Nat) : Py σ DidDict := do
  let ids ← didsToBytes dids
  let response ← request transport (0x22 :: ids)
  if response.head? ≠ some 0x62 then
    Py.raise (.udsProtocolError ("Unexpected ReadDID response: " ++ hex response))
  else
    match dids, response.drop 1 with
    | [_], hi :: lo :: data => pure (DidDict.empty.set ((hi.toNat <<< 8) ||| lo.toNat) data)
    | [_], _ => pure DidDict.empty
    | _, payload => pure (parseDidRecords dids payload DidDict.empty)

/-! ## Identifiers as bytes -/

def didHigh (did : UInt16) : UInt8 := (did >>> 8).toUInt8
def didLow (did : UInt16) : UInt8 := (did &&& 0xFF).toUInt8

theorem toNat_didHigh (did : UInt16) : (didHigh did).toNat = did.toNat / 256 := by
  have hlt := did.toNat_lt
  have height : (8 : UInt16).toNat % 16 = 8 := rfl
  rw [didHigh, UInt16.toNat_toUInt8, UInt16.toNat_shiftRight, height, shr_8]
  omega

theorem toNat_didLow (did : UInt16) : (didLow did).toNat = did.toNat % 256 := by
  have hmask : (0xFF : UInt16).toNat = 0xFF := rfl
  rw [didLow, UInt16.toNat_toUInt8, UInt16.toNat_and, hmask, and_FF]
  omega

theorem shl_or_eq_did (hi lo : UInt8) (did : UInt16) :
    (hi.toNat <<< 8) ||| lo.toNat = did.toNat ↔ hi = didHigh did ∧ lo = didLow did := by
  have hlt := lo.toNat_lt
  have hhigh := toNat_didHigh did
  have hlow := toNat_didLow did
  rw [shl_or _ _ 8 hlt]
  constructor
  · intro h
    constructor
    · apply UInt8.toNat_inj.mp
      omega
    · apply UInt8.toNat_inj.mp
      omega
  · intro h
    rw [h.1, h.2, hhigh, hlow]
    omega

theorem shl_or_didBytes (did : UInt16) :
    ((didHigh did).toNat <<< 8) ||| (didLow did).toNat = did.toNat :=
  (shl_or_eq_did _ _ did).mpr ⟨rfl, rfl⟩

/-! ## Finding the end of a record -/

/-- The bytes of the next identifier also occur in the record before it; the
last byte of the record may be the first byte of the occurrence. -/
def Ambiguous (data : List UInt8) (nextDid : UInt16) : Prop :=
  [didHigh nextDid, didLow nextDid] <:+: data ++ [didHigh nextDid]

instance (data : List UInt8) (nextDid : UInt16) : Decidable (Ambiguous data nextDid) :=
  inferInstanceAs (Decidable (_ <:+: _))

theorem not_ambiguous_nil (nextDid : UInt16) : ¬Ambiguous [] nextDid := by
  intro h
  have hlen := h.length_le
  simp at hlen

theorem splitAtDid_append (nextDid : Nat) (payload : List UInt8) :
    (splitAtDid nextDid payload).1 ++ (splitAtDid nextDid payload).2 = payload := by
  induction payload with
  | nil => rfl
  | cons hi payload ih =>
      cases payload with
      | nil => rfl
      | cons lo payload =>
          unfold splitAtDid
          split
          · rfl
          · exact congrArg (hi :: ·) ih

theorem splitAtDid_rest (nextDid : UInt16) (payload : List UInt8) :
    (splitAtDid nextDid.toNat payload).2 = [] ∨
      ∃ rest, (splitAtDid nextDid.toNat payload).2 =
        didHigh nextDid :: didLow nextDid :: rest := by
  induction payload with
  | nil => exact Or.inl rfl
  | cons hi payload ih =>
      cases payload with
      | nil => exact Or.inl rfl
      | cons lo payload =>
          unfold splitAtDid
          by_cases hmatch : (hi.toNat <<< 8) ||| lo.toNat = nextDid.toNat
          · rw [if_pos hmatch]
            obtain ⟨rfl, rfl⟩ := (shl_or_eq_did hi lo nextDid).mp hmatch
            exact Or.inr ⟨payload, rfl⟩
          · rw [if_neg hmatch]
            exact ih

theorem splitAtDid_eq_iff (data rest : List UInt8) (nextDid : UInt16) :
    (splitAtDid nextDid.toNat (data ++ didHigh nextDid :: didLow nextDid :: rest)).1 = data ↔
      ¬Ambiguous data nextDid := by
  induction data with
  | nil =>
      have hstop :
          (splitAtDid nextDid.toNat (didHigh nextDid :: didLow nextDid :: rest)).1 = [] := by
        unfold splitAtDid
        rw [if_pos (shl_or_didBytes nextDid)]
      exact ⟨fun _ => not_ambiguous_nil nextDid, fun _ => hstop⟩
  | cons b data ih =>
      -- the byte after `b`, in the payload and in the record with the first byte of the next one
      obtain ⟨c, t, t', hpayload, hrecord⟩ : ∃ c t t',
          data ++ didHigh nextDid :: didLow nextDid :: rest = c :: t ∧
            data ++ [didHigh nextDid] = c :: t' := by
        cases data with
        | nil => exact ⟨_, _, _, rfl, rfl⟩
        | cons c data => exact ⟨c, _, _, rfl, rfl⟩
      have hprefix : [didHigh nextDid, didLow nextDid] <+: b :: c :: t' ↔
          b = didHigh nextDid ∧ c = didLow nextDid := by
        rw [List.cons_prefix_cons, List.cons_prefix_cons]
        exact ⟨fun h => ⟨h.1.symm, h.2.1.symm⟩, fun h => ⟨h.1.symm, h.2.symm, List.nil_prefix⟩⟩
      unfold Ambiguous at ih ⊢
      rw [List.cons_append, List.cons_append, hpayload, hrecord, List.infix_cons_iff, hprefix,
        ← hrecord]
      unfold splitAtDid
      by_cases hmatch : (b.toNat <<< 8) ||| c.toNat = nextDid.toNat
      · rw [if_pos hmatch]
        have hbytes := (shl_or_eq_did b c nextDid).mp hmatch
        constructor
        · intro h
          cases h
        · intro h
          exact absurd (Or.inl hbytes) h
      · rw [if_neg hmatch, ← hpayload]
        have hbytes := fun h => hmatch ((shl_or_eq_did b c nextDid).mpr h)
        constructor
        · intro h
          obtain ⟨-, hdata⟩ := List.cons_eq_cons.mp h
          exact not_or.mpr ⟨hbytes, ih.mp hdata⟩
        · intro h
          exact congrArg (b :: ·) (ih.mpr (not_or.mp h).2)

/-! ## Parsing several records -/

/-- The map from identifiers to their data. -/
def didMap (value : UInt16 → List UInt8) (dids : List UInt16) : DidDict := fun k =>
  (dids.find? fun did => did.toNat = k).map value

/-- No record but the last contains the identifier of the record behind it. -/
def Unambiguous (value : UInt16 → List UInt8) : List UInt16 → Prop
  | did :: next :: dids => ¬Ambiguous (value did) next ∧ Unambiguous value (next :: dids)
  | _ => True

instance decidableUnambiguous (value : UInt16 → List UInt8) :
    (dids : List UInt16) → Decidable (Unambiguous value dids)
  | [] => isTrue trivial
  | [_] => isTrue trivial
  | did :: next :: dids =>
    haveI := decidableUnambiguous value (next :: dids)
    inferInstanceAs (Decidable (¬Ambiguous (value did) next ∧ Unambiguous value (next :: dids)))

theorem DidDict.set_same (result : DidDict) (did : Nat) (data : List UInt8) :
    result.set did data did = some data := if_pos rfl

theorem DidDict.set_other {did did' : Nat} (result : DidDict) (data : List UInt8)
    (h : did' ≠ did) : result.set did data did' = result did' := if_neg h

section Parse

variable {value : UInt16 → List UInt8} {result : DidDict} {payload : List UInt8}

theorem parseDidRecords_last (did : UInt16) :
    parseDidRecords [did.toNat] (didHigh did :: didLow did :: payload) result =
      result.set did.toNat payload := by
  unfold parseDidRecords
  rw [shl_or_didBytes]

theorem parseDidRecords_next (did next : UInt16) (dids : List UInt16) :
    parseDidRecords ((did :: next :: dids).map UInt16.toNat)
        (didHigh did :: didLow did :: payload) result =
      parseDidRecords ((next :: dids).map UInt16.toNat) (splitAtDid next.toNat payload).2
        (result.set did.toNat (splitAtDid next.toNat payload).1) := by
  rw [← shl_or_didBytes did]
  rfl

/-- The payload ends, or the record of the first of `dids` comes. -/
def StartsWith (dids : List UInt16) (payload : List UInt8) : Prop :=
  payload = [] ∨ ∃ did ∈ dids.head?, ∃ rest, payload = didHigh did :: didLow did :: rest

theorem startsWith_splitAtDid (next : UInt16) (dids : List UInt16) (payload : List UInt8) :
    StartsWith (next :: dids) (splitAtDid next.toNat payload).2 := by
  rcases splitAtDid_rest next payload with hend | ⟨rest, hnext⟩
  · exact Or.inl hend
  · exact Or.inr ⟨next, rfl, rest, hnext⟩

/-- What the loop writes from the record of an identifier on, it writes under
this identifier and the following ones. -/
theorem parseDidRecords_frame {dids : List UInt16} {k : Nat} (hk : ∀ did ∈ dids, did.toNat ≠ k)
    (hstart : StartsWith dids payload) :
    parseDidRecords (dids.map UInt16.toNat) payload result k = result k := by
  induction dids generalizing payload result with
  | nil => rfl
  | cons did dids ih =>
      rcases hstart with rfl | ⟨did', hdid', rest, rfl⟩
      · rfl
      · obtain rfl := Option.some.inj hdid'
        have hne := hk did List.mem_cons_self
        cases dids with
        | nil =>
            rw [List.map_cons, List.map_nil, parseDidRecords_last]
            exact result.set_other rest (Ne.symm hne)
        | cons next dids =>
            rw [parseDidRecords_next, ih]
            · exact result.set_other _ (Ne.symm hne)
            · exact fun did' h => hk did' (List.mem_cons_of_mem did h)
            · exact startsWith_splitAtDid next dids rest

theorem parseDidRecords_iff {dids : List UInt16} (hdistinct : dids.Nodup) :
    (∀ did ∈ dids, parseDidRecords (dids.map UInt16.toNat) (dids.flatMap (didRecord value)) result
        did.toNat = some (value did)) ↔
      Unambiguous value dids := by
  induction dids generalizing result with
  | nil => exact ⟨fun _ => trivial, fun _ did hdid => absurd hdid List.not_mem_nil⟩
  | cons did dids ih =>
      obtain ⟨hfresh, hrest⟩ := List.nodup_cons.mp hdistinct
      have hothers : ∀ did' ∈ dids, did'.toNat ≠ did.toNat := by
        intro did' hmem heq
        exact hfresh (UInt16.toNat_inj.mp heq ▸ hmem)
      cases dids with
      | nil =>
          refine ⟨fun _ => trivial, fun _ did' hdid' => ?_⟩
          rw [List.mem_singleton.mp hdid', List.flatMap_cons, List.flatMap_nil, List.append_nil]
          exact (congrFun (parseDidRecords_last did) _).trans (result.set_same _ _)
      | cons next dids =>
          let rest := value next ++ dids.flatMap (didRecord value)
          have hpayload : (did :: next :: dids).flatMap (didRecord value) =
              didHigh did :: didLow did :: (value did ++ didHigh next :: didLow next :: rest) := by
            simp only [List.flatMap_cons, didRecord, didBytes, rest, List.append_assoc]
            rfl
          have hsplit := splitAtDid_eq_iff (value did) rest next
          have happend := splitAtDid_append next.toNat
            (value did ++ didHigh next :: didLow next :: rest)
          rw [hpayload, parseDidRecords_next]
          -- the first record keeps what the search found
          have hfirst : parseDidRecords ((next :: dids).map UInt16.toNat)
              (splitAtDid next.toNat (value did ++ didHigh next :: didLow next :: rest)).2
              (result.set did.toNat
                (splitAtDid next.toNat (value did ++ didHigh next :: didLow next :: rest)).1)
              did.toNat =
            some (splitAtDid next.toNat
              (value did ++ didHigh next :: didLow next :: rest)).1 := by
            rw [parseDidRecords_frame hothers]
            · exact result.set_same _ _
            · exact startsWith_splitAtDid next dids _
          rw [List.forall_mem_cons, hfirst]
          constructor
          · intro h
            have hdata := Option.some.inj h.1
            rw [hdata] at happend h
            rw [List.append_cancel_left happend] at h
            exact ⟨hsplit.mp hdata, (ih hrest).mp h.2⟩
          · intro h
            have hdata := hsplit.mpr h.1
            rw [hdata] at happend ⊢
            rw [List.append_cancel_left happend]
            exact ⟨rfl, (ih hrest).mpr h.2⟩

end Parse

/-! ## The client against the server -/

theorem didMap_of_mem {value : UInt16 → List UInt8} {dids : List UInt16} {did : UInt16}
    (h : did ∈ dids) : didMap value dids did.toNat = some (value did) := by
  unfold didMap
  cases hfind : dids.find? (fun did' => did'.toNat = did.toNat) with
  | none =>
      have hnone := List.find?_eq_none.mp hfind did h
      simp at hnone
  | some did' =>
      have hsame := List.find?_some hfind
      rw [UInt16.toNat_inj.mp (by simpa using hsame : did'.toNat = did.toNat)]
      rfl

theorem didMap_of_not_mem {value : UInt16 → List UInt8} {dids : List UInt16} {k : Nat}
    (h : ∀ did ∈ dids, did.toNat ≠ k) : didMap value dids k = none := by
  unfold didMap
  rw [List.find?_eq_none.mpr]
  · rfl
  · intro did hdid
    simpa using h did hdid

theorem bytesBE_did (did : UInt16) : bytesBE 2 did.toNat = didBytes did := by
  have hlt := did.toNat_lt
  have hhigh : UInt8.ofNat (did.toNat / 256) = didHigh did := by
    apply UInt8.toNat_inj.mp
    rw [toNat_didHigh, UInt8.toNat_ofNat']
    omega
  have hlow : UInt8.ofNat did.toNat = didLow did := by
    apply UInt8.toNat_inj.mp
    rw [toNat_didLow, UInt8.toNat_ofNat']
  simp only [bytesBE, List.nil_append, List.singleton_append]
  rw [hhigh, hlow]
  rfl

section Client

variable {σ : Type} {transport : Transport σ} {s s' : σ} {reg : UdsDidRegistry}
  {dids : List UInt16} {respSize : Nat} {response : List UInt8}

theorem didsToBytes_run (dids : List UInt16) (s : σ) :
    (didsToBytes (dids.map UInt16.toNat)).run s = (.ok (dids.flatMap didBytes), s) := by
  induction dids with
  | nil => rfl
  | cons did dids ih =>
      have hdid : (toBytes did.toNat 2).run s = (.ok (bytesBE 2 did.toNat), s) :=
        toBytes_run did.toNat_lt s
      rw [List.map_cons, List.flatMap_cons]
      unfold didsToBytes
      rw [Py.run_bind hdid, Py.run_bind ih, bytesBE_did, Py.run_pure]

theorem readDids_run (htwo : 2 ≤ dids.length) {payload : List UInt8}
    (hrequest : (request transport (0x22 :: dids.flatMap didBytes)).run s =
      (.ok (0x62 :: payload), s')) :
    (readDids transport (dids.map UInt16.toNat)).run s =
      (.ok (parseDidRecords (dids.map UInt16.toNat) payload DidDict.empty), s') := by
  unfold readDids
  rw [Py.run_bind (didsToBytes_run dids s), Py.run_bind hrequest, if_neg (by simp)]
  match dids with
  | [] => simp at htwo
  | [_] => simp at htwo
  | did :: next :: dids => rfl

/-- `read` decodes the response to two or more distinct identifiers exactly when
no record contains the identifier that follows it. -/
theorem readDids_iff (htwo : 2 ≤ dids.length) (hdistinct : dids.Nodup)
    (hserver : udsSvcReadDid reg dids respSize = .ok response)
    (hrequest : (request transport (0x22 :: dids.flatMap didBytes)).run s = (.ok response, s')) :
    (readDids transport (dids.map UInt16.toNat)).run s =
        (.ok (didMap (didData reg) dids), s') ↔
      Unambiguous (didData reg) dids := by
  rw [(udsSvcReadDid_ok hserver).2.2] at hrequest
  rw [readDids_run htwo hrequest, ← parseDidRecords_iff hdistinct]
  constructor
  · intro h did hdid
    have hmap := congrFun (Except.ok.inj (congrArg Prod.fst h)) did.toNat
    rw [hmap, didMap_of_mem hdid]
  · intro h
    congr 2
    funext k
    by_cases hk : ∃ did ∈ dids, did.toNat = k
    · obtain ⟨did, hdid, rfl⟩ := hk
      rw [h did hdid, didMap_of_mem hdid]
    · have hother : ∀ did ∈ dids, did.toNat ≠ k := fun did hdid heq => hk ⟨did, hdid, heq⟩
      rw [parseDidRecords_frame hother, didMap_of_not_mem hother]
      · rfl
      · match dids with
        | [] => exact Or.inl rfl
        | did :: dids => exact Or.inr ⟨did, rfl, _, rfl⟩

end Client

/-- The data of the first entry begin with the identifier of the second. -/
def embeddedDid : UdsDidRegistry :=
  [⟨0x0101, [0xF1, 0x87, 0x12, 0x34], true, 0x01, 0x03, false⟩,
    ⟨0xF187, [0x41], true, 0x01, 0x03, false⟩]

theorem readDids_iff_embedded :
    (readDids (answering [0x62, 0xF1, 0x87, 0x41, 0x01, 0x01, 0xF1, 0x87, 0x12, 0x34])
        [0xF187, 0x0101]).run () =
          (.ok (didMap (didData embeddedDid) [0xF187, 0x0101]), ()) ↔
      Unambiguous (didData embeddedDid) [0xF187, 0x0101] := by
  have hserver : udsSvcReadDid embeddedDid [0xF187, 0x0101] 4095 =
      .ok [0x62, 0xF1, 0x87, 0x41, 0x01, 0x01, 0xF1, 0x87, 0x12, 0x34] := rfl
  exact readDids_iff (by decide) (by decide) hserver (request_answering (by decide))

/-- The client returns no data for the first identifier. -/
theorem readDids_embedded :
    ∃ response, udsSvcReadDid embeddedDid [0x0101, 0xF187] 4095 = .ok response ∧
      ∃ result : DidDict,
        (readDids (answering response) [0x0101, 0xF187]).run () = (.ok result, ()) ∧
          result 0x0101 = some [] ∧ didData embeddedDid 0x0101 = [0xF1, 0x87, 0x12, 0x34] :=
  ⟨_, rfl, _, rfl, rfl, rfl⟩

end Uds.Tools
