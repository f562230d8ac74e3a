import Mathlib.Data.List.ReduceOption
import Uds.Tools.Commands
import Uds.Tools.Recording
import Uds.Tp.Grammar
/-!
# The flash tool against any server

What `download` of `flash_tool.py` sends is laid down by its arguments and two responses:
the seed and the length of a block.  Whatever is behind its transport, the tool keeps to
that plan, sends a message only if all before it were accepted, and returns only from the
end of the plan.
-/

namespace Uds.Tools

open Uds.Base

/-! ## Messages -/

/-- `bytes(ns)`, or `none` where it raises. -/
def encodeBytes (ns : List Nat) : Option (List UInt8) :=
  if ∀ n ∈ ns, n < 256 then some (ns.map UInt8.ofNat) else none

/-- `int.to_bytes(width, "big")`, or `none` where it raises. -/
def encodeNat (n width : Nat) : Option (List UInt8) :=
  if n < 256 ^ width then some (bytesBE width n) else none

/-- A request for a transfer, with address and size in fields of their widths. -/
def transferMessage (sid : UInt8) (address size addrLen sizeLen : Nat) : Option (List UInt8) :=
  (encodeNat address addrLen).bind fun addressBytes =>
    (encodeNat size sizeLen).map fun sizeBytes =>
      [sid, 0x00, UInt8.ofNat (((sizeLen &&& 0x0F) <<< 4) ||| (addrLen &&& 0x0F))] ++
        addressBytes ++ sizeBytes

/-- The length of a block that a response announces. -/
def maxBlockLength (resp : List UInt8) : Nat :=
  natBE ((resp.drop 2).take ((resp.getD 1 0).toNat / 16))

/-- How many bytes of the image go into one block. -/
def chunkSizeOf (resp : List UInt8) : Nat := max 1 (maxBlockLength resp - 1)

theorem chunkSizeOf_pos (resp : List UInt8) : 0 < chunkSizeOf resp := Nat.le_max_left ..

/-- How many blocks that makes. -/
def blockCount (chunkSize len : Nat) : Nat := (len + (chunkSize - 1)) / chunkSize

/-- Block `i` of an image; the counter goes from 1 to 255 and again from 1. -/
def blockMessage (chunkSize : Nat) (data : List UInt8) (i : Nat) : List UInt8 :=
  [0x36, UInt8.ofNat (i % 255 + 1)] ++ (data.drop (chunkSize * i)).take chunkSize

/-- The blocks of an image and the exit. -/
def blockMessages (chunkSize : Nat) (data : List UInt8) : List (Option (List UInt8)) :=
  (List.range (blockCount chunkSize data.length)).map
    (fun i => some (blockMessage chunkSize data i)) ++ [some [0x37]]

/-- A download, with the response to its first message. -/
def downloadMessages (address : Nat) (data : List UInt8) (addrLen sizeLen : Nat)
    (resp : List UInt8) : List (Option (List UInt8)) :=
  transferMessage 0x34 address data.length addrLen sizeLen :: blockMessages (chunkSizeOf resp) data

/-- The key for the seed in a response, unless that is zero. -/
def keyMessages (level : Nat) (resp : List UInt8) : List (Option (List UInt8)) :=
  if (resp.drop 2).all (fun b => b = 0) then []
  else [(encodeBytes [0x27, level + 1]).map (· ++ computeKey (resp.drop 2))]

/-- Change the session, unlock, download. -/
def flashPlan (address : Nat) (data : List UInt8) (addrLen sizeLen level : Nat) :
    Plan (List UInt8) (List UInt8) := fun rs =>
  [some [0x10, 0x02], encodeBytes [0x27, level]] ++ keyMessages level (rs.getD 1 []) ++
    downloadMessages address data addrLen sizeLen
      (rs.getD (2 + (keyMessages level (rs.getD 1 [])).length) [])

theorem lt_blockCount_iff {chunkSize : Nat} (hpos : 0 < chunkSize) (len i : Nat) :
    i < blockCount chunkSize len ↔ chunkSize * i < len := by
  have hmul : (i + 1) * chunkSize = chunkSize * i + chunkSize := by ring
  rw [blockCount, ← Nat.succ_le_iff, Nat.succ_eq_add_one, Nat.le_div_iff_mul_le hpos, hmul]
  omega

theorem length_blockMessages (chunkSize : Nat) (data : List UInt8) :
    (blockMessages chunkSize data).length = blockCount chunkSize data.length + 1 := by
  rw [blockMessages, List.length_append, List.length_map, List.length_range, List.length_singleton]

theorem getElem?_blockMessages {chunkSize : Nat} {data : List UInt8} {i : Nat}
    (h : i < blockCount chunkSize data.length) :
    (blockMessages chunkSize data)[i]? = some (some (blockMessage chunkSize data i)) := by
  rw [blockMessages, List.getElem?_append_left (by simpa using h), List.getElem?_map,
    List.getElem?_range h]
  rfl

theorem getElem?_blockMessages_exit (chunkSize : Nat) (data : List UInt8) :
    (blockMessages chunkSize data)[blockCount chunkSize data.length]? = some (some [0x37]) := by
  rw [blockMessages, List.getElem?_append_right (by simp)]
  simp

/-! ## Services -/

section Services

variable {σ α : Type} {plan : Plan (List UInt8) (List UInt8)} {transport : Transport σ}
  {rs : List (List UInt8)}

theorem performs_bytes {ns : List Nat}
    (hnext : encodeBytes ns = none → (plan rs)[rs.length]? = some none) :
    Performs plan (bytes ns : Py (Recorded σ) (List UInt8)) rs
      fun bs rs' => encodeBytes ns = some bs ∧ rs' = rs := by
  unfold bytes encodeBytes at *
  by_cases h : ∀ n ∈ ns, n < 256
  · rw [if_pos h, if_pos h]
    exact performs_pure ⟨rfl, rfl⟩
  · rw [if_neg h]
    exact performs_raise _ (hnext (if_neg h))

theorem performs_toBytes {n width : Nat}
    (hnext : encodeNat n width = none → (plan rs)[rs.length]? = some none) :
    Performs plan (toBytes n width : Py (Recorded σ) (List UInt8)) rs
      fun bs rs' => encodeNat n width = some bs ∧ rs' = rs := by
  unfold toBytes encodeNat at *
  by_cases h : n < 256 ^ width
  · rw [if_pos h, if_pos h]
    exact performs_pure ⟨rfl, rfl⟩
  · rw [if_neg h]
    exact performs_raise _ (hnext (if_neg h))

theorem accepts_iff_getD {m resp : List UInt8} {sid : UInt8} {n : Nat} (hhead : m.head? = some sid)
    (hbytes : responseBytes m resp = n + 1) :
    client.Accepts m resp ↔ ¬(resp.length < n + 1 ∨ resp.getD 0 0 ≠ sid + 0x40) := by
  have hfirst : m.headD 0 = sid := by rw [List.headD_eq_head?_getD, hhead, Option.getD_some]
  change (resp.head? = some (m.headD 0 + 0x40) ∧ responseBytes m resp ≤ resp.length) ↔ _
  rw [hbytes, hfirst, not_or, not_lt, not_not, and_comm]
  apply and_congr_right
  intro hlen
  cases resp with
  | nil => cases hlen
  | cons b resp => exact Option.some_inj

theorem accepts_iff_head {m resp : List UInt8} {sid : UInt8} (hhead : m.head? = some sid)
    (hbytes : responseBytes m resp = 1) :
    client.Accepts m resp ↔ resp.head? = some (sid + 0x40) := by
  have hfirst : m.headD 0 = sid := by rw [List.headD_eq_head?_getD, hhead, Option.getD_some]
  change (resp.head? = some (m.headD 0 + 0x40) ∧ responseBytes m resp ≤ resp.length) ↔ _
  rw [hbytes, hfirst]
  apply and_iff_left_of_imp
  intro hresp
  exact List.length_pos_of_mem (List.mem_of_mem_head? hresp)

theorem head?_of_encodeBytes {n : Nat} {ns : List Nat} {m : List UInt8}
    (h : encodeBytes (n :: ns) = some m) : m.head? = some (UInt8.ofNat n) := by
  unfold encodeBytes at h
  split at h
  · cases h
    rfl
  · cases h

theorem performs_checked {m : List UInt8} {refused : List UInt8 → Prop} [DecidablePred refused]
    {e : List UInt8 → PyError} {f : List UInt8 → Py (Recorded σ) α}
    {post : α → List (List UInt8) → Prop} (hnext : (plan rs)[rs.length]? = some (some m))
    (hrefused : ∀ resp, client.Accepts m resp ↔ ¬refused resp)
    (hf : ∀ resp, client.Accepts m resp → Performs plan (f resp) (rs ++ [resp]) post) :
    Performs plan (request (recorded transport) m >>= fun resp =>
      if refused resp then Py.raise (e resp) else f resp) rs post := by
  refine performs_request hnext ?_ ?_
  · intro resp h
    exact ⟨e resp, if_pos (Decidable.of_not_not (mt (hrefused resp).mpr h))⟩
  · intro resp h
    rw [if_neg ((hrefused resp).mp h)]
    exact hf resp h

theorem performs_changeSession {sessionType : Nat}
    (hnext : (plan rs)[rs.length]? = some (encodeBytes [0x10, sessionType])) :
    Performs plan (changeSession (recorded transport) sessionType) rs
      fun _ rs' => ∃ resp, rs' = rs ++ [resp] := by
  refine (performs_bytes fun hnone => hnext.trans (congrArg some hnone)).bind ?_
  rintro m _ ⟨hm, rfl⟩
  have hhead : m.head? = some 0x10 := head?_of_encodeBytes hm
  refine performs_checked (hnext.trans (congrArg some hm)) (fun resp => ?_) fun resp _ => ?_
  · exact accepts_iff_getD hhead (by rw [responseBytes, if_pos hhead])
  · exact performs_pure ⟨resp, rfl⟩

theorem performs_unlock {level : Nat}
    (hseed : (plan rs)[rs.length]? = some (encodeBytes [0x27, level]))
    (hkey : ∀ resp m, keyMessages level resp = [m] →
      (plan (rs ++ [resp]))[rs.length + 1]? = some m) :
    Performs plan (unlock (recorded transport) level) rs
      fun _ rs' => ∃ resp keyResponses, rs' = rs ++ [resp] ++ keyResponses ∧
        keyResponses.length = (keyMessages level resp).length := by
  have hbytes {m : List UInt8} (hhead : m.head? = some 0x27) (resp : List UInt8) :
      client.Accepts m resp ↔ ¬(resp.length < 2 ∨ resp.getD 0 0 ≠ 0x67) :=
    accepts_iff_getD hhead (by
      rw [responseBytes, if_neg (by rw [hhead]; decide), if_pos hhead])
  refine (performs_bytes fun hnone => hseed.trans (congrArg some hnone)).bind ?_
  rintro m _ ⟨hm, rfl⟩
  refine performs_checked (hseed.trans (congrArg some hm)) (hbytes (head?_of_encodeBytes hm))
    fun resp _ => ?_
  have hlen (rs : List (List UInt8)) : rs.length + 1 = (rs ++ [resp]).length := by
    rw [List.length_append, List.length_singleton]
  by_cases hzero : (resp.drop 2).all (fun b => b = 0)
  · have hnone : keyMessages level resp = [] := if_pos hzero
    simp only [if_pos hzero]
    exact performs_pure ⟨resp, [], (List.append_nil _).symm, (congrArg List.length hnone).symm⟩
  · have hone : keyMessages level resp =
        [(encodeBytes [0x27, level + 1]).map (· ++ computeKey (resp.drop 2))] := if_neg hzero
    have hnext := hkey resp _ hone
    rw [hlen] at hnext
    simp only [if_neg hzero]
    refine (performs_bytes fun hnone => hnext.trans ?_).bind ?_
    · exact congrArg some (congrArg (Option.map _) hnone)
    · rintro m' _ ⟨hm', rfl⟩
      have hhead : (m' ++ computeKey (resp.drop 2)).head? = some 0x27 := by
        rw [List.head?_append, head?_of_encodeBytes hm']
        rfl
      replace hm' : encodeBytes [0x27, level + 1] = some m' := hm'
      rw [hm'] at hnext
      refine performs_checked hnext (hbytes hhead) fun keyResp _ => ?_
      refine performs_pure ⟨resp, [keyResp], rfl, ?_⟩
      rw [hone]
      rfl

theorem performs_requestTransfer {sid : UInt8} {name : String}
    {address size addrLen sizeLen : Nat} (hsid : sid = 0x34 ∨ sid = 0x35)
    (hnext : (plan rs)[rs.length]? =
      some (transferMessage sid address size addrLen sizeLen)) :
    Performs plan (requestTransfer (recorded transport) sid name address size addrLen sizeLen) rs
      fun maxBlockLen rs' => ∃ resp, rs' = rs ++ [resp] ∧ maxBlockLen = maxBlockLength resp := by
  refine (performs_toBytes fun hnone => hnext.trans (congrArg some ?_)).bind ?_
  · rw [transferMessage, hnone]
    rfl
  rintro addressBytes _ ⟨haddress, rfl⟩
  refine (performs_toBytes fun hnone => hnext.trans (congrArg some ?_)).bind ?_
  · rw [transferMessage, haddress, hnone]
    rfl
  rintro sizeBytes _ ⟨hsize, rfl⟩
  rw [transferMessage, haddress, hsize] at hnext
  have hmbl (resp : List UInt8) :
      (resp.getD 1 0).toNat >>> 4 &&& 0x0F = (resp.getD 1 0).toNat / 16 := Tp.high_nibble _
  have haccepts (resp : List UInt8) :
      client.Accepts ([sid, 0x00, UInt8.ofNat (((sizeLen &&& 0x0F) <<< 4) ||| (addrLen &&& 0x0F))]
          ++ addressBytes ++ sizeBytes) resp ↔
        resp.head? = some (sid + 0x40) ∧ 2 + (resp.getD 1 0).toNat / 16 ≤ resp.length := by
    apply and_congr_right
    intro _
    rcases hsid with rfl | rfl <;> rfl
  refine performs_request hnext ?_ ?_
  · intro resp hrefused
    dsimp only
    by_cases hhead : resp.head? = some (sid + 0x40)
    · rw [if_neg (not_not.mpr hhead), hmbl]
      by_cases hlen : resp.length < 2
      · exact ⟨_, if_pos hlen⟩
      · rw [if_neg hlen]
        refine ⟨_, if_pos ?_⟩
        by_contra hnot
        exact hrefused ((haccepts resp).mpr ⟨hhead, not_lt.mp hnot⟩)
    · exact ⟨_, if_pos hhead⟩
  · intro resp h
    obtain ⟨hhead, hlen⟩ := (haccepts resp).mp h
    dsimp only
    rw [if_neg (not_not.mpr hhead), if_neg (by omega), hmbl, if_neg (by omega)]
    exact performs_pure ⟨resp, rfl, rfl⟩

/-- A message after which only the first byte of the response is checked. -/
theorem performs_transferData {blockSn : Nat} {data : List UInt8}
    (hnext : (plan rs)[rs.length]? = some (some ([0x36, UInt8.ofNat (blockSn &&& 0xFF)] ++ data))) :
    Performs plan (transferData (recorded transport) blockSn data) rs
      fun chunk rs' => ∃ resp, rs' = rs ++ [resp] ∧ chunk = resp.drop 2 := by
  refine performs_checked hnext (fun resp => ?_) fun resp _ => performs_pure ⟨resp, rfl, rfl⟩
  have hhead : ([0x36, UInt8.ofNat (blockSn &&& 0xFF)] ++ data).head? = some 0x36 := rfl
  exact (accepts_iff_head hhead rfl).trans not_not.symm

theorem performs_transferExit (hnext : (plan rs)[rs.length]? = some (some [0x37])) :
    Performs plan (transferExit (recorded transport)) rs
      fun _ rs' => ∃ resp, rs' = rs ++ [resp] := by
  refine performs_checked hnext (fun resp => ?_) fun resp _ => performs_pure ⟨resp, rfl⟩
  have hhead : [0x37].head? = some (0x37 : UInt8) := rfl
  exact (accepts_iff_head hhead rfl).trans not_not.symm

end Services

section Download

variable {σ : Type} {plan : Plan (List UInt8) (List UInt8)} {transport : Transport σ}
  {rs done : List (List UInt8)} {before : List (Option (List UInt8))} {chunkSize : Nat}
  {data : List UInt8}

theorem nextBlockSn_succ (i : Nat) : nextBlockSn (i % 255 + 1) = (i + 1) % 255 + 1 := by
  unfold nextBlockSn
  split <;> omega

theorem getElem?_plan (hplan : plan (rs ++ done) = before ++ blockMessages chunkSize data)
    (hbefore : before.length = rs.length) :
    (plan (rs ++ done))[(rs ++ done).length]? = (blockMessages chunkSize data)[done.length]? := by
  rw [hplan, List.length_append, List.getElem?_append_right (by omega), hbefore,
    Nat.add_sub_cancel_left]

theorem performs_downloadLoop (hpos : 0 < chunkSize)
    (hplan : ∀ done, plan (rs ++ done) = before ++ blockMessages chunkSize data)
    (hbefore : before.length = rs.length) {offset sn : Nat}
    (hoffset : offset = min (chunkSize * done.length) data.length)
    (hsn : sn = done.length % 255 + 1) (hle : done.length ≤ blockCount chunkSize data.length) :
    Performs plan (downloadLoop (recorded transport) chunkSize hpos data offset sn) (rs ++ done)
      fun _ rs' => ∃ done', rs' = rs ++ done' ∧
        done'.length = blockCount chunkSize data.length := by
  induction offset, sn using downloadLoop.induct chunkSize hpos data generalizing done with
  | case1 offset sn hmore chunk =>
      rename_i ih
      have hless : done.length < blockCount chunkSize data.length :=
        (lt_blockCount_iff hpos _ _).mpr (by omega)
      have hstart : offset = chunkSize * done.length := by omega
      have hcounter : sn &&& 0xFF = sn := by
        rw [Nat.and_two_pow_sub_one_eq_mod sn 8]
        omega
      have hnext := (getElem?_plan (hplan done) hbefore).trans (getElem?_blockMessages hless)
      rw [blockMessage, ← hsn, ← hstart, ← hcounter] at hnext
      rw [downloadLoop, if_pos hmore]
      refine (performs_transferData hnext).bind ?_
      rintro _ _ ⟨resp, rfl, -⟩
      have hlen : chunk.length = min chunkSize (data.length - offset) := by
        rw [List.length_take, List.length_drop]
      have hdone : (done ++ [resp]).length = done.length + 1 := by
        rw [List.length_append, List.length_singleton]
      rw [List.append_assoc]
      apply ih
      · rw [hdone, Nat.mul_succ]
        omega
      · rw [hsn, hdone, nextBlockSn_succ]
      · rwa [hdone]
  | case2 offset sn hend =>
      have hall : ¬done.length < blockCount chunkSize data.length := by
        rw [lt_blockCount_iff hpos]
        omega
      rw [downloadLoop, if_neg hend]
      exact performs_pure ⟨done, rfl, by omega⟩

theorem performs_download {address addrLen sizeLen : Nat}
    (hplan : ∀ done, plan (rs ++ done) =
      before ++ downloadMessages address data addrLen sizeLen (done.getD 0 []))
    (hbefore : before.length = rs.length) :
    Performs plan (download (recorded transport) address data addrLen sizeLen) rs
      fun _ rs' => (plan rs').length = rs'.length := by
  have hfirst : (plan rs)[rs.length]? =
      some (transferMessage 0x34 address data.length addrLen sizeLen) := by
    have h := hplan []
    rw [List.append_nil] at h
    rw [h, List.getElem?_append_right (by omega), hbefore, Nat.sub_self]
    rfl
  refine (performs_requestTransfer (Or.inl rfl) hfirst).bind ?_
  rintro maxBlockLen _ ⟨resp, rfl, rfl⟩
  have hblocks (done : List (List UInt8)) : plan (rs ++ [resp] ++ done) =
      before ++ [transferMessage 0x34 address data.length addrLen sizeLen] ++
        blockMessages (chunkSizeOf resp) data := by
    rw [List.append_assoc, hplan, List.append_assoc]
    rfl
  have hlen : (before ++ [transferMessage 0x34 address data.length addrLen sizeLen]).length =
      (rs ++ [resp]).length := by
    rw [List.length_append, List.length_append, hbefore]
    rfl
  have hpos : 0 < chunkSizeOf resp := chunkSizeOf_pos resp
  have hloop : Performs plan
      (downloadLoop (recorded transport) (chunkSizeOf resp) hpos data 0 1) (rs ++ [resp] ++ [])
      fun _ rs' => ∃ done, rs' = rs ++ [resp] ++ done ∧
        done.length = blockCount (chunkSizeOf resp) data.length :=
    performs_downloadLoop hpos hblocks hlen (Nat.zero_min _).symm rfl (Nat.zero_le _)
  rw [List.append_nil] at hloop
  refine hloop.bind ?_
  rintro _ _ ⟨done, rfl, hdone⟩
  have hexit := getElem?_plan (hblocks done) hlen
  rw [hdone, getElem?_blockMessages_exit] at hexit
  refine (performs_transferExit hexit).mono ?_
  rintro _ _ ⟨last, rfl⟩
  rw [List.append_assoc, hblocks, List.length_append, hlen, length_blockMessages, ← hdone]
  simp only [List.length_append, List.length_singleton]

end Download

/-! ## The tool -/

section Tool

variable {σ : Type} (address : Nat) (data : List UInt8) (addrLen sizeLen level : Nat)

theorem flashPlan_cons (first resp : List UInt8) (rs : List (List UInt8)) :
    flashPlan address data addrLen sizeLen level (first :: resp :: rs) =
      [some [0x10, 0x02], encodeBytes [0x27, level]] ++ keyMessages level resp ++
        downloadMessages address data addrLen sizeLen
          (rs.getD (keyMessages level resp).length []) := by
  unfold flashPlan
  rw [Nat.add_comm 2]
  rfl

theorem take_downloadMessages (before : List (Option (List UInt8))) (resp resp' : List UInt8)
    {n : Nat} (h : n ≤ before.length + 1) :
    (before ++ downloadMessages address data addrLen sizeLen resp).take n =
      (before ++ downloadMessages address data addrLen sizeLen resp').take n := by
  have htake (resp : List UInt8) :
      (before ++ downloadMessages address data addrLen sizeLen resp).take n =
        (before ++ [transferMessage 0x34 address data.length addrLen sizeLen]).take n := by
    rw [downloadMessages, ← List.singleton_append, ← List.append_assoc,
      List.take_append_of_le_length]
    rwa [List.length_append, List.length_singleton]
  rw [htake, htake]

theorem flashPlan_settled : (flashPlan address data addrLen sizeLen level).Settled := by
  rintro (_ | ⟨first, _ | ⟨resp, rs⟩⟩) r
  · rfl
  · rfl
  · rw [List.cons_append, List.cons_append, flashPlan_cons, flashPlan_cons]
    by_cases hless : (keyMessages level resp).length < rs.length
    · rw [List.getD_append _ _ _ _ hless]
    · apply take_downloadMessages
      simp only [List.length_append, List.length_cons, List.length_nil]
      omega

theorem performs_flashDownload (transport : Transport σ) :
    Performs (flashPlan address data addrLen sizeLen level)
      (flashDownload (recorded transport) address data addrLen sizeLen level) []
      fun _ rs => (flashPlan address data addrLen sizeLen level rs).length = rs.length := by
  refine (performs_changeSession rfl).bind ?_
  rintro _ _ ⟨first, rfl⟩
  refine (performs_unlock rfl ?_).bind ?_
  · intro resp m hkey
    change (flashPlan address data addrLen sizeLen level [first, resp])[2]? = some m
    rw [flashPlan_cons, hkey]
    rfl
  · rintro _ _ ⟨resp, keyResponses, rfl, hlen⟩
    have hplan (done : List (List UInt8)) :
        flashPlan address data addrLen sizeLen level
            ([] ++ [first] ++ [resp] ++ keyResponses ++ done) =
          [some [0x10, 0x02], encodeBytes [0x27, level]] ++ keyMessages level resp ++
            downloadMessages address data addrLen sizeLen (done.getD 0 []) := by
      change flashPlan address data addrLen sizeLen level
        (first :: resp :: (keyResponses ++ done)) = _
      rw [flashPlan_cons, ← hlen, List.getD_append_right _ _ _ _ le_rfl, Nat.sub_self]
    apply performs_download hplan
    simp only [List.length_append, hlen]
    rfl

/-- Whatever answers the tool: it keeps to the plan, and a message goes out only if all before
it were accepted.  It returns only from the end of the plan. -/
theorem flashDownload_conversation (transport : Transport σ) (s : σ) :
    Conversation client (flashPlan address data addrLen sizeLen level)
      ((flashDownload (recorded transport) address data addrLen sizeLen level).run ⟨s, []⟩).2.log
      ((flashDownload (recorded transport) address data addrLen sizeLen level).run
        ⟨s, []⟩).1.isOk :=
  (performs_flashDownload address data addrLen sizeLen level transport).conversation s

end Tool

/-! ## The image -/

/-- The contents of the blocks among some messages. -/
def imageOf (msgs : List (List UInt8)) : List UInt8 :=
  msgs.flatMap fun m => if m.head? = some 0x36 then m.drop 2 else []

theorem imageOf_append (l l' : List (List UInt8)) : imageOf (l ++ l') = imageOf l ++ imageOf l' :=
  List.flatMap_append

theorem imageOf_eq_nil {l : List (List UInt8)} (h : ∀ m ∈ l, m.head? ≠ some 0x36) :
    imageOf l = [] :=
  List.flatMap_eq_nil_iff.mpr fun m hm => if_neg (h m hm)

theorem imageOf_prefix {l l' : List (List UInt8)} (h : l <+: l') : imageOf l <+: imageOf l' := by
  obtain ⟨rest, rfl⟩ := h
  rw [imageOf_append]
  exact List.prefix_append _ _

theorem flatMap_chunks (chunkSize : Nat) (data : List UInt8) (n : Nat) :
    (List.range n).flatMap (fun i => (data.drop (chunkSize * i)).take chunkSize) =
      data.take (chunkSize * n) := by
  induction n with
  | zero => rfl
  | succ n ih =>
      rw [List.range_succ, List.flatMap_append, ih, List.flatMap_singleton, Nat.mul_succ,
        List.take_add]

theorem reduceOption_map_some {α : Type} (l : List α) : (l.map some).reduceOption = l := by
  rw [List.reduceOption, List.filterMap_map]
  exact List.filterMap_some

theorem imageOf_blockMessages {chunkSize : Nat} (hpos : 0 < chunkSize) (data : List UInt8) :
    imageOf (blockMessages chunkSize data).reduceOption = data := by
  have hall : data.length ≤ chunkSize * blockCount chunkSize data.length := by
    have hnot := mt (lt_blockCount_iff hpos data.length _).mpr (lt_irrefl _)
    omega
  have hblocks : imageOf ((List.range (blockCount chunkSize data.length)).map
      (blockMessage chunkSize data)) = data := by
    rw [imageOf, List.flatMap_map]
    exact (flatMap_chunks chunkSize data _).trans (List.take_of_length_le hall)
  have hsome : (blockMessages chunkSize data).reduceOption =
      (List.range (blockCount chunkSize data.length)).map (blockMessage chunkSize data) ++
        [[0x37]] := by
    have hmap : (List.range (blockCount chunkSize data.length)).map
        (fun i => some (blockMessage chunkSize data i)) =
          ((List.range (blockCount chunkSize data.length)).map (blockMessage chunkSize data)).map
            some := List.map_map.symm
    rw [blockMessages, List.reduceOption_append, hmap, reduceOption_map_some]
    rfl
  rw [hsome, imageOf_append, hblocks]
  exact List.append_nil data

theorem head?_of_transferMessage {sid : UInt8} {address size addrLen sizeLen : Nat}
    {m : List UInt8} (h : transferMessage sid address size addrLen sizeLen = some m) :
    m.head? = some sid := by
  obtain ⟨addressBytes, -, h⟩ := Option.bind_eq_some_iff.mp h
  obtain ⟨sizeBytes, -, rfl⟩ := Option.map_eq_some_iff.mp h
  rfl

theorem head?_of_keyMessages {level : Nat} {resp m : List UInt8}
    (h : some m ∈ keyMessages level resp) : m.head? = some 0x27 := by
  unfold keyMessages at h
  split at h
  · cases h
  · obtain ⟨keyHead, hhead, rfl⟩ := Option.map_eq_some_iff.mp (List.mem_singleton.mp h).symm
    rw [List.head?_append, head?_of_encodeBytes hhead]
    rfl

theorem imageOf_flashPlan (address : Nat) (data : List UInt8) (addrLen sizeLen level : Nat)
    (rs : List (List UInt8)) :
    imageOf (flashPlan address data addrLen sizeLen level rs).reduceOption = data := by
  have hother : ∀ m ∈ ([some [0x10, 0x02], encodeBytes [0x27, level]] ++
      keyMessages level (rs.getD 1 []) ++
        [transferMessage 0x34 address data.length addrLen sizeLen]).reduceOption,
      m.head? ≠ some 0x36 := by
    intro m hm
    rw [List.reduceOption_mem_iff, List.mem_append, List.mem_append, List.mem_pair,
      List.mem_singleton] at hm
    rcases hm with ((hm | hm) | hm) | hm
    · cases hm
      decide
    · rw [head?_of_encodeBytes hm.symm]
      decide
    · rw [head?_of_keyMessages hm]
      decide
    · rw [head?_of_transferMessage hm.symm]
      decide
  rw [flashPlan, downloadMessages, List.append_cons, List.reduceOption_append, imageOf_append,
    imageOf_eq_nil hother, imageOf_blockMessages (chunkSizeOf_pos _), List.nil_append]

theorem length_flashPlan_le (address : Nat) (data : List UInt8) (addrLen sizeLen level : Nat)
    (rs : List (List UInt8)) :
    (flashPlan address data addrLen sizeLen level rs).length ≤ data.length + 5 := by
  have hkey : (keyMessages level (rs.getD 1 [])).length ≤ 1 := by
    unfold keyMessages
    split <;> simp
  have hcount (chunkSize : Nat) (hpos : 0 < chunkSize) :
      blockCount chunkSize data.length ≤ data.length := by
    by_contra hnot
    have hless := (lt_blockCount_iff hpos data.length data.length).mp (not_le.mp hnot)
    exact absurd (Nat.le_mul_of_pos_left data.length hpos) (not_le.mpr hless)
  rw [flashPlan, downloadMessages]
  simp only [List.length_append, List.length_cons, List.length_nil, length_blockMessages]
  have hblocks := hcount (chunkSizeOf (rs.getD (2 + (keyMessages level (rs.getD 1 [])).length) []))
    (chunkSizeOf_pos _)
  omega

/-- Whatever answers the tool: the blocks that it sends are an initial part of the image, and
all of it if the tool returns.  It sends at most five messages more than there are bytes. -/
theorem flashDownload_image {σ : Type} (transport : Transport σ) (s : σ) (address : Nat)
    (data : List UInt8) (addrLen sizeLen level : Nat) :
    imageOf (offered ((flashDownload (recorded transport) address data addrLen sizeLen level).run
        ⟨s, []⟩).2.log) <+: data ∧
      (((flashDownload (recorded transport) address data addrLen sizeLen level).run
          ⟨s, []⟩).1.isOk = true →
        imageOf (offered ((flashDownload (recorded transport) address data addrLen sizeLen
          level).run ⟨s, []⟩).2.log) = data) ∧
      (offered ((flashDownload (recorded transport) address data addrLen sizeLen level).run
        ⟨s, []⟩).2.log).length ≤ data.length + 5 := by
  have hconversation :=
    (performs_flashDownload address data addrLen sizeLen level transport).conversation s
  obtain ⟨rs, hbegun, hall⟩ := hconversation.said
    (flashPlan_settled address data addrLen sizeLen level)
  change (offered _).map some <+: _ at hbegun
  change _ → (offered _).map some = _ at hall
  have himage := imageOf_flashPlan address data addrLen sizeLen level rs
  refine ⟨?_, ?_, ?_⟩
  · have hsent := imageOf_prefix (hbegun.filterMap id)
    change imageOf (List.reduceOption _) <+: imageOf (List.reduceOption _) at hsent
    rwa [reduceOption_map_some, himage] at hsent
  · intro hok
    rw [← hall hok, reduceOption_map_some] at himage
    exact himage
  · have hlen := hbegun.length_le
    rw [List.length_map] at hlen
    exact hlen.trans (length_flashPlan_le address data addrLen sizeLen level rs)

end Uds.Tools
