import Uds.Tp.EndToEnd
import Uds.Tp.Offers
/-!
# Transfers in progress

The calls by which `uds_tp_recv` gets one PDU form a word: a Single Frame is read, or a First
Frame is read, Flow Control sent, and the Consecutive Frames are read.  No word begins
another.  Without a block size the code goes on exactly as long as its calls begin such a
word, and it returns a PDU exactly when they are one.  What `uds_tp_send` has sent at any
point begins the segmentation, and its calls are bounded.
-/

namespace Uds.Tp

open Uds.Base Uds.Can

abbrev CanEvent := Event CanFrame UdsCanError

/-! ## Words -/

/-- The frames are numbered as the first ones after a First Frame. -/
def Consecutive (cfs : List CanFrame) : Prop :=
  ∀ i, (h : i < cfs.length) → IsCf cfs[i] ((1 + i) % 16)

/-- Read a First Frame, send Flow Control, and read Consecutive Frames. -/
def heardFrames (fc ff : CanFrame) (cfs : List CanFrame) : List CanEvent :=
  .recvd (.ok ff) :: .sent fc (.ok ()) :: cfs.map fun f => .recvd (.ok f)

/-- What these frames carry of a PDU of `len` bytes. -/
def heardBytes (ff : CanFrame) (cfs : List CanFrame) (len : Nat) : List UInt8 :=
  (ff.slice 2 6 ++ cfs.flatMap fun f => f.slice 1 7).take len

/-- The calls get the PDU `p`, with `fc` for Flow Control. -/
inductive Reception (fc : CanFrame) : List CanEvent → List UInt8 → Prop where
  | single {f : CanFrame} {p : List UInt8} (h : IsSf f p) : Reception fc [.recvd (.ok f)] p
  | multi {ff : CanFrame} {len : Nat} {cfs : List CanFrame} (hff : IsFf ff len)
      (hcfs : Consecutive cfs) (hcount : cfs.length = consecutiveCount len) :
      Reception fc (heardFrames fc ff cfs) (heardBytes ff cfs len)

/-- More calls can still get a PDU. -/
def Unfinished (fc : CanFrame) (tr : List CanEvent) : Prop :=
  ∃ e more p, Reception fc (tr ++ e :: more) p

section Words

variable {fc ff : CanFrame} {cfs : List CanFrame} {len : Nat}

theorem consecutive_nil : Consecutive [] := fun _ h => absurd h (Nat.not_lt_zero _)

theorem consecutive_snoc {f : CanFrame} :
    Consecutive (cfs ++ [f]) ↔ Consecutive cfs ∧ IsCf f ((1 + cfs.length) % 16) := by
  constructor
  · intro h
    constructor
    · intro i hi
      have hbound : i < (cfs ++ [f]).length := by
        rw [List.length_append]
        omega
      have hcf := h i hbound
      rwa [List.getElem_append_left hi] at hcf
    · have hcf := h cfs.length (by simp)
      rwa [List.getElem_concat_length rfl] at hcf
  · rintro ⟨h, hf⟩ i hi
    by_cases hlt : i < cfs.length
    · rw [List.getElem_append_left hlt]
      exact h i hlt
    · rw [List.length_append, List.length_singleton] at hi
      obtain rfl : i = cfs.length := by omega
      rwa [List.getElem_concat_length rfl]

theorem exists_isCf (sn : Nat) (h : sn < 16) : ∃ f : CanFrame, IsCf f sn := by
  refine ⟨.ofBytes 0 2 (by decide) [UInt8.ofNat (0x20 + sn)], ?_, le_rfl⟩
  rw [Frame.byte_ofBytes _ _ _ (by simp) (by simp)]
  simp
  omega

theorem exists_consecutive (h : Consecutive cfs) (n : Nat) :
    ∃ more, more.length = n ∧ Consecutive (cfs ++ more) := by
  induction n with
  | zero => exact ⟨[], rfl, by simpa using h⟩
  | succ n ih =>
      obtain ⟨more, hlen, hmore⟩ := ih
      obtain ⟨f, hf⟩ := exists_isCf ((1 + (cfs ++ more).length) % 16) (Nat.mod_lt _ (by decide))
      refine ⟨more ++ [f], by simp [hlen], ?_⟩
      rw [← List.append_assoc]
      exact consecutive_snoc.mpr ⟨hmore, hf⟩

theorem heardFrames_append (cfs more : List CanFrame) :
    heardFrames fc ff (cfs ++ more) =
      heardFrames fc ff cfs ++ more.map fun f => .recvd (.ok f) := by
  simp [heardFrames]

theorem length_heardFrames : (heardFrames fc ff cfs).length = cfs.length + 2 := by
  simp [heardFrames]

theorem Reception.of_firstFrame {rest : List CanEvent} {p : List UInt8}
    (h : Reception fc (.recvd (.ok ff) :: rest) p) (hff : IsFf ff len) :
    ∃ cfs, rest = .sent fc (.ok ()) :: cfs.map (fun f => .recvd (.ok f)) ∧ Consecutive cfs ∧
      cfs.length = consecutiveCount len := by
  generalize htr : Event.recvd (.ok ff) :: rest = tr at h
  cases h with
  | single hsf =>
      obtain ⟨rfl, -⟩ : ff = _ ∧ rest = [] := by simpa using htr
      exact absurd hsf hff.not_isSf
  | @multi ff' len' cfs hff' hcfs hcount =>
      obtain ⟨rfl, hrest⟩ : ff = ff' ∧ rest = _ := by simpa [heardFrames] using htr
      obtain rfl := hff.unique hff'
      exact ⟨cfs, hrest, hcfs, hcount⟩

theorem Reception.head {e : CanEvent} {rest : List CanEvent} {p : List UInt8}
    (h : Reception fc (e :: rest) p) :
    ∃ f, e = .recvd (.ok f) ∧ ((∃ p, IsSf f p) ∨ ∃ len, IsFf f len) := by
  generalize htr : e :: rest = tr at h
  cases h with
  | single hsf => exact ⟨_, (List.cons_eq_cons.mp htr).1, Or.inl ⟨_, hsf⟩⟩
  | multi hff => exact ⟨_, (List.cons_eq_cons.mp htr).1, Or.inr ⟨_, hff⟩⟩

theorem next_of_reception {r : Except UdsCanError CanFrame} {more : List CanEvent} {p : List UInt8}
    (hff : IsFf ff len) (h : Reception fc (heardFrames fc ff cfs ++ .recvd r :: more) p) :
    ∃ f, r = .ok f ∧ IsCf f ((1 + cfs.length) % 16) := by
  obtain ⟨all, hrest, hall, -⟩ := Reception.of_firstFrame h hff
  have hmap := (List.cons_eq_cons.mp hrest).2
  obtain ⟨init, rest, rfl, hinit, hcons⟩ := List.map_eq_append_iff.mp hmap.symm
  obtain ⟨f, rest, rfl, hf, -⟩ := List.map_eq_cons_iff.mp hcons
  have hlength : init.length = cfs.length := by
    have hlen := congrArg List.length hinit
    rwa [List.length_map, List.length_map] at hlen
  have hcf : IsCf f ((1 + init.length) % 16) := by
    simpa using hall init.length (by simp)
  rw [hlength] at hcf
  exact ⟨f, (Event.recvd.inj hf).symm, hcf⟩

theorem Reception.length_le {tr : List CanEvent} {p : List UInt8} (h : Reception fc tr p) :
    tr.length ≤ 587 := by
  cases h with
  | single hsf => exact Nat.le_of_ble_eq_true rfl
  | multi hff hcfs hcount =>
      have hle := hff.le
      rw [length_heardFrames, hcount, consecutiveCount]
      omega

/-- No word begins another. -/
theorem Reception.not_unfinished {tr : List CanEvent} {p : List UInt8} (h : Reception fc tr p) :
    ¬Unfinished fc tr := by
  rintro ⟨e, more, p', h'⟩
  cases h with
  | @single f _ hsf =>
      cases h' with
      | multi hff' => exact hff'.not_isSf hsf
  | @multi ff len cfs hff hcfs hcount =>
      obtain ⟨cfs', hrest, -, hcount'⟩ := Reception.of_firstFrame h' hff
      have hlen := congrArg List.length hrest
      simp at hlen
      omega

theorem Unfinished.length_lt {tr : List CanEvent} (h : Unfinished fc tr) : tr.length < 587 := by
  obtain ⟨e, more, p, hword⟩ := h
  have hle := hword.length_le
  rw [List.length_append, List.length_cons] at hle
  omega

theorem Reception.unique {tr : List CanEvent} {p p' : List UInt8} (h : Reception fc tr p)
    (h' : Reception fc tr p') : p = p' := by
  cases h with
  | single hsf =>
      cases h' with
      | single hsf' => exact hsf.unique hsf'
  | @multi ff len cfs hff hcfs hcount =>
      generalize htr : heardFrames fc ff cfs = tr at h'
      cases h' with
      | single hsf' => cases htr
      | @multi ff' len' cfs' hff' hcfs' hcount' =>
          obtain ⟨hhead, hrest⟩ := List.cons_eq_cons.mp htr
          obtain rfl : ff = ff' := by simpa using hhead
          obtain rfl := hff.unique hff'
          have hinj : Function.Injective fun f : CanFrame => (Event.recvd (.ok f) : CanEvent) :=
            fun a b hab => by simpa using hab
          obtain rfl := hinj.list_map (List.cons_eq_cons.mp hrest).2
          rfl

theorem unfinished_nil : Unfinished fc [] := by
  have hsf : IsSf (.ofBytes 0 8 le_rfl [1, 0]) [0] :=
    ⟨by decide, by decide, by decide, by decide, by decide⟩
  exact ⟨_, [], _, .single hsf⟩

theorem unfinished_firstFrame (hff : IsFf ff len) : Unfinished fc [.recvd (.ok ff)] := by
  obtain ⟨cfs, hlen, hcfs⟩ := exists_consecutive consecutive_nil (consecutiveCount len)
  exact ⟨_, _, _, .multi hff hcfs hlen⟩

theorem unfinished_heardFrames (hff : IsFf ff len) (hcfs : Consecutive cfs)
    (hlt : cfs.length < consecutiveCount len) : Unfinished fc (heardFrames fc ff cfs) := by
  obtain ⟨more, hlen, hmore⟩ := exists_consecutive hcfs (consecutiveCount len - cfs.length)
  have hword : Reception fc (heardFrames fc ff (cfs ++ more)) _ :=
    .multi hff hmore (by rw [List.length_append]; omega)
  cases more with
  | nil =>
      rw [List.length_nil] at hlen
      omega
  | cons f more =>
      rw [heardFrames_append] at hword
      exact ⟨_, _, _, hword⟩

end Words

/-- A listener has made the calls `tr`, and got `pdu` if they are a word. -/
structure Hears (fc : CanFrame) (tr : List CanEvent) (pdu : Option (List UInt8)) : Prop where
  /-- it listens on as long as a PDU can come -/
  unfinished : ∀ pre e post, tr = pre ++ e :: post → Unfinished fc pre
  some_iff : ∀ p, pdu = some p ↔ Reception fc tr p
  /-- all that it sends is Flow Control -/
  flow : ∀ f ∈ accepted tr, f = fc

theorem Hears.length_le {fc : CanFrame} {tr : List CanEvent} {pdu : Option (List UInt8)}
    (h : Hears fc tr pdu) : tr.length ≤ 587 := by
  rcases List.eq_nil_or_concat tr with rfl | ⟨pre, e, rfl⟩
  · exact Nat.zero_le _
  · rw [List.concat_eq_append] at h ⊢
    have hlt := (h.unfinished pre e [] rfl).length_lt
    rw [List.length_append, List.length_singleton]
    omega

/-! ## The code -/

section Recv

variable (txId : UInt32) (buf : Mem UInt8) (bufSize outLen : Nat) (cfg : UdsTpConfig)

/-- Where a call of `uds_tp_recv` is after the calls `tr`. -/
inductive RecvPoint : List CanEvent → RecvProc 8 → Prop where
  | start : RecvPoint [] (udsTpRecv txId buf bufSize outLen cfg)
  | first {ff : CanFrame} {len : Nat} (hff : IsFf ff len) :
      RecvPoint [.recvd (.ok ff)] (recvMulti classic txId cfg bufSize len outLen udsTpFfDataBytes
        (buf.store 0 (ff.slice 2 6)))
  | more {ff : CanFrame} {len : Nat} {cfs : List CanFrame} (bsCount : Nat) (buf' : Mem UInt8)
      (hff : IsFf ff len) (hcfs : Consecutive cfs) (hlt : 6 + 7 * cfs.length < len)
      (hload : buf'.load 0 (6 + 7 * cfs.length) = heardBytes ff cfs len) :
      RecvPoint (heardFrames (flowControlFrame classic txId cfg) ff cfs)
        (recvLoop classic txId cfg bufSize len outLen (6 + 7 * cfs.length)
          ((1 + cfs.length) % 16) bsCount buf')
  | received {tr : List CanEvent} {res : UdsTpRecvResult} (hrc : res.rc = .ok)
      (hword : Reception (flowControlFrame classic txId cfg) tr (res.buf.load 0 res.outLen)) :
      RecvPoint tr (.ret res)
  | failed {tr : List CanEvent} {e : CanEvent} {res : UdsTpRecvResult} (hrc : res.rc ≠ .ok)
      (hpre : Unfinished (flowControlFrame classic txId cfg) tr)
      (hword : ∀ p, ¬Reception (flowControlFrame classic txId cfg) (tr ++ [e]) p)
      (hstuck : ¬Unfinished (flowControlFrame classic txId cfg) (tr ++ [e])) :
      RecvPoint (tr ++ [e]) (.ret res)

variable {txId buf bufSize outLen cfg}

theorem RecvPoint.of_dead (tr : List CanEvent) {e : CanEvent} {res : UdsTpRecvResult}
    (hrc : res.rc ≠ .ok) (hpre : Unfinished (flowControlFrame classic txId cfg) tr)
    (h : ∀ more p, ¬Reception (flowControlFrame classic txId cfg) (tr ++ e :: more) p) :
    RecvPoint txId buf bufSize outLen cfg (tr ++ [e]) (.ret res) := by
  refine .failed hrc hpre (h []) ?_
  rintro ⟨e', more, p, hword⟩
  rw [List.append_assoc] at hword
  exact h _ p hword

theorem length_consecutiveBytes (cfs : List CanFrame) :
    (cfs.flatMap fun f => f.slice 1 7).length = 7 * cfs.length := by
  induction cfs with
  | nil => rfl
  | cons f cfs ih =>
      have hf : (f.slice 1 7).length = 7 := Frame.length_slice f (by omega)
      rw [List.flatMap_cons, List.length_append, hf, ih, List.length_cons]
      omega

theorem heardBytes_snoc {ff f : CanFrame} {cfs : List CanFrame} {len chunk : Nat}
    {buf' : Mem UInt8} (hchunk : chunk = min 7 (len - (6 + 7 * cfs.length)))
    (hload : buf'.load 0 (6 + 7 * cfs.length) = heardBytes ff cfs len) :
    (buf'.store (6 + 7 * cfs.length) (f.slice 1 chunk)).load 0 (6 + 7 * cfs.length + chunk) =
      heardBytes ff (cfs ++ [f]) len := by
  have hslice : (f.slice 1 chunk).length = chunk := Frame.length_slice f (by omega)
  have hff : (ff.slice 2 6).length = 6 := Frame.length_slice ff (by omega)
  have hbytes : (ff.slice 2 6 ++ cfs.flatMap fun f => f.slice 1 7).length =
      6 + 7 * cfs.length := by
    rw [List.length_append, hff, length_consecutiveBytes]
  have hext := Mem.load_store_extend buf' (6 + 7 * cfs.length) (f.slice 1 chunk)
  rw [hslice] at hext
  rw [hext, hload, heardBytes, heardBytes, List.flatMap_append, List.flatMap_singleton,
    ← List.append_assoc]
  generalize ff.slice 2 6 ++ cfs.flatMap (fun f => f.slice 1 7) = head at hbytes
  rw [List.take_append, hbytes, Frame.take_slice, hchunk]

section Step

variable (hsize : 4095 ≤ bufSize % 2 ^ 32) (hcfg : cfg.timeoutMs ≠ 0) (hblock : cfg.blockSize = 0)

include hsize hcfg in
theorem recvPoint_start {e : CanEvent} {q : RecvProc 8}
    (h : Step (udsTpRecv txId buf bufSize outLen cfg) e q) :
    RecvPoint txId buf bufSize outLen cfg [e] q := by
  have hmod := Nat.mod_le bufSize (2 ^ 32)
  have hbuf : bufSize ≠ 0 := by omega
  rw [udsTpRecv, if_neg hbuf, if_neg hcfg, recvFrame] at h
  cases h with
  | recv k r =>
      cases r with
      | error err =>
          have hdead : ∀ more p, ¬Reception (flowControlFrame classic txId cfg)
              ([] ++ .recvd (.error err) :: more) p := by
            intro more p hword
            obtain ⟨f, hf, -⟩ := hword.head
            cases hf
          cases err with
          | errTimeout => exact .of_dead [] UdsTpError.noConfusion unfinished_nil hdead
          | _ => exact .of_dead [] UdsTpError.noConfusion unfinished_nil hdead
      | ok f =>
          change RecvPoint txId buf bufSize outLen cfg _
            (onFirstFrame txId buf bufSize outLen cfg f)
          by_cases hsf : ∃ p, IsSf f p
          · obtain ⟨p, hp⟩ := hsf
            have hle := hp.le
            rw [onFirstFrame_sf txId buf outLen cfg hp (by omega)]
            refine .received rfl ?_
            rw [Mem.load_store]
            exact .single hp
          · by_cases hff : ∃ len, IsFf f len
            · obtain ⟨len, hlen⟩ := hff
              have hle := hlen.le
              rw [onFirstFrame_ff txId buf outLen cfg hlen (by omega), if_neg (by omega)]
              exact .first hlen
            · obtain ⟨rc, hrc, hret⟩ := onFirstFrame_other txId buf outLen cfg
                (fun p hp => absurd ⟨p, hp⟩ hsf) (fun len hlen => absurd ⟨len, hlen⟩ hff)
              rw [hret]
              refine .of_dead [] hrc unfinished_nil fun more p hword => ?_
              obtain ⟨f', hf', hstarts⟩ := hword.head
              obtain rfl : f = f' := by simpa using hf'
              exact hstarts.elim hsf hff

theorem recvPoint_first {ff : CanFrame} {len : Nat} (hff : IsFf ff len) {e : CanEvent}
    {q : RecvProc 8}
    (h : Step (recvMulti classic txId cfg bufSize len outLen udsTpFfDataBytes
      (buf.store 0 (ff.slice 2 6))) e q) :
    RecvPoint txId buf bufSize outLen cfg [.recvd (.ok ff), e] q := by
  have hge := hff.ge
  rw [recvMulti, encodeFc_cts] at h
  rcases step_sendFrame h with ⟨err, rfl, rfl⟩ | ⟨rfl, rfl⟩
  · refine .of_dead [.recvd (.ok ff)] UdsTpError.noConfusion (unfinished_firstFrame hff)
      fun more p hword => ?_
    obtain ⟨cfs, hrest, -⟩ := Reception.of_firstFrame hword hff
    have hhead := (List.cons_eq_cons.mp hrest).1
    cases hhead
  · have hsix : (ff.slice 2 6).length = 6 := Frame.length_slice ff (by omega)
    have hload := Mem.load_store buf 0 (ff.slice 2 6)
    rw [hsix] at hload
    refine RecvPoint.more 0 _ hff consecutive_nil (by rw [List.length_nil]; omega) ?_
    rw [heardBytes, List.flatMap_nil, List.append_nil, List.take_of_length_le (by omega)]
    exact hload

include hsize hblock in
theorem recvPoint_more {ff : CanFrame} {len : Nat} {cfs : List CanFrame} {bsCount : Nat}
    {buf' : Mem UInt8} (hff : IsFf ff len) (hcfs : Consecutive cfs)
    (hlt : 6 + 7 * cfs.length < len)
    (hload : buf'.load 0 (6 + 7 * cfs.length) = heardBytes ff cfs len) {e : CanEvent}
    {q : RecvProc 8}
    (h : Step (recvLoop classic txId cfg bufSize len outLen (6 + 7 * cfs.length)
      ((1 + cfs.length) % 16) bsCount buf') e q) :
    RecvPoint txId buf bufSize outLen cfg
      (heardFrames (flowControlFrame classic txId cfg) ff cfs ++ [e]) q := by
  have hle := hff.le
  have hmod := Nat.mod_le bufSize (2 ^ 32)
  have hcount : consecutiveCount len = (len - 6 + 6) / 7 := rfl
  have hseven : classic.cfDataBytes = 7 := rfl
  have hroom : ¬(0 < cfg.blockSize.toNat ∧ cfg.blockSize.toNat ≤ bsCount) := by
    rw [hblock]
    exact fun hpos => absurd hpos.1 (by decide)
  obtain ⟨chunk, hchunk⟩ : ∃ chunk, chunk = min 7 (len - (6 + 7 * cfs.length)) := ⟨_, rfl⟩
  rw [recvLoop_of_room _ hlt hroom, recvFrame, hseven, ← hchunk] at h
  cases h with
  | recv k r =>
      by_cases hcf : ∃ f, r = .ok f ∧ IsCf f ((1 + cfs.length) % 16)
      · obtain ⟨f, rfl, hf⟩ := hcf
        have hnext := consecutive_snoc.mpr ⟨hcfs, hf⟩
        have hlength : (cfs ++ [f]).length = cfs.length + 1 := by simp
        have hstored := heardBytes_snoc (f := f) hchunk hload
        have hsn : ((1 + cfs.length) % 16 + 1) &&& 0x0F = (1 + (cfs ++ [f]).length) % 16 := by
          rw [and_0F, hlength]
          omega
        rw [onRecv, storeConsecutive_of_isCf classic bufSize outLen _ _ _ buf' _ (by omega)
          (by omega) (by omega) (Nat.mod_lt _ (by decide)) hf, hsn]
        have hevents : heardFrames (flowControlFrame classic txId cfg) ff cfs ++
            [.recvd (.ok f)] = heardFrames (flowControlFrame classic txId cfg) ff (cfs ++ [f]) :=
          (heardFrames_append cfs [f]).symm
        rw [hevents]
        by_cases hlast : len ≤ 6 + 7 * cfs.length + 7
        · have hend : 6 + 7 * cfs.length + chunk = len := by omega
          rw [hend] at hstored ⊢
          rw [recvLoop_of_le _ _ le_rfl]
          refine .received rfl ?_
          rw [hstored]
          exact .multi hff hnext (by omega)
        · have hreceived : 6 + 7 * cfs.length + chunk = 6 + 7 * (cfs ++ [f]).length := by omega
          rw [hreceived] at hstored ⊢
          exact .more _ _ hff hnext (by omega) hstored
      · obtain ⟨rc, buf'', hret, hrc, -⟩ := onRecv_of_not_isCf classic bufSize outLen
          (6 + 7 * cfs.length) ((1 + cfs.length) % 16) chunk buf' _ (by omega) (by omega)
          (by omega) (Nat.mod_lt _ (by decide)) hcf
        rw [hret]
        refine .of_dead _ hrc (unfinished_heardFrames hff hcfs (by omega)) fun more p hword => ?_
        exact hcf (next_of_reception hff hword)

include hsize hcfg hblock in
theorem recvPoint_of_steps {tr : List CanEvent} {q : RecvProc 8}
    (h : Steps (udsTpRecv txId buf bufSize outLen cfg) tr q) :
    RecvPoint txId buf bufSize outLen cfg tr q := by
  apply h.invariant (RecvPoint txId buf bufSize outLen cfg)
  · exact .start
  · intro tr q e q' hq hs
    cases hq with
    | start => exact recvPoint_start hsize hcfg hs
    | first hff => exact recvPoint_first hff hs
    | more bsCount buf' hff hcfs hlt hload =>
        exact recvPoint_more hsize hblock hff hcfs hlt hload hs
    | received hrc hword => cases hs
    | failed hrc hpre hword hstuck => cases hs

include hsize hcfg hblock in
theorem RecvPoint.returned {tr : List CanEvent} {res : UdsTpRecvResult}
    (h : RecvPoint txId buf bufSize outLen cfg tr (.ret res)) :
    ¬Unfinished (flowControlFrame classic txId cfg) tr ∧
      ∀ p, Reception (flowControlFrame classic txId cfg) tr p ↔
        res.rc = .ok ∧ p = res.buf.load 0 res.outLen := by
  generalize hq : Proc.ret res = q at h
  cases h with
  | start =>
      have hmod := Nat.mod_le bufSize (2 ^ 32)
      rw [udsTpRecv, if_neg (by omega), if_neg hcfg] at hq
      cases hq
  | first hff => cases hq
  | more bsCount buf' hff hcfs hlt hload =>
      have hroom : ¬(0 < cfg.blockSize.toNat ∧ cfg.blockSize.toNat ≤ bsCount) := by
        rw [hblock]
        exact fun hpos => absurd hpos.1 (by decide)
      rw [recvLoop_of_room _ hlt hroom] at hq
      cases hq
  | received hrc hword =>
      obtain rfl := Proc.ret.inj hq
      refine ⟨hword.not_unfinished, fun p => ⟨fun hp => ⟨hrc, hp.unique hword⟩, ?_⟩⟩
      rintro ⟨-, rfl⟩
      exact hword
  | failed hrc hpre hword hstuck =>
      obtain rfl := Proc.ret.inj hq
      exact ⟨hstuck, fun p => ⟨fun hp => absurd hp (hword p), fun hok => absurd hok.1 hrc⟩⟩

end Step

theorem RecvPoint.unfinished {tr : List CanEvent} {q : RecvProc 8}
    (h : RecvPoint txId buf bufSize outLen cfg tr q) (hq : ∀ res, q ≠ .ret res) :
    Unfinished (flowControlFrame classic txId cfg) tr := by
  cases h with
  | start => exact unfinished_nil
  | first hff => exact unfinished_firstFrame hff
  | more bsCount buf' hff hcfs hlt hload =>
      refine unfinished_heardFrames hff hcfs ?_
      unfold consecutiveCount
      omega
  | received hrc hword => exact absurd rfl (hq _)
  | failed hrc hpre hword hstuck => exact absurd rfl (hq _)

/-- The PDU of a call that has returned one. -/
def returnedPdu : RecvProc 8 → Option (List UInt8)
  | .ret res => if res.rc = .ok then some (res.buf.load 0 res.outLen) else none
  | _ => none

section Step

variable (hsize : 4095 ≤ bufSize % 2 ^ 32) (hcfg : cfg.timeoutMs ≠ 0) (hblock : cfg.blockSize = 0)
include hsize hcfg hblock

/-- A call that returns has come to an end of the words. -/
theorem not_unfinished_of_ret {tr : List CanEvent} {res : UdsTpRecvResult}
    (h : Steps (udsTpRecv txId buf bufSize outLen cfg) tr (.ret res)) :
    ¬Unfinished (flowControlFrame classic txId cfg) tr :=
  ((recvPoint_of_steps hsize hcfg hblock h).returned hsize hcfg hblock).1

/-- Every partial run of `uds_tp_recv`, whatever is read and whichever sends fail. -/
theorem hears_of_steps {tr : List CanEvent} {q : RecvProc 8}
    (h : Steps (udsTpRecv txId buf bufSize outLen cfg) tr q) :
    Hears (flowControlFrame classic txId cfg) tr (returnedPdu q) := by
  have hoffers : (udsTpRecv txId buf bufSize outLen cfg).Offers
      fun f => f = flowControlFrame classic txId cfg :=
    offers_udsTpRecv_of buf bufSize outLen cfg fun f hf => (Except.ok.inj hf).symm
  refine ⟨?_, ?_, h.offers hoffers⟩
  · rintro pre e post rfl
    obtain ⟨q', hpre, hrest⟩ := h.of_append
    refine (recvPoint_of_steps hsize hcfg hblock hpre).unfinished ?_
    rintro res rfl
    exact List.cons_ne_nil _ _ hrest.eq_nil_of_ret.1
  · intro p
    have hpoint := recvPoint_of_steps hsize hcfg hblock h
    cases q with
    | ret res =>
        rw [(hpoint.returned hsize hcfg hblock).2, returnedPdu]
        by_cases hrc : res.rc = .ok
        · simp [hrc, eq_comm]
        · simp [hrc]
    | send m k =>
        have hlive := hpoint.unfinished fun res hret => by cases hret
        exact ⟨fun hp => (by cases hp), fun hp => absurd hlive hp.not_unfinished⟩
    | recv k =>
        have hlive := hpoint.unfinished fun res hret => by cases hret
        exact ⟨fun hp => (by cases hp), fun hp => absurd hlive hp.not_unfinished⟩

end Step

end Recv

/-! ## Sending -/

/-- The frames of a PDU. -/
def pduFrames (txId : UInt32) (data : List UInt8) : List CanFrame :=
  if data.length ≤ udsTpSfMaxData then (udsTpEncodeSf txId data).toOption.toList
  else classicSegmentation txId data

/-- A call that can end `uds_tp_send` early: it fails, or reads no CTS. -/
def Refuses {cap : Nat} : Event (Frame cap) UdsCanError → Prop
  | .sent _ (.ok _) => False
  | .recvd (.ok fc) => ∀ bs stmin, decodeFc fc ≠ .ok (.cts, bs, stmin)
  | _ => True

/-- A call of `uds_tp_send` that has made the calls `tr`. -/
structure Replies (txId : UInt32) (data : List UInt8) (tr : List CanEvent) : Prop where
  offered_prefix : offered tr <+: pduFrames txId data
  length_le : tr.length ≤ 12 * (pduFrames txId data).length

/-- A call that is over: everything is sent, or its last call let it down. -/
def Replied (txId : UInt32) (data : List UInt8) (tr : List CanEvent) : Prop :=
  accepted tr = pduFrames txId data ∨ ∃ init e, tr = init ++ [e] ∧ Refuses e

theorem replied_nil (txId : UInt32) : Replied txId [] [] := Or.inl rfl

theorem Replies.nil (txId : UInt32) (data : List UInt8) : Replies txId data [] :=
  ⟨List.nil_prefix, Nat.zero_le _⟩

theorem ReadBudget.recvCount_le {cap : Nat} {fmt : LinkFormat cap} {data : List UInt8} {base : Nat}
    {tr : List (Event (Frame cap) UdsCanError)} {pt : SendPoint}
    (h : ReadBudget fmt data base tr pt) (hv : pt.Valid fmt data base) :
    recvCount tr ≤ 11 * fmt.cfCount base data.length := by
  cases pt with
  | start =>
      have hcount : recvCount tr = 0 := h.1
      omega
  | await i w =>
      have hcount : recvCount tr ≤ 11 * i + w := h.1
      have hi : i < fmt.cfCount base data.length := hv.1
      have hw : w ≤ 10 := hv.2
      omega
  | burst i b bs =>
      have hcount : recvCount tr ≤ 11 * (i + 1) := h.1
      have hi : i < fmt.cfCount base data.length := hv.1
      omega
  | done rc => exact h.1

/-! ### The end of a call -/

section Refuse

variable {cap : Nat} {fmt : LinkFormat cap} {txId : UInt32} {data : List UInt8} {base : Nat}
  {ff : Frame cap}

theorem step_recvFlowControl_cts {k : UdsTpFlowStatus → UInt8 → SendProc cap} {q : SendProc cap}
    {fc : Frame cap} {bs stmin : UInt8} (hfc : decodeFc fc = .ok (.cts, bs, stmin))
    (h : Step (recvFlowControl k) (.recvd (.ok fc)) q) : q = k .cts bs := by
  rw [recvFlowControl, recvFrame] at h
  cases h
  simp only [onRecv, onFlowControl, hfc]

theorem refuses_of_isWait {e : Event (Frame cap) UdsCanError} (h : isWait e = true) :
    Refuses e := by
  unfold isWait at h
  split at h
  · intro bs stmin hcts
    simp [hcts] at h
  · cases h

theorem refuses_of_step {pt : SendPoint} (hv : pt.Valid fmt data base)
    (hff : 0 < fmt.cfCount base data.length) {e : Event (Frame cap) UdsCanError} {rc : UdsTpError}
    (h : Step (pt.proc fmt txId data base ff) e (.ret rc)) (hrc : rc ≠ .ok) : Refuses e := by
  obtain ⟨pt', hret, ht⟩ := SendPoint.step_cases fmt txId data base ff hff hv h
  obtain rfl := SendPoint.eq_done fmt txId data base ff (ht.valid fmt txId data base ff hff hv) hret
  cases ht with
  | startFail err => trivial
  | abort i w r =>
      cases r with
      | error err => trivial
      | ok fc =>
          intro bs stmin hfc
          have hnext := step_recvFlowControl_cts hfc h
          rw [waitLoop, if_neg UdsTpFlowStatus.noConfusion, sendBlock_of_lt fmt txId data base 0 bs
            hv.1] at hnext
          cases hnext
  | waitLimit i w fc hwait => exact refuses_of_isWait hwait
  | frameFail i b bs err => trivial
  | frameLast => exact absurd rfl hrc

end Refuse

section Send

variable {txId : UInt32} {data : List UInt8} {cfg : UdsTpConfig}

theorem replies_of_ret {rc : UdsTpError} {tr : List CanEvent} {q : SendProc 8}
    (h : Steps (.ret rc) tr q) : Replies txId data tr := by
  rw [h.eq_nil_of_ret.1]
  exact .nil txId data

theorem replies_of_single {sf : CanFrame} (hframes : pduFrames txId data = [sf])
    {tr : List CanEvent} {q : SendProc 8}
    (h : Steps (sendFrame id (.ok sf) (.ret .ok)) tr q) : Replies txId data tr := by
  cases tr with
  | nil => exact .nil txId data
  | cons e tr =>
      obtain ⟨p', hs, hrest⟩ := h.of_cons
      have hnil : tr = [] := by
        rcases step_sendFrame hs with ⟨err, -, rfl⟩ | ⟨-, rfl⟩
        · exact hrest.eq_nil_of_ret.1
        · exact hrest.eq_nil_of_ret.1
      have hoffered : offered [e] = [sf] := by
        rcases step_sendFrame hs with ⟨err, rfl, -⟩ | ⟨rfl, -⟩
        · rfl
        · rfl
      rw [hnil]
      refine ⟨?_, ?_⟩
      · rw [hoffered, hframes]
      · rw [hframes, List.length_singleton, List.length_singleton]
        decide

theorem replies_of_multi (hge : 8 ≤ data.length) {tr : List CanEvent} {q : SendProc 8}
    (h : Steps (sendFrame id (.ok (firstFrame txId data))
      (sendLoop classic txId data udsTpFfDataBytes 1)) tr q) : Replies txId data tr := by
  have hbase : udsTpFfDataBytes < data.length := by
    unfold udsTpFfDataBytes
    omega
  have hff : 0 < classic.cfCount udsTpFfDataBytes data.length :=
    (LinkFormat.lt_cfCount_iff _ _ _ _).mpr hbase
  have hframes : pduFrames txId data = classicSegmentation txId data := by
    rw [pduFrames, if_neg]
    unfold udsTpSfMaxData
    omega
  obtain ⟨pt, -, hv, hI⟩ := sendInv_of_steps classic txId data udsTpFfDataBytes _ hff h
  have hsent := hI.offered_prefix
  have hreads := hI.budget.recvCount_le hv
  have hlen := hsent.length_le
  refine ⟨by rw [hframes]; exact hsent, ?_⟩
  rw [length_segmentation] at hlen
  rw [hframes, classicSegmentation, length_segmentation, length_eq_offered_add_recvCount]
  omega

/-- Every partial run of `uds_tp_send`, whatever is read and whichever sends fail. -/
theorem replies_of_steps (hcfg : cfg.timeoutMs ≠ 0) {tr : List CanEvent} {q : SendProc 8}
    (h : Steps (udsTpSend txId data cfg) tr q) : Replies txId data tr := by
  by_cases hlen : data.length = 0 ∨ data.length > udsTpMaxPduLen
  · rw [udsTpSend, if_pos hlen] at h
    exact replies_of_ret h
  · have hmax : data.length ≤ 4095 := Nat.not_lt.mp fun hgt => hlen (Or.inr hgt)
    by_cases hsingle : data.length ≤ 7
    · have hpos : 1 ≤ data.length := by omega
      have hshort : data.length ≤ udsTpSfMaxData := hsingle
      rw [udsTpSend_single hpos hsingle hcfg, udsTpEncodeSf_short txId hpos hsingle] at h
      refine replies_of_single ?_ h
      rw [pduFrames, if_pos hshort, udsTpEncodeSf_short txId hpos hsingle]
      rfl
    · have hge : 8 ≤ data.length := by omega
      rw [udsTpSend_multi hge hmax hcfg] at h
      exact replies_of_multi hge h

theorem replied_of_single {sf : CanFrame} (hframes : pduFrames txId data = [sf])
    {tr : List CanEvent} {rc : UdsTpError}
    (h : Steps (sendFrame id (.ok sf) (.ret .ok)) tr (.ret rc)) : Replied txId data tr := by
  cases tr with
  | nil =>
      have hret := h.of_nil
      cases hret
  | cons e tr =>
      obtain ⟨p', hs, hrest⟩ := h.of_cons
      rcases step_sendFrame hs with ⟨err, rfl, rfl⟩ | ⟨rfl, rfl⟩
      · rw [hrest.eq_nil_of_ret.1]
        exact Or.inr ⟨[], _, rfl, trivial⟩
      · rw [hrest.eq_nil_of_ret.1]
        exact Or.inl hframes.symm

theorem replied_of_multi (hge : 8 ≤ data.length) {tr : List CanEvent} {rc : UdsTpError}
    (h : Steps (sendFrame id (.ok (firstFrame txId data))
      (sendLoop classic txId data udsTpFfDataBytes 1)) tr (.ret rc)) : Replied txId data tr := by
  have hbase : udsTpFfDataBytes < data.length := by
    unfold udsTpFfDataBytes
    omega
  have hff : 0 < classic.cfCount udsTpFfDataBytes data.length :=
    (LinkFormat.lt_cfCount_iff _ _ _ _).mpr hbase
  have hlong : ¬data.length ≤ udsTpSfMaxData := by
    unfold udsTpSfMaxData
    omega
  obtain ⟨pt, hpt, hv, hI⟩ := sendInv_of_steps classic txId data udsTpFfDataBytes _ hff h
  obtain rfl := SendPoint.eq_done classic txId data udsTpFfDataBytes _ hv hpt
  by_cases hrc : rc = .ok
  · refine Or.inl ?_
    rw [pduFrames, if_neg hlong]
    exact hI.ok_iff.mp hrc
  · rcases List.eq_nil_or_concat tr with rfl | ⟨init, e, rfl⟩
    · have hret := h.of_nil
      cases hret
    · rw [List.concat_eq_append] at h ⊢
      obtain ⟨q, hinit, hlast⟩ := h.of_append
      obtain ⟨q', hs, hrest⟩ := hlast.of_cons
      obtain ⟨pt, rfl, hv, -⟩ := sendInv_of_steps classic txId data udsTpFfDataBytes _ hff hinit
      rw [← hrest.of_nil] at hs
      exact Or.inr ⟨init, e, rfl, refuses_of_step hv hff hs hrc⟩

/-- Every complete run of `uds_tp_send` with a PDU that ISO-TP can carry. -/
theorem replied_of_steps (hcfg : cfg.timeoutMs ≠ 0) (hmax : data.length ≤ 4095)
    {tr : List CanEvent} {rc : UdsTpError} (h : Steps (udsTpSend txId data cfg) tr (.ret rc)) :
    Replied txId data tr := by
  by_cases hnil : data = []
  · subst hnil
    rw [udsTpSend, if_pos (Or.inl List.length_nil)] at h
    rw [h.eq_nil_of_ret.1]
    exact replied_nil txId
  · have hpos : 1 ≤ data.length := List.length_pos_of_ne_nil hnil
    by_cases hsingle : data.length ≤ 7
    · have hshort : data.length ≤ udsTpSfMaxData := hsingle
      rw [udsTpSend_single hpos hsingle hcfg, udsTpEncodeSf_short txId hpos hsingle] at h
      refine replied_of_single ?_ h
      rw [pduFrames, if_pos hshort, udsTpEncodeSf_short txId hpos hsingle]
      rfl
    · have hge : 8 ≤ data.length := by omega
      rw [udsTpSend_multi hge hmax hcfg] at h
      exact replied_of_multi hge h

end Send

end Uds.Tp
