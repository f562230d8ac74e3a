import Uds.Tp.FirstFrames
/-!
# Where the bytes of a PDU come from

A byte of the PDU is taken from a place in the incoming frames if every other
value there turns up in its stead, and nothing else changes.  For a receiver
that stores the embedded bytes of a first frame and then the content of its
Consecutive Frames, that place is computed here, and all places lie within the
length of their frame if and only if no Consecutive Frame is shorter than what
is copied from it.
-/

namespace Uds.Tp

open Uds.Base Uds.Can

variable {cap : Nat}

/-! ## Replacing a byte -/

/-- The answers with byte `q` of frame `k` replaced. -/
def replaceByte (ins : Nat → Except UdsCanError (Frame cap)) (k q : Nat) (v : UInt8) :
    Nat → Except UdsCanError (Frame cap) :=
  fun n => if n = k then (ins n).map (·.setByte q v) else ins n

section ReplaceByte

variable (ins : Nat → Except UdsCanError (Frame cap)) (k q : Nat) (v : UInt8)

theorem replaceByte_self {f : Frame cap} (h : ins k = .ok f) :
    replaceByte ins k q v k = .ok (f.setByte q v) := by
  rw [replaceByte, if_pos rfl, h]
  rfl

theorem replaceByte_of_ne {n : Nat} (h : n ≠ k) : replaceByte ins k q v n = ins n := by
  rw [replaceByte, if_neg h]

theorem replaceByte_zero_tail :
    (fun n => replaceByte ins 0 q v (n + 1)) = fun n => ins (n + 1) := by
  funext n
  exact replaceByte_of_ne ins 0 q v (Nat.succ_ne_zero n)

theorem replaceByte_succ_tail :
    (fun n => replaceByte ins (k + 1) q v (n + 1)) = replaceByte (fun n => ins (n + 1)) k q v := by
  funext n
  unfold replaceByte
  simp only [Nat.add_right_cancel_iff]

theorem cfRun_replaceByte {sn n : Nat} (h : CfRun ins sn n) (hq : 0 < q) :
    CfRun (replaceByte ins k q v) sn n := by
  intro j hj
  obtain ⟨f, hf, hcf⟩ := h j hj
  by_cases hjk : j = k
  · subst hjk
    refine ⟨f.setByte q v, replaceByte_self ins j q v hf, ?_, hcf.dlc⟩
    rw [Frame.byte_setByte_of_ne f v (by omega)]
    exact hcf.pci
  · exact ⟨f, by rw [replaceByte_of_ne ins k q v hjk, hf], hcf⟩

end ReplaceByte

/-! ## Reading and replacing in a payload -/

section Payload

variable (fmt : LinkFormat cap)

theorem length_cfBytes (f : Frame cap) : (cfBytes fmt (.ok f)).length = fmt.cfDataBytes :=
  Frame.length_slice f (by have := fmt.cap_eq; omega)

theorem getElem?_payload {ins : Nat → Except UdsCanError (Frame cap)} {sn n i r : Nat}
    (h : CfRun ins sn n) (hi : i < n) (hr : r < fmt.cfDataBytes) {f : Frame cap}
    (hf : ins i = .ok f) :
    (payload fmt ins n)[fmt.cfDataBytes * i + r]? = some (f.byte (1 + r)) := by
  have hcap := fmt.cap_eq
  induction n generalizing ins sn i with
  | zero => omega
  | succ n ih =>
      obtain ⟨⟨f₀, hf₀, -⟩, hrest⟩ := (cfRun_succ ins sn n).mp h
      have hlen := length_cfBytes fmt f₀
      rw [payload_succ, hf₀]
      cases i with
      | zero =>
          obtain rfl : f₀ = f := Except.ok.inj (hf₀.symm.trans hf)
          rw [List.getElem?_append_left (by omega), Nat.mul_zero, Nat.zero_add]
          exact Frame.getElem?_slice f₀ hr (by omega)
      | succ i =>
          have hsplit : fmt.cfDataBytes * (i + 1) + r =
              (cfBytes fmt (.ok f₀)).length + (fmt.cfDataBytes * i + r) := by
            rw [hlen]
            ring
          rw [hsplit, List.getElem?_append_right (by omega), Nat.add_sub_cancel_left]
          exact ih hrest (by omega) hf

theorem payload_replaceByte {ins : Nat → Except UdsCanError (Frame cap)} {sn n i r : Nat}
    (h : CfRun ins sn n) (hi : i < n) (hr : r < fmt.cfDataBytes) (v : UInt8) :
    payload fmt (replaceByte ins i (1 + r) v) n =
      (payload fmt ins n).set (fmt.cfDataBytes * i + r) v := by
  induction n generalizing ins sn i with
  | zero => omega
  | succ n ih =>
      obtain ⟨⟨f, hf, -⟩, hrest⟩ := (cfRun_succ ins sn n).mp h
      have hlen := length_cfBytes fmt f
      rw [payload_succ, payload_succ, hf]
      cases i with
      | zero =>
          rw [replaceByte_self ins 0 (1 + r) v hf, replaceByte_zero_tail, Nat.mul_zero,
            Nat.zero_add, List.set_append_left _ _ (by omega)]
          congr 1
          exact Frame.slice_setByte f v 1 r fmt.cfDataBytes
      | succ i =>
          have hsplit : fmt.cfDataBytes * (i + 1) + r =
              (cfBytes fmt (.ok f)).length + (fmt.cfDataBytes * i + r) := by
            rw [hlen]
            ring
          rw [replaceByte_of_ne ins (i + 1) (1 + r) v (Nat.succ_ne_zero i).symm, hf,
            replaceByte_succ_tail, ih hrest (by omega), hsplit,
            List.set_append_right _ _ (by omega), Nat.add_sub_cancel_left]

end Payload

/-! ## Replacing a byte of a transfer -/

variable {fmt : LinkFormat cap} {Lays : Frame cap → PduLayout → Prop}
  {ins : Nat → Except UdsCanError (Frame cap)} {outs : Nat → Except UdsCanError Unit}
  {f : Frame cap} {L : PduLayout} {i r : Nat}

variable (fmt ins L) in
/-- Some Consecutive Frame is shorter than what the receiver copies from it. -/
def HasShortFrame : Prop :=
  ∃ i < fmt.cfCount L.embed L.len, ∃ cf, ins (i + 1) = .ok cf ∧
    cf.len < 1 + min fmt.cfDataBytes (L.len - fmt.offset L.embed i)

namespace Reassembly

variable (h : Reassembly fmt Lays ins outs f L)
include h

theorem replace_first (hfirst : FirstFrames Lays) {q : Nat} (hq : L.header ≤ q) (v : UInt8) :
    Reassembly fmt Lays (replaceByte ins 0 q v) outs (f.setByte q v) L where
  first := replaceByte_self ins 0 q v h.first
  lays := hfirst.stable v h.lays hq
  cfs := by
    rw [replaceByte_zero_tail]
    exact h.cfs
  sent := h.sent

theorem replace_rest (k : Nat) {q : Nat} (hq : 0 < q) (v : UInt8) :
    Reassembly fmt Lays (replaceByte ins (k + 1) q v) outs f L where
  first := by
    rw [replaceByte_of_ne ins (k + 1) q v (Nat.succ_ne_zero k).symm]
    exact h.first
  lays := h.lays
  cfs := by
    rw [replaceByte_succ_tail]
    exact cfRun_replaceByte _ k q v h.cfs hq
  sent := h.sent

theorem getElem?_reassembled (hfirst : FirstFrames Lays) (hi : i < fmt.cfCount L.embed L.len)
    (hr : r < fmt.cfDataBytes) (hlt : fmt.offset L.embed i + r < L.len) {cf : Frame cap}
    (hcf : ins (i + 1) = .ok cf) :
    (reassembled fmt ins f L)[fmt.offset L.embed i + r]? = some (cf.byte (1 + r)) := by
  have hlen := hfirst.length_slice h.lays
  have hpos : fmt.offset L.embed i + r =
      (f.slice L.header L.embed).length + (fmt.cfDataBytes * i + r) := by
    rw [hlen]
    unfold LinkFormat.offset
    omega
  rw [reassembled, List.getElem?_take_of_lt hlt, hpos, List.getElem?_append_right (by omega),
    Nat.add_sub_cancel_left]
  exact getElem?_payload fmt h.cfs hi hr hcf

theorem reassembled_replace_first (hfirst : FirstFrames Lays) (hi : i < L.embed) (v : UInt8) :
    reassembled fmt (replaceByte ins 0 (L.header + i) v) (f.setByte (L.header + i) v) L =
      (reassembled fmt ins f L).set i v := by
  have hlen := hfirst.length_slice h.lays
  unfold reassembled
  rw [replaceByte_zero_tail, Frame.slice_setByte, ← List.take_set,
    List.set_append_left _ _ (by omega)]

theorem reassembled_replace_rest (hfirst : FirstFrames Lays)
    (hi : i < fmt.cfCount L.embed L.len) (hr : r < fmt.cfDataBytes) (v : UInt8) :
    reassembled fmt (replaceByte ins (i + 1) (1 + r) v) f L =
      (reassembled fmt ins f L).set (fmt.offset L.embed i + r) v := by
  have hlen := hfirst.length_slice h.lays
  have hpos : fmt.offset L.embed i + r =
      (f.slice L.header L.embed).length + (fmt.cfDataBytes * i + r) := by
    rw [hlen]
    unfold LinkFormat.offset
    omega
  unfold reassembled
  rw [replaceByte_succ_tail, payload_replaceByte fmt h.cfs hi hr, hpos, ← List.take_set,
    List.set_append_right _ _ (by omega), Nat.add_sub_cancel_left]

end Reassembly

/-! ## Provenance -/

section Provenance

variable (recv : (Nat → Except UdsCanError (Frame cap)) → UdsTpRecvResult)

/-- Byte `j` of the PDU is taken from byte `q` of frame `k`: any other value there
turns up in its stead, and nothing else changes. -/
def TakenFrom (ins : Nat → Except UdsCanError (Frame cap)) (j k q : Nat) : Prop :=
  ∀ v, (recv (replaceByte ins k q v)).rc = .ok ∧
    (recv (replaceByte ins k q v)).pdu = (recv ins).pdu.set j v

/-- Every byte of a returned PDU is taken from within the length of its frame. -/
def Carried (ins : Nat → Except UdsCanError (Frame cap)) : Prop :=
  (recv ins).rc = .ok → ∀ j < (recv ins).pdu.length,
    ∃ k q f, ins k = .ok f ∧ q < f.len ∧ TakenFrom recv ins j k q

variable {recv} (hrecv : Reassembles fmt Lays outs recv) (hfirst : FirstFrames Lays)
  (h : Reassembly fmt Lays ins outs f L)
include hrecv hfirst h

theorem takenFrom_embedded (hi : i < L.embed) :
    TakenFrom recv ins i 0 (L.header + i) := by
  intro v
  have h' := h.replace_first hfirst (Nat.le_add_right L.header i) v
  refine ⟨(hrecv.ok_iff _).mpr ⟨_, _, h'⟩, ?_⟩
  rw [hrecv.pdu_eq h', hrecv.pdu_eq h]
  exact h.reassembled_replace_first hfirst hi v

theorem takenFrom_consecutive (hi : i < fmt.cfCount L.embed L.len) (hr : r < fmt.cfDataBytes) :
    TakenFrom recv ins (fmt.offset L.embed i + r) (i + 1) (1 + r) := by
  intro v
  have h' := h.replace_rest i (show 0 < 1 + r by omega) v
  refine ⟨(hrecv.ok_iff _).mpr ⟨_, _, h'⟩, ?_⟩
  rw [hrecv.pdu_eq h', hrecv.pdu_eq h]
  exact h.reassembled_replace_rest hfirst hi hr v

theorem carried_of_not_short (hshort : ¬HasShortFrame fmt ins L) : Carried recv ins := by
  intro _ j hj
  rw [hrecv.pdu_length h] at hj
  by_cases hembed : j < L.embed
  · exact ⟨0, L.header + j, f, h.first, hfirst.embedded h.lays hembed,
      takenFrom_embedded hrecv hfirst h hembed⟩
  · have hpos : 0 < fmt.cfDataBytes := by
      have := fmt.cfDataBytes_pos
      omega
    have hsplit : fmt.offset L.embed ((j - L.embed) / fmt.cfDataBytes) +
        (j - L.embed) % fmt.cfDataBytes = j := by
      have hdiv := Nat.div_add_mod (j - L.embed) fmt.cfDataBytes
      unfold LinkFormat.offset
      omega
    have hr : (j - L.embed) % fmt.cfDataBytes < fmt.cfDataBytes := Nat.mod_lt _ hpos
    have hi : (j - L.embed) / fmt.cfDataBytes < fmt.cfCount L.embed L.len :=
      (fmt.lt_cfCount_iff L.embed L.len _).mpr (by omega)
    obtain ⟨cf, hcf, -⟩ := h.cfs _ hi
    have hlong : ¬cf.len < 1 + min fmt.cfDataBytes
        (L.len - fmt.offset L.embed ((j - L.embed) / fmt.cfDataBytes)) :=
      fun hlt => hshort ⟨_, hi, cf, hcf, hlt⟩
    have htaken := takenFrom_consecutive hrecv hfirst h hi hr
    rw [hsplit] at htaken
    exact ⟨_, _, cf, hcf, by omega, htaken⟩

theorem getElem?_pdu (hi : i < fmt.cfCount L.embed L.len) (hr : r < fmt.cfDataBytes)
    (hlt : fmt.offset L.embed i + r < L.len) {cf : Frame cap} (hcf : ins (i + 1) = .ok cf) :
    (recv ins).pdu[fmt.offset L.embed i + r]? = some (cf.byte (1 + r)) := by
  rw [hrecv.pdu_eq h]
  exact h.getElem?_reassembled hfirst hi hr hlt hcf

theorem not_takenFrom_header {j q : Nat} (hq : q < L.header) : ¬TakenFrom recv ins j 0 q := by
  intro htaken
  obtain ⟨v, hv⟩ := hfirst.header h.lays hq
  obtain ⟨hok, hpdu⟩ := htaken v
  obtain ⟨f', L', h'⟩ := (hrecv.ok_iff _).mp hok
  have hf' : f' = f.setByte q v :=
    Except.ok.inj (h'.first.symm.trans (replaceByte_self ins 0 q v h.first))
  have hlen := congrArg List.length hpdu
  rw [List.length_set, hrecv.pdu_length h, hrecv.pdu_length h'] at hlen
  rw [hf'] at h'
  exact hv L' h'.lays hlen

omit h in
theorem not_taken_of_kept {ins' : Nat → Except UdsCanError (Frame cap)} {f' : Frame cap}
    (h : Reassembly fmt Lays ins outs f L) (h' : Reassembly fmt Lays ins' outs f' L)
    (hi : i < fmt.cfCount L.embed L.len) (hr : r < fmt.cfDataBytes)
    (hlt : fmt.offset L.embed i + r < L.len) {cf cf' : Frame cap} (hcf : ins (i + 1) = .ok cf)
    (hcf' : ins' (i + 1) = .ok cf') (hkept : cf'.byte (1 + r) = cf.byte (1 + r)) {v : UInt8}
    (hv : v ≠ cf.byte (1 + r)) :
    (recv ins').pdu ≠ (recv ins).pdu.set (fmt.offset L.embed i + r) v := by
  intro hpdu
  have hold := getElem?_pdu hrecv hfirst h hi hr hlt hcf
  have hnew := getElem?_pdu hrecv hfirst h' hi hr hlt hcf'
  have hbound : fmt.offset L.embed i + r < (recv ins).pdu.length :=
    (List.getElem?_eq_some_iff.mp hold).1
  rw [hpdu, List.getElem?_set_self hbound, hkept] at hnew
  exact hv (Option.some.inj hnew)

theorem not_takenFrom {cf : Frame cap} (hi : i < fmt.cfCount L.embed L.len)
    (hcf : ins (i + 1) = .ok cf)
    (hshort : cf.len < 1 + min fmt.cfDataBytes (L.len - fmt.offset L.embed i)) {k q : Nat}
    {g : Frame cap} (hg : ins k = .ok g) (hq : q < g.len) :
    ¬TakenFrom recv ins (fmt.offset L.embed i + (cf.len - 1)) k q := by
  have hdlc : 2 ≤ cf.len := by
    obtain ⟨cf', hcf', hisCf⟩ := h.cfs i hi
    obtain rfl : cf = cf' := Except.ok.inj (hcf.symm.trans hcf')
    exact hisCf.dlc
  have hr : cf.len - 1 < fmt.cfDataBytes := by omega
  have hlt : fmt.offset L.embed i + (cf.len - 1) < L.len := by omega
  have hv : cf.byte (1 + (cf.len - 1)) + 1 ≠ cf.byte (1 + (cf.len - 1)) := by
    intro heq
    exact absurd (UInt8.add_eq_left.mp heq) (by decide)
  cases k with
  | zero =>
      by_cases hheader : q < L.header
      · exact not_takenFrom_header hrecv hfirst h hheader
      · intro htaken
        have h' := h.replace_first hfirst (Nat.not_lt.mp hheader) (cf.byte (1 + (cf.len - 1)) + 1)
        have hcf' : replaceByte ins 0 q (cf.byte (1 + (cf.len - 1)) + 1) (i + 1) = .ok cf := by
          rw [replaceByte_of_ne ins 0 q _ (Nat.succ_ne_zero i), hcf]
        exact not_taken_of_kept hrecv hfirst h h' hi hr hlt hcf hcf' rfl hv (htaken _).2
  | succ m =>
      intro htaken
      obtain ⟨hok, hpdu⟩ := htaken (cf.byte (1 + (cf.len - 1)) + 1)
      obtain ⟨f', L', h'⟩ := (hrecv.ok_iff _).mp hok
      have hfirst' := h'.first
      rw [replaceByte_of_ne ins (m + 1) q _ (Nat.succ_ne_zero m).symm, h.first] at hfirst'
      obtain rfl : f = f' := Except.ok.inj hfirst'
      obtain rfl : L = L' := hfirst.unique h.lays h'.lays
      by_cases him : i = m
      · subst him
        obtain rfl : cf = g := Except.ok.inj (hcf.symm.trans hg)
        refine not_taken_of_kept hrecv hfirst h h' hi hr hlt hcf
          (replaceByte_self ins (i + 1) q _ hcf) ?_ hv hpdu
        exact Frame.byte_setByte_of_ne cf _ (by omega)
      · have hcf' : replaceByte ins (m + 1) q (cf.byte (1 + (cf.len - 1)) + 1) (i + 1) =
            .ok cf := by
          rw [replaceByte_of_ne ins (m + 1) q _ (by omega), hcf]
        exact not_taken_of_kept hrecv hfirst h h' hi hr hlt hcf hcf' rfl hv hpdu

theorem not_carried (hshort : HasShortFrame fmt ins L) : ¬Carried recv ins := by
  obtain ⟨i, hi, cf, hcf, hlt⟩ := hshort
  intro hcarried
  have hj : fmt.offset L.embed i + (cf.len - 1) < (recv ins).pdu.length := by
    have hstart := (fmt.lt_cfCount_iff L.embed L.len i).mp hi
    rw [hrecv.pdu_length h]
    omega
  obtain ⟨k, q, g, hg, hq, htaken⟩ := hcarried ((hrecv.ok_iff ins).mpr ⟨f, L, h⟩) _ hj
  exact not_takenFrom hrecv hfirst h hi hcf hlt hg hq htaken

end Provenance

variable (fmt Lays ins outs) in
/-- A complete transfer in which a Consecutive Frame is too short. -/
def ShortTransfer : Prop :=
  ∃ f L, Reassembly fmt Lays ins outs f L ∧ HasShortFrame fmt ins L

theorem carried_iff {recv : (Nat → Except UdsCanError (Frame cap)) → UdsTpRecvResult}
    (hrecv : Reassembles fmt Lays outs recv) (hfirst : FirstFrames Lays) :
    Carried recv ins ↔ ¬ShortTransfer fmt Lays ins outs := by
  constructor
  · rintro hcarried ⟨f, L, h, hshort⟩
    exact not_carried hrecv hfirst h hshort hcarried
  · intro hshort hok
    obtain ⟨f, L, h⟩ := (hrecv.ok_iff ins).mp hok
    exact carried_of_not_short hrecv hfirst h (fun hlt => hshort ⟨f, L, h, hlt⟩) hok

/-! ## The two receivers -/

theorem not_shortTransfer_zero {cfg : UdsTpConfig} {ins : Nat → Except UdsCanError CanFrame} :
    ¬ShortTransfer classic (ClassicLayout 0 cfg) ins outs := by
  rintro ⟨f, L, h, -⟩
  cases h.lays with
  | single hsf =>
      cases hsf
      omega
  | multi hmulti =>
      cases hmulti with
      | ff hff hfit =>
          have hge := hff.ge
          omega

theorem not_shortTransfer_zero_fd {cfg : UdsTpConfig}
    {ins : Nat → Except UdsCanError CanFdFrame} :
    ¬ShortTransfer canFd (FdLayout 0 cfg) ins outs := by
  rintro ⟨f, L, h, -⟩
  cases h.lays with
  | single hsf => cases hsf <;> omega
  | multi hff => cases hff <;> omega

/-- The bytes that a receiver returns were all carried on the bus if and only if
the transfer has no Consecutive Frame that is shorter than what is copied from
it. -/
theorem recv_carried_iff (txId : UInt32) (buf : Mem UInt8) (bufSize outLen : Nat)
    (cfg : UdsTpConfig) (outs : Nat → Except UdsCanError Unit)
    (ins : Nat → Except UdsCanError CanFrame) (insFd : Nat → Except UdsCanError CanFdFrame) :
    (Carried (fun ins => ((udsTpRecv txId buf bufSize outLen cfg).exec ins outs).2) ins ↔
      cfg.timeoutMs = 0 ∨ ¬ShortTransfer classic (ClassicLayout bufSize cfg) ins outs) ∧
    (Carried (fun ins => ((udsTpRecvFd txId buf bufSize outLen cfg).exec ins outs).2) insFd ↔
      cfg.timeoutMs = 0 ∨ ¬ShortTransfer canFd (FdLayout bufSize cfg) insFd outs) := by
  by_cases hcfg : cfg.timeoutMs = 0
  · constructor
    · refine iff_of_true (fun hok => ?_) (Or.inl hcfg)
      rw [udsTpRecv, if_pos hcfg, ite_self] at hok
      cases hok
    · refine iff_of_true (fun hok => ?_) (Or.inl hcfg)
      rw [udsTpRecvFd, if_pos hcfg, ite_self] at hok
      cases hok
  · rw [or_iff_right hcfg, or_iff_right hcfg]
    by_cases hbuf : bufSize = 0
    · subst hbuf
      constructor
      · refine iff_of_true (fun hok => ?_) not_shortTransfer_zero
        rw [udsTpRecv, if_pos rfl] at hok
        cases hok
      · refine iff_of_true (fun hok => ?_) not_shortTransfer_zero_fd
        rw [udsTpRecvFd, if_pos rfl] at hok
        cases hok
    · exact ⟨carried_iff (udsTpRecv_reassembles cfg hcfg hbuf) firstFrames_classic,
        carried_iff (udsTpRecvFd_reassembles cfg hcfg hbuf) firstFrames_fd⟩

/-- A PDU of eight bytes whose Consecutive Frame carries the seventh only. -/
def shortEight : Nat → Except UdsCanError CanFrame
  | 0 => .ok (.ofBytes 0x7E0 8 Frame.le_classic [0x10, 8, 1, 2, 3, 4, 5, 6])
  | _ => .ok (.ofBytes 0x7E0 2 (by decide) [0x21, 7])

theorem recv_shortEight :
    ¬Carried (fun ins => ((udsTpRecv 0x7E8 (fun _ => 0) 4095 0 ⟨1000, 0, 0⟩).exec ins
      fun _ => .ok ()).2) shortEight := by
  have hff : IsFf (.ofBytes 0x7E0 8 le_rfl [0x10, 8, 1, 2, 3, 4, 5, 6]) 8 :=
    ⟨by decide, by decide, by decide, by decide, rfl⟩
  have hcfs : CfRun (fun n => shortEight (n + 1)) 1 (classic.cfCount 6 8) := by
    intro j hj
    have hone : classic.cfCount 6 8 = 1 := by decide
    obtain rfl : j = 0 := by omega
    exact ⟨_, rfl, by decide, by decide⟩
  have h : Reassembly classic (ClassicLayout 4095 ⟨1000, 0, 0⟩) shortEight (fun _ => .ok ()) _ _ :=
    ⟨rfl, .multi (.ff hff (by decide)), hcfs, fun _ _ => rfl⟩
  apply not_carried (udsTpRecv_reassembles ⟨1000, 0, 0⟩ (by decide) (by decide))
    firstFrames_classic h
  exact ⟨0, by decide, _, rfl, by decide⟩

end Uds.Tp
