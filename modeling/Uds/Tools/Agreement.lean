import Uds.Tools.Reception
import Uds.Tp.RecvGrammar
/-!
# The two classic receivers on the same frames

`IsoTpTransport.recv` and `uds_tp_recv` read the same frames.  The C receiver
checks every length a frame declares against the frame; the Python receiver takes
what is there, so a frame that is too short, too long or empty separates them.
`SameReading` is the condition on lengths, numbers and declared length under
which they agree all the same.
-/

namespace Uds.Tools

open Uds.Base Uds.Can Uds.Tp

/-! ## Reading by length -/

/-- The first frames that are not empty and are numbered from `k` on. -/
def inSequence : Nat → List CanFrame → List CanFrame
  | _, [] => []
  | k, f :: frames =>
    if 1 ≤ f.len ∧ (f.byte 0).toNat = 0x20 + k % 16 then f :: inSequence (k + 1) frames else []

/-- The frame after these, if there is one. -/
def afterSequence : Nat → List CanFrame → Option CanFrame
  | _, [] => none
  | k, f :: frames =>
    if 1 ≤ f.len ∧ (f.byte 0).toNat = 0x20 + k % 16 then afterSequence (k + 1) frames else some f

/-- How many bytes of content the frames hold, by their lengths. -/
def held (frames : List CanFrame) : Nat := (frames.map fun f => f.len - 1).sum

/-- The content of the frames, from each as much as its length allows. -/
def carried (frames : List CanFrame) : List UInt8 := frames.flatMap fun f => (msgData f).drop 1

/-- The content of the first `n` frames, seven bytes from each. -/
def copied (frames : List CanFrame) (n : Nat) : List UInt8 :=
  (frames.take n).flatMap fun f => f.slice 1 7

/-- Byte `p` of the content, if each frame gives as many as `share` says. -/
def byteAt (share : CanFrame → Nat) : List CanFrame → Nat → UInt8
  | [], _ => 0
  | f :: frames, p => if p < share f then f.byte (1 + p) else byteAt share frames (p - share f)

/-- As long as bytes are missing, each frame is as long as it has to be. -/
def Full : Nat → List CanFrame → Prop
  | _, [] => True
  | need, f :: frames => 0 < need → 1 + min 7 need ≤ f.len ∧ Full (need - 7) frames

instance decidableFull : ∀ need frames, Decidable (Full need frames)
  | _, [] => isTrue trivial
  | need, f :: frames =>
    have := decidableFull (need - 7) frames
    inferInstanceAs (Decidable (0 < need → 1 + min 7 need ≤ f.len ∧ Full (need - 7) frames))

theorem held_cons (f : CanFrame) (frames : List CanFrame) :
    held (f :: frames) = f.len - 1 + held frames := by
  rw [held, List.map_cons, List.sum_cons, held]

theorem carried_cons (f : CanFrame) (frames : List CanFrame) :
    carried (f :: frames) = (msgData f).drop 1 ++ carried frames := rfl

theorem copied_succ (f : CanFrame) (frames : List CanFrame) (n : Nat) :
    copied (f :: frames) (n + 1) = f.slice 1 7 ++ copied frames n := rfl

theorem getElem?_shares {share : CanFrame → Nat} (hshare : ∀ f, share f ≤ 7)
    (frames : List CanFrame) {n p : Nat} (hp : p < ((frames.take n).map share).sum) :
    ((frames.take n).flatMap fun f => f.slice 1 (share f))[p]? = some (byteAt share frames p) := by
  induction frames generalizing n p with
  | nil =>
      rw [List.take_nil] at hp
      exact absurd hp (Nat.not_lt_zero p)
  | cons f frames ih =>
      cases n with
      | zero => exact absurd hp (Nat.not_lt_zero p)
      | succ n =>
          have hle := hshare f
          have hlen : (f.slice 1 (share f)).length = share f := Frame.length_slice f (by omega)
          rw [List.take_succ_cons, List.map_cons, List.sum_cons] at hp
          rw [List.take_succ_cons, List.flatMap_cons, byteAt]
          by_cases hfirst : p < share f
          · rw [if_pos hfirst, List.getElem?_append_left (by omega)]
            exact Frame.getElem?_slice f hfirst (by omega)
          · rw [if_neg hfirst, List.getElem?_append_right (by omega), hlen]
            exact ih (by omega)

theorem carried_eq_shares (frames : List CanFrame) :
    carried frames = frames.flatMap fun f => f.slice 1 (f.len - 1) := by
  unfold carried
  congr 1
  funext f
  rw [msgData, List.drop_take, Frame.slice]

/-- Reading by length and seven bytes from each frame, place by place. -/
theorem take_carried_eq_iff {frames : List CanFrame} {need n : Nat} (hheld : need ≤ held frames)
    (hneed : need ≤ 7 * n) (hn : n ≤ frames.length) :
    (carried frames).take need = (copied frames n).take need ↔
      ∀ p < need, byteAt (fun f => f.len - 1) frames p = byteAt (fun _ => 7) frames p := by
  have hcarried (p : Nat) (hp : p < need) :
      (carried frames)[p]? = some (byteAt (fun f => f.len - 1) frames p) := by
    have hall : frames.take frames.length = frames := List.take_length
    have hshare (f : CanFrame) : f.len - 1 ≤ 7 := Nat.sub_le_of_le_add f.len_le
    rw [carried_eq_shares, ← getElem?_shares hshare frames (hall.symm ▸ hp.trans_le hheld), hall]
  have hcopied (p : Nat) (hp : p < need) :
      (copied frames n)[p]? = some (byteAt (fun _ => 7) frames p) := by
    apply getElem?_shares (fun _ => le_rfl)
    rw [List.map_const', List.sum_replicate_nat, List.length_take, Nat.min_eq_left hn]
    omega
  constructor
  · intro h p hp
    have hat := congrArg (·[p]?) h
    simp only [List.getElem?_take_of_lt hp, hcarried p hp, hcopied p hp] at hat
    exact Option.some.inj hat
  · intro h
    apply List.ext_getElem?
    intro p
    by_cases hp : p < need
    · rw [List.getElem?_take_of_lt hp, List.getElem?_take_of_lt hp, hcarried p hp, hcopied p hp,
        h p hp]
    · rw [List.getElem?_take_eq_none (Nat.not_lt.mp hp),
        List.getElem?_take_eq_none (Nat.not_lt.mp hp)]

theorem length_msgData (f : CanFrame) : (msgData f).length = f.len := by
  have hsize := f.size_eq
  have hle := f.len_le
  rw [msgData, List.length_take]
  omega

theorem held_le (frames : List CanFrame) : held frames ≤ 7 * frames.length := by
  induction frames with
  | nil => exact Nat.le_refl 0
  | cons f frames ih =>
      have hle := f.len_le
      rw [held_cons, List.length_cons]
      omega

section Sequence

variable {f : CanFrame} (frames : List CanFrame) {k : Nat}

theorem inSequence_of_numbered (hlen : 1 ≤ f.len) (hpci : (f.byte 0).toNat = 0x20 + k % 16) :
    inSequence k (f :: frames) = f :: inSequence (k + 1) frames ∧
      afterSequence k (f :: frames) = afterSequence (k + 1) frames :=
  ⟨if_pos ⟨hlen, hpci⟩, if_pos ⟨hlen, hpci⟩⟩

theorem inSequence_of_other (h : ¬(1 ≤ f.len ∧ (f.byte 0).toNat = 0x20 + k % 16)) :
    inSequence k (f :: frames) = [] ∧ afterSequence k (f :: frames) = some f :=
  ⟨if_neg h, if_neg h⟩

end Sequence

/-- The first `n` frames are Consecutive Frames that the C receiver takes, numbered from `k` on. -/
def Numbered (frames : List CanFrame) (k n : Nat) : Prop :=
  ∀ j < n, ∃ f, frames[j]? = some f ∧ 2 ≤ f.len ∧ (f.byte 0).toNat = 0x20 + (k + j) % 16

theorem numbered_succ (f : CanFrame) (frames : List CanFrame) (k n : Nat) :
    Numbered (f :: frames) k (n + 1) ↔
      (2 ≤ f.len ∧ (f.byte 0).toNat = 0x20 + k % 16) ∧ Numbered frames (k + 1) n := by
  constructor
  · intro h
    obtain ⟨f', hf, hfirst⟩ := h 0 (Nat.succ_pos n)
    obtain rfl : f = f' := by simpa using hf
    refine ⟨hfirst, fun j hj => ?_⟩
    rw [show k + 1 + j = k + (j + 1) by omega]
    exact h (j + 1) (by omega)
  · rintro ⟨hfirst, hrest⟩ j hj
    cases j with
    | zero => exact ⟨f, rfl, hfirst⟩
    | succ j =>
        rw [show k + (j + 1) = k + 1 + j by omega]
        exact hrest j (by omega)

theorem not_numbered_nil {k n : Nat} (hn : n ≠ 0) : ¬Numbered [] k n := by
  intro h
  obtain ⟨f, hf, -⟩ := h 0 (Nat.pos_of_ne_zero hn)
  cases hf

/-- There are `n` frames, of two bytes at least. -/
def Complete (frames : List CanFrame) (n : Nat) : Prop :=
  n ≤ frames.length ∧ ∀ f ∈ frames.take n, 2 ≤ f.len

theorem complete_cons (f : CanFrame) (frames : List CanFrame) (n : Nat) :
    Complete (f :: frames) (n + 1) ↔ 2 ≤ f.len ∧ Complete frames n := by
  unfold Complete
  rw [List.take_succ_cons, List.forall_mem_cons, List.length_cons, Nat.add_le_add_iff_right]
  exact and_left_comm

theorem numbered_iff_complete (frames : List CanFrame) (k n : Nat) :
    Numbered frames k n ↔ Complete (inSequence k frames) n := by
  induction n generalizing k frames with
  | zero => exact iff_of_true (fun _ h => absurd h (Nat.not_lt_zero _)) ⟨Nat.zero_le _, by simp⟩
  | succ n ih =>
      cases frames with
      | nil =>
          exact iff_of_false (not_numbered_nil (Nat.succ_ne_zero n)) fun h =>
            absurd h.1 (Nat.not_succ_le_zero n)
      | cons f frames =>
          rw [numbered_succ]
          by_cases hseq : 1 ≤ f.len ∧ (f.byte 0).toNat = 0x20 + k % 16
          · rw [(inSequence_of_numbered frames hseq.1 hseq.2).1, complete_cons, ih,
              and_iff_left hseq.2]
          · rw [(inSequence_of_other frames hseq).1]
            refine iff_of_false ?_ fun h => absurd h.1 (Nat.not_succ_le_zero n)
            rintro ⟨⟨hlen, hpci⟩, -⟩
            exact hseq ⟨by omega, hpci⟩

theorem copied_inSequence {frames : List CanFrame} {k n : Nat}
    (h : Complete (inSequence k frames) n) : copied (inSequence k frames) n = copied frames n := by
  induction n generalizing k frames with
  | zero => rfl
  | succ n ih =>
      cases frames with
      | nil => exact absurd h.1 (Nat.not_succ_le_zero n)
      | cons f frames =>
          by_cases hseq : 1 ≤ f.len ∧ (f.byte 0).toNat = 0x20 + k % 16
          · rw [(inSequence_of_numbered frames hseq.1 hseq.2).1] at h ⊢
            rw [copied_succ, copied_succ, ih ((complete_cons f _ n).mp h).2]
          · rw [(inSequence_of_other frames hseq).1] at h
            exact absurd h.1 (Nat.not_succ_le_zero n)

theorem Full.same {need : Nat} {frames : List CanFrame} (h : Full need frames)
    (hcount : (need + 6) / 7 ≤ frames.length) :
    need ≤ held frames ∧ Complete frames ((need + 6) / 7) ∧
      (carried frames).take need = (copied frames ((need + 6) / 7)).take need := by
  induction frames generalizing need with
  | nil =>
      rw [List.length_nil] at hcount
      obtain rfl : need = 0 := by omega
      exact ⟨Nat.zero_le _, ⟨Nat.le_refl 0, by simp⟩, rfl⟩
  | cons f frames ih =>
      rcases Nat.eq_zero_or_pos need with rfl | hpos
      · exact ⟨Nat.zero_le _, ⟨Nat.zero_le _, by simp⟩, by rw [List.take_zero, List.take_zero]⟩
      · obtain ⟨hlen, hrest⟩ := h hpos
        have hle := f.len_le
        have hsize := f.size_eq
        have hslice : (f.slice 1 7).length = 7 := Frame.length_slice f (by omega)
        have hdrop : (msgData f).drop 1 = (f.slice 1 7).take (f.len - 1) := by
          rw [msgData, Frame.slice, List.drop_take, List.take_take, Nat.min_eq_left (by omega)]
        rw [List.length_cons] at hcount
        rw [held_cons, carried_cons, hdrop]
        by_cases hmore : 7 < need
        · have hn : (need + 6) / 7 = (need - 7 + 6) / 7 + 1 := by omega
          obtain ⟨hheld, hcomplete, hsame⟩ := ih hrest (by omega)
          have hwhole : (f.slice 1 7).take (f.len - 1) = f.slice 1 7 :=
            List.take_of_length_le (by omega)
          rw [hn, complete_cons, copied_succ, hwhole, List.take_append, List.take_append, hslice,
            hsame]
          exact ⟨by omega, ⟨by omega, hcomplete⟩, rfl⟩
        · have hn : (need + 6) / 7 = 0 + 1 := by omega
          have hlast : ((f.slice 1 7).take (f.len - 1)).length = f.len - 1 := by
            rw [List.length_take, hslice]
            omega
          rw [hn, complete_cons, copied_succ, List.take_append_of_le_length (by omega),
            List.take_append_of_le_length (by omega), List.take_take, Nat.min_eq_left (by omega)]
          exact ⟨by omega, ⟨by omega, Nat.zero_le _, by simp⟩, rfl⟩

/-! ## The loop -/

/-- The exceptions that `recv` declares. -/
def Declared (e : PyError) : Prop := e = .udsTimeoutError ∨ ∃ message, e = .udsProtocolError message

/-- An empty frame comes where frame `k` or a later one is awaited. -/
def StopsEmpty (frames : List CanFrame) (k : Nat) : Prop :=
  ∃ f, afterSequence k frames = some f ∧ f.len = 0

/-- How the loop ends that has `buf` and awaits frame `k`. -/
inductive LoopOutcome (frames : List CanFrame) (k total : Nat) (buf : List UInt8) :
    Except PyError (List UInt8) → Prop
  | filled : total - buf.length ≤ held (inSequence k frames) →
      LoopOutcome frames k total buf (.ok ((buf ++ carried (inSequence k frames)).take total))
  | stumbled : held (inSequence k frames) < total - buf.length → StopsEmpty frames k →
      LoopOutcome frames k total buf (.error .indexError)
  | failed {e : PyError} : Declared e → held (inSequence k frames) < total - buf.length →
      ¬StopsEmpty frames k → LoopOutcome frames k total buf (.error e)

theorem pciType_eq (b : UInt8) : pciType b = b.toNat / 16 := high_nibble b

theorem msgData_nil {f : CanFrame} (h : f.len = 0) : msgData f = [] := by
  rw [msgData, h, List.take_zero]

theorem msgData_cons {f : CanFrame} (h : 1 ≤ f.len) :
    msgData f = f.byte 0 :: (msgData f).drop 1 := by
  have hsize := f.size_eq
  have hpos : 0 < (msgData f).length := by
    rw [length_msgData]
    omega
  have hhead : (msgData f)[0] = f.byte 0 := by
    simp only [msgData, List.getElem_take]
    rw [Frame.byte, List.getD_eq_getElem?_getD, List.getElem?_eq_getElem (by omega),
      Option.getD_some]
  rw [← hhead, ← List.drop_eq_getElem_cons hpos, List.drop_zero]

/-- Whatever `recv` appends of a frame, the bytes beyond the declared length are
cut off in the end. -/
theorem take_append_content (buf content rest : List UInt8) {total : Nat}
    (hcontent : content.length ≤ 7) :
    ((buf ++ content.take (min 7 (total - buf.length))) ++ rest).take total =
      (buf ++ (content ++ rest)).take total := by
  have hright : (buf ++ (content ++ rest)).take total =
      buf.take total ++ (content ++ rest).take (total - buf.length) := List.take_append
  rw [hright, List.append_assoc, List.take_append]
  congr 1
  by_cases hall : content.length ≤ total - buf.length
  · rw [List.take_of_length_le (l := content) (by omega)]
  · have hmin : min 7 (total - buf.length) = total - buf.length := by omega
    have hlen : (content.take (total - buf.length)).length = total - buf.length := by
      rw [List.length_take]
      omega
    rw [hmin, List.take_append_of_le_length (by omega), List.take_append_of_le_length (by omega),
      List.take_take, Nat.min_self]

section Loop

variable {tp : IsoTpTransport} {total : Nat}

theorem loopOutcome_of_mismatch {f : CanFrame} {frames : List CanFrame} {k : Nat}
    {buf : List UInt8} {e : PyError} (hbuf : buf.length < total) (hlen : 1 ≤ f.len)
    (hpci : (f.byte 0).toNat ≠ 0x20 + k % 16) (he : Declared e) :
    LoopOutcome (f :: frames) k total buf (.error e) := by
  obtain ⟨hnone, hafter⟩ := inSequence_of_other frames (fun h => hpci h.2)
  apply LoopOutcome.failed he
  · rw [hnone]
    exact Nat.sub_pos_of_lt hbuf
  · rintro ⟨g, hg, hempty⟩
    obtain rfl : f = g := Option.some.inj (hafter.symm.trans hg)
    omega

theorem loopOutcome_of_empty {f : CanFrame} {frames : List CanFrame} {k : Nat}
    {buf : List UInt8} (hbuf : buf.length < total) (hempty : f.len = 0) :
    LoopOutcome (f :: frames) k total buf (.error .indexError) := by
  obtain ⟨hnone, hafter⟩ := inSequence_of_other frames
    (show ¬(1 ≤ f.len ∧ (f.byte 0).toNat = 0x20 + k % 16) from fun h => by omega)
  refine .stumbled ?_ ⟨f, hafter, hempty⟩
  rw [hnone]
  exact Nat.sub_pos_of_lt hbuf

theorem LoopOutcome.cons {f : CanFrame} {frames : List CanFrame} {k : Nat} {buf : List UInt8}
    {r : Except PyError (List UInt8)} (hbuf : buf.length < total) (hlen : 1 ≤ f.len)
    (hpci : (f.byte 0).toNat = 0x20 + k % 16)
    (h : LoopOutcome frames (k + 1) total
      (buf ++ ((msgData f).drop 1).take (min 7 (total - buf.length))) r) :
    LoopOutcome (f :: frames) k total buf r := by
  have hle := f.len_le
  have hcontent : ((msgData f).drop 1).length = f.len - 1 := by
    rw [List.length_drop, length_msgData]
  have hneed : total - (buf ++ ((msgData f).drop 1).take (min 7 (total - buf.length))).length =
      total - buf.length - (f.len - 1) := by
    rw [List.length_append, List.length_take, hcontent]
    omega
  obtain ⟨hnext, hafter⟩ := inSequence_of_numbered frames hlen hpci
  have hheld : held (inSequence k (f :: frames)) =
      f.len - 1 + held (inSequence (k + 1) frames) := by
    rw [hnext, held_cons]
  have hstops : StopsEmpty (f :: frames) k ↔ StopsEmpty frames (k + 1) := by
    rw [StopsEmpty, hafter, StopsEmpty]
  cases h with
  | filled hfills =>
      rw [take_append_content _ _ _ (by omega), ← carried_cons, ← hnext]
      exact .filled (by omega)
  | stumbled hless hstumbles => exact .stumbled (by omega) (hstops.mpr hstumbles)
  | failed he hless hstumbles => exact .failed he (by omega) (mt hstops.mp hstumbles)

theorem loopOutcome_of_le (frames : List CanFrame) (k : Nat) {buf : List UInt8}
    (h : total ≤ buf.length) : LoopOutcome frames k total buf (.ok (buf.take total)) := by
  have hfilled : LoopOutcome frames k total buf _ :=
    .filled (show total - buf.length ≤ _ by omega)
  rwa [List.take_append_of_le_length h] at hfilled

theorem loopOutcome_nil (k : Nat) {buf : List UInt8} (h : buf.length < total) :
    LoopOutcome [] k total buf (.error .udsTimeoutError) := by
  refine .failed (Or.inl rfl) (Nat.sub_pos_of_lt h) ?_
  rintro ⟨f, hf, -⟩
  cases hf

theorem onConsecutive_cases (fmt : LinkFormat 8) (k : Nat) (buf : List UInt8)
    (next : List UInt8 → PyRecv 8) {f : CanFrame} (hlen : 1 ≤ f.len) :
    ((f.byte 0).toNat = 0x20 + k % 16 ∧
        onConsecutive fmt total (k % 16) buf next (some (msgData f)) =
          next (buf ++ ((msgData f).drop 1).take (min fmt.cfDataBytes (total - buf.length)))) ∨
      ((f.byte 0).toNat ≠ 0x20 + k % 16 ∧ ∃ e, Declared e ∧
        onConsecutive fmt total (k % 16) buf next (some (msgData f)) = raiseError e) := by
  rw [msgData_cons hlen]
  unfold onConsecutive
  simp only [pciType_eq, and_0F, List.drop_succ_cons, List.drop_zero]
  by_cases htype : (f.byte 0).toNat / 16 = 2
  · rw [if_neg (not_not_intro htype)]
    by_cases hsn : (f.byte 0).toNat % 16 = k % 16
    · rw [if_neg (not_not_intro hsn)]
      exact Or.inl ⟨by omega, rfl⟩
    · rw [if_pos hsn]
      exact Or.inr ⟨by omega, _, Or.inr ⟨_, rfl⟩, rfl⟩
  · rw [if_pos htype]
    exact Or.inr ⟨by omega, _, Or.inr ⟨_, rfl⟩, rfl⟩

theorem recvLoop_outcome_cons {f : CanFrame} (frames : List CanFrame) {polls : Nat}
    (hid : f.canId = tp.rxId) (k : Nat) {buf : List UInt8} (hbuf : buf.length < total)
    (ih : ∀ k buf, LoopOutcome frames k total buf
      ((tp.recvLoop classic total polls (k % 16) buf).feed frames)) :
    LoopOutcome (f :: frames) k total buf
      ((tp.recvLoop classic total (polls + 1) (k % 16) buf).feed (f :: frames)) := by
  have hsn : (k % 16 + 1) &&& 0x0F = (k + 1) % 16 := by
    rw [and_0F]
    omega
  rw [tp.recvLoop_of_lt classic polls _ hbuf, tp.feed_awaitFrame hid, hsn]
  by_cases hzero : f.len = 0
  · rw [msgData_nil hzero]
    exact loopOutcome_of_empty hbuf hzero
  · have hlen : 1 ≤ f.len := Nat.pos_of_ne_zero hzero
    rcases onConsecutive_cases classic k buf
        (fun buf => tp.recvLoop classic total polls ((k + 1) % 16) buf) hlen with
      ⟨hpci, heq⟩ | ⟨hpci, e, he, heq⟩
    · rw [heq]
      exact LoopOutcome.cons hbuf hlen hpci (ih (k + 1) _)
    · rw [heq]
      exact loopOutcome_of_mismatch hbuf hlen hpci he

theorem recvLoop_outcome (frames : List CanFrame) {polls : Nat} (hpolls : frames.length ≤ polls)
    (hids : ∀ f ∈ frames, f.canId = tp.rxId) (k : Nat) (buf : List UInt8) :
    LoopOutcome frames k total buf
      ((tp.recvLoop classic total polls (k % 16) buf).feed frames) := by
  -- induction on the frames still to come
  induction frames generalizing polls k buf with
  | nil =>
      by_cases hbuf : buf.length < total
      · cases polls with
        | zero =>
            rw [IsoTpTransport.recvLoop, if_pos hbuf]
            exact loopOutcome_nil k hbuf
        | succ polls =>
            rw [tp.recvLoop_of_lt classic polls _ hbuf]
            exact loopOutcome_nil k hbuf
      · rw [tp.recvLoop_of_le classic polls _ (Nat.not_lt.mp hbuf)]
        exact loopOutcome_of_le [] k (Nat.not_lt.mp hbuf)
  | cons f frames ih =>
      obtain ⟨polls, rfl⟩ : ∃ n, polls = n + 1 := Nat.exists_eq_succ_of_ne_zero (by
        rw [List.length_cons] at hpolls
        omega)
      have hid : f.canId = tp.rxId := hids f List.mem_cons_self
      by_cases hbuf : buf.length < total
      · apply recvLoop_outcome_cons frames hid k hbuf
        exact fun k buf => ih (by simpa using hpolls)
          (fun g hg => hids g (List.mem_cons_of_mem f hg)) k buf
      · rw [tp.recvLoop_of_le classic (polls + 1) _ (Nat.not_lt.mp hbuf)]
        exact loopOutcome_of_le (f :: frames) k (Nat.not_lt.mp hbuf)

end Loop

/-! ## The frames on which they agree -/

/-- The length that a First Frame declares. -/
def declared (f : CanFrame) : Nat := (f.byte 0).toNat % 16 * 256 + (f.byte 1).toNat

/-- What is still to come after a First Frame, by its length. -/
def missing (f : CanFrame) : Nat := declared f - (f.len - 2)

/-- How many Consecutive Frames a First Frame of eight bytes announces. -/
def announced (f : CanFrame) : Nat := consecutiveCount (declared f)

/-- A First Frame of eight bytes that declares at least as many. -/
def Proper (f : CanFrame) : Prop := f.len = 8 ∧ 8 ≤ declared f

instance (f : CanFrame) : Decidable (Proper f) :=
  inferInstanceAs (Decidable (f.len = 8 ∧ 8 ≤ declared f))

/-- As many numbered frames follow a proper First Frame as it announces. -/
def Followed (f : CanFrame) (frames : List CanFrame) : Prop :=
  Proper f ∧ announced f ≤ (inSequence 1 frames).length

instance (f : CanFrame) (frames : List CanFrame) : Decidable (Followed f frames) :=
  inferInstanceAs (Decidable (Proper f ∧ _ ≤ _))

/-- Nothing in the frames after a First Frame tells the two ways of reading apart.  An empty frame
does as long as bytes are missing.  A First Frame that is not proper, or a frame of one byte among
those that a proper one announces, does once none is missing.  A frame that is shorter than it has
to be does in any case, unless every byte is what its place in frames of full length holds. -/
@[mk_iff]
structure SameTransfer (f : CanFrame) (frames : List CanFrame) : Prop where
  dlc : 2 ≤ f.len
  nonempty : held (inSequence 1 frames) < missing f →
    ∀ g ∈ afterSequence 1 frames, g.len ≠ 0
  improper : ¬Proper f → held (inSequence 1 frames) < missing f
  oneByte : Followed f frames → (∃ g ∈ (inSequence 1 frames).take (announced f), g.len < 2) →
    held (inSequence 1 frames) < missing f
  short : Followed f frames → (∀ g ∈ (inSequence 1 frames).take (announced f), 2 ≤ g.len) →
    ¬Full (missing f) (inSequence 1 frames) →
      missing f ≤ held (inSequence 1 frames) ∧ ∀ p < missing f,
        byteAt (fun g => g.len - 1) (inSequence 1 frames) p =
          byteAt (fun _ => 7) (inSequence 1 frames) p

instance (f : CanFrame) (frames : List CanFrame) : Decidable (SameTransfer f frames) :=
  decidable_of_iff _ (sameTransfer_iff f frames).symm

/-- Nothing in the frames tells the two receivers apart. -/
def SameReading : List CanFrame → Prop
  | [] => True
  | f :: rest => f.len ≠ 0 ∧
    ((f.byte 0).toNat / 16 = 0 →
      1 ≤ (f.byte 0).toNat ∧ (f.byte 0).toNat ≤ 7 ∧ 1 + (f.byte 0).toNat ≤ f.len) ∧
    ((f.byte 0).toNat / 16 = 1 → SameTransfer f rest)

instance : DecidablePred SameReading
  | [] => isTrue trivial
  | f :: rest => inferInstanceAs
    (Decidable (f.len ≠ 0 ∧ (_ → _ ∧ _ ∧ _) ∧ (_ → SameTransfer f rest)))

/-- The frames that the C receiver takes after a First Frame. -/
def WellFormed (f : CanFrame) (frames : List CanFrame) : Prop :=
  Proper f ∧ Complete (inSequence 1 frames) (announced f)

/-! ## The C receiver -/

/-- The frames arrive, and then nothing more. -/
def arriving (frames : List CanFrame) (n : Nat) : Except UdsCanError CanFrame :=
  match frames[n]? with
  | some f => .ok f
  | none => .error .errTimeout

theorem arriving_eq_ok {frames : List CanFrame} {n : Nat} {f : CanFrame} :
    arriving frames n = .ok f ↔ frames[n]? = some f := by
  unfold arriving
  cases frames[n]? with
  | none => simp
  | some g => simp

theorem cfRun_arriving (frames : List CanFrame) (k n : Nat) :
    CfRun (arriving frames) k n ↔ Numbered frames k n := by
  constructor
  · intro h j hj
    obtain ⟨f, hf, hcf⟩ := h j hj
    exact ⟨f, arriving_eq_ok.mp hf, hcf.dlc, hcf.pci⟩
  · intro h j hj
    obtain ⟨f, hf, hlen, hpci⟩ := h j hj
    exact ⟨f, arriving_eq_ok.mpr hf, hpci, hlen⟩

theorem payload_arriving {frames : List CanFrame} {k n : Nat} (h : Numbered frames k n) :
    payload classic (arriving frames) n = copied frames n := by
  induction frames generalizing k n with
  | nil =>
      cases n with
      | zero => rfl
      | succ n => exact absurd h (not_numbered_nil (Nat.succ_ne_zero n))
  | cons f frames ih =>
      cases n with
      | zero => rfl
      | succ n =>
          have hrest := ih ((numbered_succ f frames k n).mp h).2
          rw [payload_succ]
          exact congrArg (f.slice 1 7 ++ ·) hrest

section CSide

variable {f : CanFrame} {rest : List CanFrame} {cfg : UdsTpConfig}

theorem isFf_iff (hpci : (f.byte 0).toNat / 16 = 1) (len : Nat) :
    IsFf f len ↔ f.len = 8 ∧ 8 ≤ declared f ∧ len = declared f := by
  have hlow := (f.byte 1).toNat_lt
  unfold declared
  constructor
  · intro h
    have hfirst := h.pci
    have hsecond := h.low
    have hge := h.ge
    exact ⟨h.dlc, by omega, by omega⟩
  · rintro ⟨hdlc, hge, rfl⟩
    exact ⟨hge, by omega, by omega, by omega, hdlc⟩

theorem accepts_of_sf (hpci : (f.byte 0).toNat / 16 = 0) (p : List UInt8) :
    Accepts (arriving (f :: rest)) (fun _ => .ok ()) 4095 cfg p ↔ IsSf f p := by
  constructor
  · rintro (⟨g, hg, hsf, -⟩ | ⟨ff, len, hm, -⟩)
    · obtain rfl : f = g := Except.ok.inj hg
      exact hsf
    · obtain rfl : f = ff := Except.ok.inj hm.first
      have hfirst := hm.isFf.pci
      omega
  · intro hsf
    have hle := hsf.le
    exact Or.inl ⟨f, rfl, hsf, by omega⟩

theorem accepts_of_ff (hpci : (f.byte 0).toNat / 16 = 1) (p : List UInt8) :
    Accepts (arriving (f :: rest)) (fun _ => .ok ()) 4095 cfg p ↔
      WellFormed f rest ∧
        p = (f.slice 2 6 ++ copied rest (announced f)).take (declared f) := by
  constructor
  · rintro (⟨g, hg, hsf, -⟩ | ⟨ff, len, hm, hp⟩)
    · obtain rfl : f = g := Except.ok.inj hg
      have hfirst := hsf.pci
      have hle := hsf.le
      omega
    · obtain rfl : f = ff := Except.ok.inj hm.first
      obtain ⟨hdlc, hge, rfl⟩ := (isFf_iff hpci len).mp hm.isFf
      have hcfs := (cfRun_arriving rest 1 _).mp hm.cfs
      refine ⟨⟨⟨hdlc, hge⟩, (numbered_iff_complete rest 1 _).mp hcfs⟩, ?_⟩
      rw [hp, announced, ← payload_arriving hcfs]
      rfl
  · rintro ⟨⟨⟨hdlc, hge⟩, hcomplete⟩, hp⟩
    have hff := (isFf_iff hpci (declared f)).mpr ⟨hdlc, hge, rfl⟩
    have hcfs := (numbered_iff_complete rest 1 _).mpr hcomplete
    refine Or.inr ⟨f, declared f, ⟨rfl, hff, hff.le, ?_, fun _ _ => rfl⟩, ?_⟩
    · exact (cfRun_arriving rest 1 _).mpr hcfs
    · rw [hp, ← payload_arriving hcfs]
      rfl

theorem not_accepts_of_other (hpci : 2 ≤ (f.byte 0).toNat / 16) (p : List UInt8) :
    ¬Accepts (arriving (f :: rest)) (fun _ => .ok ()) 4095 cfg p := by
  rintro (⟨g, hg, hsf, -⟩ | ⟨ff, len, hm, -⟩)
  · obtain rfl : f = g := Except.ok.inj hg
    have hfirst := hsf.pci
    have hle := hsf.le
    omega
  · obtain rfl : f = ff := Except.ok.inj hm.first
    have hfirst := hm.isFf.pci
    have hle := hm.isFf.le
    omega

end CSide

/-! ## The Python receiver -/

section First

variable (tp : IsoTpTransport) {f : CanFrame}

theorem feed_recv_nil : tp.recv.feed [] = .error .udsTimeoutError := by
  unfold IsoTpTransport.recv
  cases tp.polls with
  | zero => rfl
  | succ polls => rfl

variable {tp} in
theorem feed_recv_cons {polls : Nat} (hpolls : tp.polls = polls + 1) (hid : f.canId = tp.rxId)
    (rest : List CanFrame) :
    tp.recv.feed (f :: rest) = (IsoTpTransport.onFirstFrame false (tp.recvMultiClassic · polls)
      (some (msgData f))).feed rest := by
  rw [IsoTpTransport.recv, hpolls]
  exact tp.feed_awaitFrame hid _ rest

variable (multi : List UInt8 → PyRecv 8)

theorem IsoTpTransport.onFirstFrame_sf (hlen : 1 ≤ f.len) (hpci : (f.byte 0).toNat / 16 = 0) :
    IsoTpTransport.onFirstFrame false multi (some (msgData f)) =
      .ret (.ok (((msgData f).drop 1).take (f.byte 0).toNat)) := by
  have hmod : (f.byte 0).toNat % 16 = (f.byte 0).toNat := Nat.mod_eq_of_lt (by omega)
  rw [msgData_cons hlen]
  simp only [IsoTpTransport.onFirstFrame, pciType_eq, if_pos hpci, decodeSf, List.getD_cons_zero,
    and_0F, hmod, List.drop_succ_cons, List.drop_zero]
  rw [if_neg (fun h => Bool.noConfusion h.1)]

theorem IsoTpTransport.onFirstFrame_ff (hlen : 1 ≤ f.len) (hpci : (f.byte 0).toNat / 16 = 1) :
    IsoTpTransport.onFirstFrame false multi (some (msgData f)) = multi (msgData f) := by
  rw [msgData_cons hlen]
  simp only [IsoTpTransport.onFirstFrame, pciType_eq, hpci]
  rw [if_neg (by decide), if_pos trivial]

theorem IsoTpTransport.onFirstFrame_other (hlen : 1 ≤ f.len) (hpci : 2 ≤ (f.byte 0).toNat / 16) :
    ∃ e, Declared e ∧
      IsoTpTransport.onFirstFrame false multi (some (msgData f)) = raiseError e := by
  rw [msgData_cons hlen]
  simp only [IsoTpTransport.onFirstFrame, pciType_eq]
  rw [if_neg (by omega), if_neg (by omega)]
  exact ⟨_, Or.inr ⟨_, rfl⟩, rfl⟩

theorem recvMultiClassic_short (hlen : f.len = 1) (polls : Nat) :
    tp.recvMultiClassic (msgData f) polls = raiseError .indexError := by
  have hnil : (msgData f).drop 1 = [] := by
    rw [List.drop_eq_nil_iff, length_msgData, hlen]
  rw [msgData_cons (by omega), hnil]
  rfl

theorem msgData_cons_cons (h : 2 ≤ f.len) :
    msgData f = f.byte 0 :: f.byte 1 :: (msgData f).drop 2 := by
  have hsize := f.size_eq
  have hle := f.len_le
  have hpos : 1 < (msgData f).length := by
    rw [length_msgData]
    omega
  have hsecond : (msgData f)[1] = f.byte 1 := by
    simp only [msgData, List.getElem_take]
    rw [Frame.byte, List.getD_eq_getElem?_getD, List.getElem?_eq_getElem (by omega),
      Option.getD_some]
  have hdrop := List.drop_eq_getElem_cons hpos
  rw [hsecond] at hdrop
  rw [← hdrop]
  exact msgData_cons (by omega)

theorem recvMultiClassic_eq (hlen : 2 ≤ f.len) (polls : Nat) (rest : List CanFrame) :
    (tp.recvMultiClassic (msgData f) polls).feed rest =
      (tp.recvLoop classic (declared f) polls (1 % 16) ((msgData f).drop 2)).feed rest := by
  have hle := f.len_le
  have htake : ((msgData f).drop 2).take 6 = (msgData f).drop 2 := by
    apply List.take_of_length_le
    rw [List.length_drop, length_msgData]
    omega
  have htotal : ((f.byte 0).toNat &&& 0x0F) <<< 8 ||| (f.byte 1).toNat = declared f := by
    rw [and_0F, shl_or _ _ 8 (f.byte 1).toNat_lt]
    rfl
  rw [msgData_cons_cons hlen]
  simp only [IsoTpTransport.recvMultiClassic, IsoTpTransport.recvMulti, Agent.feed_send, htotal,
    htake, List.drop_succ_cons, List.drop_zero]

end First

/-! ## Agreement -/

/-- A call of `uds_tp_recv` has returned `UDS_TP_OK` with `p`. -/
def Returned (res : UdsTpRecvResult) (p : List UInt8) : Prop :=
  res.rc = .ok ∧ res.outLen = p.length ∧ res.buf.load 0 p.length = p

/-- One side returns `p` if and only if the other does, and otherwise raises an
exception that it declares. -/
def AgreesWith (py : Except PyError (List UInt8)) (c : List UInt8 → Prop) : Prop :=
  (∀ p, py = .ok p ↔ c p) ∧ ∀ e, py = .error e → Declared e

/-- `IsoTpTransport.recv` and `uds_tp_recv` agree on the frames. -/
def Agrees (tp : IsoTpTransport) (txId : UInt32) (buf : Mem UInt8) (outLen : Nat)
    (cfg : UdsTpConfig) (frames : List CanFrame) : Prop :=
  AgreesWith (tp.recv.feed frames)
    (Returned ((udsTpRecv txId buf 4095 outLen cfg).exec (arriving frames) fun _ => .ok ()).2)

section AgreesWith

variable {c : List UInt8 → Prop} {p : List UInt8} {e : PyError}

theorem agreesWith_ok_iff : AgreesWith (.ok p) c ↔ ∀ q, c q ↔ q = p := by
  constructor
  · rintro ⟨h, -⟩ q
    rw [← h q, Except.ok.injEq, eq_comm]
  · intro h
    constructor
    · intro q
      rw [h q, Except.ok.injEq, eq_comm]
    · intro e he
      cases he

theorem agreesWith_error_iff (he : Declared e) : AgreesWith (.error e) c ↔ ∀ q, ¬c q := by
  constructor
  · rintro ⟨h, -⟩ q hq
    cases (h q).mpr hq
  · intro h
    constructor
    · intro q
      exact iff_of_false (by simp) (h q)
    · intro e' he'
      rw [← Except.error.inj he']
      exact he

theorem agreesWith_congr {py : Except PyError (List UInt8)} {c' : List UInt8 → Prop}
    (h : ∀ q, c q ↔ c' q) : AgreesWith py c ↔ AgreesWith py c' := by
  unfold AgreesWith
  simp only [h]

theorem not_agreesWith_indexError : ¬AgreesWith (.error .indexError) c := by
  rintro ⟨-, h⟩
  rcases h _ rfl with hindex | ⟨message, hindex⟩
  · cases hindex
  · cases hindex

end AgreesWith

theorem isSf_iff_eq {f : CanFrame} :
    (∀ p, IsSf f p ↔ p = ((msgData f).drop 1).take (f.byte 0).toNat) ↔
      1 ≤ (f.byte 0).toNat ∧ (f.byte 0).toNat ≤ 7 ∧ 1 + (f.byte 0).toNat ≤ f.len := by
  have hle := f.len_le
  constructor
  · intro h
    have hsf := (h _).mpr rfl
    have hfirst := hsf.pci
    have hpos := hsf.pos
    have hseven := hsf.le
    have hdlc := hsf.dlc
    omega
  · rintro ⟨hpos, hseven, hdlc⟩ p
    have hslice : ((msgData f).drop 1).take (f.byte 0).toNat = f.slice 1 (f.byte 0).toNat := by
      rw [msgData, List.drop_take, List.take_take, Nat.min_eq_left (by omega), Frame.slice]
    rw [hslice]
    constructor
    · intro hsf
      rw [hsf.pci]
      exact hsf.payload.symm
    · rintro rfl
      have hlen : (f.slice 1 (f.byte 0).toNat).length = (f.byte 0).toNat :=
        Frame.length_slice f (by omega)
      exact ⟨by omega, by omega, hlen.symm, by omega, by rw [hlen]⟩

section Transfer

variable {f : CanFrame} {rest : List CanFrame}

theorem missing_of_proper (h : Proper f) : missing f + 6 = declared f := by
  have hge := h.2
  rw [missing, h.1]
  omega

theorem announced_eq (h : Proper f) : announced f = (missing f + 6) / 7 := by
  have hmissing := missing_of_proper h
  have hge := h.2
  rw [announced, consecutiveCount]
  omega

theorem eq_payload_iff (h : Proper f) (x : List UInt8) :
    ((msgData f).drop 2 ++ x).take (declared f) =
        (f.slice 2 6 ++ copied rest (announced f)).take (declared f) ↔
      x.take (missing f) = (copied rest (announced f)).take (missing f) := by
  have hmissing := missing_of_proper h
  have hslice : (msgData f).drop 2 = f.slice 2 6 := by
    rw [msgData, h.1, List.drop_take]
    rfl
  have hsix : (f.slice 2 6).length = 6 := Frame.length_slice f (by omega)
  have hhead : (f.slice 2 6).take (declared f) = f.slice 2 6 :=
    List.take_of_length_le (by omega)
  have hrest : declared f - 6 = missing f := by omega
  rw [hslice, List.take_append, List.take_append, hsix, hhead, hrest, List.append_cancel_left_eq]

/-- The frames hold the missing bytes exactly if the C receiver takes them, and
the same bytes then. -/
structure SameContent (f : CanFrame) (frames : List CanFrame) : Prop where
  fills_iff : missing f ≤ held (inSequence 1 frames) ↔ WellFormed f frames
  content : WellFormed f frames → (carried (inSequence 1 frames)).take (missing f) =
    (copied frames (announced f)).take (missing f)

theorem held_lt_missing (h : Proper f) (hfew : (inSequence 1 rest).length < announced f) :
    held (inSequence 1 rest) < missing f := by
  have hle := held_le (inSequence 1 rest)
  rw [announced_eq h] at hfew
  omega

theorem Full.sameContent (h : Proper f) (hcount : announced f ≤ (inSequence 1 rest).length)
    (hfull : Full (missing f) (inSequence 1 rest)) : SameContent f rest := by
  obtain ⟨hheld, hcomplete, hsame⟩ := hfull.same (announced_eq h ▸ hcount)
  rw [← announced_eq h] at hcomplete hsame
  rw [copied_inSequence hcomplete] at hsame
  exact ⟨iff_of_true hheld ⟨h, hcomplete⟩, fun _ => hsame⟩

/-- The bytes of a well-formed transfer, place by place. -/
theorem WellFormed.sameBytes_iff (h : WellFormed f rest)
    (hheld : missing f ≤ held (inSequence 1 rest)) :
    (carried (inSequence 1 rest)).take (missing f) =
        (copied rest (announced f)).take (missing f) ↔
      ∀ p < missing f, byteAt (fun g => g.len - 1) (inSequence 1 rest) p =
        byteAt (fun _ => 7) (inSequence 1 rest) p := by
  have hcount := announced_eq h.1
  rw [← copied_inSequence h.2]
  exact take_carried_eq_iff hheld (by omega) h.2.1

theorem sameContent_of_lt (hless : held (inSequence 1 rest) < missing f)
    (hnot : ¬WellFormed f rest) : SameContent f rest :=
  ⟨iff_of_false (Nat.not_le.mpr hless) hnot, fun h => absurd h hnot⟩

theorem SameTransfer.sameContent (h : SameTransfer f rest) : SameContent f rest := by
  by_cases hproper : Proper f
  · by_cases hcount : announced f ≤ (inSequence 1 rest).length
    · by_cases hone : ∀ g ∈ (inSequence 1 rest).take (announced f), 2 ≤ g.len
      · by_cases hfull : Full (missing f) (inSequence 1 rest)
        · exact hfull.sameContent hproper hcount
        · obtain ⟨hheld, hsame⟩ := h.short ⟨hproper, hcount⟩ hone hfull
          have hwell : WellFormed f rest := ⟨hproper, hcount, hone⟩
          exact ⟨iff_of_true hheld hwell, fun _ => (hwell.sameBytes_iff hheld).mpr hsame⟩
      · have hless := h.oneByte ⟨hproper, hcount⟩ (by
          simpa only [not_forall, exists_prop, Nat.not_le] using hone)
        exact sameContent_of_lt hless fun hwell => hone hwell.2.2
    · exact sameContent_of_lt (held_lt_missing hproper (Nat.not_le.mp hcount)) fun hwell =>
        hcount hwell.2.1
  · exact sameContent_of_lt (h.improper hproper) fun hwell => hproper hwell.1

theorem SameContent.sameTransfer (h : SameContent f rest) (hlen : 2 ≤ f.len)
    (hempty : held (inSequence 1 rest) < missing f → ¬StopsEmpty rest 1) :
    SameTransfer f rest where
  dlc := hlen
  nonempty hless g hg hzero := hempty hless ⟨g, hg, hzero⟩
  improper hproper := Nat.not_le.mp fun hheld => hproper (h.fills_iff.mp hheld).1
  oneByte := by
    rintro - ⟨g, hg, hone⟩
    refine Nat.not_le.mp fun hheld => ?_
    exact absurd ((h.fills_iff.mp hheld).2.2 g hg) (Nat.not_le.mpr hone)
  short := by
    rintro ⟨hproper, hcount⟩ hone -
    have hwell : WellFormed f rest := ⟨hproper, hcount, hone⟩
    have hheld := h.fills_iff.mpr hwell
    exact ⟨hheld, (hwell.sameBytes_iff hheld).mp (h.content hwell)⟩

theorem agreesWith_iff_sameTransfer (hlen : 2 ≤ f.len)
    {r : Except PyError (List UInt8)}
    (h : LoopOutcome rest 1 (declared f) ((msgData f).drop 2) r) :
    AgreesWith r (fun p => WellFormed f rest ∧
        p = (f.slice 2 6 ++ copied rest (announced f)).take (declared f)) ↔
      SameTransfer f rest := by
  have hneed : declared f - ((msgData f).drop 2).length = missing f := by
    rw [List.length_drop, length_msgData, missing]
  cases h with
  | filled hheld =>
      rw [hneed] at hheld
      rw [agreesWith_ok_iff]
      constructor
      · intro hsame
        obtain ⟨hwell, heq⟩ := (hsame _).mpr rfl
        have hcontent := (eq_payload_iff hwell.1 _).mp heq
        apply SameContent.sameTransfer ⟨iff_of_true hheld hwell, fun _ => hcontent⟩ hlen
        exact fun hless => absurd hheld (Nat.not_le.mpr hless)
      · intro hsame q
        have hwell := hsame.sameContent.fills_iff.mp hheld
        rw [(eq_payload_iff hwell.1 _).mpr (hsame.sameContent.content hwell)]
        exact and_iff_right hwell
  | stumbled hless hstops =>
      rw [hneed] at hless
      apply iff_of_false not_agreesWith_indexError
      obtain ⟨g, hg, hzero⟩ := hstops
      exact fun hsame => hsame.nonempty hless g hg hzero
  | failed he hless hstops =>
      rw [hneed] at hless
      rw [agreesWith_error_iff he]
      constructor
      · intro hnone
        have hnot : ¬WellFormed f rest := fun hwell => hnone _ ⟨hwell, rfl⟩
        exact (sameContent_of_lt hless hnot).sameTransfer hlen fun _ => hstops
      · rintro hsame q ⟨hwell, -⟩
        exact absurd (hsame.sameContent.fills_iff.mpr hwell) (Nat.not_le.mpr hless)

end Transfer

theorem agreesWith_multi_iff {tp : IsoTpTransport} {cfg : UdsTpConfig} {f : CanFrame}
    {rest : List CanFrame} {polls : Nat} (hids : ∀ g ∈ rest, g.canId = tp.rxId)
    (hpolls : rest.length ≤ polls) (hlen : 1 ≤ f.len) (hff : (f.byte 0).toNat / 16 = 1) :
    AgreesWith ((tp.recvMultiClassic (msgData f) polls).feed rest)
        (Accepts (arriving (f :: rest)) (fun _ => .ok ()) 4095 cfg) ↔ SameTransfer f rest := by
  rw [agreesWith_congr (accepts_of_ff hff)]
  rcases Nat.eq_or_lt_of_le hlen with hone | htwo
  · rw [recvMultiClassic_short tp hone.symm]
    apply iff_of_false not_agreesWith_indexError
    intro h
    have hdlc := h.dlc
    omega
  · rw [recvMultiClassic_eq tp htwo]
    exact agreesWith_iff_sameTransfer htwo (recvLoop_outcome rest hpolls hids 1 _)

theorem agreesWith_first_iff {tp : IsoTpTransport} {cfg : UdsTpConfig} {f : CanFrame}
    {rest : List CanFrame} {polls : Nat} (hids : ∀ g ∈ rest, g.canId = tp.rxId)
    (hpolls : rest.length ≤ polls) (hlen : 1 ≤ f.len) :
    AgreesWith ((IsoTpTransport.onFirstFrame false (tp.recvMultiClassic · polls)
          (some (msgData f))).feed rest)
        (Accepts (arriving (f :: rest)) (fun _ => .ok ()) 4095 cfg) ↔
      ((f.byte 0).toNat / 16 = 0 →
          1 ≤ (f.byte 0).toNat ∧ (f.byte 0).toNat ≤ 7 ∧ 1 + (f.byte 0).toNat ≤ f.len) ∧
        ((f.byte 0).toNat / 16 = 1 → SameTransfer f rest) := by
  -- the upper nibble of the first byte is the type of the frame
  match hpci : (f.byte 0).toNat / 16 with
  | 0 =>
      rw [IsoTpTransport.onFirstFrame_sf _ hlen hpci, Agent.feed_ret,
        agreesWith_congr (accepts_of_sf hpci), agreesWith_ok_iff, isSf_iff_eq]
      simp
  | 1 =>
      rw [IsoTpTransport.onFirstFrame_ff _ hlen hpci,
        agreesWith_multi_iff hids hpolls hlen hpci]
      simp
  | n + 2 =>
      obtain ⟨e, he, heq⟩ :=
        IsoTpTransport.onFirstFrame_other (tp.recvMultiClassic · polls) hlen (by omega)
      rw [heq]
      apply iff_of_true
      · exact (agreesWith_error_iff he).mpr (not_accepts_of_other (by omega))
      · simp

/-- The two receivers agree on exactly those frames that read the same either way. -/
theorem recv_agrees_iff (tp : IsoTpTransport) (txId : UInt32) (buf : Mem UInt8) (outLen : Nat)
    (cfg : UdsTpConfig) (frames : List CanFrame) (hids : ∀ f ∈ frames, f.canId = tp.rxId)
    (hpolls : frames.length ≤ tp.polls) (hcfg : cfg.timeoutMs ≠ 0) :
    Agrees tp txId buf outLen cfg frames ↔ SameReading frames := by
  have hc : ∀ p, Returned ((udsTpRecv txId buf 4095 outLen cfg).exec (arriving frames)
      fun _ => .ok ()).2 p ↔ Accepts (arriving frames) (fun _ => .ok ()) 4095 cfg p := by
    apply (recvSpec_of_fits txId buf outLen cfg (by decide) hcfg _).accepts_iff
    rintro ⟨ff, len, hm, hmod⟩
    have hfits := hm.fits
    omega
  rw [Agrees, agreesWith_congr hc]
  cases frames with
  | nil =>
      rw [feed_recv_nil, agreesWith_error_iff (Or.inl rfl)]
      apply iff_of_true
      · rintro p (⟨f, hf, -⟩ | ⟨ff, len, hm, -⟩)
        · cases hf
        · cases hm.first
      · exact trivial
  | cons f rest =>
      rw [List.length_cons] at hpolls
      obtain ⟨polls, hsucc⟩ : ∃ n, tp.polls = n + 1 :=
        Nat.exists_eq_succ_of_ne_zero (by omega)
      rw [SameReading, feed_recv_cons hsucc (hids f List.mem_cons_self)]
      by_cases hlen : f.len = 0
      · rw [msgData_nil hlen]
        exact iff_of_false not_agreesWith_indexError fun h => h.1 hlen
      · rw [and_iff_right hlen]
        exact agreesWith_first_iff (fun g hg => hids g (List.mem_cons_of_mem f hg)) (by omega)
          (Nat.pos_of_ne_zero hlen)

/-- The two frames of the PDU `1, 2, .., 8`. -/
def eightByteFrames : List CanFrame :=
  [.ofBytes 0x681 8 Frame.le_classic [0x10, 8, 1, 2, 3, 4, 5, 6],
    .ofBytes 0x681 8 Frame.le_classic [0x21, 7, 8]]

theorem recv_agrees_iff_eightBytes :
    Agrees ⟨0x601, 0x681, 20⟩ 0x601 (fun _ => 0) 0 ⟨1000, 0, 0⟩ eightByteFrames :=
  (recv_agrees_iff ⟨0x601, 0x681, 20⟩ 0x601 (fun _ => 0) 0 ⟨1000, 0, 0⟩ eightByteFrames (by decide)
    (by decide) (by decide)).mpr (by decide)

/-- A Single Frame that declares eight bytes is cut down to the seven it holds by
one receiver and refused by the other. -/
theorem recv_disagrees :
    ¬Agrees ⟨0x601, 0x681, 20⟩ 0x601 (fun _ => 0) 0 ⟨1000, 0, 0⟩
      [.ofBytes 0x681 8 le_rfl [0x08, 1, 2, 3, 4, 5, 6, 7]] := by
  intro h
  have hreturned := (h.1 [1, 2, 3, 4, 5, 6, 7]).mp rfl
  exact absurd hreturned.1 (by decide)

end Uds.Tools
