import Uds.Tp.Grammar
/-!
# The receive loop

What a run of the receive loop does with the answers it gets, by induction on
the number of Consecutive Frames that are still to come: it succeeds exactly
when the next answers are those frames in order and every Flow Control it has to
send goes out, and then the buffer holds their content.
-/

namespace Uds.Tp

open Uds.Base Uds.Can

variable {cap : Nat}

/-- The first `n` answers are Consecutive Frames, numbered from `k` on. -/
def CfRun (ins : Nat → Except UdsCanError (Frame cap)) (k n : Nat) : Prop :=
  ∀ j < n, ∃ f, ins j = .ok f ∧ IsCf f ((k + j) % 16)

theorem cfRun_succ (ins : Nat → Except UdsCanError (Frame cap)) (k n : Nat) :
    CfRun ins k (n + 1) ↔
      (∃ f, ins 0 = .ok f ∧ IsCf f (k % 16)) ∧ CfRun (fun j => ins (j + 1)) (k + 1) n := by
  constructor
  · intro h
    refine ⟨h 0 (by omega), fun j hj => ?_⟩
    rw [show k + 1 + j = k + (j + 1) by omega]
    exact h (j + 1) (by omega)
  · rintro ⟨h0, hrest⟩ j hj
    cases j with
    | zero => exact h0
    | succ j =>
        rw [show k + (j + 1) = k + 1 + j by omega]
        exact hrest j (by omega)

/-- The bytes of the PDU that an answer can carry. -/
def cfBytes (fmt : LinkFormat cap) : Except UdsCanError (Frame cap) → List UInt8
  | .ok f => f.slice 1 fmt.cfDataBytes
  | .error _ => []

/-- The bytes that the first `n` answers carry. -/
def payload (fmt : LinkFormat cap) (ins : Nat → Except UdsCanError (Frame cap)) (n : Nat) :
    List UInt8 :=
  (List.range n).flatMap fun j => cfBytes fmt (ins j)

theorem payload_succ (fmt : LinkFormat cap) (ins : Nat → Except UdsCanError (Frame cap))
    (n : Nat) :
    payload fmt ins (n + 1) = cfBytes fmt (ins 0) ++ payload fmt (fun j => ins (j + 1)) n := by
  simp [payload, List.range_succ_eq_map, List.flatMap_map]

/-- How often Flow Control is sent again, `b` frames into a block and with `n`
frames to come. -/
def refills (bs b n : Nat) : Nat := if bs = 0 then 0 else (b + n - 1) / bs

theorem refills_of_full {bs b n : Nat} (h : 0 < bs ∧ bs ≤ b) (hb : 0 < bs → b ≤ bs) :
    refills bs b (n + 1) = refills bs 1 n + 1 := by
  have hbs : b = bs := by omega
  rw [refills, refills, if_neg (by omega), if_neg (by omega), hbs,
    ← Nat.add_div_right _ (by omega)]
  congr 1
  omega

theorem refills_of_room (bs b n : Nat) : refills bs b (n + 1) = refills bs (b + 1) n := by
  unfold refills
  rw [show b + (n + 1) - 1 = b + 1 + n - 1 by omega]

theorem refills_zero {bs b : Nat} (hb : 0 < bs → b ≤ bs) : refills bs b 0 = 0 := by
  unfold refills
  split
  · rfl
  · exact Nat.div_eq_of_lt (by omega)

namespace LinkFormat

variable (fmt : LinkFormat cap)

theorem cfCount_eq_zero (received totalLen : Nat) :
    fmt.cfCount received totalLen = 0 ↔ totalLen ≤ received := by
  have hlt := fmt.lt_cfCount_iff received totalLen 0
  rw [offset_zero] at hlt
  omega

theorem cfCount_add_chunk {received totalLen n : Nat}
    (h : fmt.cfCount received totalLen = n + 1) :
    fmt.cfCount (received + min fmt.cfDataBytes (totalLen - received)) totalLen = n := by
  have hpos := fmt.cfDataBytes_pos
  by_cases hlast : totalLen ≤ received + fmt.cfDataBytes
  · have hone : ¬1 < fmt.cfCount received totalLen := by
      rw [lt_cfCount_iff, offset_succ, offset_zero]
      omega
    have hzero := (fmt.cfCount_eq_zero
      (received + min fmt.cfDataBytes (totalLen - received)) totalLen).mpr (by omega)
    omega
  · unfold cfCount at h ⊢
    rw [show totalLen - received + (fmt.cfDataBytes - 1) =
      totalLen - (received + min fmt.cfDataBytes (totalLen - received)) +
        (fmt.cfDataBytes - 1) + fmt.cfDataBytes by omega, Nat.add_div_right _ (by omega)] at h
    omega

end LinkFormat

theorem LinkFormat.three_le (fmt : LinkFormat cap) : 3 ≤ cap := by
  have hcap := fmt.cap_eq
  have hpos := fmt.cfDataBytes_pos
  omega

/-- The Flow Control frame that a receiver sends. -/
def flowControlFrame (fmt : LinkFormat cap) (txId : UInt32) (cfg : UdsTpConfig) : Frame cap :=
  .ofBytes txId 3 fmt.three_le [0x30, cfg.blockSize, cfg.stMin]

theorem encodeFc_cts (fmt : LinkFormat cap) (txId : UInt32) (cfg : UdsTpConfig) :
    encodeFc fmt txId .cts cfg.blockSize cfg.stMin = .ok (flowControlFrame fmt txId cfg) :=
  rfl

/-! ## One Consecutive Frame -/

section Answer

variable (fmt : LinkFormat cap) (bufSize outLen received sn chunk : Nat)
  (buf : Mem UInt8) (k : Mem UInt8 → RecvProc cap)

theorem storeConsecutive_of_isCf {f : Frame cap} (hchunk : 0 < chunk)
    (hfmt : chunk ≤ fmt.cfDataBytes) (hbuf : received + chunk ≤ bufSize) (hsn : sn < 16)
    (h : IsCf f sn) :
    storeConsecutive fmt bufSize outLen received sn chunk buf k f =
      k (buf.store received (f.slice 1 chunk)) := by
  have hdec : decodeCf fmt f (bufSize - received) chunk = .ok (sn, f.slice 1 chunk) :=
    (decodeCf_eq_ok fmt f _ hchunk hfmt (by omega)).mpr ⟨hsn, h, rfl⟩
  have htype : frameType f = .cf := by
    have hpci := h.pci
    have hdlc := h.dlc
    rw [frameType_eq_cf]
    omega
  simp [storeConsecutive, htype, hdec]

/-- Any other answer ends the call, with nothing written past the chunk. -/
theorem onRecv_of_not_isCf {r : Except UdsCanError (Frame cap)} (hchunk : 0 < chunk)
    (hfmt : chunk ≤ fmt.cfDataBytes) (hbuf : received + chunk ≤ bufSize) (hsn : sn < 16)
    (h : ¬∃ f, r = .ok f ∧ IsCf f sn) :
    ∃ rc buf', onRecv (⟨·, buf, outLen⟩)
        (storeConsecutive fmt bufSize outLen received sn chunk buf k) r =
          .ret ⟨rc, buf', outLen⟩ ∧
      rc ≠ .ok ∧ ∀ a, bufSize ≤ a → buf' a = buf a := by
  cases r with
  | error err =>
      cases err with
      | errTimeout => exact ⟨.errTimeout, buf, rfl, by decide, fun _ _ => rfl⟩
      | _ => exact ⟨.errRecv, buf, rfl, by decide, fun _ _ => rfl⟩
  | ok f =>
      by_cases htype : frameType f = .cf
      · cases hdec : decodeCf fmt f (bufSize - received) chunk with
        | error rc =>
            refine ⟨rc, buf, ?_, ?_, fun _ _ => rfl⟩
            · simp [onRecv, storeConsecutive, htype, hdec]
            · rintro rfl
              exact decodeCf_error fmt f _ _ hdec
        | ok out =>
            obtain ⟨sn', content⟩ := out
            obtain ⟨hsn', hcf, rfl⟩ := (decodeCf_eq_ok fmt f content hchunk hfmt
              (by omega)).mp hdec
            have hne : sn' ≠ sn := by
              rintro rfl
              exact h ⟨f, rfl, hcf⟩
            refine ⟨.errSequence, buf.store received (f.slice 1 chunk), ?_, by decide, ?_⟩
            · simp [onRecv, storeConsecutive, htype, hdec, hne]
            · intro a ha
              have hcap := fmt.cap_eq
              have hlen := Frame.length_slice f (i := 1) (n := chunk) (by omega)
              exact Mem.store_of_ge buf received _ (by omega)
      · refine ⟨.errFrameType, buf, ?_, by decide, fun _ _ => rfl⟩
        simp [onRecv, storeConsecutive, htype]

end Answer

/-! ## The loop -/

/-- The outcome of the receive loop when `received` bytes are stored, frames are
numbered from `k` on, `n` of them are missing and `m` times Flow Control has to
be sent. -/
structure Received (fmt : LinkFormat cap) (txId : UInt32) (cfg : UdsTpConfig)
    (bufSize totalLen outLen received k n m : Nat) (buf : Mem UInt8)
    (ins : Nat → Except UdsCanError (Frame cap)) (outs : Nat → Except UdsCanError Unit)
    (run : List (Event (Frame cap) UdsCanError) × UdsTpRecvResult) : Prop where
  ok_iff : run.2.rc = .ok ↔ CfRun ins k n ∧ ∀ j < m, outs j = .ok ()
  beyond : ∀ a, bufSize ≤ a → run.2.buf a = buf a
  outLen_of_ne : run.2.rc ≠ .ok → run.2.outLen = outLen
  outLen_of_ok : run.2.rc = .ok → run.2.outLen = totalLen
  content : run.2.rc = .ok → run.2.buf.load 0 totalLen =
    buf.load 0 received ++ (payload fmt ins n).take (totalLen - received)
  flow : run.2.rc = .ok →
    offered run.1 = List.replicate m (flowControlFrame fmt txId cfg)
  reads : run.2.rc = .ok → recvCount run.1 = n

section Loop

variable {fmt : LinkFormat cap} {txId : UInt32} {cfg : UdsTpConfig}
  {bufSize totalLen outLen received k n m : Nat} {buf : Mem UInt8}
  {ins : Nat → Except UdsCanError (Frame cap)} {outs : Nat → Except UdsCanError Unit}

theorem Received.nil (h : totalLen = received) :
    Received fmt txId cfg bufSize totalLen outLen received k 0 0 buf ins outs
      ([], ⟨.ok, buf, totalLen⟩) where
  ok_iff := by simp [CfRun]
  beyond := fun _ _ => rfl
  outLen_of_ne := fun hne => absurd rfl hne
  outLen_of_ok := fun _ => rfl
  content := fun _ => by simp [payload, h]
  flow := fun _ => rfl
  reads := fun _ => rfl

theorem Received.content_take {head : List UInt8}
    {run : List (Event (Frame cap) UdsCanError) × UdsTpRecvResult}
    (h : Received fmt txId cfg bufSize totalLen outLen received k n m (buf.store 0 head) ins outs
      run)
    (hlen : head.length = received) (hle : received ≤ totalLen) (hok : run.2.rc = .ok) :
    run.2.buf.load 0 totalLen = (head ++ payload fmt ins n).take totalLen := by
  subst hlen
  rw [h.content hok, Mem.load_store, List.take_append, List.take_of_length_le hle]

theorem Received.fail {rc : UdsTpError} {buf' : Mem UInt8}
    (tr : List (Event (Frame cap) UdsCanError)) (hrc : rc ≠ .ok)
    (hbuf : ∀ a, bufSize ≤ a → buf' a = buf a)
    (h : ¬(CfRun ins k n ∧ ∀ j < m, outs j = .ok ())) :
    Received fmt txId cfg bufSize totalLen outLen received k n m buf ins outs
      (tr, ⟨rc, buf', outLen⟩) where
  ok_iff := ⟨fun hok => absurd hok hrc, fun hrun => absurd hrun h⟩
  beyond := hbuf
  outLen_of_ne := fun _ => rfl
  outLen_of_ok := fun hok => absurd hok hrc
  content := fun hok => absurd hok hrc
  flow := fun hok => absurd hok hrc
  reads := fun hok => absurd hok hrc

theorem Received.cons_sent {run : List (Event (Frame cap) UdsCanError) × UdsTpRecvResult}
    (hout : outs 0 = .ok ())
    (h : Received fmt txId cfg bufSize totalLen outLen received k n m buf ins
      (fun j => outs (j + 1)) run) :
    Received fmt txId cfg bufSize totalLen outLen received k n (m + 1) buf ins outs
      (.sent (flowControlFrame fmt txId cfg) (outs 0) :: run.1, run.2) where
  ok_iff := by
    rw [h.ok_iff, Nat.forall_lt_succ_left]
    simp [hout]
  beyond := h.beyond
  outLen_of_ne := h.outLen_of_ne
  outLen_of_ok := h.outLen_of_ok
  content := h.content
  flow := fun hok => by simp [h.flow hok, List.replicate_succ]
  reads := fun hok => by simp [h.reads hok]

theorem Received.cons_recvd {run : List (Event (Frame cap) UdsCanError) × UdsTpRecvResult}
    {f : Frame cap} (hin : ins 0 = .ok f) (hcf : IsCf f (k % 16))
    (hlt : received < totalLen) (hfit : totalLen ≤ bufSize)
    (h : Received fmt txId cfg bufSize totalLen outLen
      (received + min fmt.cfDataBytes (totalLen - received)) (k + 1) n m
      (buf.store received (f.slice 1 (min fmt.cfDataBytes (totalLen - received))))
      (fun j => ins (j + 1)) outs run) :
    Received fmt txId cfg bufSize totalLen outLen received k (n + 1) m buf ins outs
      (.recvd (ins 0) :: run.1, run.2) := by
  have hcap := fmt.cap_eq
  have hlen := Frame.length_slice f (i := 1)
    (n := min fmt.cfDataBytes (totalLen - received)) (by omega)
  refine ⟨?_, ?_, h.outLen_of_ne, h.outLen_of_ok, ?_, ?_, ?_⟩
  · rw [h.ok_iff, cfRun_succ]
    simp [hin, hcf]
  · intro a ha
    rw [h.beyond a ha, Mem.store_of_ge buf received _ (by omega)]
  · intro hok
    have hload := Mem.load_store_extend buf received
      (f.slice 1 (min fmt.cfDataBytes (totalLen - received)))
    rw [hlen] at hload
    have hbytes := Frame.length_slice f (i := 1) (n := fmt.cfDataBytes) (by omega)
    rw [h.content hok, hload, List.append_assoc, payload_succ, hin, List.take_append, cfBytes,
      Frame.take_slice, hbytes]
    congr 3
    omega
  · intro hok
    simpa using h.flow hok
  · intro hok
    simp [h.reads hok]

theorem received_of_frame {b : Nat} (next : Mem UInt8 → RecvProc cap)
    (hlt : received < totalLen) (hfit : totalLen ≤ bufSize)
    (hnext : ∀ buf ins outs, Received fmt txId cfg bufSize totalLen outLen
      (received + min fmt.cfDataBytes (totalLen - received)) (k + 1) n
      (refills cfg.blockSize.toNat (b + 1) n) buf ins outs ((next buf).exec ins outs)) :
    Received fmt txId cfg bufSize totalLen outLen received k (n + 1)
      (refills cfg.blockSize.toNat b (n + 1)) buf ins outs
      ((recvFrame (⟨·, buf, outLen⟩) (storeConsecutive fmt bufSize outLen received (k % 16)
        (min fmt.cfDataBytes (totalLen - received)) buf next)).exec ins outs) := by
  have hpos := fmt.cfDataBytes_pos
  have hsn : k % 16 < 16 := Nat.mod_lt _ (by decide)
  rw [recvFrame, Proc.exec_recv]
  by_cases hcf : ∃ f, ins 0 = .ok f ∧ IsCf f (k % 16)
  · obtain ⟨f, hin, hf⟩ := hcf
    have hstore := storeConsecutive_of_isCf fmt bufSize outLen received (k % 16)
      (min fmt.cfDataBytes (totalLen - received)) buf next (by omega) (by omega) (by omega)
      hsn hf
    have hanswer : onRecv (⟨·, buf, outLen⟩) (storeConsecutive fmt bufSize outLen received
        (k % 16) (min fmt.cfDataBytes (totalLen - received)) buf next) (ins 0) =
          next (buf.store received
            (f.slice 1 (min fmt.cfDataBytes (totalLen - received)))) := by
      rw [hin]
      exact hstore
    rw [refills_of_room, hanswer]
    exact .cons_recvd hin hf hlt hfit (hnext _ _ _)
  · obtain ⟨rc, buf', hret, hrc, hbuf'⟩ := onRecv_of_not_isCf fmt bufSize outLen received
      (k % 16) (min fmt.cfDataBytes (totalLen - received)) buf next (by omega) (by omega)
      (by omega) hsn hcf
    rw [hret, Proc.exec_ret]
    refine .fail _ hrc hbuf' ?_
    rintro ⟨hrun, -⟩
    exact hcf ((cfRun_succ ins k n).mp hrun).1

theorem received_of_flowControl (next : RecvProc cap)
    (hnext : ∀ outs, Received fmt txId cfg bufSize totalLen outLen received k n m buf ins outs
      (next.exec ins outs)) :
    Received fmt txId cfg bufSize totalLen outLen received k n (m + 1) buf ins outs
      ((sendFrame (⟨·, buf, outLen⟩) (encodeFc fmt txId .cts cfg.blockSize cfg.stMin)
        next).exec ins outs) := by
  rw [encodeFc_cts, sendFrame, Proc.exec_send]
  cases hout : outs 0 with
  | error err =>
      refine .fail _ (by decide) (fun _ _ => rfl) ?_
      rintro ⟨-, hall⟩
      have := hall 0 (by omega)
      simp [hout] at this
  | ok u =>
      have hsent := (hnext fun j => outs (j + 1)).cons_sent hout
      rwa [hout] at hsent

theorem recvLoop_of_le (sn bsCount : Nat) (h : totalLen ≤ received) :
    recvLoop fmt txId cfg bufSize totalLen outLen received sn bsCount buf =
      .ret ⟨.ok, buf, totalLen⟩ := by
  rw [recvLoop, dif_neg (by omega)]

theorem recvLoop_of_room (sn : Nat) {bsCount : Nat} (h : received < totalLen)
    (hroom : ¬(0 < cfg.blockSize.toNat ∧ cfg.blockSize.toNat ≤ bsCount)) :
    recvLoop fmt txId cfg bufSize totalLen outLen received sn bsCount buf =
      recvFrame (⟨·, buf, outLen⟩) (storeConsecutive fmt bufSize outLen received sn
        (min fmt.cfDataBytes (totalLen - received)) buf fun buf =>
          recvLoop fmt txId cfg bufSize totalLen outLen
            (received + min fmt.cfDataBytes (totalLen - received)) ((sn + 1) &&& 0x0F)
            ((bsCount + 1) % 256) buf) := by
  rw [recvLoop, dif_pos h, resendFlowControl, if_neg hroom]

/-- With a full block, Flow Control goes out and a new block begins. -/
theorem recvLoop_of_full (sn : Nat) {bsCount : Nat} (h : received < totalLen)
    (hfull : 0 < cfg.blockSize.toNat ∧ cfg.blockSize.toNat ≤ bsCount) :
    recvLoop fmt txId cfg bufSize totalLen outLen received sn bsCount buf =
      sendFrame (⟨·, buf, outLen⟩) (encodeFc fmt txId .cts cfg.blockSize cfg.stMin)
        (recvLoop fmt txId cfg bufSize totalLen outLen received sn 0 buf) := by
  rw [recvLoop, dif_pos h, resendFlowControl, if_pos hfull, recvLoop_of_room sn h]
  omega

/-- A run of the receive loop. -/
theorem recvLoop_received (b : Nat) (hn : fmt.cfCount received totalLen = n)
    (hle : received ≤ totalLen) (hfit : totalLen ≤ bufSize)
    (hb : 0 < cfg.blockSize.toNat → b ≤ cfg.blockSize.toNat) :
    Received fmt txId cfg bufSize totalLen outLen received k n
      (refills cfg.blockSize.toNat b n) buf ins outs
      ((recvLoop fmt txId cfg bufSize totalLen outLen received (k % 16) (b % 256) buf).exec
        ins outs) := by
  induction n generalizing received k b buf ins outs with
  | zero =>
      have hend := (fmt.cfCount_eq_zero received totalLen).mp hn
      rw [recvLoop_of_le _ _ hend, refills_zero hb]
      exact .nil (by omega)
  | succ n ih =>
      have hlt : received < totalLen := by
        have hne := fmt.cfCount_eq_zero received totalLen
        omega
      have hsn : (k % 16 + 1) &&& 0x0F = (k + 1) % 16 := by
        rw [and_0F]
        omega
      have hbs : cfg.blockSize.toNat < 256 := cfg.blockSize.toNat_lt
      have hchunk := fmt.cfCount_add_chunk hn
      by_cases hfull : 0 < cfg.blockSize.toNat ∧ cfg.blockSize.toNat ≤ b
      · rw [recvLoop_of_full _ hlt (by omega), refills_of_full hfull hb, ← refills_of_room]
        refine received_of_flowControl _ fun outs => ?_
        rw [recvLoop_of_room _ hlt (by omega)]
        refine received_of_frame _ hlt hfit fun buf ins outs => ?_
        rw [hsn]
        exact ih 1 hchunk (by omega) (by omega)
      · rw [recvLoop_of_room _ hlt (by omega)]
        refine received_of_frame _ hlt hfit fun buf ins outs => ?_
        rw [hsn, Nat.mod_add_mod]
        exact ih (b + 1) hchunk (by omega) (by omega)

end Loop

end Uds.Tp
