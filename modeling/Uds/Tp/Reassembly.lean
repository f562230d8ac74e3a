import Uds.Tp.Receiver
/-!
# What a receiver returns

A first frame lays out a PDU: it holds the first bytes, and Consecutive Frames
hold the rest.  Both receivers return a PDU on exactly the complete transfers
that start with a frame they admit, and the PDU is the embedded bytes followed
by the content of the Consecutive Frames.
-/

namespace Uds.Tp

open Uds.Base Uds.Can

variable {cap : Nat}

/-- How a first frame starts a PDU of `len` bytes: `embed` bytes behind the
header, and Flow Control that goes out `flows` times. -/
structure PduLayout where
  header : Nat
  embed : Nat
  len : Nat
  flows : Nat

/-- What the header of a first frame determines, for frames that `Lays` admits. -/
structure FirstFrames (Lays : Frame cap → PduLayout → Prop) : Prop where
  unique : ∀ {f L L'}, Lays f L → Lays f L' → L = L'
  embedded : ∀ {f L i}, Lays f L → i < L.embed → L.header + i < f.len
  stable : ∀ {f L q} (v), Lays f L → L.header ≤ q → Lays (f.setByte q v) L
  header : ∀ {f L q}, Lays f L → q < L.header →
    ∃ v, ∀ L', Lays (f.setByte q v) L' → L'.len ≠ L.len

theorem FirstFrames.length_slice {Lays : Frame cap → PduLayout → Prop} {f : Frame cap}
    {L : PduLayout} (hfirst : FirstFrames Lays) (h : Lays f L) :
    (f.slice L.header L.embed).length = L.embed := by
  by_cases hzero : L.embed = 0
  · rw [hzero, Frame.slice, List.take_zero, List.length_nil]
  · have hlast : L.header + (L.embed - 1) < f.len := hfirst.embedded h (by omega)
    have hlen := f.len_le
    exact Frame.length_slice f (by omega)

/-- Single Frames lay out what they hold, First Frames what they declare. -/
inductive Layout (fmt : LinkFormat cap) (cfg : UdsTpConfig)
    (single : Frame cap → Nat → Nat → Prop) (multi : Frame cap → Nat → Nat → Nat → Prop)
    (f : Frame cap) : PduLayout → Prop where
  | single {header n : Nat} (h : single f header n) :
      Layout fmt cfg single multi f ⟨header, n, n, 0⟩
  | multi {header embed len : Nat} (h : multi f header embed len) :
      Layout fmt cfg single multi f
        ⟨header, embed, len, refills cfg.blockSize.toNat 0 (fmt.cfCount embed len) + 1⟩

section Reassembly

variable (fmt : LinkFormat cap) (Lays : Frame cap → PduLayout → Prop)
  (ins : Nat → Except UdsCanError (Frame cap)) (outs : Nat → Except UdsCanError Unit)
  (f : Frame cap) (L : PduLayout)

/-- The answers are a complete transfer. -/
structure Reassembly : Prop where
  first : ins 0 = .ok f
  lays : Lays f L
  cfs : CfRun (fun n => ins (n + 1)) 1 (fmt.cfCount L.embed L.len)
  sent : ∀ j < L.flows, outs j = .ok ()

/-- The PDU of such a transfer. -/
def reassembled : List UInt8 :=
  (f.slice L.header L.embed ++
    payload fmt (fun n => ins (n + 1)) (fmt.cfCount L.embed L.len)).take L.len

/-- The outcome of a call whose first frame lays out `L`. -/
structure Outcome (result : UdsTpRecvResult) : Prop where
  ok_iff : result.rc = .ok ↔ CfRun (fun n => ins (n + 1)) 1 (fmt.cfCount L.embed L.len) ∧
    ∀ j < L.flows, outs j = .ok ()
  outLen_eq : result.rc = .ok → result.outLen = L.len
  content : result.rc = .ok → result.buf.load 0 L.len = reassembled fmt ins f L

end Reassembly

/-- What the call returns in the buffer. -/
def UdsTpRecvResult.pdu (result : UdsTpRecvResult) : List UInt8 :=
  result.buf.load 0 result.outLen

/-- The call returns a PDU on exactly the complete transfers, and it is theirs. -/
structure Reassembles (fmt : LinkFormat cap) (Lays : Frame cap → PduLayout → Prop)
    (outs : Nat → Except UdsCanError Unit)
    (recv : (Nat → Except UdsCanError (Frame cap)) → UdsTpRecvResult) : Prop where
  ok_iff : ∀ ins, (recv ins).rc = .ok ↔ ∃ f L, Reassembly fmt Lays ins outs f L
  pdu_eq : ∀ {ins f L}, Reassembly fmt Lays ins outs f L →
    (recv ins).pdu = reassembled fmt ins f L
  pdu_length : ∀ {ins f L}, Reassembly fmt Lays ins outs f L → (recv ins).pdu.length = L.len

/-! ## From the first frame on -/

section Outcomes

variable {fmt : LinkFormat cap} {txId : UInt32} {cfg : UdsTpConfig} {bufSize outLen : Nat}
  {buf : Mem UInt8} {ins : Nat → Except UdsCanError (Frame cap)}
  {outs : Nat → Except UdsCanError Unit} {f : Frame cap} {header embed len : Nat}

theorem outcome_single (hlen : (f.slice header len).length = len) :
    Outcome fmt ins outs f ⟨header, len, len, 0⟩ ⟨.ok, buf.store 0 (f.slice header len), len⟩ := by
  have hcount : fmt.cfCount len len = 0 := (fmt.cfCount_eq_zero len len).mpr le_rfl
  have hload := Mem.load_store buf 0 (f.slice header len)
  rw [hlen] at hload
  refine ⟨?_, fun _ => rfl, fun _ => ?_⟩
  · simp [CfRun, hcount]
  · rw [reassembled, hcount, payload, List.range_zero, List.flatMap_nil, List.append_nil,
      List.take_of_length_le (Nat.le_of_eq hlen)]
    exact hload

theorem outcome_of_received (hlen : (f.slice header embed).length = embed) (hle : embed ≤ len)
    {m : Nat} {run : List (Event (Frame cap) UdsCanError) × UdsTpRecvResult}
    (h : Received fmt txId cfg bufSize len outLen embed 1 (fmt.cfCount embed len) m
      (buf.store 0 (f.slice header embed)) (fun n => ins (n + 1)) outs run) :
    Outcome fmt ins outs f ⟨header, embed, len, m⟩ run.2 :=
  ⟨h.ok_iff, h.outLen_of_ok, h.content_take hlen hle⟩

theorem outcome_of_complete (hlen : (f.slice header embed).length = embed) (hle : len ≤ embed) :
    Outcome fmt ins outs f ⟨header, embed, len, 1⟩
      ((recvMulti fmt txId cfg bufSize len outLen embed
        (buf.store 0 (f.slice header embed))).exec (fun n => ins (n + 1)) outs).2 := by
  have hcount : fmt.cfCount embed len = 0 := (fmt.cfCount_eq_zero embed len).mpr hle
  have hload : (buf.store 0 (f.slice header embed)).load 0 len =
      (f.slice header embed).take len := by
    have hall := Mem.load_store buf 0 (f.slice header embed)
    rw [hlen] at hall
    rw [← Mem.take_load _ 0 embed len hle, hall]
  rw [recvMulti, encodeFc_cts, sendFrame, recvLoop_of_le _ _ hle, Proc.exec_send]
  cases hout : outs 0 with
  | error e =>
      refine ⟨?_, fun hok => UdsTpError.noConfusion hok, fun hok => UdsTpError.noConfusion hok⟩
      constructor
      · exact fun hok => UdsTpError.noConfusion hok
      · rintro ⟨-, hsent⟩
        have hzero := hsent 0 (Nat.succ_pos 0)
        rw [hout] at hzero
        cases hzero
  | ok u =>
      refine ⟨?_, fun _ => rfl, fun _ => ?_⟩
      · constructor
        · intro _
          refine ⟨?_, ?_⟩
          · intro j hj
            rw [hcount] at hj
            omega
          · intro j hj
            rw [Nat.lt_one_iff.mp hj, hout]
        · exact fun _ => rfl
      · rw [reassembled, hcount, payload, List.range_zero, List.flatMap_nil, List.append_nil]
        exact hload

theorem outcome_multi (hlen : (f.slice header embed).length = embed) (hfit : len ≤ bufSize) :
    Outcome fmt ins outs f
      ⟨header, embed, len, refills cfg.blockSize.toNat 0 (fmt.cfCount embed len) + 1⟩
      ((recvMulti fmt txId cfg bufSize len outLen embed
        (buf.store 0 (f.slice header embed))).exec (fun n => ins (n + 1)) outs).2 := by
  by_cases hle : len ≤ embed
  · have hcount : fmt.cfCount embed len = 0 := (fmt.cfCount_eq_zero embed len).mpr hle
    rw [hcount, refills_zero (fun _ => Nat.zero_le _)]
    exact outcome_of_complete hlen hle
  · have hlt : embed ≤ len := by omega
    have hrun : Received fmt txId cfg bufSize len outLen embed 1 (fmt.cfCount embed len)
        (refills cfg.blockSize.toNat 0 (fmt.cfCount embed len) + 1)
        (buf.store 0 (f.slice header embed)) (fun n => ins (n + 1)) outs
        ((recvMulti fmt txId cfg bufSize len outLen embed
          (buf.store 0 (f.slice header embed))).exec (fun n => ins (n + 1)) outs) := by
      rw [recvMulti]
      refine received_of_flowControl _ fun outs => ?_
      exact recvLoop_received (k := 1) 0 rfl hlt hfit (fun _ => Nat.zero_le _)
    exact outcome_of_received hlen hlt hrun

end Outcomes

section Receive

variable {fmt : LinkFormat cap} {txId : UInt32} {cfg : UdsTpConfig} {bufSize outLen : Nat}
  {buf : Mem UInt8} {outs : Nat → Except UdsCanError Unit}
  {single : Frame cap → Nat → Nat → Prop} {multi : Frame cap → Nat → Nat → Nat → Prop}

variable (fmt txId cfg bufSize outLen buf single multi) in
/-- The receiver stores the bytes of the first frames it admits and fails on the
others. -/
structure StartsWith (onFirst : Frame cap → RecvProc cap) : Prop where
  of_single : ∀ {f header n}, single f header n →
    onFirst f = .ret ⟨.ok, buf.store 0 (f.slice header n), n⟩
  of_multi : ∀ {f header embed len}, multi f header embed len → len ≤ bufSize ∧
    onFirst f = recvMulti fmt txId cfg bufSize len outLen embed
      (buf.store 0 (f.slice header embed))
  of_other : ∀ {f}, (∀ header n, ¬single f header n) →
    (∀ header embed len, ¬multi f header embed len) →
    ∃ rc buf', rc ≠ .ok ∧ onFirst f = .ret ⟨rc, buf', outLen⟩

variable {onFirst : Frame cap → RecvProc cap}

/-- A receiver that waits for its first frame. -/
theorem reassembles_of_startsWith (hstart : StartsWith fmt txId cfg bufSize outLen buf single multi
    onFirst) (hfirst : FirstFrames (Layout fmt cfg single multi)) :
    Reassembles fmt (Layout fmt cfg single multi) outs
      (fun ins => ((recvFrame (⟨·, buf, outLen⟩) onFirst).exec ins outs).2) := by
  have hexec : ∀ {ins : Nat → Except UdsCanError (Frame cap)} {f}, ins 0 = .ok f →
      ((recvFrame (⟨·, buf, outLen⟩) onFirst).exec ins outs).2 =
        ((onFirst f).exec (fun n => ins (n + 1)) outs).2 := by
    intro ins f hin
    rw [recvFrame, Proc.exec_recv, hin]
    rfl
  have houtcome : ∀ {ins f L}, ins 0 = .ok f → Layout fmt cfg single multi f L →
      Outcome fmt ins outs f L ((recvFrame (⟨·, buf, outLen⟩) onFirst).exec ins outs).2 := by
    intro ins f L hin hL
    have hlen := hfirst.length_slice hL
    rw [hexec hin]
    cases hL with
    | single h =>
        rw [hstart.of_single h]
        exact outcome_single hlen
    | multi h =>
        rw [(hstart.of_multi h).2]
        exact outcome_multi hlen (hstart.of_multi h).1
  have hpdu : ∀ {ins f L}, Reassembly fmt (Layout fmt cfg single multi) ins outs f L →
      ((recvFrame (⟨·, buf, outLen⟩) onFirst).exec ins outs).2.pdu = reassembled fmt ins f L ∧
        ((recvFrame (⟨·, buf, outLen⟩) onFirst).exec ins outs).2.pdu.length = L.len := by
    intro ins f L h
    have hout := houtcome h.first h.lays
    have hok := hout.ok_iff.mpr ⟨h.cfs, h.sent⟩
    rw [UdsTpRecvResult.pdu, Mem.length_load, hout.outLen_eq hok]
    exact ⟨hout.content hok, rfl⟩
  refine ⟨?_, fun h => (hpdu h).1, fun h => (hpdu h).2⟩
  intro ins
  constructor
  · intro hok
    cases hin : ins 0 with
    | error e =>
        rw [recvFrame, Proc.exec_recv, hin] at hok
        cases e <;> cases hok
    | ok f =>
        by_cases hL : ∃ L, Layout fmt cfg single multi f L
        · obtain ⟨L, hL⟩ := hL
          have hrun := (houtcome hin hL).ok_iff.mp hok
          exact ⟨f, L, hin, hL, hrun.1, hrun.2⟩
        · obtain ⟨rc, buf', hrc, hret⟩ := hstart.of_other
            (fun _ _ h => hL ⟨_, .single h⟩) (fun _ _ _ h => hL ⟨_, .multi h⟩)
          rw [hexec hin, hret] at hok
          exact absurd hok hrc
  · rintro ⟨f, L, h⟩
    exact (houtcome h.first h.lays).ok_iff.mpr ⟨h.cfs, h.sent⟩

end Receive

end Uds.Tp
