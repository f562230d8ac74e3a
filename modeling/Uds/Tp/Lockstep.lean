import Uds.Base.Channel
import Uds.Tp.Receiver
import Uds.Tp.Sender
/-!
# Sender and receiver in lock step

One schedule of the two frame loops over a medium that keeps every frame's
content: the sender's Consecutive Frame `i` meets a receiver that waits for
frame `i` at the same place in its block, and both move on.  By induction on the
frames left both sides halt with the PDU transferred; that this one schedule
decides all of them is a matter of the network, not of the protocol.  The
induction is about any sender that awaits Flow Control after a full block.
-/

namespace Uds.Tp

open Uds.Base Uds.Can

variable {cap : Nat}

/-- A medium that delivers every frame with at least what it carries, provided
the bytes past the frame's length are clear. -/
def Delivers (med : Medium (Frame cap)) : Prop :=
  ∀ n f, f.ZeroTail → (∃ f', med.toRight n f = some f' ∧ Frame.Carries f f') ∧
    ∃ f', med.toLeft n f = some f' ∧ Frame.Carries f f'

theorem delivers_lossless : Delivers (Medium.lossless (Frame cap)) :=
  fun _ f _ => ⟨⟨f, rfl, .refl f⟩, ⟨f, rfl, .refl f⟩⟩

section Frames

variable (fmt : LinkFormat cap) (txId : UInt32) (data : List UInt8) (base : Nat)
  (cfg : UdsTpConfig)

theorem zeroTail_consecutiveFrame (i : Nat) :
    (consecutiveFrame fmt txId data base i).ZeroTail := by
  have hle : (cfContent fmt data base i).length ≤ fmt.cfDataBytes := by
    rw [length_cfContent]
    omega
  have hlt := fmt.lt_cfLen _ hle
  refine Frame.zeroTail_ofBytes _ _ _ ?_
  rw [List.length_cons]
  omega

theorem zeroTail_flowControlFrame : (flowControlFrame fmt txId cfg).ZeroTail :=
  Frame.zeroTail_ofBytes _ _ _ le_rfl

theorem isCf_consecutiveFrame {i : Nat} (h : i < fmt.cfCount base data.length) :
    IsCf (consecutiveFrame fmt txId data base i) ((i + 1) % 16) := by
  have hlt := (fmt.lt_cfCount_iff base data.length i).mp h
  have hlen := length_cfContent fmt data base i
  have hpos := fmt.cfDataBytes_pos
  have hcap := fmt.cap_eq
  have hdlc := fmt.lt_cfLen (cfContent fmt data base i).length (by omega)
  constructor
  · have hbytes :
        (UInt8.ofNat (0x20 + (i + 1) % 16) :: cfContent fmt data base i).length ≤ cap := by
      rw [List.length_cons]
      omega
    have hbyte : (consecutiveFrame fmt txId data base i).byte 0 =
        UInt8.ofNat (0x20 + (i + 1) % 16) :=
      Frame.byte_ofBytes txId _ _ hbytes (Nat.succ_pos _)
    rw [hbyte, UInt8.toNat_ofNat']
    omega
  · show 2 ≤ fmt.cfLen (cfContent fmt data base i).length
    omega

/-- The content of a Consecutive Frame as the receiver copies it. -/
theorem slice_consecutiveFrame (i : Nat) :
    (consecutiveFrame fmt txId data base i).slice 1
        (min fmt.cfDataBytes (data.length - fmt.offset base i)) =
      cfContent fmt data base i := by
  have hlen := length_cfContent fmt data base i
  have hcap := fmt.cap_eq
  rw [← hlen]
  have hfit : [UInt8.ofNat (0x20 + (i + 1) % 16)].length +
      (cfContent fmt data base i).length ≤ cap := by
    rw [List.length_singleton]
    omega
  exact Frame.slice_ofBytes txId _ _ hfit

theorem decodeFc_of_carries {f : Frame cap}
    (h : Frame.Carries (flowControlFrame fmt txId cfg) f) :
    decodeFc f = .ok (.cts, cfg.blockSize, cfg.stMin) := by
  have hcap := fmt.cap_eq
  have hpos := fmt.cfDataBytes_pos
  have hbytes : [0x30, cfg.blockSize, cfg.stMin].length ≤ cap := by
    show 3 ≤ cap
    omega
  have h0 : f.byte 0 = 0x30 := by
    rw [h.byte]
    exact Frame.byte_ofBytes txId 3 _ hbytes (by simp)
  have h1 : f.byte 1 = cfg.blockSize := by
    rw [h.byte]
    exact Frame.byte_ofBytes txId 3 _ hbytes (by simp)
  have h2 : f.byte 2 = cfg.stMin := by
    rw [h.byte]
    exact Frame.byte_ofBytes txId 3 _ hbytes (by simp)
  have hlen : 3 ≤ f.len := h.len
  have htype : frameType f = .fc := by
    rw [frameType_eq_fc, h0]
    exact ⟨by omega, rfl⟩
  rw [decodeFc, if_neg (by simpa using htype), if_neg (by omega), h0, h1, h2]
  rfl

end Frames

section Run

variable {med : Medium (Frame cap)}

/-- A frame goes from any sender to a waiting receiver. -/
theorem comm_sendLeft {α : Type} (hmed : Delivers med) {f : Frame cap} (hf : f.ZeroTail)
    (k : Except UdsCanError Unit → Proc (Frame cap) UdsCanError α)
    (fail : UdsTpError → UdsTpRecvResult) (r : Frame cap → RecvProc cap) (p q : Nat) :
    ∃ f', Frame.Carries f f' ∧
      Relation.ReflTransGen (Comm med)
        ⟨.send f k, recvFrame fail r, [], [], p, q⟩ ⟨k (.ok ()), r f', [], [], p + 1, q⟩ := by
  obtain ⟨f', hto, hc⟩ := (hmed p f hf).1
  have hsend : Comm med _ _ := Comm.sendLeft f k (recvFrame fail r) [] [] p q
  have hrecv : Comm med _ _ := Comm.recvRight (k (.ok ())) (onRecv fail r) f' [] [] (p + 1) q
  rw [hto] at hsend
  exact ⟨f', hc, .head hsend (.single hrecv)⟩

theorem comm_toRight (hmed : Delivers med) {f : Frame cap} (hf : f.ZeroTail) (s : SendProc cap)
    (fail : UdsTpError → UdsTpRecvResult) (r : Frame cap → RecvProc cap) (p q : Nat) :
    ∃ f', Frame.Carries f f' ∧
      Relation.ReflTransGen (Comm med)
        ⟨sendFrame id (.ok f) s, recvFrame fail r, [], [], p, q⟩ ⟨s, r f', [], [], p + 1, q⟩ :=
  comm_sendLeft hmed hf (onSend id s) fail r p q

/-- Flow Control goes from the receiver to any process that waits for it. -/
theorem comm_recvLeft {α : Type} (hmed : Delivers med) (fmt : LinkFormat cap) (rxId : UInt32)
    (cfg : UdsTpConfig) (k : Except UdsCanError (Frame cap) → Proc (Frame cap) UdsCanError α)
    (fail : UdsTpError → UdsTpRecvResult) (r : RecvProc cap) (p q : Nat) :
    ∃ f', Frame.Carries (flowControlFrame fmt rxId cfg) f' ∧
      Relation.ReflTransGen (Comm med)
        ⟨.recv k, sendFrame fail (encodeFc fmt rxId .cts cfg.blockSize cfg.stMin) r, [], [], p, q⟩
        ⟨k (.ok f'), r, [], [], p, q + 1⟩ := by
  obtain ⟨f', hto, hc⟩ := (hmed q _ (zeroTail_flowControlFrame fmt rxId cfg)).2
  have hsend : Comm med _ _ := Comm.sendRight (.recv k) (flowControlFrame fmt rxId cfg)
    (onSend fail r) [] [] p q
  have hrecv : Comm med _ _ := Comm.recvLeft k r [] f' [] p (q + 1)
  rw [hto] at hsend
  exact ⟨f', hc, .head hsend (.single hrecv)⟩

/-- Flow Control goes from the receiver to a sender that waits for it. -/
theorem comm_flowControl (hmed : Delivers med) (fmt : LinkFormat cap) (rxId : UInt32)
    (cfg : UdsTpConfig) (s : UInt8 → SendProc cap) (fail : UdsTpError → UdsTpRecvResult)
    (r : RecvProc cap) (p q : Nat) :
    Relation.ReflTransGen (Comm med)
      ⟨recvFlowControl (waitLoop s 0),
        sendFrame fail (encodeFc fmt rxId .cts cfg.blockSize cfg.stMin) r, [], [], p, q⟩
      ⟨s cfg.blockSize, r, [], [], p, q + 1⟩ := by
  obtain ⟨f', hc, hrun⟩ := comm_recvLeft hmed fmt rxId cfg
    (onRecv id (onFlowControl (waitLoop s 0))) fail r p q
  have hdec := decodeFc_of_carries fmt rxId cfg hc
  have hcts : onRecv id (onFlowControl (waitLoop s 0)) (.ok f') = s cfg.blockSize := by
    simp only [onRecv, onFlowControl, hdec]
    rw [waitLoop, if_neg (by decide)]
  rwa [hcts] at hrun

variable (fmt : LinkFormat cap) (txId rxId : UInt32) (data : List UInt8) (base : Nat)
  (cfg : UdsTpConfig) (bufSize outLen : Nat)

theorem comm_frame {α : Type} (hmed : Delivers med) (hfit : data.length ≤ bufSize) {i : Nat}
    (hi : i < fmt.cfCount base data.length) (buf : Mem UInt8)
    (k : Except UdsCanError Unit → Proc (Frame cap) UdsCanError α)
    (r : Mem UInt8 → RecvProc cap) (p q : Nat) :
    Relation.ReflTransGen (Comm med)
      ⟨.send (consecutiveFrame fmt txId data base i) k,
        recvFrame (⟨·, buf, outLen⟩) (storeConsecutive fmt bufSize outLen (fmt.offset base i)
          ((i + 1) % 16) (min fmt.cfDataBytes (data.length - fmt.offset base i)) buf r),
        [], [], p, q⟩
      ⟨k (.ok ()), r (buf.store (fmt.offset base i) (cfContent fmt data base i)), [], [], p + 1,
        q⟩ := by
  have hlt := (fmt.lt_cfCount_iff base data.length i).mp hi
  have hpos := fmt.cfDataBytes_pos
  obtain ⟨f', hc, hrun⟩ := comm_sendLeft hmed (zeroTail_consecutiveFrame fmt txId data base i) k
    (⟨·, buf, outLen⟩) (storeConsecutive fmt bufSize outLen (fmt.offset base i) ((i + 1) % 16)
      (min fmt.cfDataBytes (data.length - fmt.offset base i)) buf r) p q
  have hcf := (isCf_consecutiveFrame fmt txId data base hi).carries hc
  rwa [storeConsecutive_of_isCf fmt bufSize outLen _ _ _ buf _ (by omega) (by omega) (by omega)
    (Nat.mod_lt _ (by decide)) hcf, hc.slice, slice_consecutiveFrame] at hrun

theorem load_store_cfContent {i : Nat} {buf : Mem UInt8}
    (h : buf.load 0 (fmt.offset base i) = data.take (fmt.offset base i)) :
    (buf.store (fmt.offset base i) (cfContent fmt data base i)).load 0
        (fmt.offset base i + min fmt.cfDataBytes (data.length - fmt.offset base i)) =
      data.take (fmt.offset base i +
        min fmt.cfDataBytes (data.length - fmt.offset base i)) := by
  have hload := Mem.load_store_extend buf (fmt.offset base i) (cfContent fmt data base i)
  rw [length_cfContent] at hload
  rw [hload, h, List.take_add, cfContent, ← List.length_drop, ← List.take_eq_take_min]

/-! ## Any sender that keeps to the blocks -/

/-- A block of `bs` frames is full after frame `i`. -/
theorem dvd_succ_iff {bs i : Nat} : bs ∣ i + 1 ↔ 0 < bs ∧ bs ≤ i % bs + 1 := by
  by_cases hbs : bs = 0
  · subst hbs
    simp
  · have hpos := Nat.pos_of_ne_zero hbs
    have hlt := Nat.mod_lt i hpos
    rw [Nat.dvd_iff_mod_eq_zero, ← Nat.mod_add_mod, ← Nat.dvd_iff_mod_eq_zero]
    constructor
    · exact fun h => ⟨hpos, Nat.le_of_dvd (Nat.succ_pos _) h⟩
    · rintro ⟨-, hle⟩
      rw [show i % bs + 1 = bs by omega]

/-- Inside a block the place moves on by one. -/
theorem succ_mod_of_not_dvd {bs i : Nat} (h : ¬bs ∣ i + 1) : (i + 1) % bs = i % bs + 1 := by
  by_cases hbs : bs = 0
  · subst hbs
    rw [Nat.mod_zero, Nat.mod_zero]
  · have hlt := Nat.mod_lt i (Nat.pos_of_ne_zero hbs)
    rw [dvd_succ_iff] at h
    rw [← Nat.mod_add_mod]
    exact Nat.mod_eq_of_lt (by omega)

section Paced

variable {α : Type} (med)

/-- A sender of Consecutive Frames: in `block i` it is about to send frame `i`, in
`wait i` it awaits Flow Control before, and in `last` it has sent them all. -/
structure Paced (block wait : Nat → Proc (Frame cap) UdsCanError α)
    (last : Proc (Frame cap) UdsCanError α) : Prop where
  send : ∀ {i : Nat}, i < fmt.cfCount base data.length →
    ∃ k, block i = .send (consecutiveFrame fmt txId data base i) k ∧ k (.ok ()) =
      if i + 1 = fmt.cfCount base data.length then last
      else if cfg.blockSize.toNat ∣ i + 1 then wait (i + 1) else block (i + 1)
  flow : ∀ {i : Nat}, i < fmt.cfCount base data.length → cfg.blockSize.toNat ∣ i →
    ∀ (fail : UdsTpError → UdsTpRecvResult) (r : RecvProc cap) (p q : Nat),
    Relation.ReflTransGen (Comm med)
      ⟨wait i, sendFrame fail (encodeFc fmt rxId .cts cfg.blockSize cfg.stMin) r, [], [], p, q⟩
      ⟨block i, r, [], [], p, q + 1⟩

variable {med fmt txId rxId data base cfg} {block wait : Nat → Proc (Frame cap) UdsCanError α}
  {last : Proc (Frame cap) UdsCanError α}

theorem Paced.comm_round (h : Paced med fmt txId rxId data base cfg block wait last)
    (hmed : Delivers med) (hfit : data.length ≤ bufSize) {i : Nat}
    (hi : i < fmt.cfCount base data.length) (buf : Mem UInt8) (p q : Nat) :
    Relation.ReflTransGen (Comm med)
      ⟨block i, recvLoop fmt rxId cfg bufSize data.length outLen (fmt.offset base i)
        ((i + 1) % 16) (i % cfg.blockSize.toNat % 256) buf, [], [], p, q⟩
      ⟨if i + 1 = fmt.cfCount base data.length then last
        else if cfg.blockSize.toNat ∣ i + 1 then wait (i + 1) else block (i + 1),
        recvLoop fmt rxId cfg bufSize data.length outLen (fmt.offset base i +
          min fmt.cfDataBytes (data.length - fmt.offset base i)) ((i + 1 + 1) % 16)
          ((i % cfg.blockSize.toNat % 256 + 1) % 256)
          (buf.store (fmt.offset base i) (cfContent fmt data base i)),
        [], [], p + 1, q⟩ := by
  have hlt := (fmt.lt_cfCount_iff base data.length i).mp hi
  have hbs : cfg.blockSize.toNat < 256 := cfg.blockSize.toNat_lt
  have hroom : ¬(0 < cfg.blockSize.toNat ∧
      cfg.blockSize.toNat ≤ i % cfg.blockSize.toNat % 256) := by
    rintro ⟨hpos, hle⟩
    have hplace := Nat.mod_lt i hpos
    omega
  obtain ⟨k, hblock, hk⟩ := h.send hi
  rw [hblock, ← hk, recvLoop_of_room _ hlt hroom, sn_succ]
  exact comm_frame fmt txId data base bufSize outLen hmed hfit hi buf k _ p q

theorem Paced.comm_lockstep (h : Paced med fmt txId rxId data base cfg block wait last)
    (hmed : Delivers med) (hfit : data.length ≤ bufSize) {n i : Nat}
    (hn : i + n + 1 = fmt.cfCount base data.length) {buf : Mem UInt8}
    (hbuf : buf.load 0 (fmt.offset base i) = data.take (fmt.offset base i)) (p q : Nat) :
    ∃ buf' p' q', Relation.ReflTransGen (Comm med)
      ⟨block i, recvLoop fmt rxId cfg bufSize data.length outLen (fmt.offset base i)
        ((i + 1) % 16) (i % cfg.blockSize.toNat % 256) buf, [], [], p, q⟩
      ⟨last, .ret ⟨.ok, buf', data.length⟩, [], [], p', q'⟩ ∧
      buf'.load 0 data.length = data := by
  induction n generalizing i buf p q with
  | zero =>
      have hi : i < fmt.cfCount base data.length := by omega
      have hround := h.comm_round bufSize outLen hmed hfit hi buf p q
      have hload := load_store_cfContent fmt data base hbuf
      have hend := fmt.offset_add_chunk_last base hn
      rw [hend, List.take_length] at hload
      rw [if_pos hn, hend, recvLoop_of_le _ _ le_rfl] at hround
      exact ⟨_, p + 1, q, hround, hload⟩
  | succ n ih =>
      have hi : i < fmt.cfCount base data.length := by omega
      have hnext : i + 1 < fmt.cfCount base data.length := by omega
      have hlt := (fmt.lt_cfCount_iff base data.length (i + 1)).mp hnext
      have hbs : cfg.blockSize.toNat < 256 := cfg.blockSize.toNat_lt
      have hround := h.comm_round bufSize outLen hmed hfit hi buf p q
      have hload := load_store_cfContent fmt data base hbuf
      rw [if_neg (by omega), fmt.offset_add_chunk base hnext] at hround
      rw [fmt.offset_add_chunk base hnext] at hload
      by_cases hfull : cfg.blockSize.toNat ∣ i + 1
      · -- the block is full: the receiver sends Flow Control, for which the sender waits
        obtain ⟨hpos, hle⟩ := dvd_succ_iff.mp hfull
        have hplace := Nat.mod_lt i hpos
        rw [if_pos hfull, recvLoop_of_full _ hlt ⟨hpos, by omega⟩] at hround
        have hfc := h.flow hnext hfull
          (⟨·, buf.store (fmt.offset base i) (cfContent fmt data base i), outLen⟩)
          (recvLoop fmt rxId cfg bufSize data.length outLen (fmt.offset base (i + 1))
            ((i + 1 + 1) % 16) 0 (buf.store (fmt.offset base i) (cfContent fmt data base i)))
          (p + 1) q
        obtain ⟨buf', p', q', hrest, hdata⟩ := ih (by omega) hload (p + 1) (q + 1)
        rw [Nat.mod_eq_zero_of_dvd hfull] at hrest
        exact ⟨buf', p', q', (hround.trans hfc).trans hrest, hdata⟩
      · rw [if_neg hfull, Nat.mod_add_mod, ← succ_mod_of_not_dvd hfull] at hround
        obtain ⟨buf', p', q', hrest, hdata⟩ := ih (by omega) hload (p + 1) q
        exact ⟨buf', p', q', hround.trans hrest, hdata⟩

theorem Paced.comm_multi (h : Paced med fmt txId rxId data base cfg block wait last)
    (hmed : Delivers med) (hbase : base < data.length) (hfit : data.length ≤ bufSize)
    {ff : Frame cap} (hff : ff.ZeroTail) {k : Except UdsCanError Unit →
      Proc (Frame cap) UdsCanError α} (hk : k (.ok ()) = wait 0) {buf : Mem UInt8}
    {fail : UdsTpError → UdsTpRecvResult} {first : Frame cap → RecvProc cap}
    (hfirst : ∀ f', Frame.Carries ff f' → first f' = recvMulti fmt rxId cfg bufSize data.length
      outLen base (buf.store 0 (data.take base))) :
    ∃ buf' p q, Relation.ReflTransGen (Comm med)
      (Net.start (.send ff k) (recvFrame fail first))
      ⟨last, .ret ⟨.ok, buf', data.length⟩, [], [], p, q⟩ ∧ buf'.load 0 data.length = data := by
  have hcount : 0 < fmt.cfCount base data.length :=
    (fmt.lt_cfCount_iff base data.length 0).mpr hbase
  have htake : (data.take base).length = base := by
    rw [List.length_take]
    omega
  have hload : (buf.store 0 (data.take base)).load 0 (fmt.offset base 0) =
      data.take (fmt.offset base 0) := by
    have hstore := Mem.load_store buf 0 (data.take base)
    rwa [htake] at hstore
  obtain ⟨f', hc, hfirstFrame⟩ := comm_sendLeft hmed hff k fail first 0 0
  rw [hfirst f' hc, recvMulti, hk] at hfirstFrame
  have hfc := h.flow hcount (Nat.dvd_zero _) (⟨·, buf.store 0 (data.take base), outLen⟩)
    (recvLoop fmt rxId cfg bufSize data.length outLen base 1 0 (buf.store 0 (data.take base))) 1 0
  obtain ⟨buf', p', q', hrest, hdata⟩ := h.comm_lockstep bufSize outLen hmed hfit (i := 0)
    (n := fmt.cfCount base data.length - 1) (by omega) hload 1 1
  rw [Nat.zero_mod, Nat.zero_mod] at hrest
  exact ⟨buf', p', q', (hfirstFrame.trans hfc).trans hrest, hdata⟩

end Paced

/-- The loop of `uds_tp_send` and `uds_tp_send_fd`. -/
theorem paced_sendLoop (hmed : Delivers med) :
    Paced med fmt txId rxId data base cfg
      (fun i => sendBlock fmt txId data (fmt.offset base i) ((i + 1) % 16)
        (i % cfg.blockSize.toNat % 256) cfg.blockSize)
      (fun i => sendLoop fmt txId data (fmt.offset base i) ((i + 1) % 16)) (.ret .ok) where
  send := by
    intro i hi
    refine ⟨_, sendBlock_of_lt fmt txId data base _ cfg.blockSize hi, ?_⟩
    change (if 0 < cfg.blockSize.toNat ∧
      cfg.blockSize.toNat ≤ (i % cfg.blockSize.toNat % 256 + 1) % 256 then _ else _) = _
    by_cases hend : i + 1 = fmt.cfCount base data.length
    · rw [fmt.offset_add_chunk_last base hend, sendLoop_of_le fmt txId data _ le_rfl,
        sendBlock_of_le fmt txId data _ _ _ le_rfl, ite_self, if_pos hend]
    · have hbs : cfg.blockSize.toNat < 256 := cfg.blockSize.toNat_lt
      rw [fmt.offset_add_chunk base (by omega), if_neg hend]
      by_cases hfull : cfg.blockSize.toNat ∣ i + 1
      · obtain ⟨hpos, hle⟩ := dvd_succ_iff.mp hfull
        have hplace := Nat.mod_lt i hpos
        rw [if_pos hfull, if_pos (by omega)]
      · have hnot := mt dvd_succ_iff.mpr hfull
        have hplace : 0 < cfg.blockSize.toNat → i % cfg.blockSize.toNat < cfg.blockSize.toNat :=
          Nat.mod_lt i
        rw [if_neg hfull, if_neg (by omega), Nat.mod_add_mod, succ_mod_of_not_dvd hfull]
  flow := by
    intro i hi hfull fail r p q
    have hlt := (fmt.lt_cfCount_iff base data.length i).mp hi
    rw [sendLoop_of_lt fmt txId data _ hlt, Nat.mod_eq_zero_of_dvd hfull]
    exact comm_flowControl hmed fmt rxId cfg _ fail r p q

/-! ## Whole transfers -/

/-- Both parties have halted, and the receiver holds the PDU. -/
def Transferred (data : List UInt8)
    (c : Net (Frame cap) UdsCanError UdsTpError UdsTpRecvResult) : Prop :=
  c.left = .ret .ok ∧ ∃ res, c.right = .ret res ∧ res.rc = .ok ∧ res.outLen = data.length ∧
    res.buf.load 0 data.length = data

variable {fmt txId rxId data base cfg bufSize outLen}

/-- A Single Frame that the receiver decodes. -/
theorem transferred_single (hmed : Delivers med) {sf : Frame cap} (hsf : sf.ZeroTail)
    {buf : Mem UInt8} {fail : UdsTpError → UdsTpRecvResult} {first : Frame cap → RecvProc cap}
    (hfirst : ∀ f', Frame.Carries sf f' →
      first f' = .ret ⟨.ok, buf.store 0 data, data.length⟩) :
    Inevitable (Patient med UdsCanError.errTimeout) (Transferred data)
      (Net.start (sendFrame id (.ok sf) (.ret .ok)) (recvFrame fail first)) := by
  obtain ⟨f', hc, hrun⟩ := comm_toRight hmed hsf (.ret .ok) fail first 0 0
  rw [hfirst f' hc] at hrun
  exact inevitable_of_comm hrun ⟨rfl, _, rfl, rfl, rfl, Mem.load_store buf 0 data⟩

/-- A First Frame that the receiver decodes, and the Consecutive Frames. -/
theorem transferred_multi (hmed : Delivers med) (hbase : base < data.length)
    (hfit : data.length ≤ bufSize) {ff : Frame cap} (hff : ff.ZeroTail) {buf : Mem UInt8}
    {fail : UdsTpError → UdsTpRecvResult} {first : Frame cap → RecvProc cap}
    (hfirst : ∀ f', Frame.Carries ff f' → first f' = recvMulti fmt rxId cfg bufSize data.length
      outLen base (buf.store 0 (data.take base))) :
    Inevitable (Patient med UdsCanError.errTimeout) (Transferred data)
      (Net.start (sendFrame id (.ok ff) (sendLoop fmt txId data base 1))
        (recvFrame fail first)) := by
  have hpaced := paced_sendLoop fmt txId rxId data base cfg hmed
  have hloop : onSend id (sendLoop fmt txId data base 1) (.ok ()) =
      sendLoop fmt txId data (fmt.offset base 0) ((0 + 1) % 16) := rfl
  obtain ⟨buf', p, q, hrun, hdata⟩ :=
    hpaced.comm_multi bufSize outLen hmed hbase hfit hff hloop hfirst
  exact inevitable_of_comm hrun ⟨rfl, _, rfl, rfl, rfl, hdata⟩

end Run

end Uds.Tp
