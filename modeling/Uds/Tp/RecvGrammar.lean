import Uds.Tp.Receiver
/-!
# What `uds_tp_recv` accepts

The grammar of the answers on which a call should return a PDU, and the exact
condition under which the code follows it.  The source narrows the buffer size
to 32 bits before it compares the declared length with it, so a buffer of
`2 ^ 32` bytes counts as empty; nothing else separates code and grammar.
-/

namespace Uds.Tp

open Uds.Base Uds.Can

section Grammar

variable (ins : Nat → Except UdsCanError CanFrame) (outs : Nat → Except UdsCanError Unit)
  (bufSize : Nat) (cfg : UdsTpConfig)

/-- The number of Consecutive Frames of a PDU of `len` bytes, `(len - 6) / 7`
rounded up. -/
def consecutiveCount (len : Nat) : Nat := (len - 6 + 6) / 7

/-- The number of Flow Control frames for `n` Consecutive Frames: one without a
block size, otherwise one for each block. -/
def flowControlCount (blockSize n : Nat) : Nat :=
  if blockSize = 0 then 1 else (n + (blockSize - 1)) / blockSize

/-- The first answer is a Single Frame whose payload fits. -/
def AcceptsSingle (p : List UInt8) : Prop :=
  ∃ f, ins 0 = .ok f ∧ IsSf f p ∧ p.length ≤ bufSize

/-- The first answer is a First Frame that declares `len` bytes, which fit; the
next ones are its Consecutive Frames, and all Flow Control goes out. -/
structure MultiFrame (ff : CanFrame) (len : Nat) : Prop where
  first : ins 0 = .ok ff
  isFf : IsFf ff len
  fits : len ≤ bufSize
  cfs : CfRun (fun j => ins (j + 1)) 1 (consecutiveCount len)
  fcs : ∀ j < flowControlCount cfg.blockSize.toNat (consecutiveCount len), outs j = .ok ()

/-- The PDU that such a sequence carries. -/
def multiFramePayload (ff : CanFrame) (len : Nat) : List UInt8 :=
  (ff.slice 2 6 ++ payload classic (fun j => ins (j + 1)) (consecutiveCount len)).take len

/-- The answers on which a receiver should return `p`. -/
def Accepts (p : List UInt8) : Prop :=
  AcceptsSingle ins bufSize p ∨
    ∃ ff len, MultiFrame ins outs bufSize cfg ff len ∧ p = multiFramePayload ins ff len

end Grammar

theorem flowControlCount_eq (blockSize : Nat) {n : Nat} (h : 0 < n) :
    flowControlCount blockSize n = refills blockSize 0 n + 1 := by
  unfold flowControlCount refills
  by_cases hb : blockSize = 0
  · simp [hb]
  · rw [if_neg hb, if_neg hb, ← Nat.add_div_right _ (by omega)]
    congr 1
    omega

theorem consecutiveCount_pos {len : Nat} (h : 8 ≤ len) : 0 < consecutiveCount len := by
  unfold consecutiveCount
  omega

theorem IsFf.unique {f : CanFrame} {len len' : Nat} (h : IsFf f len) (h' : IsFf f len') :
    len = len' := by
  have hpci := h.pci.symm.trans h'.pci
  have hlow := h.low.symm.trans h'.low
  omega

theorem IsSf.unique {f : CanFrame} {p p' : List UInt8} (h : IsSf f p) (h' : IsSf f p') :
    p = p' := by
  have hlen : p.length = p'.length := h.pci.symm.trans h'.pci
  rw [← h.payload, ← h'.payload, hlen]

theorem IsFf.not_isSf {f : CanFrame} {len : Nat} {p : List UInt8} (h : IsFf f len) :
    ¬IsSf f p := by
  intro hsf
  have hpci := h.pci.symm.trans hsf.pci
  have hle := hsf.le
  omega

/-- The whole behaviour of a call of `uds_tp_recv`: `buf` is the buffer at entry
and `run` what the call did. -/
structure RecvSpec (txId : UInt32) (buf : Mem UInt8) (bufSize outLen : Nat)
    (cfg : UdsTpConfig) (ins : Nat → Except UdsCanError CanFrame)
    (outs : Nat → Except UdsCanError Unit)
    (run : List (Event CanFrame UdsCanError) × UdsTpRecvResult) : Prop where
  accepts_iff : ∀ p, (run.2.rc = .ok ∧ run.2.outLen = p.length ∧
    run.2.buf.load 0 p.length = p) ↔ Accepts ins outs bufSize cfg p
  single_flow : ∀ f p, ins 0 = .ok f → IsSf f p → run.2.rc = .ok → offered run.1 = []
  multi_flow : ∀ ff len, ins 0 = .ok ff → IsFf ff len → run.2.rc = .ok →
    recvCount run.1 = consecutiveCount len + 1 ∧
    offered run.1 = List.replicate
      (flowControlCount cfg.blockSize.toNat (consecutiveCount len))
      (flowControlFrame classic txId cfg)
  beyond : ∀ a, bufSize ≤ a → run.2.buf a = buf a
  outLen_unchanged : run.2.rc ≠ .ok → run.2.outLen = outLen

section Recv

variable {txId : UInt32} {buf : Mem UInt8} {bufSize outLen : Nat} {cfg : UdsTpConfig}
  {ins : Nat → Except UdsCanError CanFrame} {outs : Nat → Except UdsCanError Unit}

theorem RecvSpec.fail {rc : UdsTpError} {buf' : Mem UInt8}
    (tr : List (Event CanFrame UdsCanError)) (hrc : rc ≠ .ok)
    (hbuf : ∀ a, bufSize ≤ a → buf' a = buf a) (h : ∀ p, ¬Accepts ins outs bufSize cfg p) :
    RecvSpec txId buf bufSize outLen cfg ins outs (tr, ⟨rc, buf', outLen⟩) where
  accepts_iff := fun p => ⟨fun hok => absurd hok.1 hrc, fun hp => absurd hp (h p)⟩
  single_flow := fun _ _ _ _ hok => absurd hok hrc
  multi_flow := fun _ _ _ _ hok => absurd hok hrc
  beyond := hbuf
  outLen_unchanged := fun _ => rfl

theorem not_accepts {f : CanFrame} (hin : ins 0 = .ok f)
    (hsf : ∀ p, IsSf f p → ¬p.length ≤ bufSize) (hff : ∀ len, IsFf f len → ¬len ≤ bufSize)
    (p : List UInt8) : ¬Accepts ins outs bufSize cfg p := by
  rintro (⟨f', hin', hf', hle⟩ | ⟨ff, len, hm, -⟩)
  · obtain rfl : f = f' := Except.ok.inj (hin.symm.trans hin')
    exact hsf p hf' hle
  · obtain rfl : f = ff := Except.ok.inj (hin.symm.trans hm.first)
    exact hff len hm.isFf hm.fits

theorem recvSpec_single {f : CanFrame} {p : List UInt8} (hin : ins 0 = .ok f) (hf : IsSf f p)
    (hle : p.length ≤ bufSize) :
    RecvSpec txId buf bufSize outLen cfg ins outs
      ([.recvd (ins 0)], ⟨.ok, buf.store 0 p, p.length⟩) where
  accepts_iff := by
    intro q
    constructor
    · rintro ⟨-, hlen, hload⟩
      have hlen : p.length = q.length := hlen
      have hpq : p = q := by
        rw [← hload, ← hlen, Mem.load_store]
      rw [← hpq]
      exact Or.inl ⟨f, hin, hf, hle⟩
    · rintro (⟨f', hin', hf', hle'⟩ | ⟨ff, len, hm, -⟩)
      · obtain rfl : f = f' := Except.ok.inj (hin.symm.trans hin')
        rw [← hf.unique hf']
        exact ⟨rfl, rfl, Mem.load_store buf 0 p⟩
      · obtain rfl : f = ff := Except.ok.inj (hin.symm.trans hm.first)
        exact absurd hf hm.isFf.not_isSf
  single_flow := fun _ _ _ _ _ => rfl
  multi_flow := by
    intro ff len hin' hff
    obtain rfl : f = ff := Except.ok.inj (hin.symm.trans hin')
    exact absurd hf hff.not_isSf
  beyond := fun a ha => Mem.store_of_ge buf 0 p (by omega)
  outLen_unchanged := fun hne => absurd rfl hne

theorem recvSpec_multi {ff : CanFrame} {len : Nat} (hin : ins 0 = .ok ff) (hff : IsFf ff len)
    (hfit : len ≤ bufSize)
    {run : List (Event CanFrame UdsCanError) × UdsTpRecvResult}
    (h : Received classic txId cfg bufSize len outLen 6 1 (consecutiveCount len)
      (flowControlCount cfg.blockSize.toNat (consecutiveCount len))
      (buf.store 0 (ff.slice 2 6)) (fun j => ins (j + 1)) outs run) :
    RecvSpec txId buf bufSize outLen cfg ins outs (.recvd (ins 0) :: run.1, run.2) := by
  have hge := hff.ge
  have hslice : (ff.slice 2 6).length = 6 := Frame.length_slice ff (by omega)
  have hmulti : run.2.rc = .ok ↔ MultiFrame ins outs bufSize cfg ff len := by
    rw [h.ok_iff]
    exact ⟨fun hrun => ⟨hin, hff, hfit, hrun.1, hrun.2⟩, fun hm => ⟨hm.cfs, hm.fcs⟩⟩
  have hcontent : run.2.rc = .ok →
      run.2.buf.load 0 len = multiFramePayload ins ff len :=
    h.content_take hslice (by omega)
  have hlen : run.2.rc = .ok → (multiFramePayload ins ff len).length = len := by
    intro hok
    rw [← hcontent hok, Mem.length_load]
  refine ⟨?_, ?_, ?_, ?_, h.outLen_of_ne⟩
  · intro p
    constructor
    · rintro ⟨hok, hout, hload⟩
      have hp : p.length = len := by rw [← hout, h.outLen_of_ok hok]
      rw [hp, hcontent hok] at hload
      exact Or.inr ⟨ff, len, hmulti.mp hok, hload.symm⟩
    · rintro (⟨f, hin', hf, -⟩ | ⟨ff', len', hm, rfl⟩)
      · obtain rfl : ff = f := Except.ok.inj (hin.symm.trans hin')
        exact absurd hf hff.not_isSf
      · obtain rfl : ff = ff' := Except.ok.inj (hin.symm.trans hm.first)
        obtain rfl : len = len' := hff.unique hm.isFf
        have hok := hmulti.mpr hm
        rw [hlen hok]
        exact ⟨hok, h.outLen_of_ok hok, hcontent hok⟩
  · intro f p hin' hf
    obtain rfl : ff = f := Except.ok.inj (hin.symm.trans hin')
    exact absurd hf hff.not_isSf
  · intro ff' len' hin' hff' hok
    obtain rfl : ff = ff' := Except.ok.inj (hin.symm.trans hin')
    obtain rfl : len = len' := hff.unique hff'
    exact ⟨by simp [h.reads hok], by simpa using h.flow hok⟩
  · intro a ha
    rw [h.beyond a ha, Mem.store_of_ge buf 0 _ (by omega)]

variable (txId buf outLen cfg outs) in
theorem received_multi (ff : CanFrame) {len : Nat} (h : 8 ≤ len) (hfit : len ≤ bufSize)
    (ins : Nat → Except UdsCanError CanFrame) :
    Received classic txId cfg bufSize len outLen 6 1 (consecutiveCount len)
      (flowControlCount cfg.blockSize.toNat (consecutiveCount len))
      (buf.store 0 (ff.slice 2 6)) ins outs
      ((recvMulti classic txId cfg bufSize len outLen udsTpFfDataBytes
        (buf.store 0 (ff.slice 2 6))).exec ins outs) := by
  rw [flowControlCount_eq _ (consecutiveCount_pos h), recvMulti]
  refine received_of_flowControl _ fun outs => ?_
  exact recvLoop_received (k := 1) 0 rfl (show 6 ≤ len by omega) hfit
    (fun _ => Nat.zero_le _)

/-! ## The first frame -/

variable (txId buf outLen cfg)

theorem onFirstFrame_sf {f : CanFrame} {p : List UInt8} (hf : IsSf f p)
    (hle : p.length ≤ bufSize) :
    onFirstFrame txId buf bufSize outLen cfg f = .ret ⟨.ok, buf.store 0 p, p.length⟩ := by
  have hdec := (udsTpDecodeSf_eq_ok f bufSize p).mpr ⟨hf, hle⟩
  have htype : udsTpFrameType f = .sf := by
    have hpci := hf.pci
    have hdlc := hf.dlc
    have hle := hf.le
    exact (frameType_eq_sf f).mpr (by omega)
  simp only [onFirstFrame, htype, hdec]

theorem onFirstFrame_ff {f : CanFrame} {len : Nat} (hf : IsFf f len) (hbuf : 6 ≤ bufSize) :
    onFirstFrame txId buf bufSize outLen cfg f =
      if len > bufSize % 2 ^ 32 then .ret ⟨.errBufFull, buf.store 0 (f.slice 2 6), outLen⟩
      else recvMulti classic txId cfg bufSize len outLen udsTpFfDataBytes
        (buf.store 0 (f.slice 2 6)) := by
  have hdec := (udsTpDecodeFf_eq_ok f bufSize len (f.slice 2 6)).mpr ⟨hbuf, hf, rfl⟩
  have htype : udsTpFrameType f = .ff := by
    have hpci := hf.pci
    have hdlc := hf.dlc
    have hle := hf.le
    exact (frameType_eq_ff f).mpr (by omega)
  simp only [onFirstFrame, htype, hdec]

/-- Every other first frame ends the call with the buffer as it was. -/
theorem onFirstFrame_other {f : CanFrame} (hsf : ∀ p, IsSf f p → ¬p.length ≤ bufSize)
    (hff : ∀ len, IsFf f len → ¬6 ≤ bufSize) :
    ∃ rc, rc ≠ .ok ∧ onFirstFrame txId buf bufSize outLen cfg f = .ret ⟨rc, buf, outLen⟩ := by
  unfold onFirstFrame
  cases htype : udsTpFrameType f with
  | sf =>
      cases hdec : udsTpDecodeSf f bufSize with
      | error rc =>
          refine ⟨rc, ?_, rfl⟩
          rintro rfl
          exact udsTpDecodeSf_error f bufSize hdec
      | ok p =>
          obtain ⟨hp, hle⟩ := (udsTpDecodeSf_eq_ok f bufSize p).mp hdec
          exact absurd hle (hsf p hp)
  | ff =>
      cases hdec : udsTpDecodeFf f bufSize with
      | error rc =>
          refine ⟨rc, ?_, rfl⟩
          rintro rfl
          exact udsTpDecodeFf_error f bufSize hdec
      | ok out =>
          obtain ⟨hbuf, hf, -⟩ := (udsTpDecodeFf_eq_ok f bufSize out.1 out.2).mp hdec
          exact absurd hbuf (hff out.1 hf)
  | cf | fc | unknown => exact ⟨.errFrameType, by decide, rfl⟩

theorem udsTpRecv_exec (hbuf : bufSize ≠ 0) (hcfg : cfg.timeoutMs ≠ 0) :
    (udsTpRecv txId buf bufSize outLen cfg).exec ins outs =
      let rest := (onRecv (⟨·, buf, outLen⟩) (onFirstFrame txId buf bufSize outLen cfg)
        (ins 0)).exec (fun j => ins (j + 1)) outs
      (.recvd (ins 0) :: rest.1, rest.2) := by
  rw [udsTpRecv, if_neg hbuf, if_neg hcfg]
  rfl

theorem udsTpRecv_exec_ok (hbuf : bufSize ≠ 0) (hcfg : cfg.timeoutMs ≠ 0) {f : CanFrame}
    (hin : ins 0 = .ok f) :
    (udsTpRecv txId buf bufSize outLen cfg).exec ins outs =
      let rest := (onFirstFrame txId buf bufSize outLen cfg f).exec (fun j => ins (j + 1)) outs
      (.recvd (ins 0) :: rest.1, rest.2) := by
  rw [udsTpRecv_exec txId buf outLen cfg hbuf hcfg, hin]
  rfl

/-! ## The code against the grammar -/

theorem recvSpec_of_error (hbuf : bufSize ≠ 0) (hcfg : cfg.timeoutMs ≠ 0) {err : UdsCanError}
    (hin : ins 0 = .error err) :
    RecvSpec txId buf bufSize outLen cfg ins outs
      ((udsTpRecv txId buf bufSize outLen cfg).exec ins outs) := by
  have hno : ∀ p, ¬Accepts ins outs bufSize cfg p := by
    rintro p (⟨f, hin', -⟩ | ⟨ff, len, hm, -⟩)
    · rw [hin] at hin'
      cases hin'
    · have hin' := hm.first
      rw [hin] at hin'
      cases hin'
  rw [udsTpRecv_exec txId buf outLen cfg hbuf hcfg, hin]
  cases err with
  | errTimeout => exact .fail _ (by decide) (fun _ _ => rfl) hno
  | _ => exact .fail _ (by decide) (fun _ _ => rfl) hno

variable (bufSize outs) in
theorem udsTpRecv_exec_bufFull (hcfg : cfg.timeoutMs ≠ 0) {ff : CanFrame} {len : Nat}
    (hin : ins 0 = .ok ff) (hff : IsFf ff len) (hsix : 6 ≤ bufSize)
    (h : bufSize % 2 ^ 32 < len) :
    (udsTpRecv txId buf bufSize outLen cfg).exec ins outs =
      ([.recvd (ins 0)], ⟨.errBufFull, buf.store 0 (ff.slice 2 6), outLen⟩) := by
  rw [udsTpRecv_exec_ok txId buf outLen cfg (by omega) hcfg hin,
    onFirstFrame_ff txId buf outLen cfg hff hsix, if_pos h]
  rfl

theorem recvSpec_of_ff (hcfg : cfg.timeoutMs ≠ 0) {ff : CanFrame} {len : Nat}
    (hin : ins 0 = .ok ff) (hff : IsFf ff len) (hsix : 6 ≤ bufSize)
    (h : MultiFrame ins outs bufSize cfg ff len → len ≤ bufSize % 2 ^ 32) :
    RecvSpec txId buf bufSize outLen cfg ins outs
      ((udsTpRecv txId buf bufSize outLen cfg).exec ins outs) := by
  by_cases hmod : bufSize % 2 ^ 32 < len
  · have hslice : (ff.slice 2 6).length = 6 := Frame.length_slice ff (by omega)
    rw [udsTpRecv_exec_bufFull txId buf bufSize outLen cfg outs hcfg hin hff hsix hmod]
    refine .fail _ (by decide) (fun a ha => Mem.store_of_ge buf 0 _ (by omega)) ?_
    rintro p (⟨f, hin', hf, -⟩ | ⟨ff', len', hm, -⟩)
    · obtain rfl : ff = f := Except.ok.inj (hin.symm.trans hin')
      exact absurd hf hff.not_isSf
    · obtain rfl : ff = ff' := Except.ok.inj (hin.symm.trans hm.first)
      obtain rfl : len = len' := hff.unique hm.isFf
      have hle := h hm
      omega
  · have hfit : len ≤ bufSize := by
      have hle := Nat.mod_le bufSize (2 ^ 32)
      omega
    have hrun := received_multi txId buf outLen cfg outs ff hff.ge hfit (fun j => ins (j + 1))
    rw [udsTpRecv_exec_ok txId buf outLen cfg (by omega) hcfg hin,
      onFirstFrame_ff txId buf outLen cfg hff hsix, if_neg hmod]
    exact recvSpec_multi hin hff hfit hrun

theorem recvSpec_of_ok (hbuf : bufSize ≠ 0) (hcfg : cfg.timeoutMs ≠ 0) {f : CanFrame}
    (hin : ins 0 = .ok f)
    (h : ∀ len, MultiFrame ins outs bufSize cfg f len → len ≤ bufSize % 2 ^ 32) :
    RecvSpec txId buf bufSize outLen cfg ins outs
      ((udsTpRecv txId buf bufSize outLen cfg).exec ins outs) := by
  by_cases hff : (∃ len, IsFf f len) ∧ 6 ≤ bufSize
  · obtain ⟨⟨len, hlen⟩, hsix⟩ := hff
    exact recvSpec_of_ff txId buf outLen cfg hcfg hin hlen hsix (h len)
  · have hnoff : ∀ len, IsFf f len → ¬6 ≤ bufSize :=
      fun len hlen hsix => hff ⟨⟨len, hlen⟩, hsix⟩
    rw [udsTpRecv_exec_ok txId buf outLen cfg hbuf hcfg hin]
    by_cases hsf : ∃ p, IsSf f p ∧ p.length ≤ bufSize
    · obtain ⟨p, hp, hle⟩ := hsf
      rw [onFirstFrame_sf txId buf outLen cfg hp hle]
      exact recvSpec_single hin hp hle
    · have hnosf : ∀ p, IsSf f p → ¬p.length ≤ bufSize := fun p hp hle => hsf ⟨p, hp, hle⟩
      obtain ⟨rc, hrc, hret⟩ := onFirstFrame_other txId buf outLen cfg hnosf hnoff
      rw [hret]
      refine .fail _ hrc (fun _ _ => rfl) (not_accepts hin hnosf fun len hlen hle => ?_)
      have hge := hlen.ge
      exact hnoff len hlen (by omega)

/-- Where the narrowed buffer size does not reject the PDU, the code follows the
grammar. -/
theorem recvSpec_of_fits (hbuf : bufSize ≠ 0) (hcfg : cfg.timeoutMs ≠ 0)
    (h : ¬∃ ff len, MultiFrame ins outs bufSize cfg ff len ∧ bufSize % 2 ^ 32 < len) :
    RecvSpec txId buf bufSize outLen cfg ins outs
      ((udsTpRecv txId buf bufSize outLen cfg).exec ins outs) := by
  cases hin : ins 0 with
  | error err => exact recvSpec_of_error txId buf outLen cfg hbuf hcfg hin
  | ok f =>
      apply recvSpec_of_ok txId buf outLen cfg hbuf hcfg hin
      intro len hm
      by_cases hmod : bufSize % 2 ^ 32 < len
      · exact absurd ⟨f, len, hm, hmod⟩ h
      · omega

/-- Where it does, the call fails. -/
theorem rc_ne_ok_of_bufFull (hcfg : cfg.timeoutMs ≠ 0)
    (h : ∃ ff len, MultiFrame ins outs bufSize cfg ff len ∧ bufSize % 2 ^ 32 < len) :
    ((udsTpRecv txId buf bufSize outLen cfg).exec ins outs).2.rc ≠ .ok := by
  obtain ⟨ff, len, hm, hmod⟩ := h
  have hsix : 6 ≤ bufSize := by
    have hge := hm.isFf.ge
    have hfits := hm.fits
    omega
  rw [udsTpRecv_exec_bufFull txId buf bufSize outLen cfg outs hcfg hm.first hm.isFf hsix hmod]
  exact UdsTpError.noConfusion

end Recv

/-- `uds_tp_recv` follows the grammar on exactly those inputs that are not a
well-formed transfer of a PDU that fits the buffer but is longer than the
buffer size modulo `2 ^ 32`. -/
theorem udsTpRecv_spec_iff (txId : UInt32) (buf : Mem UInt8) (bufSize outLen : Nat)
    (cfg : UdsTpConfig) (ins : Nat → Except UdsCanError CanFrame)
    (outs : Nat → Except UdsCanError Unit) (hbuf : 1 ≤ bufSize) (hcfg : cfg.timeoutMs ≠ 0) :
    RecvSpec txId buf bufSize outLen cfg ins outs
        ((udsTpRecv txId buf bufSize outLen cfg).exec ins outs) ↔
      ¬∃ ff len, MultiFrame ins outs bufSize cfg ff len ∧ bufSize % 2 ^ 32 < len := by
  constructor
  · intro hspec hbad
    obtain ⟨ff, len, hm, hmod⟩ := id hbad
    have hacc := (hspec.accepts_iff _).mpr (Or.inr ⟨ff, len, hm, rfl⟩)
    exact rc_ne_ok_of_bufFull txId buf outLen cfg hcfg hbad hacc.1
  · exact recvSpec_of_fits txId buf outLen cfg (by omega) hcfg

/-- The two frames of the PDU `1, 2, .., 8`. -/
def eightBytes : Nat → Except UdsCanError CanFrame
  | 0 => .ok (.ofBytes 0x7E0 8 Frame.le_classic [0x10, 8, 1, 2, 3, 4, 5, 6])
  | _ => .ok (.ofBytes 0x7E0 8 Frame.le_classic [0x21, 7, 8])

theorem udsTpRecv_spec_iff_eightBytes :
    RecvSpec 0x7E8 (fun _ => 0) 4095 0 ⟨1000, 0, 0⟩ eightBytes (fun _ => .ok ())
        ((udsTpRecv 0x7E8 (fun _ => 0) 4095 0 ⟨1000, 0, 0⟩).exec eightBytes fun _ => .ok ()) ↔
      ¬∃ ff len, MultiFrame eightBytes (fun _ => .ok ()) 4095 ⟨1000, 0, 0⟩ ff len ∧
        4095 % 2 ^ 32 < len :=
  udsTpRecv_spec_iff 0x7E8 (fun _ => 0) 4095 0 ⟨1000, 0, 0⟩ eightBytes (fun _ => .ok ())
    (by decide) (by decide)

/-- A buffer of 4 GiB is refused for a PDU of eight bytes. -/
theorem udsTpRecv_spec_fails :
    ¬RecvSpec 0x7E8 (fun _ => 0) (2 ^ 32) 0 ⟨1000, 0, 0⟩ eightBytes (fun _ => .ok ())
      ((udsTpRecv 0x7E8 (fun _ => 0) (2 ^ 32) 0 ⟨1000, 0, 0⟩).exec eightBytes
        fun _ => .ok ()) := by
  intro hspec
  have hff : IsFf (.ofBytes 0x7E0 8 le_rfl [0x10, 8, 1, 2, 3, 4, 5, 6]) 8 :=
    ⟨by decide, by decide, by decide, by decide, rfl⟩
  have hcf : CfRun (fun j => eightBytes (j + 1)) 1 (consecutiveCount 8) := by
    intro j hj
    have hzero : j = 0 := by
      have hone : consecutiveCount 8 = 1 := by decide
      omega
    subst hzero
    exact ⟨_, rfl, by decide, by decide⟩
  have hm : MultiFrame eightBytes (fun _ => .ok ()) (2 ^ 32) ⟨1000, 0, 0⟩ _ 8 :=
    ⟨rfl, hff, by decide, hcf, fun _ _ => rfl⟩
  have hacc := (hspec.accepts_iff _).mpr (Or.inr ⟨_, 8, hm, rfl⟩)
  exact rc_ne_ok_of_bufFull 0x7E8 (fun _ => 0) 0 ⟨1000, 0, 0⟩ (by decide)
    ⟨_, 8, hm, by decide⟩ hacc.1

end Uds.Tp
