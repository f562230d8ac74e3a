import Uds.Tp.Lockstep
import Uds.Tp.RecvGrammar
import Uds.Tp.SendSafety
/-!
# Classic transfers end to end

Over a bus that loses nothing the loops run in lock step.  Over a bus that loses
frames, what the receiver gets is a subsequence of an initial part of the
segmentation; to accept it, the grammar needs the First Frame and as many
Consecutive Frames as the segmentation has, so nothing can be missing.
-/

namespace Uds.Tp

open Uds.Base Uds.Can

/-! ## First frames -/

theorem udsTpEncodeSf_short (canId : UInt32) {data : List UInt8} (hpos : 1 ≤ data.length)
    (hle : data.length ≤ 7) :
    udsTpEncodeSf canId data = .ok (.ofBytes canId (1 + data.length) (by omega)
      (UInt8.ofNat data.length :: data)) := by
  have hmax : ¬(data.length = 0 ∨ data.length > udsTpSfMaxData) := by
    unfold udsTpSfMaxData
    omega
  rw [udsTpEncodeSf, dif_neg hmax]

/-- The Single Frame of a PDU of at most seven bytes. -/
theorem udsTpEncodeSf_eq (canId : UInt32) {data : List UInt8} (hpos : 1 ≤ data.length)
    (hle : data.length ≤ 7) :
    ∃ sf, udsTpEncodeSf canId data = .ok sf ∧ sf.ZeroTail ∧
      ∀ f', Frame.Carries sf f' → IsSf f' data := by
  have hlen : 1 + data.length ≤ 8 := by omega
  have hbytes : (UInt8.ofNat data.length :: data).length ≤ 1 + data.length := by
    rw [List.length_cons]
    omega
  refine ⟨_, udsTpEncodeSf_short canId hpos hle, Frame.zeroTail_ofBytes _ _ _ hbytes, ?_⟩
  · intro f' hc
    have h0 : f'.byte 0 = UInt8.ofNat data.length :=
      hc.byte_ofBytes (hbytes.trans hlen) (Nat.succ_pos _)
    have hslice : f'.slice [UInt8.ofNat data.length].length data.length = data :=
      hc.slice_ofBytes hlen
    rw [List.length_singleton] at hslice
    refine ⟨hpos, hle, ?_, hc.len, hslice⟩
    rw [h0, UInt8.toNat_ofNat']
    omega

section FirstFrame

variable (canId : UInt32) {data : List UInt8} (hge : 8 ≤ data.length)
  (hle : data.length ≤ 4095)

include hge in
theorem length_firstFrame_bytes :
    ([UInt8.ofNat (0x10 + data.length / 256), UInt8.ofNat (data.length % 256)] ++
      data.take 6).length = 8 := by
  rw [List.length_append, List.length_take, List.length_cons, List.length_singleton]
  omega

include hge in
theorem zeroTail_firstFrame : (firstFrame canId data).ZeroTail :=
  Frame.zeroTail_ofBytes _ _ _ (length_firstFrame_bytes hge).le

include hge hle in
theorem isFf_firstFrame {f' : CanFrame} (hc : Frame.Carries (firstFrame canId data) f') :
    IsFf f' data.length := by
  have hbytes := (length_firstFrame_bytes hge).le
  refine ⟨hge, hle, ?_, ?_, le_antisymm f'.len_le hc.len⟩
  · rw [hc.byte_ofBytes hbytes (by simp)]
    simp
    omega
  · rw [hc.byte_ofBytes hbytes (by simp)]
    simp

include hge in
theorem slice_firstFrame {f' : CanFrame} (hc : Frame.Carries (firstFrame canId data) f') :
    f'.slice 2 6 = data.take 6 := by
  have htake : (data.take 6).length = 6 := by
    rw [List.length_take]
    omega
  have hslice : f'.slice 2 (data.take 6).length = data.take 6 := by
    refine hc.slice_ofBytes ?_
    rw [← List.length_append]
    exact (length_firstFrame_bytes hge).le
  rwa [htake] at hslice

end FirstFrame

/-! ## A bus that loses nothing -/

section Transfer

variable {txId rxId : UInt32} {data : List UInt8} {sCfg rCfg : UdsTpConfig} {buf : Mem UInt8}
  {bufSize outLen : Nat}

theorem udsTpSend_single (hpos : 1 ≤ data.length) (hle : data.length ≤ 7)
    (hs : sCfg.timeoutMs ≠ 0) :
    udsTpSend txId data sCfg = sendFrame id (udsTpEncodeSf txId data) (.ret .ok) := by
  have hmax : ¬(data.length = 0 ∨ data.length > udsTpMaxPduLen) := by
    unfold udsTpMaxPduLen
    omega
  have hsingle : data.length ≤ udsTpSfMaxData := hle
  rw [udsTpSend, if_neg hmax, if_neg hs, if_pos hsingle]

theorem udsTpRecv_eq (hbuf : bufSize ≠ 0) (hr : rCfg.timeoutMs ≠ 0) :
    udsTpRecv rxId buf bufSize outLen rCfg =
      recvFrame (⟨·, buf, outLen⟩) (onFirstFrame rxId buf bufSize outLen rCfg) := by
  rw [udsTpRecv, if_neg hbuf, if_neg hr]

theorem transferred_of_single {med : Medium CanFrame} (hmed : Delivers med)
    (hpos : 1 ≤ data.length) (hle : data.length ≤ 7) (hs : sCfg.timeoutMs ≠ 0)
    (hr : rCfg.timeoutMs ≠ 0) (hfit : data.length ≤ bufSize) :
    Inevitable (Patient med UdsCanError.errTimeout) (Transferred data)
      (Net.start (udsTpSend txId data sCfg) (udsTpRecv rxId buf bufSize outLen rCfg)) := by
  obtain ⟨sf, henc, hz, hsf⟩ := udsTpEncodeSf_eq txId hpos hle
  rw [udsTpSend_single hpos hle hs, henc, udsTpRecv_eq (by omega) hr]
  apply transferred_single hmed hz
  intro f' hc
  exact onFirstFrame_sf rxId buf outLen rCfg (hsf f' hc) hfit

theorem transferred_of_multi {med : Medium CanFrame} (hmed : Delivers med)
    (hge : 8 ≤ data.length) (hle : data.length ≤ 4095) (hs : sCfg.timeoutMs ≠ 0)
    (hr : rCfg.timeoutMs ≠ 0) (hfit : data.length ≤ bufSize)
    (hmod : data.length ≤ bufSize % 2 ^ 32) :
    Inevitable (Patient med UdsCanError.errTimeout) (Transferred data)
      (Net.start (udsTpSend txId data sCfg) (udsTpRecv rxId buf bufSize outLen rCfg)) := by
  have hbase : udsTpFfDataBytes < data.length := by
    unfold udsTpFfDataBytes
    omega
  rw [udsTpSend_multi hge hle hs, udsTpRecv_eq (by omega) hr]
  apply transferred_multi hmed hbase hfit (zeroTail_firstFrame txId hge)
  intro f' hc
  rw [onFirstFrame_ff rxId buf outLen rCfg (isFf_firstFrame txId hge hle hc) (by omega),
    if_neg (by omega), slice_firstFrame txId hge hc]
  rfl

/-- A First Frame that announces more than the narrowed buffer size ends the receiver's
call. -/
theorem onFirstFrame_bufFull (hge : 8 ≤ data.length) (hle : data.length ≤ 4095)
    (hsix : 6 ≤ bufSize) (hmod : bufSize % 2 ^ 32 < data.length) {f : CanFrame}
    (hc : Frame.Carries (firstFrame txId data) f) :
    ∃ res, onFirstFrame rxId buf bufSize outLen rCfg f = .ret res ∧ res.rc = .errBufFull := by
  have hff := isFf_firstFrame txId hge hle hc
  rw [onFirstFrame_ff rxId buf outLen rCfg hff hsix, if_pos hmod]
  exact ⟨_, rfl, rfl⟩

/-- The sender after the First Frame, which waits for Flow Control. -/
theorem exists_wait_sendLoop (canId : UInt32) (hge : 8 ≤ data.length) :
    ∃ wait, sendLoop classic canId data udsTpFfDataBytes 1 = .recv wait ∧
      wait (.error .errTimeout) = .ret .errTimeout := by
  have hbase : udsTpFfDataBytes < data.length := by
    unfold udsTpFfDataBytes
    omega
  rw [sendLoop_of_lt classic canId data 1 hbase, recvFlowControl, recvFrame]
  exact ⟨_, rfl, rfl⟩

theorem not_transferred_of_bufFull (hge : 8 ≤ data.length) (hle : data.length ≤ 4095)
    (hs : sCfg.timeoutMs ≠ 0) (hr : rCfg.timeoutMs ≠ 0) (hfit : data.length ≤ bufSize)
    (hmod : bufSize % 2 ^ 32 < data.length) :
    ¬Inevitable (Patient (Medium.lossless CanFrame) UdsCanError.errTimeout) (Transferred data)
      (Net.start (udsTpSend txId data sCfg) (udsTpRecv rxId buf bufSize outLen rCfg)) := by
  intro h
  rw [udsTpSend_multi hge hle hs, udsTpRecv_eq (by omega) hr] at h
  obtain ⟨f', hc, hrun⟩ := comm_toRight delivers_lossless (zeroTail_firstFrame txId hge)
    (sendLoop classic txId data udsTpFfDataBytes 1) (⟨·, buf, outLen⟩)
    (onFirstFrame rxId buf bufSize outLen rCfg) 0 0
  obtain ⟨res, hres, -⟩ := onFirstFrame_bufFull hge hle (by omega) hmod hc
  obtain ⟨wait, hloop, hwait⟩ := exists_wait_sendLoop txId hge
  rw [hres] at hrun
  rw [hloop] at hrun h
  have htransferred := h.of_waiting hrun hwait
  cases htransferred.1

/-! ## A bus that loses frames -/

theorem offered_multi {q : SendProc 8} {tr : List (Event CanFrame UdsCanError)}
    (hge : 8 ≤ data.length)
    (h : Steps (sendFrame id (.ok (firstFrame txId data))
      (sendLoop classic txId data udsTpFfDataBytes 1)) tr q) :
    offered tr <+: classicSegmentation txId data := by
  have hff : 0 < classic.cfCount udsTpFfDataBytes data.length := by
    rw [LinkFormat.lt_cfCount_iff, LinkFormat.offset_zero]
    unfold udsTpFfDataBytes
    omega
  obtain ⟨pt, -, -, hI⟩ := sendInv_of_steps classic txId data udsTpFfDataBytes _ hff h
  exact hI.offered_prefix

theorem offered_single {sf : CanFrame} {q : SendProc 8}
    {tr : List (Event CanFrame UdsCanError)}
    (h : Steps (sendFrame id (.ok sf) (.ret .ok)) tr q) : ∀ f ∈ offered tr, f = sf := by
  have hinv : (offered tr = [] ∧ q = sendFrame id (.ok sf) (.ret .ok)) ∨
      (offered tr = [sf] ∧ ∃ rc, q = .ret rc) := by
    apply Steps.invariant (fun tr q =>
      (offered tr = [] ∧ q = sendFrame id (.ok sf) (.ret .ok)) ∨
      (offered tr = [sf] ∧ ∃ rc, q = .ret rc)) h
    · exact Or.inl ⟨rfl, rfl⟩
    · rintro tr q e q' (⟨hoff, rfl⟩ | ⟨-, rc, rfl⟩) hs
      · rcases step_sendFrame hs with ⟨err, rfl, rfl⟩ | ⟨rfl, rfl⟩
        · exact Or.inr ⟨by simp [hoff], _, rfl⟩
        · exact Or.inr ⟨by simp [hoff], _, rfl⟩
      · cases hs
  intro f hf
  rcases hinv with ⟨hoff, -⟩ | ⟨hoff, -⟩
  · simp [hoff] at hf
  · simpa [hoff] using hf

/-- The content of Consecutive Frames is the rest of the PDU. -/
theorem payload_consecutive {cap : Nat} (fmt : LinkFormat cap) (base : Nat) {n i : Nat}
    (hn : i + n = fmt.cfCount base data.length)
    {ins : Nat → Except UdsCanError (Frame cap)}
    (h : ∀ j < n, ins j = .ok (consecutiveFrame fmt txId data base (i + j))) :
    (payload fmt ins n).take (data.length - fmt.offset base i) =
      data.drop (fmt.offset base i) := by
  induction n generalizing i ins with
  | zero =>
      have hend : ¬fmt.offset base i < data.length := by
        rw [← fmt.lt_cfCount_iff]
        omega
      rw [List.drop_of_length_le (by omega)]
      simp [payload]
  | succ n ih =>
      have hcap := fmt.cap_eq
      have h0 : ins 0 = .ok (consecutiveFrame fmt txId data base i) := h 0 (by omega)
      have hlen := Frame.length_slice (consecutiveFrame fmt txId data base i)
        (i := 1) (n := fmt.cfDataBytes) (by omega)
      have hshift : ∀ j < n, ins (j + 1) =
          .ok (consecutiveFrame fmt txId data base (i + 1 + j)) := by
        intro j hj
        rw [h (j + 1) (by omega), show i + (j + 1) = i + 1 + j by omega]
      have hrest := ih (i := i + 1) (by omega) hshift
      rw [payload_succ, h0, cfBytes, List.take_append, Frame.take_slice, hlen,
        slice_consecutiveFrame, Nat.sub_sub, ← fmt.offset_succ, hrest, cfContent,
        fmt.offset_succ, ← List.drop_drop, List.take_append_drop]

theorem mem_classicSegmentation (hge : 8 ≤ data.length) (hle : data.length ≤ 4095)
    {f : CanFrame} (h : f ∈ classicSegmentation txId data) :
    IsFf f data.length ∨ ∃ sn, IsCf f sn := by
  rcases List.mem_cons.mp h with rfl | hcf
  · exact Or.inl (isFf_firstFrame txId hge hle (.refl _))
  · obtain ⟨i, hi, rfl⟩ := List.mem_map.mp hcf
    exact Or.inr ⟨_, isCf_consecutiveFrame classic txId data udsTpFfDataBytes
      (List.mem_range.mp hi)⟩

theorem IsCf.not_isSf {f : CanFrame} {sn : Nat} {p : List UInt8} (h : IsCf f sn) :
    ¬IsSf f p := by
  intro hsf
  have hpci := h.pci.symm.trans hsf.pci
  have hle := hsf.le
  omega

theorem IsCf.not_isFf {f : CanFrame} {sn len : Nat} (h : IsCf f sn) : ¬IsFf f len := by
  intro hff
  have hpci := h.pci.symm.trans hff.pci
  have hle := hff.le
  omega

theorem answers_eq_segmentation (hge : 8 ≤ data.length) (hle : data.length ≤ 4095)
    {tr : List (Event CanFrame UdsCanError)} {ins : Nat → Except UdsCanError CanFrame}
    {outs : Nat → Except UdsCanError Unit} {ff : CanFrame} {len : Nat}
    (hm : MultiFrame ins outs bufSize rCfg ff len)
    (hans : answers tr = (List.range (consecutiveCount len + 1)).map ins)
    (hsub : (delivered tr).Sublist (classicSegmentation txId data)) :
    len = data.length ∧ answers tr = (classicSegmentation txId data).map .ok := by
  have hok : ∀ r ∈ answers tr, ∃ m, r = .ok m := by
    intro r hr
    rw [hans] at hr
    obtain ⟨j, hj, rfl⟩ := List.mem_map.mp hr
    cases j with
    | zero => exact ⟨ff, hm.first⟩
    | succ j =>
        have hlt := List.mem_range.mp hj
        obtain ⟨f, hf, -⟩ := hm.cfs j (by omega)
        exact ⟨f, hf⟩
  have hdel := answers_eq_of_ok tr hok
  have hmem : ff ∈ classicSegmentation txId data := by
    apply hsub.subset
    have hin : Except.ok ff ∈ (delivered tr).map (Except.ok : CanFrame → Except UdsCanError _) := by
      rw [← hdel, hans, ← hm.first]
      exact List.mem_map_of_mem (List.mem_range.mpr (Nat.succ_pos _))
    simpa using hin
  have hlen : len = data.length := by
    rcases mem_classicSegmentation hge hle hmem with hff | ⟨sn, hcf⟩
    · exact hm.isFf.unique hff
    · exact absurd hm.isFf hcf.not_isFf
  subst hlen
  have hcount : (delivered tr).length = (classicSegmentation txId data).length := by
    have hlength := congrArg List.length (hdel.symm.trans hans)
    rw [List.length_map, List.length_map, List.length_range] at hlength
    rw [hlength, classicSegmentation, length_segmentation]
    rfl
  rw [hdel, hsub.eq_of_length hcount]
  exact ⟨rfl, rfl⟩

theorem payload_eq_of_sublist (hge : 8 ≤ data.length) (hle : data.length ≤ 4095)
    {tr : List (Event CanFrame UdsCanError)} {ins : Nat → Except UdsCanError CanFrame}
    {outs : Nat → Except UdsCanError Unit} {ff : CanFrame} {len : Nat}
    (hm : MultiFrame ins outs bufSize rCfg ff len)
    (hans : answers tr = (List.range (consecutiveCount len + 1)).map ins)
    (hsub : (delivered tr).Sublist (classicSegmentation txId data)) :
    multiFramePayload ins ff len = data := by
  obtain ⟨rfl, hseg⟩ := answers_eq_segmentation hge hle hm hans hsub
  have hget : ∀ j < consecutiveCount data.length + 1,
      some (ins j) = ((classicSegmentation txId data)[j]?).map .ok := by
    intro j hj
    have hj' := congrArg (fun l => l[j]?) (hans.symm.trans hseg)
    simpa [hj] using hj'
  have hff : ff = firstFrame txId data := by
    have h0 := hget 0 (Nat.succ_pos _)
    rw [hm.first] at h0
    simpa [classicSegmentation, segmentation] using h0
  have hcf : ∀ j < consecutiveCount data.length, ins (j + 1) =
      .ok (consecutiveFrame classic txId data udsTpFfDataBytes (0 + j)) := by
    intro j hj
    have hj' := hget (j + 1) (by omega)
    have hcount : j < classic.cfCount udsTpFfDataBytes data.length := hj
    simpa [classicSegmentation, segmentation, hcount] using hj'
  have hrest := payload_consecutive classic udsTpFfDataBytes (Nat.zero_add _) hcf
  rw [multiFramePayload, hff, slice_firstFrame txId hge (.refl _), List.take_append,
    List.length_take, Nat.min_eq_left (by omega), List.take_take]
  have hsix : classic.offset udsTpFfDataBytes 0 = 6 := rfl
  rw [hsix] at hrest
  rw [show consecutiveCount data.length = classic.cfCount udsTpFfDataBytes data.length from rfl,
    hrest, Nat.min_eq_right (by omega), List.take_append_drop]

/-- The frames offered to the bus start either a Single Frame transfer of the
PDU or a segmentation of it. -/
theorem accepts_eq (hpos : 1 ≤ data.length) (hle : data.length ≤ 4095)
    (hs : sCfg.timeoutMs ≠ 0) {q : SendProc 8} {trL trR : List (Event CanFrame UdsCanError)}
    (hsend : Steps (udsTpSend txId data sCfg) trL q)
    (hsub : (delivered trR).Sublist (offered trL))
    {ins : Nat → Except UdsCanError CanFrame} {outs : Nat → Except UdsCanError Unit}
    (hans : answers trR = (List.range (recvCount trR)).map ins) (hread : 0 < recvCount trR)
    (hcount : ∀ ff len, ins 0 = .ok ff → IsFf ff len → recvCount trR = consecutiveCount len + 1)
    {p : List UInt8} (hacc : Accepts ins outs bufSize rCfg p) : p = data := by
  have hfirst : ∀ f, ins 0 = .ok f → f ∈ offered trL := by
    intro f hf
    apply hsub.subset
    have hmem : Except.ok f ∈ answers trR := by
      rw [hans, ← hf]
      exact List.mem_map_of_mem (List.mem_range.mpr hread)
    exact mem_delivered_of_answers hmem
  by_cases hsingle : data.length ≤ 7
  · obtain ⟨sf, henc, -, hsf⟩ := udsTpEncodeSf_eq txId hpos hsingle
    rw [udsTpSend_single hpos hsingle hs, henc] at hsend
    rcases hacc with ⟨f, hin, hf, -⟩ | ⟨ff, len, hm, -⟩
    · have heq := offered_single hsend f (hfirst f hin)
      exact hf.unique (heq ▸ hsf sf (.refl _))
    · have heq := offered_single hsend ff (hfirst ff hm.first)
      exact absurd (heq ▸ hsf sf (.refl _)) hm.isFf.not_isSf
  · have hge : 8 ≤ data.length := by omega
    rw [udsTpSend_multi hge hle hs] at hsend
    have hseg := offered_multi hge hsend
    rcases hacc with ⟨f, hin, hf, -⟩ | ⟨ff, len, hm, rfl⟩
    · rcases mem_classicSegmentation hge hle (hseg.subset (hfirst f hin)) with hff | ⟨sn, hcf⟩
      · exact absurd hf hff.not_isSf
      · exact absurd hf hcf.not_isSf
    · rw [hcount ff len hm.first hm.isFf] at hans
      exact payload_eq_of_sublist hge hle hm hans (hsub.trans hseg.sublist)

theorem received_exactly {med : Medium CanFrame} (hmed : med.Lossy) (hpos : 1 ≤ data.length)
    (hle : data.length ≤ 4095) (hs : sCfg.timeoutMs ≠ 0) (hr : rCfg.timeoutMs ≠ 0)
    (hbuf : bufSize ≠ 0) {c : Net CanFrame UdsCanError UdsTpError UdsTpRecvResult}
    (hc : Relation.ReflTransGen (Hasty med UdsCanError.errTimeout)
      (Net.start (udsTpSend txId data sCfg) (udsTpRecv rxId buf bufSize outLen rCfg)) c)
    {res : UdsTpRecvResult} (hres : c.right = .ret res) (hok : res.rc = .ok) :
    res.outLen = data.length ∧ res.buf.load 0 data.length = data := by
  obtain ⟨trL, trR, hE⟩ := exists_explained hc
  have hright := hE.right
  rw [hres] at hright
  obtain ⟨ins, outs, hexec⟩ := hright.exists_exec
  have hsub : (delivered trR).Sublist (offered trL) := by
    have hlossy := transit_sublist (fun n m => (hmed n m).1) 0 (offered trL)
    rw [← hE.toRight] at hlossy
    exact (List.sublist_append_left _ _).trans hlossy
  have hspec : RecvSpec rxId buf bufSize outLen rCfg ins outs (trR, res) := by
    rw [← hexec]
    refine recvSpec_of_fits rxId buf outLen rCfg hbuf hr fun hbad => ?_
    refine rc_ne_ok_of_bufFull rxId buf outLen rCfg hr hbad ?_
    rw [hexec]
    exact hok
  have hans : answers trR = (List.range (recvCount trR)).map ins := by
    have h := Proc.answers_exec ins outs (udsTpRecv rxId buf bufSize outLen rCfg)
    rwa [hexec] at h
  have hread : 0 < recvCount trR := by
    rw [udsTpRecv_exec rxId buf outLen rCfg hbuf hr] at hexec
    rw [← (Prod.mk.inj hexec).1, recvCount_cons_recvd]
    exact Nat.succ_pos _
  have hacc := (hspec.accepts_iff (res.buf.load 0 res.outLen)).mp
    ⟨hok, by simp, by rw [Mem.length_load]⟩
  have hdata := accepts_eq hpos hle hs hE.left hsub hans hread
    (fun ff len hin hff => (hspec.multi_flow ff len hin hff hok).1) hacc
  have hlen : res.outLen = data.length := by
    rw [← hdata, Mem.length_load]
  rw [hlen] at hdata
  exact ⟨hlen, hdata⟩

end Transfer

/-- `uds_tp_send` against `uds_tp_recv`: the PDU arrives when nothing is lost, and
nothing but the PDU arrives whatever is lost. -/
structure ClassicEndToEnd (txId rxId : UInt32) (data : List UInt8) (sCfg rCfg : UdsTpConfig)
    (buf : Mem UInt8) (bufSize outLen : Nat) : Prop where
  lossless : Inevitable (Patient (Medium.lossless CanFrame) UdsCanError.errTimeout)
    (Transferred data)
    (Net.start (udsTpSend txId data sCfg) (udsTpRecv rxId buf bufSize outLen rCfg))
  lossy : ∀ med : Medium CanFrame, med.Lossy → ∀ c res,
    Relation.ReflTransGen (Hasty med UdsCanError.errTimeout)
      (Net.start (udsTpSend txId data sCfg) (udsTpRecv rxId buf bufSize outLen rCfg)) c →
    c.right = .ret res → res.rc = .ok →
    res.outLen = data.length ∧ res.buf.load 0 data.length = data

/-- A classic transfer works for exactly the PDUs that fit the buffer size as
the receiver compares it. -/
theorem classicEndToEnd_iff (txId rxId : UInt32) (data : List UInt8) (sCfg rCfg : UdsTpConfig)
    (buf : Mem UInt8) (bufSize outLen : Nat) (hpos : 1 ≤ data.length)
    (hle : data.length ≤ 4095) (hs : sCfg.timeoutMs ≠ 0) (hr : rCfg.timeoutMs ≠ 0)
    (hfit : data.length ≤ bufSize) :
    ClassicEndToEnd txId rxId data sCfg rCfg buf bufSize outLen ↔
      data.length ≤ 7 ∨ data.length ≤ bufSize % 2 ^ 32 := by
  constructor
  · intro h
    by_cases hsingle : data.length ≤ 7
    · exact Or.inl hsingle
    · by_cases hmod : data.length ≤ bufSize % 2 ^ 32
      · exact Or.inr hmod
      · exact absurd h.lossless
          (not_transferred_of_bufFull (by omega) hle hs hr hfit (by omega))
  · intro h
    refine ⟨?_, fun med hmed c res hc hres hok =>
      received_exactly hmed hpos hle hs hr (by omega) hc hres hok⟩
    by_cases hsingle : data.length ≤ 7
    · exact transferred_of_single delivers_lossless hpos hsingle hs hr hfit
    · exact transferred_of_multi delivers_lossless (by omega) hle hs hr hfit (by omega)

theorem classicEndToEnd_iff_twenty :
    ClassicEndToEnd 0x7E0 0x7E8 (List.replicate 20 0x55) ⟨1000, 0, 0⟩ ⟨1000, 1, 5⟩
        (fun _ => 0) 4095 0 ↔
      (List.replicate 20 (0x55 : UInt8)).length ≤ 7 ∨
        (List.replicate 20 (0x55 : UInt8)).length ≤ 4095 % 2 ^ 32 :=
  classicEndToEnd_iff 0x7E0 0x7E8 (List.replicate 20 0x55) ⟨1000, 0, 0⟩ ⟨1000, 1, 5⟩
    (fun _ => 0) 4095 0 (by decide) (by decide) (by decide) (by decide) (by decide)

/-- Eight bytes do not arrive in a buffer of 4 GiB. -/
theorem classicEndToEnd_fails :
    ¬ClassicEndToEnd 0x7E0 0x7E8 (List.replicate 8 0x55) ⟨1000, 0, 0⟩ ⟨1000, 0, 0⟩ (fun _ => 0)
      (2 ^ 32) 0 := by
  intro h
  exact not_transferred_of_bufFull (by decide) (by decide) (by decide) (by decide) (by decide)
    (by decide) h.lossless

end Uds.Tp
