import Uds.Tp.EndToEnd
import Uds.Tp.RecvGrammarFd
import Uds.Tp.SendSafetyFd
/-!
# CAN FD transfers over a bus that loses frames

What the receiver gets is, up to the padding that the bus adds, a subsequence of an initial
part of the segmentation.  The first frame that it admits can only be the one of the
segmentation, which tells it the length; as many frames as the segmentation has then are all
of them.
-/

namespace Uds.Tp

open Uds.Base Uds.Can

/-! ## What a receiver reassembles of a segmentation -/

section Segments

variable {cap : Nat} {fmt : LinkFormat cap} {Lays : Frame cap → PduLayout → Prop}
  {txId : UInt32} {data : List UInt8} {base : Nat} {ff : Frame cap}

variable (Lays data base ff) in
/-- A first frame tells the length of the PDU and holds its first `base` bytes, also when it
arrives longer than it was sent. -/
structure Announces : Prop where
  len : ∀ {f' L}, Frame.Carries ff f' → Lays f' L → L.len = data.length
  embed : ∀ {f' L}, Frame.Carries ff f' → Lays f' L → L.embed = base
  content : ∀ {f' L}, Frame.Carries ff f' → Lays f' L → f'.slice L.header L.embed = data.take base

theorem payload_congr {ins ins' : Nat → Except UdsCanError (Frame cap)} {n : Nat}
    (h : ∀ j < n, ∃ f f', ins j = .ok f ∧ ins' j = .ok f' ∧ Frame.Carries f f') :
    payload fmt ins' n = payload fmt ins n := by
  unfold payload
  refine List.flatMap_congr fun j hj => ?_
  obtain ⟨f, f', hf, hf', hc⟩ := h j (List.mem_range.mp hj)
  rw [hf, hf']
  exact hc.slice 1 _

/-- Frames of a segmentation that start a transfer and are as many as it needs are all the
frames of the segmentation, in order. -/
theorem forall₂_segmentation (hann : Announces Lays data base ff)
    (hcf : ∀ {f sn L}, IsCf f sn → ¬Lays f L) {f : Frame cap} {L : PduLayout}
    {kept rest : List (Frame cap)} (hsub : kept.Sublist (segmentation fmt txId data base ff))
    (hgot : List.Forall₂ Frame.Carries kept (f :: rest)) (hlays : Lays f L)
    (hcount : rest.length = fmt.cfCount L.embed L.len) :
    Frame.Carries ff f ∧ List.Forall₂ Frame.Carries
      ((List.range (fmt.cfCount base data.length)).map (consecutiveFrame fmt txId data base))
      rest := by
  obtain ⟨x, kept, hx, hrest, rfl⟩ := List.forall₂_cons_right_iff.mp hgot
  have hfirst : Frame.Carries ff f := by
    rcases List.mem_cons.mp (hsub.subset (List.mem_cons_self ..)) with rfl | hmem
    · exact hx
    · obtain ⟨i, hi, rfl⟩ := List.mem_map.mp hmem
      have hlater := (isCf_consecutiveFrame fmt txId data base (List.mem_range.mp hi)).carries hx
      exact absurd hlays (hcf hlater)
  have hall : x :: kept = segmentation fmt txId data base ff := by
    refine hsub.eq_of_length ?_
    rw [List.length_cons, hrest.length_eq, hcount, hann.len hfirst hlays,
      hann.embed hfirst hlays, length_segmentation]
  rw [segmentation] at hall
  rw [← (List.cons.inj hall).2]
  exact ⟨hfirst, hrest⟩

theorem delivered_of_reassembly {ins : Nat → Except UdsCanError (Frame cap)}
    {outs : Nat → Except UdsCanError Unit} {f : Frame cap} {L : PduLayout}
    {tr : List (Event (Frame cap) UdsCanError)} (h : Reassembly fmt Lays ins outs f L)
    (hans : answers tr = (List.range (fmt.cfCount L.embed L.len + 1)).map ins) :
    ∃ rest, delivered tr = f :: rest ∧ rest.length = fmt.cfCount L.embed L.len ∧
      ∀ (j : Nat) (hj : j < rest.length), ins (j + 1) = .ok rest[j] := by
  have hok : ∀ r ∈ answers tr, ∃ m, r = .ok m := by
    intro r hr
    rw [hans] at hr
    obtain ⟨j, hj, rfl⟩ := List.mem_map.mp hr
    cases j with
    | zero => exact ⟨f, h.first⟩
    | succ j =>
        have hlt := List.mem_range.mp hj
        obtain ⟨cf, hcf, -⟩ := h.cfs j (by omega)
        exact ⟨cf, hcf⟩
  have hdel := hans.symm.trans (answers_eq_of_ok tr hok)
  rw [List.range_succ_eq_map, List.map_cons, List.map_map, h.first] at hdel
  cases hgot : delivered tr with
  | nil => rw [hgot] at hdel; cases hdel
  | cons x rest =>
      rw [hgot, List.map_cons] at hdel
      obtain ⟨hx, hrest⟩ := List.cons.inj hdel
      have hlen := congrArg List.length hrest
      rw [List.length_map, List.length_map, List.length_range] at hlen
      refine ⟨rest, by rw [Except.ok.inj hx], hlen.symm, fun j hj => ?_⟩
      have hget := congrArg (fun l => l[j]?) hrest
      simpa [show j < fmt.cfCount L.embed L.len by omega, hj] using hget

/-- A receiver that has read frames of the segmentation only, each at least as it was sent,
has the PDU. -/
theorem reassembled_eq (hann : Announces Lays data base ff) (hbase : base ≤ data.length)
    (hcf : ∀ {f sn L}, IsCf f sn → ¬Lays f L) {ins : Nat → Except UdsCanError (Frame cap)}
    {outs : Nat → Except UdsCanError Unit} {f : Frame cap} {L : PduLayout}
    {tr : List (Event (Frame cap) UdsCanError)} (h : Reassembly fmt Lays ins outs f L)
    (hans : answers tr = (List.range (fmt.cfCount L.embed L.len + 1)).map ins)
    {kept : List (Frame cap)} (hsub : kept.Sublist (segmentation fmt txId data base ff))
    (hkept : List.Forall₂ Frame.Carries kept (delivered tr)) :
    reassembled fmt ins f L = data := by
  obtain ⟨rest, hgot, hcount, hrest⟩ := delivered_of_reassembly h hans
  rw [hgot] at hkept
  obtain ⟨hfirst, hlater⟩ := forall₂_segmentation hann hcf hsub hkept h.lays hcount
  have hlen := hlater.length_eq
  rw [List.length_map, List.length_range] at hlen
  have hpayload : payload fmt (fun j => ins (j + 1)) (fmt.cfCount base data.length) =
      payload fmt (fun j => .ok (consecutiveFrame fmt txId data base j))
        (fmt.cfCount base data.length) := by
    refine payload_congr fun j hj => ⟨_, rest[j], rfl, hrest j (by omega), ?_⟩
    have hcarries := hlater.get (by simpa using hj) (show j < rest.length by omega)
    simpa using hcarries
  have hcontent : (payload fmt (fun j => .ok (consecutiveFrame fmt txId data base j))
      (fmt.cfCount base data.length)).take (data.length - fmt.offset base 0) =
        data.drop (fmt.offset base 0) := by
    have hframes : ∀ j < fmt.cfCount base data.length,
        (.ok (consecutiveFrame fmt txId data base j) : Except UdsCanError (Frame cap)) =
          .ok (consecutiveFrame fmt txId data base (0 + j)) := fun j _ => by rw [Nat.zero_add]
    exact payload_consecutive fmt base (Nat.zero_add _) hframes
  rw [fmt.offset_zero] at hcontent
  rw [reassembled, hann.content hfirst h.lays, hann.len hfirst h.lays, hann.embed hfirst h.lays,
    hpayload, List.take_append, List.length_take, Nat.min_eq_left hbase, hcontent, List.take_take,
    Nat.min_eq_right hbase, List.take_append_drop]

end Segments

/-! ## What `uds_tp_send_fd` announces -/

section Fd

variable {txId rxId : UInt32} {data : List UInt8} {sCfg rCfg cfg : UdsTpConfig} {buf : Mem UInt8}
  {bufSize outLen : Nat}

theorem AdmitsSfFd.mono {bufSize' : Nat} {f : CanFdFrame} {header n : Nat}
    (h : AdmitsSfFd bufSize f header n) (hle : bufSize ≤ bufSize') :
    AdmitsSfFd bufSize' f header n := by
  cases h with
  | short hpos hseven hpci hdlc hfit => exact .short hpos hseven hpci hdlc (hfit.trans hle)
  | escape hge hmax hpci hsize hdlc hfit => exact .escape hge hmax hpci hsize hdlc (hfit.trans hle)

theorem AdmitsFfFd.mono {bufSize' : Nat} {f : CanFdFrame} {header embed len : Nat}
    (h : AdmitsFfFd bufSize f header embed len) (hle : bufSize ≤ bufSize') :
    AdmitsFfFd bufSize' f header embed len := by
  cases h with
  | regular hge hmax hpci hlow hdlc hfit => exact .regular hge hmax hpci hlow hdlc (hfit.trans hle)
  | extended hpos hpci hzero hlen hdlc hembed hfit =>
      exact .extended hpos hpci hzero hlen hdlc (hembed.trans hle) (hfit.trans hle)

theorem FdLayout.mono {bufSize' : Nat} {f : CanFdFrame} {L : PduLayout}
    (h : FdLayout bufSize cfg f L) (hle : bufSize ≤ bufSize') : FdLayout bufSize' cfg f L := by
  cases h with
  | single h => exact .single (h.mono hle)
  | multi h => exact .multi (h.mono hle)

theorem IsCf.not_fdLayout {f : CanFdFrame} {sn : Nat} {L : PduLayout} (h : IsCf f sn) :
    ¬FdLayout bufSize cfg f L := by
  have hpci := h.pci
  intro hlays
  cases hlays with
  | single hsf => cases hsf <;> omega
  | multi hff => cases hff <;> omega

theorem decode_fdFirstFrame (hpos : 1 ≤ data.length) (hmax : data.length ≤ 0xFFFFFFFF)
    (hfit : data.length ≤ bufSize) {f' : CanFdFrame}
    (hc : Frame.Carries (fdFirstFrame txId data) f') :
    (data.length ≤ 62 ∧ frameType f' = .sf ∧ udsTpDecodeSfFd f' bufSize = .ok data) ∨
      (62 < data.length ∧ frameType f' = .ff ∧ udsTpDecodeFfFd f' bufSize =
        .ok (data.length, data.take (fdEmbedded data.length))) := by
  by_cases hsingle : data.length ≤ 62
  · have hsf : ∃ sf, udsTpEncodeSfFd txId data = .ok sf ∧ sf.ZeroTail ∧
        ∀ f', Frame.Carries sf f' →
          frameType f' = .sf ∧ udsTpDecodeSfFd f' bufSize = .ok data := by
      by_cases hshort : data.length ≤ 7
      · exact encodeSfFd_short txId data bufSize hpos hshort hfit
      · exact encodeSfFd_escape txId data bufSize (by omega) hsingle hfit
    obtain ⟨sf, henc, -, hdec⟩ := hsf
    rw [udsTpEncodeSfFd_eq txId hpos hsingle] at henc
    obtain rfl := Except.ok.inj henc
    exact Or.inl ⟨hsingle, hdec f' hc⟩
  · have hff : ∃ ff, udsTpEncodeFfFd txId data data.length = .ok ff ∧ ff.ZeroTail ∧
        ∀ f', Frame.Carries ff f' → frameType f' = .ff ∧
          udsTpDecodeFfFd f' bufSize = .ok (data.length, data.take (fdEmbedded data.length)) := by
      rw [fdEmbedded, if_neg hsingle]
      by_cases hregular : data.length ≤ 4095
      · rw [if_pos hregular]
        exact encodeFfFd_regular txId data bufSize (by omega) hregular hfit
      · rw [if_neg hregular]
        exact encodeFfFd_extended txId data bufSize (by omega) hmax hfit
    obtain ⟨ff, henc, -, hdec⟩ := hff
    rw [udsTpEncodeFfFd_eq txId (by omega)] at henc
    obtain rfl := Except.ok.inj henc
    exact Or.inr ⟨by omega, hdec f' hc⟩

theorem layout_fdFirstFrame (hpos : 1 ≤ data.length) (hmax : data.length ≤ 0xFFFFFFFF)
    {f' : CanFdFrame} (hc : Frame.Carries (fdFirstFrame txId data) f') {L : PduLayout}
    (hlays : FdLayout bufSize cfg f' L) :
    L.len = data.length ∧ L.embed = fdEmbedded data.length ∧
      f'.slice L.header L.embed = data.take (fdEmbedded data.length) := by
  have hlarge := hlays.mono (le_max_left bufSize data.length)
  have hlength := firstFrames_fd.length_slice hlarge
  have hdec := decode_fdFirstFrame hpos hmax (le_max_right bufSize data.length) hc
  cases hlarge with
  | single hsf =>
      obtain ⟨htype, hslice⟩ := decodeSfFd_of_admits hsf
      rcases hdec with ⟨hsingle, -, hok⟩ | ⟨-, hff, -⟩
      · have heq := Except.ok.inj (hslice.symm.trans hok)
        have hembed : fdEmbedded data.length = data.length := if_pos hsingle
        dsimp only at hlength ⊢
        rw [heq] at hlength ⊢
        rw [hembed, List.take_length]
        exact ⟨hlength.symm, hlength.symm, rfl⟩
      · rw [hff] at htype
        cases htype
  | multi hff =>
      obtain ⟨htype, hslice⟩ := decodeFfFd_of_admits hff
      rcases hdec with ⟨-, hsf, -⟩ | ⟨-, -, hok⟩
      · rw [hsf] at htype
        cases htype
      · obtain ⟨hlen, heq⟩ := Prod.mk.inj (Except.ok.inj (hslice.symm.trans hok))
        have hle := fdEmbedded_le data.length
        dsimp only at hlength ⊢
        rw [heq, List.length_take, Nat.min_eq_left hle] at hlength
        exact ⟨hlen, hlength.symm, heq⟩

theorem announces_fdFirstFrame (hpos : 1 ≤ data.length) (hmax : data.length ≤ 0xFFFFFFFF) :
    Announces (FdLayout bufSize cfg) data (fdEmbedded data.length) (fdFirstFrame txId data) where
  len := fun hc h => (layout_fdFirstFrame hpos hmax hc h).1
  embed := fun hc h => (layout_fdFirstFrame hpos hmax hc h).2.1
  content := fun hc h => (layout_fdFirstFrame hpos hmax hc h).2.2

/-! ## What `uds_tp_send_fd` offers -/

theorem offered_sendFrame_ret {cap : Nat} {f : Frame cap} {q : SendProc cap}
    {tr : List (Event (Frame cap) UdsCanError)}
    (h : Steps (sendFrame id (.ok f) (.ret .ok)) tr q) : offered tr <+: [f] := by
  have hinv : (offered tr = [] ∧ q = sendFrame id (.ok f) (.ret .ok)) ∨
      (offered tr = [f] ∧ ∃ rc, q = .ret rc) := by
    apply Steps.invariant (fun tr q =>
      (offered tr = [] ∧ q = sendFrame id (.ok f) (.ret .ok)) ∨
      (offered tr = [f] ∧ ∃ rc, q = .ret rc)) h
    · exact Or.inl ⟨rfl, rfl⟩
    · rintro tr q e q' (⟨hoff, rfl⟩ | ⟨-, rc, rfl⟩) hs
      · rcases step_sendFrame hs with ⟨err, rfl, rfl⟩ | ⟨rfl, rfl⟩
        · exact Or.inr ⟨by simp [hoff], _, rfl⟩
        · exact Or.inr ⟨by simp [hoff], _, rfl⟩
      · cases hs
  rcases hinv with ⟨hoff, -⟩ | ⟨hoff, -⟩
  · rw [hoff]
    exact List.nil_prefix
  · rw [hoff]

/-- At every moment of a call an initial part of the segmentation is offered. -/
theorem offered_udsTpSendFd {q : SendProc 64} {tr : List (Event CanFdFrame UdsCanError)}
    (h : Steps (udsTpSendFd txId data sCfg) tr q) :
    offered tr = [] ∨
      (1 ≤ data.length ∧ data.length ≤ 0xFFFFFFFF ∧ offered tr <+: fdSegmentation txId data) := by
  have hrefused {rc : UdsTpError} (hret : udsTpSendFd txId data sCfg = .ret rc) :
      offered tr = [] := by
    rw [hret] at h
    rw [h.eq_nil_of_ret.1]
    rfl
  by_cases hempty : data.length = 0
  · exact Or.inl (hrefused (by rw [udsTpSendFd, if_pos hempty]))
  by_cases hcfg : sCfg.timeoutMs = 0
  · exact Or.inl (hrefused (by rw [udsTpSendFd, if_neg hempty, if_pos hcfg]))
  by_cases hsingle : data.length ≤ 62
  · rw [udsTpSendFd_single (by omega) hsingle hcfg, udsTpEncodeSfFd_eq txId (by omega) hsingle] at h
    refine Or.inr ⟨by omega, by omega, ?_⟩
    rw [fdSegmentation_single hsingle]
    exact offered_sendFrame_ret h
  by_cases hmax : data.length ≤ 0xFFFFFFFF
  · rw [udsTpSendFd_eq txId (by omega) hmax hcfg] at h
    have hmore : 0 < canFd.cfCount (fdEmbedded data.length) data.length := by
      rw [LinkFormat.lt_cfCount_iff, LinkFormat.offset_zero, fdEmbedded, if_neg hsingle]
      split <;> omega
    obtain ⟨pt, -, -, hI⟩ := sendInv_of_steps canFd txId data _ _ hmore h
    exact Or.inr ⟨by omega, hmax, hI.offered_prefix⟩
  · have hlong : ¬data.length ≤ udsTpCanfdSfMaxData := hsingle
    have hpdu : data.length > udsTpCanfdMaxPduLen := Nat.not_le.mp hmax
    exact Or.inl (hrefused (by
      rw [udsTpSendFd, if_neg hempty, if_neg hcfg, if_neg hlong, if_pos hpdu]))

theorem zeroTail_fdSegmentation {f : CanFdFrame} (h : f ∈ fdSegmentation txId data) :
    f.ZeroTail := by
  rcases List.mem_cons.mp h with rfl | hmem
  · exact zeroTail_fdFirstFrame txId
  · obtain ⟨i, -, rfl⟩ := List.mem_map.mp hmem
    exact zeroTail_consecutiveFrame canFd txId data _ i

/-! ## The bus -/

/-- On the way to the receiver any frame may be lost, and any other be lengthened; nothing
is asked of the way back. -/
def LosesOrPads (med : Medium CanFdFrame) : Prop :=
  ∀ n f, med.toRight n f = none ∨ ∃ f', med.toRight n f = some f' ∧ PaddedFrom f f'

theorem LosesOrPads.kept {med : Medium CanFdFrame} (hmed : LosesOrPads med)
    {sent got pending : List CanFdFrame} (hz : ∀ f ∈ sent, f.ZeroTail)
    (h : got ++ pending = transit med.toRight 0 sent) :
    ∃ kept, kept.Sublist sent ∧ List.Forall₂ Frame.Carries kept got := by
  obtain ⟨kept, hsub, hkept⟩ : ∃ kept, kept.Sublist sent ∧
      List.Forall₂ Frame.Carries kept (transit med.toRight 0 sent) := by
    refine exists_sublist_transit (fun n f hf => ?_) 0
    rcases hmed n f with hlost | ⟨f', hto, hpad⟩
    · exact Or.inl hlost
    · exact Or.inr ⟨f', hto, carries_of_paddedFrom (hz f hf) hpad⟩
  rw [← h] at hkept
  exact ⟨_, (List.take_sublist _ _).trans hsub, List.forall₂_take_append kept got pending hkept⟩

theorem udsTpRecvFd_refused (h : bufSize = 0 ∨ rCfg.timeoutMs = 0) :
    udsTpRecvFd rxId buf bufSize outLen rCfg = .ret ⟨.errParam, buf, outLen⟩ := by
  unfold udsTpRecvFd
  rcases h with hbuf | hcfg
  · rw [if_pos hbuf]
  · rw [if_pos hcfg, ite_self]

/-- Whatever is lost, lengthened, and done to Flow Control, and whoever gives up waiting at
any time, `uds_tp_recv_fd` returns success with the PDU only. -/
theorem receivedFd_exactly {med : Medium CanFdFrame} (hmed : LosesOrPads med)
    {c : Net CanFdFrame UdsCanError UdsTpError UdsTpRecvResult}
    (hc : Relation.ReflTransGen (Hasty med UdsCanError.errTimeout)
      (Net.start (udsTpSendFd txId data sCfg) (udsTpRecvFd rxId buf bufSize outLen rCfg)) c)
    {res : UdsTpRecvResult} (hres : c.right = .ret res) (hok : res.rc = .ok) :
    res.outLen = data.length ∧ res.buf.load 0 data.length = data := by
  obtain ⟨trL, trR, hE⟩ := exists_explained hc
  have hright := hE.right
  rw [hres] at hright
  obtain ⟨ins, outs, hexec⟩ := hright.exists_exec
  have haccepted : ¬(bufSize = 0 ∨ rCfg.timeoutMs = 0) := by
    intro hrefused
    rw [udsTpRecvFd_refused hrefused, Proc.exec_ret] at hexec
    rw [← (Prod.mk.inj hexec).2] at hok
    cases hok
  obtain ⟨hbuf, hcfg⟩ := not_or.mp haccepted
  have hspec : RecvSpecFd rxId buf bufSize outLen rCfg ins outs (trR, res) := by
    rw [← hexec]
    exact recvSpecFd_of_ne_zero hbuf hcfg
  obtain ⟨f, L, hR, hpdu⟩ := (hspec.accepts_iff (res.buf.load 0 res.outLen)).mp
    ⟨hok, by rw [Mem.length_load], by rw [Mem.length_load]⟩
  have hans : answers trR = (List.range (canFd.cfCount L.embed L.len + 1)).map ins := by
    have hreads := Proc.answers_exec ins outs (udsTpRecvFd rxId buf bufSize outLen rCfg)
    rw [hexec] at hreads
    rw [hreads, (hspec.traffic f L hR.first hR.lays hok).1]
  rcases offered_udsTpSendFd hE.left with hnone | ⟨hpos, hmax, hoffers⟩
  · -- nothing was sent, but a frame was read
    have hway := hE.toRight
    obtain ⟨rest, hgot, -⟩ := delivered_of_reassembly hR hans
    rw [hgot, hnone, transit] at hway
    cases hway
  · obtain ⟨kept, hsub, hkept⟩ :=
      hmed.kept (fun f hf => zeroTail_fdSegmentation (hoffers.subset hf)) hE.toRight
    have hann : Announces (FdLayout bufSize rCfg) data (fdEmbedded data.length)
        (fdFirstFrame txId data) := announces_fdFirstFrame hpos hmax
    have hdata : reassembled canFd ins f L = data :=
      reassembled_eq hann (fdEmbedded_le _) (fun h => h.not_fdLayout) hR hans
        (hsub.trans hoffers.sublist) hkept
    have hout : res.outLen = data.length := by rw [← hdata, ← hpdu, Mem.length_load]
    rw [hout, hdata] at hpdu
    exact ⟨hout, hpdu⟩

end Fd

/-- A bus that lengthens every frame to twelve bytes, and loses all Flow Control. -/
def paddingBus : Medium CanFdFrame :=
  ⟨fun _ f => some (f.padTo 12 (by decide)), fun _ _ => none⟩

theorem receivedFd_exactly_padded :
    2 = [(0x3E : UInt8), 0x00].length ∧
      (Mem.store (fun _ => 0) 0 [0x3E, 0x00]).load 0 2 = [(0x3E : UInt8), 0x00] := by
  have hsent : Comm paddingBus
      (Net.start (udsTpSendFd 0x7E0 [0x3E, 0x00] ⟨1000, 0, 0⟩)
        (udsTpRecvFd 0x7E8 (fun _ => 0) 4095 0 ⟨1000, 0, 0⟩))
      ⟨.ret .ok, udsTpRecvFd 0x7E8 (fun _ => 0) 4095 0 ⟨1000, 0, 0⟩,
        [(fdFirstFrame 0x7E0 [0x3E, 0x00]).padTo 12 (by decide)], [], 1, 0⟩ := .sendLeft ..
  have hread : Comm paddingBus (E := UdsCanError)
      ⟨.ret UdsTpError.ok, udsTpRecvFd 0x7E8 (fun _ => 0) 4095 0 ⟨1000, 0, 0⟩,
        [(fdFirstFrame 0x7E0 [0x3E, 0x00]).padTo 12 (by decide)], [], 1, 0⟩
      ⟨.ret .ok, .ret ⟨.ok, Mem.store (fun _ => 0) 0 [0x3E, 0x00], 2⟩, [], [], 1, 0⟩ :=
    .recvRight ..
  exact receivedFd_exactly (fun _ f => Or.inr ⟨_, rfl, Or.inr ⟨12, by decide, rfl⟩⟩)
    (.tail (.single (Or.inl hsent)) (Or.inl hread)) rfl rfl

end Uds.Tp
