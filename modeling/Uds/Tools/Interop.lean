import Uds.Tools.Transport
import Uds.Tp.EndToEnd
import Uds.Tp.EndToEndFd
/-!
# The Python sender and the C receiver

`IsoTpTransport.send` against `uds_tp_recv` and `uds_tp_recv_fd`.  Both sides
count the frames of a block, but after a full block the sender always waits for
Flow Control, while the receiver sends it only if more is to come.  So a transfer
gets through exactly if its last block is not full.
-/

namespace Uds.Tools

open Uds.Base Uds.Can Uds.Tp

variable {cap : Nat}

/-! ## Messages -/

/-- What is read of a frame that holds `bytes`: these, and zeros if the bus has
lengthened it. -/
theorem msgData_of_carries {canId : UInt32} {len : Nat} {h : len ≤ cap} {bytes : List UInt8}
    (hbytes : bytes.length ≤ len) {f : Frame cap}
    (hc : Frame.Carries (.ofBytes canId len h bytes) f) :
    ∃ n, msgData f = bytes ++ List.replicate n 0 ∧ bytes.length + n ≤ cap := by
  have hlen : len ≤ f.len := hc.len
  have hle := f.len_le
  have htake : bytes.take cap = bytes := List.take_of_length_le (hbytes.trans h)
  have hdata : f.data = bytes ++ List.replicate (cap - bytes.length) 0 := by
    rw [hc.data]
    change zeroPad cap bytes = _
    rw [zeroPad, htake]
  have hall : bytes.take f.len = bytes := List.take_of_length_le (hbytes.trans hlen)
  rw [msgData, hdata, List.take_append, hall, List.take_replicate]
  exact ⟨_, rfl, by omega⟩

theorem msgData_flowControl (fmt : LinkFormat cap) (rxId : UInt32) (cfg : UdsTpConfig)
    {f : Frame cap} (h : Frame.Carries (flowControlFrame fmt rxId cfg) f) :
    ∃ rest, msgData f = 0x30 :: cfg.blockSize :: cfg.stMin :: rest := by
  obtain ⟨n, hdata, -⟩ := msgData_of_carries (by exact Nat.le_refl 3) h
  exact ⟨List.replicate n 0, hdata⟩

theorem checkFcContinue_cts (k : Nat → PyProc cap) (blockSize stMin : UInt8)
    (rest : List UInt8) :
    checkFcContinue k (some (0x30 :: blockSize :: stMin :: rest)) = k blockSize.toNat := by
  simp [checkFcContinue]

section Loop

variable (tp : IsoTpTransport) (fmt : LinkFormat cap) (data : List UInt8) (base : Nat)
  (cfg : UdsTpConfig)

theorem makeCf_eq (i : Nat)
    (h : ((data.drop (fmt.offset base i)).take fmt.cfDataBytes).length ≤ fmt.cfDataBytes) :
    tp.makeCf fmt ((data.drop (fmt.offset base i)).take fmt.cfDataBytes) h ((i + 1) % 16) =
      consecutiveFrame fmt tp.txId data base i := by
  have hsn : 0x20 ||| ((i + 1) % 16 &&& 0x0F) = 0x20 + (i + 1) % 16 := by
    rw [and_0F, Nat.mod_mod]
    exact or_high_nibble 2 _ (by omega)
  unfold IsoTpTransport.makeCf consecutiveFrame cfContent
  simp only [hsn]

theorem sendLoop_of_le {offset : Nat} (sn blockCount blockSize : Nat)
    (h : data.length ≤ offset) :
    tp.sendLoop fmt data offset sn blockCount blockSize = .ret (.ok ()) := by
  rw [IsoTpTransport.sendLoop, dif_neg (by omega)]

theorem sendLoop_of_lt {i : Nat} (blockCount blockSize : Nat)
    (hi : i < fmt.cfCount base data.length) :
    tp.sendLoop fmt data (fmt.offset base i) ((i + 1) % 16) blockCount blockSize =
      busSend (consecutiveFrame fmt tp.txId data base i)
        (if blockSize ≠ 0 ∧ blockCount + 1 ≥ blockSize then
          tp.recvFlowControl fun blockSize => tp.sendLoop fmt data
            (fmt.offset base i + min fmt.cfDataBytes (data.length - fmt.offset base i))
            ((i + 1 + 1) % 16) 0 blockSize
        else tp.sendLoop fmt data
          (fmt.offset base i + min fmt.cfDataBytes (data.length - fmt.offset base i))
          ((i + 1 + 1) % 16) (blockCount + 1) blockSize) := by
  have hlt := (fmt.lt_cfCount_iff base data.length i).mp hi
  have hlen : ((data.drop (fmt.offset base i)).take fmt.cfDataBytes).length =
      min fmt.cfDataBytes (data.length - fmt.offset base i) :=
    length_cfContent fmt data base i
  rw [IsoTpTransport.sendLoop, dif_pos hlt]
  simp only [sn_succ, hlen]
  rw [makeCf_eq tp fmt data base i]

end Loop

/-- `n` Consecutive Frames fill their last block. -/
def LastBlockFull (cfg : UdsTpConfig) (n : Nat) : Prop :=
  cfg.blockSize.toNat ≠ 0 ∧ cfg.blockSize.toNat ∣ n

instance (cfg : UdsTpConfig) (n : Nat) : Decidable (LastBlockFull cfg n) :=
  inferInstanceAs (Decidable (_ ∧ _))

theorem lastBlockFull_succ {cfg : UdsTpConfig} {i : Nat} :
    LastBlockFull cfg (i + 1) ↔ cfg.blockSize.toNat ≠ 0 ∧
      i % cfg.blockSize.toNat + 1 ≥ cfg.blockSize.toNat := by
  unfold LastBlockFull
  rw [dvd_succ_iff, Nat.pos_iff_ne_zero, and_self_left]

/-! ## On the bus -/

section Run

variable {med : Medium (Frame cap)} (tp : IsoTpTransport)

/-- The sender gets the Flow Control for which it waits. -/
theorem comm_flowControl (hmed : Delivers med) (hpolls : tp.polls ≠ 0) (fmt : LinkFormat cap)
    (cfg : UdsTpConfig) (k : Nat → PyProc cap) (fail : UdsTpError → UdsTpRecvResult)
    (r : RecvProc cap) (p q : Nat) :
    Relation.ReflTransGen (Comm med)
      ⟨tp.recvFlowControl k,
        sendFrame fail (encodeFc fmt tp.rxId .cts cfg.blockSize cfg.stMin) r, [], [], p, q⟩
      ⟨k cfg.blockSize.toNat, r, [], [], p, q + 1⟩ := by
  obtain ⟨polls, hsucc⟩ := Nat.exists_eq_succ_of_ne_zero hpolls
  unfold IsoTpTransport.recvFlowControl
  rw [hsucc, IsoTpTransport.recvFrame]
  obtain ⟨f', hc, hrun⟩ := comm_recvLeft hmed fmt tp.rxId cfg (tp.onMessage (checkFcContinue k)
    (tp.recvFrame (checkFcContinue k) polls)) fail r p q
  have hid : f'.canId = tp.rxId := hc.canId
  obtain ⟨rest, hdata⟩ := msgData_flowControl fmt tp.rxId cfg hc
  rwa [IsoTpTransport.onMessage, if_pos hid, hdata, checkFcContinue_cts] at hrun

theorem patient_recvFrame {β : Type} (k : Option (List UInt8) → PyProc cap) (polls : Nat)
    (y : β) (a : List (Frame cap)) (p q : Nat) :
    Relation.ReflTransGen (Patient med UdsCanError.errTimeout)
      ⟨tp.recvFrame k polls, .ret y, a, [], p, q⟩ ⟨k none, .ret y, a, [], p, q⟩ := by
  induction polls with
  | zero => exact .refl
  | succ polls ih =>
      have hexpire : Patient med UdsCanError.errTimeout
          (⟨tp.recvFrame k (polls + 1), .ret y, a, [], p, q⟩ : Net (Frame cap) UdsCanError _ β)
          ⟨tp.recvFrame k polls, .ret y, a, [], p, q⟩ :=
        Or.inr ⟨normal_comm_recv med _ y a p q, .left ..⟩
      exact .head hexpire ih

variable (fmt : LinkFormat cap) (data : List UInt8) (base : Nat) (cfg : UdsTpConfig)

/-- The sender after the last of `n` Consecutive Frames. -/
def afterLast (sn n : Nat) : PyProc cap :=
  if LastBlockFull cfg n then
    tp.recvFlowControl fun blockSize => tp.sendLoop fmt data data.length sn 0 blockSize
  else .ret (.ok ())

/-- The loop that `_send_multi_classic` and `_send_multi_fd` share. -/
theorem paced_sendLoop (hmed : Delivers med) (hpolls : tp.polls ≠ 0) :
    Paced med fmt tp.txId tp.rxId data base cfg
      (fun i => tp.sendLoop fmt data (fmt.offset base i) ((i + 1) % 16)
        (i % cfg.blockSize.toNat) cfg.blockSize.toNat)
      (fun i => tp.recvFlowControl fun blockSize =>
        tp.sendLoop fmt data (fmt.offset base i) ((i + 1) % 16) 0 blockSize)
      (afterLast tp fmt data cfg ((fmt.cfCount base data.length + 1) % 16)
        (fmt.cfCount base data.length)) where
  send := by
    intro i hi
    refine ⟨_, sendLoop_of_lt tp fmt data base _ _ hi, ?_⟩
    change (if cfg.blockSize.toNat ≠ 0 ∧
      i % cfg.blockSize.toNat + 1 ≥ cfg.blockSize.toNat then _ else _) = _
    by_cases hend : i + 1 = fmt.cfCount base data.length
    · rw [fmt.offset_add_chunk_last base hend, if_pos hend, ← hend, afterLast,
        sendLoop_of_le tp fmt data _ _ _ le_rfl]
      simp only [lastBlockFull_succ]
    · rw [fmt.offset_add_chunk base (by omega), if_neg hend]
      by_cases hfull : cfg.blockSize.toNat ∣ i + 1
      · obtain ⟨hpos, hle⟩ := dvd_succ_iff.mp hfull
        rw [if_pos hfull, if_pos ⟨Nat.ne_of_gt hpos, hle⟩]
      · have hnot := mt dvd_succ_iff.mpr hfull
        rw [if_neg hfull, if_neg (by omega), succ_mod_of_not_dvd hfull]
  flow := by
    intro i _ hfull fail r p q
    simp only [Nat.mod_eq_zero_of_dvd hfull]
    exact comm_flowControl tp hmed hpolls fmt cfg _ fail r p q

variable (bufSize outLen : Nat)

/-! ## Whole transfers -/

/-- Both sides have returned, and the receiver holds the PDU. -/
def Delivered (data : List UInt8)
    (c : Net (Frame cap) UdsCanError (Except PyError Unit) UdsTpRecvResult) : Prop :=
  c.left = .ret (.ok ()) ∧ ∃ res, c.right = .ret res ∧ res.rc = .ok ∧ res.outLen = data.length ∧
    res.buf.load 0 data.length = data

/-- In every run over a bus that loses nothing, the PDU is delivered. -/
def Interoperates (sender : PyProc cap) (receiver : RecvProc cap) (data : List UInt8) : Prop :=
  Inevitable (Patient (Medium.lossless (Frame cap)) UdsCanError.errTimeout) (Delivered data)
    (Net.start sender receiver)

variable {tp fmt data base cfg bufSize outLen} {fail : UdsTpError → UdsTpRecvResult}
  {first : Frame cap → RecvProc cap} {buf : Mem UInt8}

theorem not_interoperates_of_waiting {sender : PyProc cap} {receiver : RecvProc cap}
    {k : Nat → PyProc cap} {y : UdsTpRecvResult} {a : List (Frame cap)} {p q : Nat}
    (hrun : Relation.ReflTransGen (Comm (Medium.lossless (Frame cap)))
      (Net.start sender receiver) ⟨tp.recvFlowControl k, .ret y, a, [], p, q⟩) :
    ¬Interoperates sender receiver data := by
  intro h
  have hpatient : Relation.ReflTransGen (Patient (Medium.lossless (Frame cap))
      UdsCanError.errTimeout) (Net.start sender receiver)
      ⟨.ret (.error .udsTimeoutError), .ret y, a, [], p, q⟩ :=
    (Relation.ReflTransGen.mono (fun _ _ hcomm => Or.inl hcomm) _ _ hrun).trans
      (patient_recvFrame tp (checkFcContinue k) tp.polls y a p q)
  have hdelivered := h.of_stuck hpatient (by
    rintro d (hd | ⟨-, hd⟩)
    · exact normal_comm_ret _ _ y a [] p q d hd
    · exact normal_expire_ret _ _ y a [] p q d hd)
  cases hdelivered.1

theorem interoperates_single {frame : Frame cap} (hz : frame.ZeroTail)
    (hfirst : ∀ f', Frame.Carries frame f' →
      first f' = .ret ⟨.ok, buf.store 0 data, data.length⟩) :
    Interoperates (busSend frame (.ret (.ok ()))) (recvFrame fail first) data := by
  obtain ⟨f', hc, hrun⟩ := comm_sendLeft delivers_lossless hz
    (onSent (.ret (.ok ()))) fail first 0 0
  rw [hfirst f' hc] at hrun
  exact inevitable_of_comm hrun ⟨rfl, _, rfl, rfl, rfl, Mem.load_store buf 0 data⟩

theorem comm_multi (hpolls : tp.polls ≠ 0) (hbase : base < data.length)
    (hfit : data.length ≤ bufSize) {ff : Frame cap} (hz : ff.ZeroTail)
    (hfirst : ∀ f', Frame.Carries ff f' → first f' = recvMulti fmt tp.rxId cfg bufSize
      data.length outLen base (buf.store 0 (data.take base))) :
    ∃ sn buf' p q, Relation.ReflTransGen (Comm (Medium.lossless (Frame cap)))
      (Net.start (tp.sendMulti fmt ff data base) (recvFrame fail first))
      ⟨afterLast tp fmt data cfg sn (fmt.cfCount base data.length),
        .ret ⟨.ok, buf', data.length⟩, [], [], p, q⟩ ∧ buf'.load 0 data.length = data := by
  have hpaced := paced_sendLoop tp fmt data base cfg delivers_lossless hpolls
  obtain ⟨buf', p, q, hrun, hdata⟩ :=
    hpaced.comm_multi bufSize outLen delivers_lossless hbase hfit hz
      (k := onSent (tp.recvFlowControl fun blockSize => tp.sendLoop fmt data base 1 0 blockSize))
      rfl hfirst
  exact ⟨_, buf', p, q, hrun, hdata⟩

theorem interoperates_multi_iff (hpolls : tp.polls ≠ 0) (hbase : base < data.length)
    (hfit : data.length ≤ bufSize) {ff : Frame cap} (hz : ff.ZeroTail)
    (hfirst : ∀ f', Frame.Carries ff f' → first f' = recvMulti fmt tp.rxId cfg bufSize
      data.length outLen base (buf.store 0 (data.take base))) :
    Interoperates (tp.sendMulti fmt ff data base) (recvFrame fail first) data ↔
      ¬LastBlockFull cfg (fmt.cfCount base data.length) := by
  obtain ⟨sn, buf', p, q, hrun, hdata⟩ := comm_multi hpolls hbase hfit hz hfirst
  constructor
  · intro h hfull
    rw [afterLast, if_pos hfull] at hrun
    exact not_interoperates_of_waiting hrun h
  · intro hfull
    rw [afterLast, if_neg hfull] at hrun
    exact inevitable_of_comm hrun ⟨rfl, _, rfl, rfl, rfl, hdata⟩

end Run

/-! ## Classic CAN -/

section Classic

variable {tp : IsoTpTransport} {data : List UInt8} {cfg : UdsTpConfig} {buf : Mem UInt8}
  {bufSize outLen : Nat}

theorem interoperates_send_single (hcfg : cfg.timeoutMs ≠ 0) (hpos : 1 ≤ data.length)
    (hle : data.length ≤ 7) (hfit : data.length ≤ bufSize) :
    Interoperates (tp.send data) (udsTpRecv tp.rxId buf bufSize outLen cfg) data := by
  have hbytes : (UInt8.ofNat data.length :: data).length ≤ 8 := by
    rw [List.length_cons]
    omega
  obtain ⟨sf, henc, -, hsf⟩ := udsTpEncodeSf_eq tp.txId hpos hle
  rw [IsoTpTransport.send, if_pos hle, udsTpRecv_eq (by omega) hcfg]
  apply interoperates_single (Frame.zeroTail_ofBytes _ _ _ hbytes)
  intro f' hc
  -- the frame carries what the C encoder would have sent
  rw [udsTpEncodeSf_short tp.txId hpos hle] at henc
  rw [← Except.ok.inj henc] at hsf
  exact onFirstFrame_sf tp.rxId buf outLen cfg (hsf f' (hc.shorter (by omega))) hfit

theorem send_eq_sendMulti (hge : 8 ≤ data.length) (hle : data.length ≤ 4095) :
    tp.send data = tp.sendMulti classic (firstFrame tp.txId data) data 6 := by
  have henc := udsTpEncodeFf_eq tp.txId hge hle
  have hmax : ¬(data.length < 8 ∨ data.length > udsTpMaxPduLen) := by
    unfold udsTpMaxPduLen
    omega
  rw [udsTpEncodeFf, if_neg hmax] at henc
  rw [IsoTpTransport.send, if_neg (by omega), IsoTpTransport.sendMultiClassic,
    ← Except.ok.inj henc]
  rfl

theorem interoperates_send_multi (hpolls : tp.polls ≠ 0) (hcfg : cfg.timeoutMs ≠ 0)
    (hge : 8 ≤ data.length) (hle : data.length ≤ 4095) (hfit : data.length ≤ bufSize)
    (hmod : data.length ≤ bufSize % 2 ^ 32) :
    Interoperates (tp.send data) (udsTpRecv tp.rxId buf bufSize outLen cfg) data ↔
      ¬LastBlockFull cfg (classic.cfCount 6 data.length) := by
  rw [send_eq_sendMulti hge hle, udsTpRecv_eq (by omega) hcfg]
  apply interoperates_multi_iff hpolls (by omega) hfit (zeroTail_firstFrame tp.txId hge)
  intro f' hc
  rw [onFirstFrame_ff tp.rxId buf outLen cfg (isFf_firstFrame tp.txId hge hle hc) (by omega),
    if_neg (by omega), slice_firstFrame tp.txId hge hc]
  rfl

theorem not_interoperates_of_bufFull (hcfg : cfg.timeoutMs ≠ 0) (hge : 8 ≤ data.length)
    (hle : data.length ≤ 4095) (hfit : data.length ≤ bufSize)
    (hmod : bufSize % 2 ^ 32 < data.length) :
    ¬Interoperates (tp.send data) (udsTpRecv tp.rxId buf bufSize outLen cfg) data := by
  rw [send_eq_sendMulti hge hle, udsTpRecv_eq (by omega) hcfg]
  obtain ⟨f', hc, hrun⟩ := comm_sendLeft delivers_lossless (zeroTail_firstFrame tp.txId hge)
    (onSent (tp.recvFlowControl fun blockSize => tp.sendLoop classic data 6 1 0 blockSize))
    (⟨·, buf, outLen⟩) (onFirstFrame tp.rxId buf bufSize outLen cfg) 0 0
  rw [onFirstFrame_ff tp.rxId buf outLen cfg (isFf_firstFrame tp.txId hge hle hc) (by omega),
    if_pos hmod] at hrun
  exact not_interoperates_of_waiting hrun

end Classic

/-! ## CAN FD -/

section Fd

variable {tp : IsoTpTransport} {data : List UInt8} {cfg : UdsTpConfig} {buf : Mem UInt8}
  {bufSize outLen : Nat}

theorem interoperates_sendFd_single (hcfg : cfg.timeoutMs ≠ 0) (hpos : 1 ≤ data.length)
    (hle : data.length ≤ 62) (hfit : data.length ≤ bufSize) :
    Interoperates (tp.sendFd data) (udsTpRecvFd tp.rxId buf bufSize outLen cfg) data := by
  rw [IsoTpTransport.sendFd, dif_pos hle, udsTpRecvFd_eq (by omega) hcfg]
  by_cases hshort : data.length ≤ 7
  · have hbytes : (UInt8.ofNat data.length :: data).length ≤ 8 := by
      rw [List.length_cons]
      omega
    obtain ⟨sf, henc, -, hdec⟩ := encodeSfFd_short tp.txId data bufSize hpos hshort hfit
    rw [if_neg (by omega)]
    apply interoperates_single (Frame.zeroTail_ofBytes _ _ _ hbytes)
    intro f' hc
    rw [udsTpEncodeSfFd_short tp.txId data hpos hshort] at henc
    rw [← Except.ok.inj henc] at hdec
    obtain ⟨htype, hok⟩ := hdec f' (hc.shorter (by omega))
    exact onFirstFrameFd_of_decodeSf tp.rxId buf bufSize outLen cfg htype hok
  · obtain ⟨sf, henc, hz, hdec⟩ :=
      encodeSfFd_escape tp.txId data bufSize (by omega) hle hfit
    rw [udsTpEncodeSfFd_escape tp.txId data (by omega) hle] at henc
    rw [if_pos (by omega), Except.ok.inj henc]
    apply interoperates_single hz
    intro f' hc
    obtain ⟨htype, hok⟩ := hdec f' hc
    exact onFirstFrameFd_of_decodeSf tp.rxId buf bufSize outLen cfg htype hok

/-- How many bytes of a PDU the First Frame of CAN FD holds. -/
def ffEmbedFd (len : Nat) : Nat := if len ≤ 4095 then 62 else 58

theorem sendFd_eq_sendMulti (tp : IsoTpTransport) (hgt : 62 < data.length)
    (hmax : data.length ≤ 0xFFFFFFFF) (hfit : data.length ≤ bufSize) :
    ∃ ff, tp.sendFd data = tp.sendMulti canFd ff data (ffEmbedFd data.length) ∧ ff.ZeroTail ∧
      ∀ f', Frame.Carries ff f' → frameType f' = .ff ∧
        udsTpDecodeFfFd f' bufSize = .ok (data.length, data.take (ffEmbedFd data.length)) := by
  have hmulti : ¬data.length ≤ udsTpCanfdSfMaxData := Nat.not_le.mpr hgt
  rw [IsoTpTransport.sendFd, dif_neg (by omega), IsoTpTransport.sendMultiFd]
  by_cases hregular : data.length ≤ 4095
  · obtain ⟨ff, henc, hz, hdec⟩ := encodeFfFd_regular tp.txId data bufSize hgt hregular hfit
    have hthreshold : data.length ≤ udsTpCanfdFfExtThreshold := hregular
    rw [udsTpEncodeFfFd, if_neg (by omega), if_pos hthreshold, if_neg hmulti] at henc
    rw [ffEmbedFd, if_pos hregular, if_pos hregular]
    refine ⟨ff, ?_, hz, hdec⟩
    rw [← Except.ok.inj henc]
    simp only [Nat.min_eq_right (Nat.le_of_lt hgt), udsTpCanfdFfDataBytes]
  · obtain ⟨ff, henc, hz, hdec⟩ :=
      encodeFfFd_extended tp.txId data bufSize (by omega) hmax hfit
    have hthreshold : ¬data.length ≤ udsTpCanfdFfExtThreshold := hregular
    rw [udsTpEncodeFfFd, if_neg (by omega), if_neg hthreshold] at henc
    rw [ffEmbedFd, if_neg hregular, if_neg hregular]
    refine ⟨ff, ?_, hz, hdec⟩
    rw [← Except.ok.inj henc]
    simp only [Nat.min_eq_right (show 58 ≤ data.length by omega), udsTpCanfdFfExtDataBytes]

theorem interoperates_sendFd_multi (hpolls : tp.polls ≠ 0) (hcfg : cfg.timeoutMs ≠ 0)
    (hgt : 62 < data.length) (hmax : data.length ≤ 0xFFFFFFFF) (hfit : data.length ≤ bufSize) :
    Interoperates (tp.sendFd data) (udsTpRecvFd tp.rxId buf bufSize outLen cfg) data ↔
      ¬LastBlockFull cfg (canFd.cfCount (ffEmbedFd data.length) data.length) := by
  have hembed : ffEmbedFd data.length < data.length := by
    unfold ffEmbedFd
    split <;> omega
  obtain ⟨ff, hsend, hz, hdec⟩ := sendFd_eq_sendMulti tp hgt hmax hfit
  rw [hsend, udsTpRecvFd_eq (by omega) hcfg]
  apply interoperates_multi_iff hpolls hembed hfit hz
  intro f' hc
  obtain ⟨htype, hok⟩ := hdec f' hc
  exact onFirstFrameFd_of_decodeFf_take tp.rxId buf bufSize outLen cfg data hembed htype hok hfit

end Fd

/-! ## All payloads -/

/-- A payload gets through if and only if it fits into one frame, or the receiver
takes its length and its last block is not full. -/
theorem send_interoperates_iff (tp : IsoTpTransport) (data : List UInt8) (cfg : UdsTpConfig)
    (buf : Mem UInt8) (bufSize outLen : Nat) (hpolls : tp.polls ≠ 0) (hcfg : cfg.timeoutMs ≠ 0)
    (hpos : 1 ≤ data.length) (hfit : data.length ≤ bufSize) :
    (data.length ≤ 4095 →
      (Interoperates (tp.send data) (udsTpRecv tp.rxId buf bufSize outLen cfg) data ↔
        data.length ≤ 7 ∨ (data.length ≤ bufSize % 2 ^ 32 ∧
          ¬LastBlockFull cfg (classic.cfCount 6 data.length)))) ∧
    (data.length ≤ 2 ^ 32 - 1 →
      (Interoperates (tp.sendFd data) (udsTpRecvFd tp.rxId buf bufSize outLen cfg) data ↔
        data.length ≤ 62 ∨
          ¬LastBlockFull cfg (canFd.cfCount (ffEmbedFd data.length) data.length))) := by
  constructor
  · intro hle
    by_cases hsingle : data.length ≤ 7
    · exact iff_of_true (interoperates_send_single hcfg hpos hsingle hfit) (Or.inl hsingle)
    · rw [or_iff_right hsingle]
      by_cases hmod : data.length ≤ bufSize % 2 ^ 32
      · rw [and_iff_right hmod]
        exact interoperates_send_multi hpolls hcfg (by omega) hle hfit hmod
      · refine iff_of_false ?_ (fun h => hmod h.1)
        exact not_interoperates_of_bufFull hcfg (by omega) hle hfit (by omega)
  · intro hmax
    by_cases hsingle : data.length ≤ 62
    · exact iff_of_true (interoperates_sendFd_single hcfg hpos hsingle hfit) (Or.inl hsingle)
    · rw [or_iff_right hsingle]
      exact interoperates_sendFd_multi hpolls hcfg (by omega) hmax hfit

/-- Twenty bytes in blocks of three frames, of which two are needed. -/
theorem send_interoperates_iff_twenty :
    ((List.replicate 20 (0x55 : UInt8)).length ≤ 4095 →
      (Interoperates ((⟨0x601, 0x681, 20⟩ : IsoTpTransport).send (List.replicate 20 0x55))
          (udsTpRecv 0x681 (fun _ => 0) 4095 0 ⟨1000, 3, 0⟩) (List.replicate 20 0x55) ↔
        (List.replicate 20 (0x55 : UInt8)).length ≤ 7 ∨
          ((List.replicate 20 (0x55 : UInt8)).length ≤ 4095 % 2 ^ 32 ∧
            ¬LastBlockFull ⟨1000, 3, 0⟩
              (classic.cfCount 6 (List.replicate 20 (0x55 : UInt8)).length)))) ∧
    ((List.replicate 20 (0x55 : UInt8)).length ≤ 2 ^ 32 - 1 →
      (Interoperates ((⟨0x601, 0x681, 20⟩ : IsoTpTransport).sendFd (List.replicate 20 0x55))
          (udsTpRecvFd 0x681 (fun _ => 0) 4095 0 ⟨1000, 3, 0⟩) (List.replicate 20 0x55) ↔
        (List.replicate 20 (0x55 : UInt8)).length ≤ 62 ∨
          ¬LastBlockFull ⟨1000, 3, 0⟩
            (canFd.cfCount (ffEmbedFd (List.replicate 20 (0x55 : UInt8)).length)
              (List.replicate 20 (0x55 : UInt8)).length))) :=
  send_interoperates_iff ⟨0x601, 0x681, 20⟩ (List.replicate 20 0x55) ⟨1000, 3, 0⟩ (fun _ => 0)
    4095 0 (by decide) (by decide) (by decide) (by decide)

/-- With a block size of one, the sender waits once too often. -/
theorem send_blockSizeOne :
    ¬Interoperates ((⟨0x601, 0x681, 20⟩ : IsoTpTransport).send (List.replicate 20 0x55))
      (udsTpRecv 0x681 (fun _ => 0) 4095 0 ⟨1000, 1, 0⟩) (List.replicate 20 0x55) := by
  intro h
  exact (interoperates_send_multi (by decide) (by decide) (by decide) (by decide) (by decide)
    (by decide)).mp h (by decide)

end Uds.Tools
