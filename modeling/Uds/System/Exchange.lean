import Uds.Ecusim.OnBus
import Uds.Tools.Delivery
import Uds.Tools.Dialog
import Uds.Tools.Interop
/-!
# A request and its response

`IsoTpTransport.send` against the `uds_tp_recv` of the C simulator, and its `uds_tp_send`
against `IsoTpTransport.recv`, as talks of two agents.  Between two parties of a network
they are one exchange, after which the simulator is back at the head of its loop.
-/

namespace Uds.System

open Uds.Base Uds.Can Uds.Tp Uds.Tools Uds.Ecusim

/-! ## The request -/

section Request

variable {tp : IsoTpTransport} {data : List UInt8}

theorem offers_send (tp : IsoTpTransport) (data : List UInt8) :
    (tp.send data).Offers fun f => f.canId = tp.txId := by
  unfold IsoTpTransport.send
  split
  · apply offers_busSend
    · rfl
    · exact .ret _
  · apply offers_sendMulti
    · exact fun _ _ _ => rfl
    · rfl

theorem comm_send_single (buf : Mem UInt8) (hpos : 1 ≤ data.length) (hle : data.length ≤ 7) :
    ∃ p q, Relation.ReflTransGen (Comm (Medium.lossless CanFrame))
      (Net.start (tp.send data) (udsTpRecv tp.rxId buf ecusimMaxPdu 0 ecusimTpConfig))
      ⟨.ret (.ok ()), .ret ⟨.ok, buf.store 0 data, data.length⟩, [], [], p, q⟩ := by
  have hbytes : (UInt8.ofNat data.length :: data).length ≤ 8 := by
    rw [List.length_cons]
    omega
  obtain ⟨sf, henc, -, hsf⟩ := udsTpEncodeSf_eq tp.txId hpos hle
  rw [udsTpEncodeSf_short tp.txId hpos hle] at henc
  rw [← Except.ok.inj henc] at hsf
  rw [IsoTpTransport.send, if_pos hle, udsTpRecv_eq (by decide) (by decide)]
  obtain ⟨f', hc, hrun⟩ := comm_sendLeft delivers_lossless
    (Frame.zeroTail_ofBytes tp.txId 8 Frame.le_classic hbytes) (onSent (.ret (.ok ())))
    (⟨·, buf, 0⟩) (onFirstFrame tp.rxId buf ecusimMaxPdu 0 ecusimTpConfig) 0 0
  have hfit : data.length ≤ ecusimMaxPdu := hle.trans (by decide)
  rw [onFirstFrame_sf tp.rxId buf 0 ecusimTpConfig (hsf f' (hc.shorter (by omega))) hfit] at hrun
  exact ⟨_, _, hrun⟩

theorem comm_send_multi (buf : Mem UInt8) (hpolls : tp.polls ≠ 0) (hge : 8 ≤ data.length)
    (hle : data.length ≤ 4095) :
    ∃ buf' p q, Relation.ReflTransGen (Comm (Medium.lossless CanFrame))
      (Net.start (tp.send data) (udsTpRecv tp.rxId buf ecusimMaxPdu 0 ecusimTpConfig))
      ⟨.ret (.ok ()), .ret ⟨.ok, buf', data.length⟩, [], [], p, q⟩ ∧
      buf'.load 0 data.length = data := by
  have hfit : data.length ≤ ecusimMaxPdu := hle
  have hmod : ecusimMaxPdu % 2 ^ 32 = 4095 := rfl
  have hblock : ¬LastBlockFull ecusimTpConfig (classic.cfCount 6 data.length) := fun h => h.1 rfl
  rw [send_eq_sendMulti hge hle, udsTpRecv_eq (by decide) (by decide)]
  obtain ⟨sn, buf', p, q, hrun, hdata⟩ : ∃ sn buf' p q, Relation.ReflTransGen
      (Comm (Medium.lossless CanFrame))
      (Net.start (tp.sendMulti classic (firstFrame tp.txId data) data 6)
        (recvFrame (⟨·, buf, 0⟩) (onFirstFrame tp.rxId buf ecusimMaxPdu 0 ecusimTpConfig)))
      ⟨afterLast tp classic data ecusimTpConfig sn (classic.cfCount 6 data.length),
        .ret ⟨.ok, buf', data.length⟩, [], [], p, q⟩ ∧ buf'.load 0 data.length = data := by
    apply comm_multi hpolls (show 6 < data.length by omega) hfit
      (zeroTail_firstFrame tp.txId hge)
    intro f' hc
    rw [onFirstFrame_ff tp.rxId buf 0 ecusimTpConfig (isFf_firstFrame tp.txId hge hle hc)
      (by decide), if_neg (by omega), slice_firstFrame tp.txId hge hc]
    rfl
  rw [afterLast, if_neg hblock] at hrun
  exact ⟨buf', p, q, hrun, hdata⟩

/-- The receiver of a request. -/
def receiver (tp : IsoTpTransport) (buf : Mem UInt8) : Agent CanFrame UdsTpRecvResult :=
  (udsTpRecv tp.rxId buf ecusimMaxPdu 0 ecusimTpConfig).agent (fun f => f.canId = tp.txId)
    .errTimeout

theorem talk_request (buf : Mem UInt8) (hpolls : tp.polls ≠ 0) (hpos : 1 ≤ data.length)
    (hle : data.length ≤ 4095) :
    ∃ buf', Relation.ReflTransGen Talk.Step ⟨onBus tp (tp.send data), receiver tp buf, [], []⟩
      ⟨.ret (.ok ()), .ret ⟨.ok, buf', data.length⟩, [], []⟩ ∧ buf'.load 0 data.length = data := by
  have hcomm : ∃ buf' p q, Relation.ReflTransGen (Comm (Medium.lossless CanFrame))
      (Net.start (tp.send data) (udsTpRecv tp.rxId buf ecusimMaxPdu 0 ecusimTpConfig))
      ⟨.ret (.ok ()), .ret ⟨.ok, buf', data.length⟩, [], [], p, q⟩ ∧
      buf'.load 0 data.length = data := by
    by_cases hsingle : data.length ≤ 7
    · obtain ⟨p, q, hrun⟩ := comm_send_single buf hpos hsingle
      exact ⟨_, p, q, hrun, Mem.load_store buf 0 data⟩
    · exact comm_send_multi buf hpolls (by omega) hle
  obtain ⟨buf', p, q, hrun, hdata⟩ := hcomm
  have hopen : (Net.start (tp.send data)
      (udsTpRecv tp.rxId buf ecusimMaxPdu 0 ecusimTpConfig)).Open
        (fun f => f.canId = tp.rxId) (fun f => f.canId = tp.txId) := by
    refine ⟨?_, ?_, fun m hm => absurd hm List.not_mem_nil, fun m hm => absurd hm List.not_mem_nil⟩
    · simpa [Net.start] using offers_send tp data
    · simpa [Net.start] using offers_udsTpRecv buf ecusimMaxPdu 0 ecusimTpConfig
  exact ⟨buf', hopen.talk hrun, hdata⟩

end Request

/-! ## The response -/

section Response

/-- The receiver and the sender of `canBus`, without the other nodes. -/
def talkOf (c : (canBus (id : CanFrame → CanFrame)).Config) :
    Talk CanFrame (Except PyError (List UInt8)) UdsTpError where
  left := c.state .receiver
  right := c.state .sender
  toLeft := c.inbox .receiver
  toRight := c.inbox .sender

theorem step_sender {s : (canBus (id : CanFrame → CanFrame)).State .sender} {q : List CanFrame}
    {r : Network.Reaction CanFrame ((canBus id).State .sender)}
    (h : (canBus id).react s q = some r) (p : PyRecv 8) (a : List CanFrame) :
    Talk.Step ⟨p, s, a, q⟩ ⟨p, r.state, a ++ r.sent.toList, r.inbox⟩ := by
  cases s with
  | ret rc => cases h
  | send f next =>
      cases h
      exact .sendRight ..
  | recv accepts k expired =>
      cases q with
      | nil => cases h
      | cons f q =>
          cases h
          rw [Option.toList_none, List.append_nil]
          exact .recvRight ..

theorem step_receiver {r : (canBus (id : CanFrame → CanFrame)).State .receiver}
    {q : List CanFrame} {out : Network.Reaction CanFrame ((canBus id).State .receiver)}
    (h : (canBus id).react r q = some out) (s : Agent CanFrame UdsTpError) (b : List CanFrame) :
    Talk.Step ⟨r, s, q, b⟩ ⟨out.state, s, out.inbox, b ++ out.sent.toList⟩ := by
  cases r with
  | ret a => cases h
  | send f next =>
      cases h
      exact .sendLeft ..
  | recv accepts k expired =>
      cases q with
      | nil => cases h
      | cons f q =>
          cases h
          rw [Option.toList_none, List.append_nil]
          exact .recvLeft ..

theorem step_talkOf {c c' : (canBus (id : CanFrame → CanFrame)).Config}
    (h : (canBus id).Step duo c c') : Talk.Step (talkOf c) (talkOf c') := by
  obtain ⟨hi, hr⟩ := h
  rename_i i r
  cases i with
  | others => cases hi
  | sender =>
      have hstep := step_sender hr (c.state .receiver) (c.inbox .receiver)
      have hinbox : (c.commit duo .sender r).inbox .receiver =
          c.inbox .receiver ++ r.sent.toList := by
        rw [Network.commit_inbox_of_ne _ _ _ (by decide) rfl]
        exact congrArg (c.inbox .receiver ++ Option.toList ·) Option.map_id'
      unfold talkOf
      rw [Network.commit_state_self, Network.commit_inbox_self, hinbox,
        Network.commit_state_of_ne _ _ _ (by decide)]
      exact hstep
  | receiver =>
      have hstep := step_receiver hr (c.state .sender) (c.inbox .sender)
      have hinbox : (c.commit duo .receiver r).inbox .sender =
          c.inbox .sender ++ r.sent.toList := by
        rw [Network.commit_inbox_of_ne _ _ _ (by decide) rfl]
        exact congrArg (c.inbox .sender ++ Option.toList ·) Option.map_id'
      unfold talkOf
      rw [Network.commit_state_self, Network.commit_inbox_self, hinbox,
        Network.commit_state_of_ne _ _ _ (by decide)]
      exact hstep

variable {tp : IsoTpTransport} {resp : List UInt8}

/-- A response of any length reaches the client. -/
theorem talk_response (hpos : 1 ≤ resp.length) (hle : resp.length ≤ 4095)
    (hpolls : classicFrames resp.length ≤ tp.polls) :
    Relation.ReflTransGen Talk.Step
      ⟨tp.recv, onSocket tp (udsTpSend tp.rxId resp ecusimTpConfig), [], []⟩
      ⟨.ret (.ok resp), .ret .ok, [], []⟩ := by
  have hrun : Relation.ReflTransGen ((canBus id).Step duo)
      (config id (onSocket tp (udsTpSend tp.rxId resp ecusimTpConfig)) tp.recv [] [] [] [])
      (config id (.ret .ok) (.ret (.ok resp)) [] [] [] []) := by
    unfold classicFrames at hpolls
    by_cases hsingle : resp.length ≤ 7
    · rw [if_pos hsingle] at hpolls
      exact run_send_single keeps_id (by decide) hpos hsingle (by omega)
    · rw [if_neg hsingle] at hpolls
      exact run_send_multi keeps_id (by decide) (by omega) hle (by omega)
  exact hrun.lift talkOf fun _ _ h => step_talkOf h

end Response

end Uds.System
