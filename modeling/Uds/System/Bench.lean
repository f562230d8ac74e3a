import Uds.Base.Deadline
import Uds.Base.Pairs
import Uds.System.Exchange
/-!
# A bench of simulators

Any number of C simulators with different identifiers and a client program for each, on
one bus.  A deadline passes only where nobody can move.  A pair that is alone on the bus
comes to what the program comes to at a link that answers at once.
-/

namespace Uds.System

open Uds.Base Uds.Base.Peer Uds.Can Uds.Tp Uds.Tools Uds.Ecusim

/-! ## The bus -/

abbrev BenchNode := Peer UInt8

def BenchNode.State (α : Type) : BenchNode → Type
  | .client _ => Agent CanFrame α
  | .server _ => EcuNode

/-- Dispatch `n` of simulator `ecuId` reads `envs ecuId n`. -/
def benchBus (α : Type) (envs : UInt8 → Nat → Env) : Network BenchNode CanFrame where
  State := BenchNode.State α
  act := fun
    | .client _ => Agent.act
    | .server ecuId => EcuNode.act ecuId (envs ecuId)
  wire := id

/-- What follows when the deadline of a node passes. -/
def benchExpire (α : Type) (envs : UInt8 → Nat → Env) :
    (node : BenchNode) → (benchBus α envs).State node → Option ((benchBus α envs).State node)
  | .client _ => Agent.overdue
  | .server ecuId => EcuNode.expire ecuId (envs ecuId)

/-! ## Identifiers -/

section Identifiers

variable {ecuId : UInt8} (polls : Nat)

/-- The transport of the client of a simulator. -/
abbrev transportOf (polls : Nat) (ecuId : UInt8) : IsoTpTransport :=
  UdsClient.transport polls ecuId.toNat

theorem txId_transportOf (h : ValidEcuId ecuId) :
    (transportOf polls ecuId).txId = udsCanReqId ecuId := by
  have hle := h.2
  apply UInt32.toNat_inj.mp
  rw [toNat_reqId h]
  change (UInt32.ofNat (0x600 + ecuId.toNat)).toNat = _
  rw [UInt32.toNat_ofNat']
  omega

theorem rxId_transportOf (h : ValidEcuId ecuId) :
    (transportOf polls ecuId).rxId = udsCanRespId ecuId := by
  have hle := h.2
  apply UInt32.toNat_inj.mp
  rw [toNat_respId h]
  change (UInt32.ofNat (0x680 + ecuId.toNat)).toNat = _
  rw [UInt32.toNat_ofNat']
  omega

theorem reach_client (h : ValidEcuId ecuId) :
    EcuNode.Reach ecuId (fun f => f.canId = (transportOf polls ecuId).txId)
      (fun f => f.canId = (transportOf polls ecuId).txId) := by
  intro f hf
  refine ⟨?_, decide_eq_true hf⟩
  rw [ecusimFilter, accepts_iff, hf, txId_transportOf polls h]

end Identifiers

/-! ## One exchange -/

section Exchange

variable {α : Type} {envs : UInt8 → Nat → Env} {ecuId : UInt8} {polls : Nat}

theorem hosts_client (α : Type) (envs : UInt8 → Nat → Env) (ecuId : UInt8) :
    (benchBus α envs).Hosts (.client ecuId) (id : Agent CanFrame α → Agent CanFrame α) := by
  intro p
  change p.act = p.act.map id
  cases p <;> rfl

theorem hosted_ecu (α : Type) (envs : UInt8 → Nat → Env) (ecuId : UInt8) :
    EcuNode.Hosted ecuId (envs ecuId) (benchBus α envs) (.server ecuId)
      (id : EcuNode → EcuNode) := by
  intro node
  change node.act ecuId (envs ecuId) = (node.act ecuId (envs ecuId)).map id
  cases node.act ecuId (envs ecuId) <;> rfl

/-- The simulator at the head of its loop. -/
def atHead (s : EcuSimulator × Nat) (reqBuf : Mem UInt8) : EcuNode :=
  ⟨⟨s.1, reqBuf, .waiting⟩, s.2⟩

theorem confined_receiver (tp : IsoTpTransport) (buf : Mem UInt8) :
    (receiver tp buf).Confined (fun f => f.canId = tp.rxId) fun _ => True :=
  (offers_udsTpRecv buf ecusimMaxPdu 0 ecusimTpConfig).agent fun _ _ => trivial

theorem confined_true {out mine : CanFrame → Prop} {β : Type} {p : Agent CanFrame β}
    (h : p.Confined out mine) : p.Confined out fun _ => True :=
  h.mono (fun _ hf => hf) fun _ _ => trivial

variable {data resp : List UInt8} {s : EcuSimulator × Nat} {reqBuf : Mem UInt8}

theorem leads_request (h : ValidEcuId ecuId) (hpolls : polls ≠ 0) (hpos : 1 ≤ data.length)
    (hle : data.length ≤ 4095) (envs : UInt8 → Nat → Env) (s : EcuSimulator × Nat)
    (reqBuf : Mem UInt8) (g : Except PyError Unit → Agent CanFrame α) :
    ∃ reqBuf', (benchBus α envs).Leads (pair ecuId) (.client ecuId) (.server ecuId)
      ((onBus (transportOf polls ecuId) ((transportOf polls ecuId).send data)).bind g)
      (atHead s reqBuf) (g (.ok ()))
      (EcuNode.answered ecuId (ecuAnswer (envs ecuId) s data).1.1 reqBuf' (s.2 + 1)
        (ecuAnswer (envs ecuId) s data).2) := by
  generalize htp : transportOf polls ecuId = tp
  have hpolls : tp.polls ≠ 0 := htp ▸ hpolls
  obtain ⟨buf', hrun, hdata⟩ := talk_request reqBuf hpolls hpos hle
  have hplays := EcuNode.plays_waiting (hosted_ecu α envs ecuId) (htp ▸ reach_client polls h)
    ⟨s.1, reqBuf, .waiting⟩ s.2 rfl
  have hhead : (EcuNode.mk ⟨s.1, reqBuf, .waiting⟩ s.2).head ecuId =
      udsTpRecv tp.rxId reqBuf ecusimMaxPdu 0 ecusimTpConfig := by
    rw [← htp, rxId_transportOf polls h]
    rfl
  rw [hhead] at hplays
  have hleads := Network.leads_of_talk (client_ne_server ecuId ecuId) pair_client pair_server
    (fun _ => rfl) hrun (confined_true (pySendsOnly_send tp data)) (confined_receiver tp reqBuf)
    ((hosts_client α envs ecuId).plays _ _ g) hplays
  rw [id, EcuNode.receiving_request _ _ rfl, hdata] at hleads
  exact ⟨buf', hleads⟩

theorem classicFrames_le {len : Nat} (h : len ≤ 4095) : classicFrames len ≤ 586 := by
  have hcount : classic.cfCount 6 len = (len - 6 + 6) / 7 := rfl
  unfold classicFrames
  split
  · exact Nat.one_le_iff_ne_zero.mpr (by decide)
  · omega

/-- A response is received, and the simulator is back at the head of its loop. -/
theorem leads_response (h : ValidEcuId ecuId) (hpolls : 586 ≤ polls) (hresp : resp ≠ [])
    (hle : resp.length ≤ 4095) (g : PyResult → Agent CanFrame α) :
    (benchBus α envs).Leads (pair ecuId) (.client ecuId) (.server ecuId)
      ((transportOf polls ecuId).recv.bind g) (EcuNode.answered ecuId s.1 reqBuf s.2 resp)
      (g (.ok resp)) (atHead s reqBuf) := by
  have hpos := List.length_pos_iff.mpr hresp
  have hreach := reach_client polls h
  rw [EcuNode.answered, if_pos hpos, ← rxId_transportOf polls h]
  have htp : (transportOf polls ecuId).polls = polls := rfl
  generalize transportOf polls ecuId = tp at hreach htp ⊢
  have hrun := talk_response hpos hle (htp ▸ (classicFrames_le hle).trans hpolls)
  have hsends : (onSocket tp (udsTpSend tp.rxId resp ecusimTpConfig)).Confined
      (fun f => f.canId = tp.rxId) fun _ => True :=
    (offers_udsTpSend resp ecusimTpConfig).agent fun _ _ => trivial
  have hflow : EcuNode.Reach ecuId (fun f => f.canId = tp.txId)
      (fun f => (flowFilter tp).accepts f.canId) :=
    fun f hf => ⟨(hreach f hf).1, flowFilter_accepts tp hf⟩
  have hplays := EcuNode.plays_responding (hosted_ecu α envs ecuId) hflow
    ⟨s.1, reqBuf, .waiting⟩ s.2 (udsTpSend tp.rxId resp ecusimTpConfig)
  have hleads := Network.leads_of_talk (client_ne_server ecuId ecuId) pair_client pair_server
    (fun _ => rfl) hrun (confined_true (recvsOnly_recv tp)) hsends
    ((hosts_client α envs ecuId).plays _ _ g) hplays
  exact hleads

/-! ## A client and its simulator alone -/

section Pair

theorem quiet_atHead (s : EcuSimulator × Nat) (reqBuf : Mem UInt8) :
    Network.Quiet (benchBus α envs) (benchExpire α envs) (.server ecuId) (atHead s reqBuf) :=
  ⟨rfl, rfl⟩

theorem quiet_ret (a : α) :
    Network.Quiet (benchBus α envs) (benchExpire α envs) (.client ecuId) (.ret a) :=
  ⟨rfl, rfl⟩

variable {Q : (benchBus α envs).Config → Prop}

theorem inevitable_awaitPending (hpolls : polls ≠ 0) (data : List UInt8) (attempts : Nat)
    (g : PyResult → Agent CanFrame α) {c : (benchBus α envs).Config}
    (hc : (benchBus α envs).Rest (.client ecuId) (.server ecuId)
      ((awaitPending (transportOf polls ecuId) data (attempts + 1)).bind g) (atHead s reqBuf) c)
    (hnext : ∀ c', (benchBus α envs).Rest (.client ecuId) (.server ecuId)
      (g (.error .udsTimeoutError)) (atHead s reqBuf) c' →
        Inevitable ((benchBus α envs).Patient (benchExpire α envs) (pair ecuId)) Q c') :
    Inevitable ((benchBus α envs).Patient (benchExpire α envs) (pair ecuId)) Q c := by
  cases polls with
  | zero => exact absurd rfl hpolls
  | succ polls =>
      exact hc.inevitable_expired (isPair_pair ecuId) (client_ne_server ecuId ecuId) pair_client
        pair_server rfl rfl (quiet_atHead s reqBuf) hnext

theorem inevitable_response (h : ValidEcuId ecuId) (hpolls : 586 ≤ polls)
    (hresp : resp.length ≤ 4095) (g : PyResult → Agent CanFrame α)
    {c : (benchBus α envs).Config}
    (hc : (benchBus α envs).Rest (.client ecuId) (.server ecuId)
      ((awaitPending (transportOf polls ecuId) data (maxPendingRetries + 1)).bind g)
      (EcuNode.answered ecuId s.1 reqBuf s.2 resp) c)
    (hnext : ∀ c', (benchBus α envs).Rest (.client ecuId) (.server ecuId)
      (g (outcome resp)) (atHead s reqBuf) c' →
        Inevitable ((benchBus α envs).Patient (benchExpire α envs) (pair ecuId)) Q c') :
    Inevitable ((benchBus α envs).Patient (benchExpire α envs) (pair ecuId)) Q c := by
  have hpolls' : polls ≠ 0 := by omega
  unfold outcome at hnext
  by_cases hnone : resp = []
  · subst hnone
    rw [if_pos rfl] at hnext
    exact inevitable_awaitPending hpolls' data maxPendingRetries g hc hnext
  · rw [if_neg hnone] at hnext
    rw [awaitPending, Agent.bind_assoc] at hc
    refine (leads_response h hpolls hnone hresp _).inevitable (isPair_pair ecuId) hc
      fun c' hc' => ?_
    unfold onResponse at hc'
    by_cases hnrc : resp.length ≥ 3 ∧ resp.getD 0 0 = sidNrc
    · simp only [if_pos hnrc] at hc' hnext
      by_cases hpending : resp.getD 2 0 = nrcResponsePending
      · rw [if_pos hpending] at hc' hnext
        exact inevitable_awaitPending hpolls' data 2 g hc' hnext
      · rw [if_neg hpending] at hc' hnext
        exact hnext c' hc'
    · simp only [if_neg hnrc] at hc' hnext
      exact hnext c' hc'

/-- Alone on the bus with its simulator, a program comes to what it comes to with a server
that answers at once, in every run. -/
theorem inevitable_play (h : ValidEcuId ecuId) (hpolls : 586 ≤ polls) (d : Dialog α)
    {s : EcuSimulator × Nat} {reqBuf : Mem UInt8} (hfits : d.Fits (ecuAnswer (envs ecuId)) s)
    {c : (benchBus α envs).Config}
    (hc : (benchBus α envs).Rest (.client ecuId) (.server ecuId)
      (d.onBus (transportOf polls ecuId)) (atHead s reqBuf) c) :
    Inevitable ((benchBus α envs).Patient (benchExpire α envs) (pair ecuId))
      (fun c' => ∃ reqBuf', (benchBus α envs).Rest (.client ecuId) (.server ecuId)
        (.ret (d.play (ecuAnswer (envs ecuId)) s).1)
        (atHead (d.play (ecuAnswer (envs ecuId)) s).2 reqBuf') c') c := by
  have hpolls' : polls ≠ 0 := by omega
  induction d generalizing s reqBuf c with
  | ret a =>
      exact hc.inevitable_quiet (isPair_pair ecuId) (client_ne_server ecuId ecuId) pair_client
        pair_server (quiet_ret a) (quiet_atHead s reqBuf) ⟨reqBuf, hc⟩
  | request data next ih =>
      obtain ⟨⟨hpos, hle⟩, hrest⟩ := hfits
      rw [Dialog.onBus, requestOnBus, Agent.bind_assoc] at hc
      obtain ⟨reqBuf', hleads⟩ := leads_request h hpolls' hpos hle envs s reqBuf _
      refine hleads.inevitable (isPair_pair ecuId) hc fun c' hc' => ?_
      exact inevitable_response h hpolls (length_ecuAnswer_le (envs ecuId) s _) _ hc'
        fun c'' hc'' => ih _ hrest hc''
  | send data next ih =>
      obtain ⟨⟨hpos, hle⟩, hnone, hrest⟩ := hfits
      obtain ⟨reqBuf', hleads⟩ := leads_request h hpolls' hpos hle envs s reqBuf _
      refine hleads.inevitable (isPair_pair ecuId) hc fun c' hc' => ?_
      rw [hnone] at hc'
      exact ih _ hrest hc'

end Pair

end Exchange

/-! ## Everybody at once -/

section Bench

variable {α : Type} {envs : UInt8 → Nat → Env} {polls : Nat} {ecuIds : List UInt8}

/-- What a node lets through. -/
def mine : BenchNode → CanFrame → Bool
  | .client ecuId, f => f.canId = udsCanRespId ecuId
  | .server ecuId, f => (ecusimFilter ecuId).accepts f.canId

/-- What a node sends. -/
def sentId : BenchNode → UInt32
  | .client ecuId => udsCanReqId ecuId
  | .server ecuId => udsCanRespId ecuId

/-- Every node keeps to its identifiers. -/
def Within (α : Type) (envs : UInt8 → Nat → Env) :
    (node : BenchNode) → (benchBus α envs).State node → Prop
  | .client ecuId => fun code : Agent CanFrame α => code.Confined
      (fun f => f.canId = udsCanReqId ecuId) fun f => f.canId = udsCanRespId ecuId
  | .server ecuId => EcuNode.Within ecuId

theorem keeps_within : (benchBus α envs).Keeps (benchExpire α envs) (Within α envs) := by
  intro node x x' hx hexpire
  cases node with
  | client ecuId => exact Agent.Confined.overdue hx hexpire
  | server ecuId => exact EcuNode.within_expire hx hexpire

theorem accepts_ecusimFilter {ecuId : UInt8} (h : ValidEcuId ecuId) (f : CanFrame) :
    (ecusimFilter ecuId).accepts f.canId = true ↔ standardId f.canId = 0x600 + ecuId.toNat := by
  rw [ecusimFilter, accepts_iff, standardId_reqId h]

/-- What a client sends is for its simulator alone, and the other way round. -/
theorem mine_iff {p q : BenchNode} {f : CanFrame} (hp : ValidEcuId p.name)
    (hq : ValidEcuId q.name) (hne : q ≠ p) (hf : f.canId = sentId p) :
    mine q f = true ↔ p.name = q.name := by
  have hpos := And.intro hp.1 hq.1
  have hle := And.intro hp.2 hq.2
  cases p with
  | client a =>
      cases q with
      | client x =>
          have hax : a ≠ x := fun h => hne (congrArg Peer.client h.symm)
          simp only [name, mine, sentId, decide_eq_true_iff] at hp hq hf hpos hle ⊢
          rw [hf, ← UInt32.toNat_inj, toNat_reqId hp, toNat_respId hq]
          exact iff_of_false (by omega) hax
      | server x =>
          simp only [name, mine, sentId] at hp hq hf hpos hle ⊢
          rw [accepts_ecusimFilter hq, hf, standardId_reqId hp, ← UInt8.toNat_inj]
          omega
  | server a =>
      cases q with
      | client x =>
          simp only [name, mine, sentId, decide_eq_true_iff] at hp hq hf hpos hle ⊢
          rw [hf, ← UInt32.toNat_inj, toNat_respId hp, toNat_respId hq, ← UInt8.toNat_inj]
          omega
      | server x =>
          have hax : a ≠ x := fun h => hne (congrArg Peer.server h.symm)
          simp only [name, mine, sentId] at hp hq hf hpos hle ⊢
          rw [accepts_ecusimFilter hq, hf, standardId_respId hp]
          exact iff_of_false (by omega) hax

theorem paired_bench (hids : ∀ ecuId ∈ ecuIds, ValidEcuId ecuId) :
    (benchBus α envs).Paired ecuIds (fun node f => f.canId = sentId node) mine
      (Within α envs) where
  role := by
    intro p _
    cases p with
    | client a => exact ⟨_, fun _ h => Agent.Confined.act h, fun _ hf => decide_eq_true hf⟩
    | server a => exact ⟨_, fun _ h => EcuNode.confined_act h, fun _ hf => hf⟩
  reach hp hq hne _ hf := mine_iff (hids _ hp) (hids _ hq) hne hf

/-- Every client begins its program, every simulator waits for a request. -/
def benchStart (α : Type) (envs : UInt8 → Nat → Env) (polls : Nat) (dialogs : UInt8 → Dialog α)
    (ecus : UInt8 → EcuSimulator × Nat) (reqBufs : UInt8 → Mem UInt8) :
    (benchBus α envs).Config where
  state := fun
    | .client ecuId => (dialogs ecuId).onBus (transportOf polls ecuId)
    | .server ecuId => atHead (ecus ecuId) (reqBufs ecuId)
  inbox := fun _ => []

/-- The client has returned what came of a run at the link, and the simulator, at the head
of its loop, is where the link is. -/
def Settled (c : (benchBus α envs).Config) (ecuId : UInt8) (out : α × EcuLink) : Prop :=
  c.state (.client ecuId) = Agent.ret out.1 ∧
    ∃ reqBuf, c.state (.server ecuId) = atHead (out.2.sim, out.2.dispatched) reqBuf

/-- Every run of a bench comes to an end, and there every client has, and every simulator
is in, what its program comes to over a transport that dispatches at once. -/
theorem bench_settles (hids : ∀ ecuId ∈ ecuIds, ValidEcuId ecuId) (hpolls : 586 ≤ polls)
    (dialogs : UInt8 → Dialog α) (ecus : UInt8 → EcuSimulator × Nat)
    (reqBufs : UInt8 → Mem UInt8)
    (hfits : ∀ ecuId ∈ ecuIds, (dialogs ecuId).Fits (ecuAnswer (envs ecuId)) (ecus ecuId)) :
    Inevitable ((benchBus α envs).Patient (benchExpire α envs) (among ecuIds))
      (fun c => ∀ ecuId ∈ ecuIds, Settled c ecuId
        ((dialogs ecuId).run (ecuTransport (envs ecuId)) ⟨(ecus ecuId).1, (ecus ecuId).2, []⟩))
      (benchStart α envs polls dialogs ecus reqBufs) := by
  have hwithin (node : BenchNode) (hon : among ecuIds node = true) :
      Within α envs node ((benchStart α envs polls dialogs ecus reqBufs).state node) := by
    cases node with
    | client a =>
        have ha := hids a (of_decide_eq_true hon)
        have huses := (dialogs a).recvsOnly_onBus (transportOf polls a)
        rw [UsesIds, txId_transportOf polls ha, rxId_transportOf polls ha] at huses
        exact huses
    | server a => trivial
  have hseen : Network.Seen Peer.name ecuIds mine (Within α envs)
      (benchStart α envs polls dialogs ecus reqBufs)
      fun _ => benchStart α envs polls dialogs ecus reqBufs :=
    ⟨hwithin, fun _ _ => ⟨fun _ _ => rfl, fun _ _ => rfl⟩⟩
  refine hseen.inevitable (fun x hx => (paired_bench hids).separate hx) keeps_within
    (fun node hon => mem_nodes hon) (P := fun x d => Settled d x
      ((dialogs x).run (ecuTransport (envs x)) ⟨(ecus x).1, (ecus x).2, []⟩)) ?_ ?_
  · intro c d hseen hall x hx
    obtain ⟨hclient, reqBuf, hecu⟩ := hall x hx
    have hproj := hseen.projects x hx
    exact ⟨(hproj.state _ pair_client).symm.trans hclient, reqBuf,
      (hproj.state _ pair_server).symm.trans hecu⟩
  · intro x hx
    have hrest : (benchBus α envs).Rest (.client x) (.server x)
        ((dialogs x).onBus (transportOf polls x)) (atHead (ecus x) (reqBufs x))
        (benchStart α envs polls dialogs ecus reqBufs) := ⟨rfl, rfl, rfl, rfl⟩
    have hplay := inevitable_play (hids x hx) hpolls (dialogs x) (hfits x hx) hrest
    refine hplay.mono fun c hc => ?_
    obtain ⟨reqBuf, hrest⟩ := hc
    rw [Settled, run_ecuTransport (envs x) (dialogs x) (hfits x hx)]
    exact ⟨hrest.left, reqBuf, hrest.right⟩

end Bench

end Uds.System
