import Uds.Base.Talk
import Uds.Can.Identifiers
import Uds.Ecusim.ReceiveLoop
import Uds.Tp.Offers
/-!
# The C simulator on the bus

`ecusim_run` as a party of a network: its socket lets through what the filter of
`ecusim_init` does, and a turn of the loop is one call of `uds_can_recv` or
`uds_can_send`.  The loop is not stopped.
-/

namespace Uds.Ecusim

open Uds.Base Uds.Can Uds.Tp

/-- `ecusim_run`, and how many requests it has dispatched. -/
structure EcuNode where
  loop : ReceiveLoop
  dispatched : Nat

section Node

variable (ecuId : UInt8) (envs : Nat → Env)

/-- The receive filter of `ecusim_init`. -/
def ecusimFilter : UdsCanFilter := ⟨udsCanReqId ecuId, 0x7FF⟩

namespace EcuNode

/-- One turn of the loop, in which a send succeeds; dispatch `n` reads `envs n`. -/
def turn (node : EcuNode) (recv : Except UdsCanError CanFrame) : EcuNode :=
  let out := ecusimRunStep (udsCanRespId ecuId) node.loop
    ⟨recv, .ok (), envs node.dispatched, true⟩
  { loop := out.1
    dispatched := if out.2.dispatched.isSome then node.dispatched + 1 else node.dispatched }

/-- The next call of `uds_can_recv` or `uds_can_send`. -/
def call {α : Type} (node : EcuNode) : Proc CanFrame UdsCanError α → Act CanFrame EcuNode
  | .ret _ => .halt
  | .send f _ => .send f (node.turn ecuId envs (.error .errTimeout))
  | .recv _ => .recv (fun f => (ecusimFilter ecuId).accepts f.canId) fun f =>
      node.turn ecuId envs (.ok f)

/-- The call of `uds_tp_recv` at the head of the loop. -/
def head (node : EcuNode) : RecvProc 8 :=
  udsTpRecv (udsCanRespId ecuId) node.loop.reqBuf ecusimMaxPdu 0 ecusimTpConfig

def act (node : EcuNode) : Act CanFrame EcuNode :=
  match node.loop.point with
  | .waiting => node.call ecuId envs (node.head ecuId)
  | .reassembling p => node.call ecuId envs p
  | .responding p => node.call ecuId envs p
  | .stopped => .halt

/-- What follows when `uds_can_recv` times out.  At the head of the loop it changes nothing. -/
def expire (node : EcuNode) : Option EcuNode :=
  match node.loop.point with
  | .reassembling (.recv _) => some (node.turn ecuId envs (.error .errTimeout))
  | .responding (.recv _) => some (node.turn ecuId envs (.error .errTimeout))
  | _ => none

variable {ecuId envs}

/-- The loop inside `uds_tp_recv`, or after it. -/
def receiving (ecuId : UInt8) (envs : Nat → Env) (loop : ReceiveLoop) (n : Nat) (p : RecvProc 8) :
    EcuNode :=
  let out := afterRecv (udsCanRespId ecuId) loop (envs n) p
  { loop := out.1, dispatched := if out.2.isSome then n + 1 else n }

/-- The loop inside `uds_tp_send`, or after it. -/
def responding (loop : ReceiveLoop) (n : Nat) (p : SendProc 8) : EcuNode :=
  ⟨{ loop with point := afterSend p }, n⟩

theorem receiving_point (loop : ReceiveLoop) (n : Nat) (p : RecvProc 8) (point : LoopPoint) :
    receiving ecuId envs { loop with point := point } n p = receiving ecuId envs loop n p := by
  cases p with
  | ret res =>
      unfold receiving afterRecv onRequest
      split <;> rfl
  | send m k => rfl
  | recv k => rfl

theorem turn_reassembling (loop : ReceiveLoop) (n : Nat) (p : RecvProc 8)
    (recv : Except UdsCanError CanFrame) :
    (EcuNode.mk { loop with point := .reassembling p } n).turn ecuId envs recv =
      receiving ecuId envs loop n (p.answer recv (.ok ())).2 := by
  rw [← receiving_point loop n _ (.reassembling p)]
  rfl

theorem turn_waiting (loop : ReceiveLoop) (n : Nat) (h : loop.point = .waiting)
    (recv : Except UdsCanError CanFrame) :
    (EcuNode.mk loop n).turn ecuId envs recv = receiving ecuId envs loop n
      (((EcuNode.mk loop n).head ecuId).answer recv (.ok ())).2 := by
  obtain ⟨sim, reqBuf, point⟩ := loop
  change point = .waiting at h
  subst h
  rfl

theorem turn_responding (loop : ReceiveLoop) (n : Nat) (p : SendProc 8)
    (recv : Except UdsCanError CanFrame) :
    (EcuNode.mk { loop with point := .responding p } n).turn ecuId envs recv =
      responding loop n (p.answer recv (.ok ())).2 := rfl

/-- The loop after a dispatch: it sends what there is to send. -/
def answered (ecuId : UInt8) (sim : EcuSimulator) (reqBuf : Mem UInt8) (n : Nat)
    (resp : List UInt8) : EcuNode :=
  if resp.length > 0 then
    responding ⟨sim, reqBuf, .waiting⟩ n (udsTpSend (udsCanRespId ecuId) resp ecusimTpConfig)
  else ⟨⟨sim, reqBuf, .waiting⟩, n⟩

/-- A request that has been received is dispatched. -/
theorem receiving_request (loop : ReceiveLoop) (n : Nat) {res : UdsTpRecvResult}
    (hrc : res.rc = .ok) :
    receiving ecuId envs loop n (.ret res) =
      answered ecuId
        (ecusimDispatch loop.sim (envs n) (res.buf.load 0 res.outLen) ecusimMaxPdu).1
        res.buf (n + 1)
        (ecusimDispatch loop.sim (envs n) (res.buf.load 0 res.outLen) ecusimMaxPdu).2 := by
  unfold receiving afterRecv onRequest answered responding
  simp only [hrc, ne_eq, not_true_eq_false, if_false, Option.isSome_some, if_true]
  split <;> rfl

theorem receiving_fail (loop : ReceiveLoop) (n : Nat) {res : UdsTpRecvResult}
    (hrc : res.rc ≠ .ok) :
    receiving ecuId envs loop n (.ret res) =
      ⟨{ loop with reqBuf := res.buf, point := .waiting }, n⟩ := by
  unfold receiving afterRecv onRequest
  simp only [if_pos hrc]
  rfl

/-! ## What the node does -/

section Plays

variable {ι : Type} {b : Network ι CanFrame} {i : ι} {embed : EcuNode → b.State i}

/-- Party `i` is such a node. -/
def Hosted (ecuId : UInt8) (envs : Nat → Env) (b : Network ι CanFrame) (i : ι)
    (embed : EcuNode → b.State i) : Prop :=
  ∀ node : EcuNode, b.act i (embed node) = (node.act ecuId envs).map embed

variable {theirs : CanFrame → Prop} {accepts : CanFrame → Bool}

/-- The socket lets these frames through, and so does the test. -/
def Reach (ecuId : UInt8) (theirs : CanFrame → Prop) (accepts : CanFrame → Bool) : Prop :=
  ∀ f, theirs f → (ecusimFilter ecuId).accepts f.canId = true ∧ accepts f = true

theorem Reach.eq (h : Reach ecuId theirs accepts) {f : CanFrame} (hf : theirs f) :
    (ecusimFilter ecuId).accepts f.canId = accepts f :=
  (h f hf).1.trans (h f hf).2.symm

theorem plays_reassembling (h : Hosted ecuId envs b i embed) (hreach : Reach ecuId theirs accepts)
    (loop : ReceiveLoop) (n : Nat) (p : RecvProc 8) :
    b.Plays i theirs (fun res => embed (receiving ecuId envs loop n (.ret res)))
      (p.agent accepts .errTimeout) (embed (receiving ecuId envs loop n p)) := by
  induction p with
  | ret res => exact .ret res
  | send f k ih =>
      refine .send (h _) ?_
      change b.Plays i theirs _ _ (embed ((EcuNode.mk { loop with
        point := .reassembling (.send f k) } n).turn ecuId envs (.error .errTimeout)))
      rw [turn_reassembling]
      exact ih (.ok ())
  | recv k ih =>
      refine .recv (h _) (fun f hf => hreach.eq hf) fun f _ => ?_
      change b.Plays i theirs _ _ (embed ((EcuNode.mk { loop with
        point := .reassembling (.recv k) } n).turn ecuId envs (.ok f)))
      rw [turn_reassembling]
      exact ih (.ok f)

/-- At the head of the loop the node is a call of `uds_tp_recv`. -/
theorem plays_waiting (h : Hosted ecuId envs b i embed) (hreach : Reach ecuId theirs accepts)
    (loop : ReceiveLoop) (n : Nat) (hwaiting : loop.point = .waiting) :
    b.Plays i theirs (fun res => embed (receiving ecuId envs loop n (.ret res)))
      (((EcuNode.mk loop n).head ecuId).agent accepts .errTimeout) (embed ⟨loop, n⟩) := by
  have hact : (EcuNode.mk loop n).act ecuId envs =
      (EcuNode.mk loop n).call ecuId envs ((EcuNode.mk loop n).head ecuId) := by
    unfold act
    simp only [hwaiting]
  have hturn (recv : Except UdsCanError CanFrame) : (EcuNode.mk loop n).turn ecuId envs recv =
      receiving ecuId envs loop n (((EcuNode.mk loop n).head ecuId).answer recv (.ok ())).2 :=
    turn_waiting loop n hwaiting recv
  have hnode := h ⟨loop, n⟩
  rw [hact] at hnode
  cases hp : (EcuNode.mk loop n).head ecuId with
  | ret res =>
      unfold head udsTpRecv at hp
      rw [if_neg (by decide), if_neg (by decide)] at hp
      cases hp
  | send f k =>
      rw [hp] at hnode hturn
      refine .send hnode ?_
      rw [hturn]
      exact plays_reassembling h hreach loop n (k (.ok ()))
  | recv k =>
      rw [hp] at hnode hturn
      refine .recv hnode (fun f hf => hreach.eq hf) fun f _ => ?_
      simp only [hturn]
      exact plays_reassembling h hreach loop n (k (.ok f))

/-- In the middle of `uds_tp_send` the node is what is left of it. -/
theorem plays_responding (h : Hosted ecuId envs b i embed) (hreach : Reach ecuId theirs accepts)
    (loop : ReceiveLoop) (n : Nat) (p : SendProc 8) :
    b.Plays i theirs (fun rc => embed (responding loop n (.ret rc)))
      (p.agent accepts .errTimeout) (embed (responding loop n p)) := by
  induction p with
  | ret rc => exact .ret rc
  | send f k ih =>
      refine .send (h _) ?_
      change b.Plays i theirs _ _ (embed ((EcuNode.mk { loop with
        point := .responding (.send f k) } n).turn ecuId envs (.error .errTimeout)))
      rw [turn_responding]
      exact ih (.ok ())
  | recv k ih =>
      refine .recv (h _) (fun f hf => hreach.eq hf) fun f _ => ?_
      change b.Plays i theirs _ _ (embed ((EcuNode.mk { loop with
        point := .responding (.recv k) } n).turn ecuId envs (.ok f)))
      rw [turn_responding]
      exact ih (.ok f)

end Plays

/-! ## What the node keeps to -/

/-- What is left of the call that the loop is in sends with the response identifier. -/
def Within (ecuId : UInt8) (node : EcuNode) : Prop :=
  match node.loop.point with
  | .waiting => True
  | .reassembling p => p.Offers fun f => f.canId = udsCanRespId ecuId
  | .responding p => p.Offers fun f => f.canId = udsCanRespId ecuId
  | .stopped => True

theorem offers_answer {α : Type} {out : CanFrame → Prop} {p : Proc CanFrame UdsCanError α}
    (h : p.Offers out) (recv : Except UdsCanError CanFrame) (sent : Except UdsCanError Unit) :
    (p.answer recv sent).2.Offers out := by
  cases h with
  | ret a => exact .ret a
  | send hm hk => exact hk sent
  | recv hk => exact hk recv

theorem within_responding {loop : ReceiveLoop} {n : Nat} {p : SendProc 8}
    (h : p.Offers fun f => f.canId = udsCanRespId ecuId) : (responding loop n p).Within ecuId := by
  cases p with
  | ret rc => trivial
  | send f k => exact h
  | recv k => exact h

theorem within_receiving (loop : ReceiveLoop) (n : Nat) {p : RecvProc 8}
    (h : p.Offers fun f => f.canId = udsCanRespId ecuId) :
    (receiving ecuId envs loop n p).Within ecuId := by
  cases p with
  | ret res =>
      by_cases hrc : res.rc = .ok
      · rw [receiving_request loop n hrc]
        unfold answered
        split
        · exact within_responding (offers_udsTpSend _ _)
        · trivial
      · rw [receiving_fail loop n hrc]
        trivial
  | send f k => exact h
  | recv k => exact h

theorem within_turn {node : EcuNode} (h : node.Within ecuId) (recv : Except UdsCanError CanFrame) :
    (node.turn ecuId envs recv).Within ecuId := by
  obtain ⟨loop, n⟩ := node
  cases hpoint : loop.point with
  | waiting =>
      rw [turn_waiting loop n hpoint]
      exact within_receiving loop n (offers_answer (offers_udsTpRecv _ _ _ _) recv _)
  | reassembling p =>
      have hloop : loop = { loop with point := .reassembling p } := by rw [← hpoint]
      unfold Within at h
      simp only [hpoint] at h
      rw [hloop, turn_reassembling]
      exact within_receiving loop n (offers_answer h recv _)
  | responding p =>
      have hloop : loop = { loop with point := .responding p } := by rw [← hpoint]
      unfold Within at h
      simp only [hpoint] at h
      rw [hloop, turn_responding]
      exact within_responding (offers_answer h recv _)
  | stopped =>
      unfold turn ecusimRunStep Within
      simp only [hpoint]

theorem within_call {α : Type} {node : EcuNode} (h : node.Within ecuId)
    {p : Proc CanFrame UdsCanError α} (hp : p.Offers fun f => f.canId = udsCanRespId ecuId) :
    (node.call ecuId envs p).Confined (fun f => f.canId = udsCanRespId ecuId)
      (fun f => (ecusimFilter ecuId).accepts f.canId = true) (Within ecuId) := by
  cases hp with
  | ret a => trivial
  | send hm hk => exact ⟨hm, within_turn h _⟩
  | recv hk => exact fun f hf => ⟨hf, within_turn h _⟩

theorem confined_act {node : EcuNode} (h : node.Within ecuId) :
    (node.act ecuId envs).Confined (fun f => f.canId = udsCanRespId ecuId)
      (fun f => (ecusimFilter ecuId).accepts f.canId = true) (Within ecuId) := by
  have hwithin := h
  unfold Within at h
  unfold act
  cases hpoint : node.loop.point with
  | waiting => exact within_call hwithin (offers_udsTpRecv _ _ _ _)
  | reassembling p =>
      simp only [hpoint] at h
      exact within_call hwithin h
  | responding p =>
      simp only [hpoint] at h
      exact within_call hwithin h
  | stopped => trivial

theorem within_expire {node node' : EcuNode} (h : node.Within ecuId)
    (hexpire : node.expire ecuId envs = some node') : node'.Within ecuId := by
  unfold expire at hexpire
  split at hexpire
  · cases hexpire
    exact within_turn h _
  · cases hexpire
    exact within_turn h _
  · cases hexpire

end EcuNode

end Node

end Uds.Ecusim
