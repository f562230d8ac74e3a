import Uds.Base.Network
import Uds.PyEcu.Simulator
import Uds.Tools.Reception
/-!
# The Python simulator on the bus

The ISO-TP side of `EcuSimulator` (`ecusim.py`) and its background thread.  A call
of `_recv_raw_frame` is one receive, which skips the frames with another
identifier; `polls` is the number of frames that a call of `_recv_isotp` can take
before its deadline.  An exception ends the thread.
-/

namespace Uds.PyEcu

open Uds.Base Uds.Can Uds.Tools

/-- Code of the simulator that returns a value of type `α` or raises. -/
abbrev EcuCode (α : Type) := Agent CanFrame (Except PyError α)

def rxId (ecuId : Nat) : UInt32 := UInt32.ofNat (0x600 + ecuId)
def txId (ecuId : Nat) : UInt32 := UInt32.ofNat (0x680 + ecuId)

section Link

variable (ecuId : Nat)

/-- The frame that `_send_frame` sends: always eight bytes. -/
def ecuFrame (data : List UInt8) : CanFrame :=
  .ofBytes (txId ecuId) 8 Frame.le_classic data

/-- `_recv_raw_frame`; `k` gets the content of the frame. -/
def recvRawFrame {α : Type} (k : Option (List UInt8) → EcuCode α) : EcuCode α :=
  .recv (fun f => f.canId &&& 0x7FF = rxId ecuId) (fun f => k (some (msgData f))) (k none)

/-- The loop of `_send_isotp` over the Consecutive Frames. -/
def sendConsecutive (pdu : List UInt8) (offset sn : Nat) : EcuCode Unit :=
  if _h : offset < pdu.length then
    let chunk := (pdu.drop offset).take 7
    .send (ecuFrame ecuId (UInt8.ofNat (0x20 ||| (sn &&& 0x0F)) :: chunk))
      (sendConsecutive pdu (offset + chunk.length) ((sn + 1) &&& 0x0F))
  else .ret (.ok ())
  termination_by pdu.length - offset
  decreasing_by
    rw [List.length_take, List.length_drop]
    omega

/-- `_send_isotp`. -/
def sendIsotp (pdu : List UInt8) : EcuCode Unit :=
  if pdu.length ≤ 7 then
    .send (ecuFrame ecuId (UInt8.ofNat pdu.length :: pdu)) (.ret (.ok ()))
  else
    let total := pdu.length
    .send (ecuFrame ecuId ([UInt8.ofNat (0x10 ||| ((total >>> 8) &&& 0x0F)),
        UInt8.ofNat (total &&& 0xFF)] ++ pdu.take 6))
      (recvRawFrame ecuId fun
        | none => .ret (.ok ())
        | some [] => .ret (.error .indexError)
        | some (b :: _) =>
          if b.toNat >>> 4 ≠ 3 then .ret (.ok ()) else sendConsecutive ecuId pdu 6 1)

/-- A long PDU starts with a First Frame, and a Flow Control fetches the others. -/
theorem sendIsotp_multi {pdu : List UInt8} (hgt : 7 < pdu.length) :
    ∃ k, sendIsotp ecuId pdu =
        .send (ecuFrame ecuId ([UInt8.ofNat (0x10 ||| ((pdu.length >>> 8) &&& 0x0F)),
          UInt8.ofNat (pdu.length &&& 0xFF)] ++ pdu.take 6)) (recvRawFrame ecuId k) ∧
      ∀ b content, b.toNat >>> 4 = 3 → k (some (b :: content)) = sendConsecutive ecuId pdu 6 1 := by
  unfold sendIsotp
  rw [if_neg (Nat.not_le.mpr hgt)]
  exact ⟨_, rfl, fun b content htype => if_neg (not_not_intro htype)⟩

/-- The loop of `_recv_isotp` over the Consecutive Frames. -/
def recvConsecutive (total : Nat) : Nat → Nat → List UInt8 → EcuCode (Option (List UInt8))
  | 0, _, buf => .ret (.ok (if buf.length < total then none else some (buf.take total)))
  | polls + 1, expectedSn, buf =>
    if buf.length < total then
      recvRawFrame ecuId fun
        | none => .ret (.ok none)
        | some [] => .ret (.error .indexError)
        | some (b :: content) =>
          if b.toNat >>> 4 ≠ 2 then .ret (.ok none)
          else if b.toNat &&& 0x0F ≠ expectedSn then .ret (.ok none)
          else recvConsecutive total polls ((expectedSn + 1) &&& 0x0F)
            (buf ++ content.take (min 7 (total - buf.length)))
    else .ret (.ok (some (buf.take total)))

/-- `_recv_isotp`; a frame that starts no PDU is passed over. -/
def recvIsotp : Nat → EcuCode (Option (List UInt8))
  | 0 => .ret (.ok none)
  | polls + 1 =>
    recvRawFrame ecuId fun
      | none => recvIsotp polls
      | some [] => .ret (.error .indexError)
      | some (b₀ :: rest) =>
        if pciType b₀ = 0 then .ret (.ok (some (rest.take (b₀.toNat &&& 0x0F))))
        else if pciType b₀ = 1 then
          match rest with
          | [] => .ret (.error .indexError)
          | b₁ :: rest =>
            .send (ecuFrame ecuId [0x30, 0x00, 0x00, 0x00, 0x00, 0x00, 0x00, 0x00])
              (recvConsecutive ecuId (((b₀.toNat &&& 0x0F) <<< 8) ||| b₁.toNat) polls 1
                (rest.take 6))
        else recvIsotp polls

end Link

/-! ## The thread -/

/-- Where `_run_loop` is. -/
inductive Doing where
  | receiving (code : EcuCode (Option (List UInt8)))
  | responding (code : EcuCode Unit)

/-- A simulator: its state, how often it has dispatched, and where its thread is. -/
structure EcuSimulator where
  ecu : EcuState
  dispatched : Nat
  doing : Doing

/-- What a simulator finds around it. -/
structure Surroundings where
  /-- What dispatch `n` of a simulator draws. -/
  draws : Nat → Nat → Draws
  polls : Nat

namespace EcuSimulator

variable (env : Surroundings) (ecuId : Nat)

/-- A simulator before its first frame. -/
def start (ecu : EcuState) : EcuSimulator := ⟨ecu, 0, .receiving (recvIsotp ecuId env.polls)⟩

/-- Dispatch a request and respond, if there is a response. -/
def onRequest (sim : EcuSimulator) (pdu : List UInt8) : EcuSimulator :=
  let (ecu, resp) := dispatch sim.ecu (env.draws ecuId sim.dispatched) pdu
  let resp := resp.getD []
  { ecu := ecu
    dispatched := sim.dispatched + 1
    doing := if resp.length > 0 then .responding (sendIsotp ecuId resp)
      else .receiving (recvIsotp ecuId env.polls) }

/-- `_run_loop`. -/
def act (sim : EcuSimulator) : Act CanFrame EcuSimulator :=
  match sim.doing with
  | .receiving (.ret (.error _)) => .halt
  | .receiving (.ret (.ok none)) =>
    .internal { sim with doing := .receiving (recvIsotp ecuId env.polls) }
  | .receiving (.ret (.ok (some pdu))) => .internal (sim.onRequest env ecuId pdu)
  | .receiving code => code.act.map fun code => { sim with doing := .receiving code }
  | .responding (.ret (.error _)) => .halt
  | .responding (.ret (.ok _)) =>
    .internal { sim with doing := .receiving (recvIsotp ecuId env.polls) }
  | .responding code => code.act.map fun code => { sim with doing := .responding code }

end EcuSimulator

/-! ## What a simulator sends and takes -/

section Confined

variable (ecuId : Nat)

/-- The code sends with the identifier of the simulator and takes only requests to it. -/
abbrev OwnIds {α : Type} (code : EcuCode α) : Prop :=
  code.Confined (fun f => f.canId = txId ecuId) (fun f => f.canId &&& 0x7FF = rxId ecuId)

section Out

variable {out : CanFrame → Prop}

theorem confined_recvRawFrame {α : Type} {k : Option (List UInt8) → EcuCode α}
    (hk : ∀ frame, (k frame).Confined out (fun f => f.canId &&& 0x7FF = rxId ecuId)) :
    (recvRawFrame ecuId k).Confined out (fun f => f.canId &&& 0x7FF = rxId ecuId) :=
  .recv (fun _ hf => of_decide_eq_true hf) (fun _ _ => hk _) (hk none)

theorem confined_sendConsecutive
    (hcf : ∀ sn chunk, List.length chunk ≤ 7 →
      out (ecuFrame ecuId (UInt8.ofNat (0x20 ||| (sn &&& 0x0F)) :: chunk)))
    (pdu : List UInt8) (n : Nat) {offset : Nat} (hn : pdu.length - offset ≤ n) (sn : Nat) :
    (sendConsecutive ecuId pdu offset sn).Confined out
      (fun f => f.canId &&& 0x7FF = rxId ecuId) := by
  induction n generalizing offset sn with
  | zero =>
      rw [sendConsecutive, dif_neg (by omega)]
      exact .ret _
  | succ n ih =>
      by_cases hlt : offset < pdu.length
      · have hless : pdu.length - (offset + ((pdu.drop offset).take 7).length) ≤ n := by
          rw [List.length_take, List.length_drop]
          omega
        rw [sendConsecutive, dif_pos hlt]
        exact .send (hcf sn _ (List.length_take_le ..)) (ih hless _)
      · rw [sendConsecutive, dif_neg hlt]
        exact .ret _

theorem confined_sendIsotp {pdu : List UInt8}
    (hcf : ∀ sn chunk, List.length chunk ≤ 7 →
      out (ecuFrame ecuId (UInt8.ofNat (0x20 ||| (sn &&& 0x0F)) :: chunk)))
    (hsingle : pdu.length ≤ 7 → out (ecuFrame ecuId (UInt8.ofNat pdu.length :: pdu)))
    (hfirst : ¬pdu.length ≤ 7 →
      out (ecuFrame ecuId ([UInt8.ofNat (0x10 ||| ((pdu.length >>> 8) &&& 0x0F)),
        UInt8.ofNat (pdu.length &&& 0xFF)] ++ pdu.take 6))) :
    (sendIsotp ecuId pdu).Confined out (fun f => f.canId &&& 0x7FF = rxId ecuId) := by
  unfold sendIsotp
  split
  · rename_i hle
    exact .send (hsingle hle) (.ret _)
  · rename_i hle
    refine .send (hfirst hle) (confined_recvRawFrame ecuId fun frame => ?_)
    split
    · exact .ret _
    · exact .ret _
    · split
      · exact .ret _
      · exact confined_sendConsecutive ecuId hcf pdu _ le_rfl 1

end Out

theorem ownIds_recvRawFrame {α : Type} {k : Option (List UInt8) → EcuCode α}
    (hk : ∀ frame, OwnIds ecuId (k frame)) : OwnIds ecuId (recvRawFrame ecuId k) :=
  confined_recvRawFrame ecuId hk

theorem ownIds_sendIsotp (pdu : List UInt8) : OwnIds ecuId (sendIsotp ecuId pdu) :=
  confined_sendIsotp ecuId (fun _ _ _ => rfl) (fun _ => rfl) (fun _ => rfl)

theorem ownIds_recvConsecutive (total polls expectedSn : Nat) (buf : List UInt8) :
    OwnIds ecuId (recvConsecutive ecuId total polls expectedSn buf) := by
  induction polls generalizing expectedSn buf with
  | zero => exact .ret _
  | succ polls ih =>
      rw [recvConsecutive]
      split
      · refine ownIds_recvRawFrame ecuId fun frame => ?_
        split
        · exact .ret _
        · exact .ret _
        · split
          · exact .ret _
          · split
            · exact .ret _
            · exact ih _ _
      · exact .ret _

theorem ownIds_recvIsotp (polls : Nat) : OwnIds ecuId (recvIsotp ecuId polls) := by
  induction polls with
  | zero => exact .ret _
  | succ polls ih =>
      rw [recvIsotp]
      refine ownIds_recvRawFrame ecuId fun frame => ?_
      split
      · exact ih
      · exact .ret _
      · split
        · exact .ret _
        · split
          · split
            · exact .ret _
            · exact .send rfl (ownIds_recvConsecutive ecuId _ _ _ _)
          · exact ih

/-- The thread keeps to the identifiers of the simulator. -/
def Doing.Within : Doing → Prop
  | receiving code => OwnIds ecuId code
  | responding code => OwnIds ecuId code

theorem EcuSimulator.within_onRequest (env : Surroundings) (sim : EcuSimulator)
    (pdu : List UInt8) : (sim.onRequest env ecuId pdu).doing.Within ecuId := by
  unfold EcuSimulator.onRequest
  dsimp only
  split
  · exact ownIds_sendIsotp ecuId _
  · exact ownIds_recvIsotp ecuId env.polls

theorem EcuSimulator.confined_act (env : Surroundings) {sim : EcuSimulator}
    (h : sim.doing.Within ecuId) :
    (sim.act env ecuId).Confined (fun f => f.canId = txId ecuId)
      (fun f => f.canId &&& 0x7FF = rxId ecuId) (fun sim => sim.doing.Within ecuId) := by
  obtain ⟨ecu, dispatched, doing⟩ := sim
  cases doing with
  | receiving code =>
      have hact := Agent.Confined.act h
      cases code with
      | ret result =>
          cases result with
          | error e => trivial
          | ok pdu =>
              cases pdu with
              | none => exact ownIds_recvIsotp ecuId env.polls
              | some pdu => exact within_onRequest ecuId env _ pdu
      | send => exact hact.map fun _ hcode => hcode
      | recv => exact hact.map fun _ hcode => hcode
  | responding code =>
      have hact := Agent.Confined.act h
      cases code with
      | ret result =>
          cases result with
          | error e => trivial
          | ok => exact ownIds_recvIsotp ecuId env.polls
      | send => exact hact.map fun _ hcode => hcode
      | recv => exact hact.map fun _ hcode => hcode

end Confined

end Uds.PyEcu
