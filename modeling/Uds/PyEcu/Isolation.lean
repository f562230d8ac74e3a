import Uds.Base.Pairs
import Uds.PyEcu.Link
import Uds.Tools.Requests
/-!
# Several simulators on one bus

Any number of simulators with different identifiers, and one client for each, on a
bus of standard frames.  A client and its simulator let through nothing of what the
others send, wherever in a transfer it comes, so they run as if they were alone.
-/

namespace Uds.PyEcu

open Uds.Base Uds.Base.Peer Uds.Can Uds.Tools

/-! ## The bus -/

abbrev Node := Peer Nat

def Node.State : Node → Type
  | .client _ => UdsClient
  | .server _ => EcuSimulator

/-- `polls` is for the clients. -/
def labBus (polls : Nat) (env : Surroundings) : Network Node CanFrame where
  State := Node.State
  act := fun
    | .client ecuId => UdsClient.act (UdsClient.transport polls ecuId)
    | .server ecuId => EcuSimulator.act env ecuId
  wire := id

/-- Clients with a program each and simulators in any state, nothing on the way. -/
def begin (polls : Nat) (env : Surroundings) (programs : Nat → Program) (ecus : Nat → EcuState) :
    (labBus polls env).Config where
  state := fun
    | .client ecuId => UdsClient.ready [] (programs ecuId)
    | .server ecuId => EcuSimulator.start env ecuId (ecus ecuId)
  inbox := fun _ => []

/-! ## Identifiers -/

theorem toNat_ofNat_id {n : Nat} (h : n < 2048) : (UInt32.ofNat n).toNat = n := by
  rw [UInt32.toNat_ofNat']
  omega

theorem ofNat_inj {m n : Nat} (hm : m < 2048) (hn : n < 2048) :
    UInt32.ofNat m = UInt32.ofNat n ↔ m = n := by
  constructor
  · intro h
    have heq := congrArg UInt32.toNat h
    rwa [toNat_ofNat_id hm, toNat_ofNat_id hn] at heq
  · exact fun h => congrArg UInt32.ofNat h

theorem and_7FF {n : Nat} (h : n < 2048) : UInt32.ofNat n &&& 0x7FF = UInt32.ofNat n := by
  apply UInt32.toNat_inj.mp
  rw [UInt32.toNat_and, toNat_ofNat_id h]
  exact (Nat.and_two_pow_sub_one_eq_mod n 11).trans (Nat.mod_eq_of_lt h)

/-! ## A client and its simulator among the others -/

section Separate

variable (polls : Nat) (env : Surroundings)

def mine : Node → CanFrame → Bool
  | .client ecuId, f => f.canId = UInt32.ofNat (0x680 + ecuId)
  | .server ecuId, f => f.canId &&& 0x7FF = rxId ecuId

/-- Every node keeps to its identifiers. -/
def Within : (node : Node) → (labBus polls env).State node → Prop
  | .client ecuId, code => UdsClient.Within (UdsClient.transport polls ecuId) code
  | .server ecuId, sim => Doing.Within ecuId (EcuSimulator.doing sim)

/-- What a node sends. -/
def sentId : Node → UInt32
  | .client ecuId => rxId ecuId
  | .server ecuId => txId ecuId

/-- What a client sends is for its simulator alone, and the other way round. -/
theorem mine_iff {p q : Node} {f : CanFrame} (hp : p.name ≤ 127) (hq : q.name ≤ 127)
    (hne : q ≠ p) (hf : f.canId = sentId p) : mine q f = true ↔ p.name = q.name := by
  cases p with
  | client a =>
      cases q with
      | client x =>
          have hax : a ≠ x := fun h => hne (congrArg Peer.client h.symm)
          simp only [name, mine, sentId, rxId, decide_eq_true_iff] at hp hq hf ⊢
          rw [hf, ofNat_inj (by omega) (by omega)]
          omega
      | server x =>
          simp only [name, sentId] at hp hq hf ⊢
          change decide (f.canId &&& 0x7FF = rxId x) = true ↔ a = x
          rw [decide_eq_true_iff, hf, rxId, and_7FF (by omega), rxId,
            ofNat_inj (by omega) (by omega)]
          omega
  | server a =>
      cases q with
      | client x =>
          simp only [name, mine, sentId, txId, decide_eq_true_iff] at hp hq hf ⊢
          rw [hf, ofNat_inj (by omega) (by omega)]
          omega
      | server x =>
          have hax : a ≠ x := fun h => hne (congrArg Peer.server h.symm)
          simp only [name, sentId] at hp hq hf ⊢
          change decide (f.canId &&& 0x7FF = rxId x) = true ↔ a = x
          rw [decide_eq_true_iff, hf, txId, and_7FF (by omega), rxId,
            ofNat_inj (by omega) (by omega)]
          omega

theorem paired_lab {ecuIds : List Nat} (hids : ∀ ecuId ∈ ecuIds, ecuId ≤ 127) :
    (labBus polls env).Paired ecuIds (fun node f => f.canId = sentId node) mine
      (Within polls env) where
  role := by
    intro p _
    cases p with
    | client a =>
        exact ⟨_, fun _ h => UdsClient.confined_act (UdsClient.transport polls a) h,
          fun _ hf => decide_eq_true hf⟩
    | server a =>
        exact ⟨_, fun _ h => EcuSimulator.confined_act a env h, fun _ hf => decide_eq_true hf⟩
  reach hp hq hne _ hf := mine_iff (hids _ hp) (hids _ hq) hne hf

end Separate

/-! ## Isolation -/

section Isolation

variable (polls : Nat) (env : Surroundings)

/-- Client and simulator `x` are in the same state, with the same results. -/
def SameAt {polls : Nat} {env : Surroundings} (x : Nat) (c d : (labBus polls env).Config) : Prop :=
  d.state (.client x) = c.state (.client x) ∧ d.state (.server x) = c.state (.server x)

theorem within_begin (programs : Nat → Program) (ecus : Nat → EcuState) (node : Node) :
    Within polls env node ((begin polls env programs ecus).state node) := by
  cases node with
  | client ecuId => trivial
  | server ecuId => exact ownIds_recvIsotp ecuId env.polls

/-- At every moment of every run a client and its simulator are where they could be on
their own, and when the bus has come to rest, they are where they always come to on
their own. -/
theorem isolated (programs : Nat → Program) (ecus : Nat → EcuState) {ecuIds : List Nat}
    (hids : ∀ ecuId ∈ ecuIds, 1 ≤ ecuId ∧ ecuId ≤ 127) {c : (labBus polls env).Config}
    (hrun : Relation.ReflTransGen ((labBus polls env).Step (among ecuIds))
      (begin polls env programs ecus) c) {x : Nat} (hx : x ∈ ecuIds) :
    (∃ d, Relation.ReflTransGen ((labBus polls env).Step (pair x))
      (begin polls env programs ecus) d ∧ SameAt x c d) ∧
    (Normal ((labBus polls env).Step (among ecuIds)) c →
      Inevitable ((labBus polls env).Step (pair x)) (SameAt x c)
        (begin polls env programs ecus)) := by
  have hseparate := (paired_lab polls env fun ecuId h => (hids ecuId h).2).separate hx
  have hproj : Network.Projects (pair x) mine (begin polls env programs ecus)
      (begin polls env programs ecus) := ⟨fun _ _ => rfl, fun _ _ => rfl⟩
  obtain ⟨d, hd, hcd⟩ := hseparate.run (fun node _ => within_begin polls env programs ecus node)
    hproj hrun
  have hsame : SameAt x c d :=
    ⟨hcd.state (.client x) pair_client, hcd.state (.server x) pair_server⟩
  refine ⟨⟨d, hd, hsame⟩, fun hnormal => ?_⟩
  have halone := (Network.diamond_of_isPair (isPair_pair x)).inevitable_eq hd
    (hseparate.normal hcd hnormal)
  exact halone.mono fun e he => he ▸ hsame

/-- The first client writes an identifier, the second says that it is present. -/
def twoPrograms (ecuId : Nat) : Program :=
  .request (if ecuId = 1 then [0x2E, 0xF1, 0x90, 1, 2, 3, 4, 5, 6, 7] else [0x3E, 0x00])
    fun _ => .done

/-- The clock stands still and the random bytes are always the same. -/
def stillEnv : Surroundings := ⟨fun _ _ => ⟨0, #v[0x11, 0x22, 0x33, 0x44]⟩, 20⟩

def twoPairs : (labBus 20 stillEnv).Config :=
  begin 20 stillEnv twoPrograms fun _ => EcuState.init 0

/-- The request of the second client comes between the two frames of the first. -/
def crossing : List Node :=
  [.client 1, .client 1, .server 1, .server 1, .client 2, .client 2, .client 1, .client 1]

/-- Everybody in turn, until nobody can move. -/
def untilRest : List Node :=
  crossing ++ (List.replicate 8 [.server 1, .client 1, .server 2, .client 2]).flatten

theorem stuck_untilRest : ∀ node ∈ nodes [1, 2], (Network.react (labBus 20 stillEnv)
    ((Network.follow _ (among [1, 2]) untilRest twoPairs).state node)
    ((Network.follow _ (among [1, 2]) untilRest twoPairs).inbox node)).isNone = true := by
  decide +kernel

theorem normal_untilRest : Normal ((labBus 20 stillEnv).Step (among [1, 2]))
    (Network.follow _ (among [1, 2]) untilRest twoPairs) := by
  rintro _ ⟨hi, hr⟩
  have hstuck := stuck_untilRest _ (mem_nodes hi)
  rw [hr] at hstuck
  cases hstuck

/-- The frame of client 2 is in the inbox of simulator 1 before the Consecutive Frame of
client 1, and it makes no difference. -/
theorem isolated_two :
    ((Network.follow _ (among [1, 2]) crossing twoPairs).inbox (.server 1)).map (·.canId) =
        [0x602, 0x601] ∧
      Inevitable ((labBus 20 stillEnv).Step (pair 1))
        (SameAt 1 (Network.follow _ (among [1, 2]) untilRest twoPairs)) twoPairs :=
  ⟨by decide +kernel, (isolated 20 _ twoPrograms (fun _ => EcuState.init 0)
    (show ∀ ecuId ∈ [1, 2], 1 ≤ ecuId ∧ ecuId ≤ 127 by decide) (Network.run_follow _ untilRest _)
    (show 1 ∈ [1, 2] by decide)).2 normal_untilRest⟩

end Isolation

end Uds.PyEcu
