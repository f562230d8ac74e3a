import Uds.Base.Network
/-!
# A bus of pairs

Clients and servers on one bus, one of each for every name.  If what a client sends gets
through to the server of its name alone, and the other way round, then the pair of a name
is separate from all the others.
-/

namespace Uds.Base

/-- The client and the server of a name. -/
inductive Peer (κ : Type) where
  | client (name : κ)
  | server (name : κ)
  deriving DecidableEq

namespace Peer

variable {κ : Type}

def name : Peer κ → κ
  | client k => k
  | server k => k

theorem client_ne_server (j k : κ) : client j ≠ server k := fun h => by cases h

/-- The peers of these names. -/
def nodes (names : List κ) : List (Peer κ) := names.flatMap fun k => [client k, server k]

variable [DecidableEq κ]

def among (names : List κ) : Peer κ → Bool := Network.ofGroups name names

/-- A client and its server. -/
def pair (k : κ) : Peer κ → Bool := among [k]

variable {k : κ} {names : List κ} {peer : Peer κ}

theorem among_iff : among names peer = true ↔ peer.name ∈ names := decide_eq_true_iff

theorem pair_iff : pair k peer = true ↔ peer.name = k := Network.ofGroups_singleton

theorem pair_client : pair k (client k) = true := pair_iff.mpr rfl

theorem pair_server : pair k (server k) = true := pair_iff.mpr rfl

theorem among_of_pair (hk : k ∈ names) (h : pair k peer = true) : among names peer = true :=
  among_iff.mpr (pair_iff.mp h ▸ hk)

theorem mem_nodes (h : among names peer = true) : peer ∈ nodes names := by
  refine List.mem_flatMap.mpr ⟨peer.name, among_iff.mp h, ?_⟩
  cases peer with
  | client k => exact List.mem_cons_self
  | server k => exact List.mem_cons_of_mem _ List.mem_cons_self

theorem isPair_pair (k : κ) : Network.IsPair (pair k) := by
  intro p q r hp hq hr hne
  rw [pair_iff] at hp hq hr
  cases p with
  | client a =>
      cases q with
      | client b => exact absurd (congrArg client (hp.trans hq.symm)) hne
      | server b =>
          cases r with
          | client c => exact Or.inl (congrArg client (hr.trans hp.symm))
          | server c => exact Or.inr (congrArg server (hr.trans hq.symm))
  | server a =>
      cases q with
      | client b =>
          cases r with
          | client c => exact Or.inr (congrArg client (hr.trans hq.symm))
          | server c => exact Or.inl (congrArg server (hr.trans hp.symm))
      | server b => exact absurd (congrArg server (hp.trans hq.symm)) hne

end Peer

namespace Network

open Peer

variable {κ M : Type} [DecidableEq κ] {b : Network (Peer κ) M} {names : List κ}
  {sent : Peer κ → M → Prop} {mine : Peer κ → M → Bool} {I : (p : Peer κ) → b.State p → Prop}

/-- Every peer lets through only what is its own, and that, of what another sends, is what
the other peer of its name does. -/
structure Paired (b : Network (Peer κ) M) (names : List κ) (sent : Peer κ → M → Prop)
    (mine : Peer κ → M → Bool) (I : (p : Peer κ) → b.State p → Prop) : Prop where
  role : ∀ p, p.name ∈ names →
    ∃ accepts, b.Role p (sent p) accepts (I p) ∧ ∀ m, accepts m → mine p m = true
  reach : ∀ {p q}, p.name ∈ names → q.name ∈ names → q ≠ p → ∀ {m}, sent p m →
    (mine q (b.wire m) = true ↔ p.name = q.name)

theorem Paired.separate (h : b.Paired names sent mine I) {k : κ} (hk : k ∈ names) :
    b.Separate (among names) (pair k) mine I where
  few_on p hp := among_of_pair hk hp
  role := by
    intro p hp
    obtain ⟨accepts, hrole, hmine⟩ := h.role p (among_iff.mp hp)
    refine ⟨sent p, accepts, hrole, fun _ => hmine, ?_⟩
    intro q hq hne m hm
    have hname := pair_iff.mp hq
    rw [Bool.eq_iff_iff, h.reach (among_iff.mp hp) (hname ▸ hk) hne hm, hname, pair_iff]

end Network

end Uds.Base
