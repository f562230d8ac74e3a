import Uds.Base.Party
import Uds.PyEcu.Exceptions
import Uds.PyEcu.Link
/-!
# Frames that end the thread

The background thread of `EcuSimulator` indexes into the data of every frame that it takes.
A frame on the request identifier without data ends it wherever it waits, and a First Frame
of one byte ends it where it awaits the start of a request.  No handler raises, so nothing
else ends it.
-/

namespace Uds.PyEcu

open Uds.Base Uds.Can Uds.Tools

/-! ## The thread with its exceptions -/

namespace EcuSimulator

variable (env : Surroundings) (ecuId : Nat)

/-- `onRequest`, where the exception of a handler ends the thread. -/
def handle (sim : EcuSimulator) (pdu : List UInt8) : EcuSimulator :=
  match Raising.dispatch sim.ecu (env.draws ecuId sim.dispatched) pdu with
  | .error e => { sim with doing := .receiving (.ret (.error e)) }
  | .ok (ecu, resp) =>
    let resp := resp.getD []
    { ecu := ecu
      dispatched := sim.dispatched + 1
      doing := if resp.length > 0 then .responding (sendIsotp ecuId resp)
        else .receiving (recvIsotp ecuId env.polls) }

/-- `_run_loop`; a call of `_recv_isotp` that it now makes can take `polls` frames. -/
def actPy (polls : Nat) (sim : EcuSimulator) : Act CanFrame EcuSimulator :=
  match sim.doing with
  | .receiving (.ret (.ok (some pdu))) =>
    .internal (sim.handle { env with polls := polls } ecuId pdu)
  | _ => sim.act { env with polls := polls } ecuId

/-- The deadline of a receive passes. -/
def expire (sim : EcuSimulator) : EcuSimulator :=
  match sim.doing with
  | .receiving code => { sim with doing := .receiving code.expire }
  | .responding code => { sim with doing := .responding code.expire }

/-- An exception has ended the thread. -/
def crashed (sim : EcuSimulator) : Bool :=
  match sim.doing with
  | .receiving (.ret (.error _)) => true
  | .responding (.ret (.error _)) => true
  | _ => false

/-- The thread awaits the start of a request. -/
def Listening (sim : EcuSimulator) : Prop :=
  ∃ polls, sim.doing = .receiving (recvIsotp ecuId (polls + 1))

end EcuSimulator

/-- The background thread of a simulator. -/
def thread (env : Surroundings) (ecuId : Nat) : Party CanFrame EcuSimulator Nat where
  act := EcuSimulator.actPy env ecuId
  expire := EcuSimulator.expire

/-- A simulator right after `start`. -/
def boot (env : Surroundings) (ecuId : Nat) (monotonic : Rat) :
    Party.Config CanFrame EcuSimulator :=
  ⟨.start env ecuId (EcuState.init monotonic), []⟩

/-- A frame without data, or a First Frame without a second byte. -/
def Fatal (ecuId : Nat) (sim : EcuSimulator) (f : CanFrame) : Prop :=
  msgData f = [] ∨ (sim.Listening ecuId ∧ ∃ b, msgData f = [b] ∧ pciType b = 1)

/-! ## Code that only an empty frame ends -/

/-- The code raises on every empty frame, and on nothing else. -/
inductive OnlyEmpty {α : Type} : EcuCode α → Prop
  | ret (a : α) : OnlyEmpty (.ret (.ok a))
  | send {f : CanFrame} {next : EcuCode α} : OnlyEmpty next → OnlyEmpty (.send f next)
  | recv {accepts : CanFrame → Bool} {k : CanFrame → EcuCode α} {expired : EcuCode α} :
      (∀ f, msgData f ≠ [] → OnlyEmpty (k f)) →
      (∀ f, msgData f = [] → k f = .ret (.error .indexError)) → OnlyEmpty expired →
      OnlyEmpty (.recv accepts k expired)

section OnlyEmpty

variable (ecuId : Nat)

theorem onlyEmpty_recvRawFrame {α : Type} {k : Option (List UInt8) → EcuCode α}
    (hsome : ∀ b content, OnlyEmpty (k (some (b :: content))))
    (hempty : k (some []) = .ret (.error .indexError)) (hnone : OnlyEmpty (k none)) :
    OnlyEmpty (recvRawFrame ecuId k) := by
  refine .recv (fun f hf => ?_) (fun f hf => ?_) hnone
  · obtain ⟨b, content, hdata⟩ := List.exists_cons_of_ne_nil hf
    rw [hdata]
    exact hsome b content
  · rw [hf]
    exact hempty

theorem onlyEmpty_sendConsecutive (pdu : List UInt8) (n : Nat) {offset : Nat}
    (hn : pdu.length - offset ≤ n) (sn : Nat) :
    OnlyEmpty (sendConsecutive ecuId pdu offset sn) := by
  induction n generalizing offset sn with
  | zero =>
      rw [sendConsecutive, dif_neg (by omega)]
      exact .ret ()
  | succ n ih =>
      by_cases hlt : offset < pdu.length
      · have hless : pdu.length - (offset + ((pdu.drop offset).take 7).length) ≤ n := by
          rw [List.length_take, List.length_drop]
          omega
        rw [sendConsecutive, dif_pos hlt]
        exact .send (ih hless _)
      · rw [sendConsecutive, dif_neg hlt]
        exact .ret ()

theorem onlyEmpty_sendIsotp (pdu : List UInt8) : OnlyEmpty (sendIsotp ecuId pdu) := by
  unfold sendIsotp
  split
  · exact .send (.ret ())
  · refine .send (onlyEmpty_recvRawFrame ecuId (fun b content => ?_) rfl (.ret ()))
    dsimp only
    split
    · exact .ret ()
    · exact onlyEmpty_sendConsecutive ecuId pdu _ le_rfl 1

theorem onlyEmpty_recvConsecutive (total polls expectedSn : Nat) (buf : List UInt8) :
    OnlyEmpty (recvConsecutive ecuId total polls expectedSn buf) := by
  induction polls generalizing expectedSn buf with
  | zero => exact .ret _
  | succ polls ih =>
      rw [recvConsecutive]
      split
      · refine onlyEmpty_recvRawFrame ecuId (fun b content => ?_) rfl (.ret none)
        dsimp only
        split
        · exact .ret none
        · split
          · exact .ret none
          · exact ih _ _
      · exact .ret _

end OnlyEmpty

/-! ## The thread until it ends -/

/-- Where the thread is while no exception has ended it. -/
inductive Doing.Sound (ecuId : Nat) : Doing → Prop
  | listening (polls : Nat) : Sound ecuId (.receiving (recvIsotp ecuId polls))
  | receiving {code : EcuCode (Option (List UInt8))} : OnlyEmpty code →
      Sound ecuId (.receiving code)
  | responding {code : EcuCode Unit} : OnlyEmpty code → Sound ecuId (.responding code)

/-- A thread that runs, with as many DTCs as can be reported. -/
structure Alive (ecuId : Nat) (sim : EcuSimulator) : Prop where
  dtcs : sim.ecu.dtcs.length < 65536
  doing : sim.doing.Sound ecuId

section Alive

variable {env : Surroundings} {ecuId : Nat} {sim : EcuSimulator}

theorem length_dtcs_dispatch (ecu : EcuState) (draws : Draws) (req : List UInt8) :
    (dispatch ecu draws req).1.dtcs.length = ecu.dtcs.length := by
  have hcodes := congrArg List.length (dtcCodes_dispatch ecu draws req)
  unfold dtcCodes at hcodes
  rwa [List.length_map, List.length_map] at hcodes

theorem handle_eq (h : sim.ecu.dtcs.length < 65536) (pdu : List UInt8) :
    sim.handle env ecuId pdu = sim.onRequest env ecuId pdu := by
  unfold EcuSimulator.handle EcuSimulator.onRequest
  rw [Raising.dispatch_eq _ _ _ h]

/-- While the DTCs can be reported, the exceptions of the handlers change nothing. -/
theorem actPy_eq (h : sim.ecu.dtcs.length < 65536) :
    sim.actPy env ecuId env.polls = sim.act env ecuId := by
  unfold EcuSimulator.actPy
  split
  · rename_i pdu hdoing
    rw [handle_eq h]
    unfold EcuSimulator.act
    rw [hdoing]
  · rfl

theorem alive_onRequest (h : sim.ecu.dtcs.length < 65536) (pdu : List UInt8) :
    Alive ecuId (sim.onRequest env ecuId pdu) := by
  constructor
  · exact (length_dtcs_dispatch _ _ _).trans_lt h
  · unfold EcuSimulator.onRequest
    dsimp only
    split
    · exact .responding (onlyEmpty_sendIsotp ecuId _)
    · exact .listening env.polls

theorem Alive.not_crashed (h : Alive ecuId sim) : ¬sim.crashed = true := by
  obtain ⟨ecu, dispatched, doing⟩ := sim
  cases h.doing with
  | listening polls =>
      cases polls with
      | zero => exact Bool.false_ne_true
      | succ polls => exact Bool.false_ne_true
  | receiving hcode =>
      cases hcode with
      | ret a => exact Bool.false_ne_true
      | send => exact Bool.false_ne_true
      | recv => exact Bool.false_ne_true
  | responding hcode =>
      cases hcode with
      | ret a => exact Bool.false_ne_true
      | send => exact Bool.false_ne_true
      | recv => exact Bool.false_ne_true

theorem OnlyEmpty.splits {α : Type} {code : EcuCode α} (h : OnlyEmpty code) :
    code.act.Splits OnlyEmpty (fun code => code = .ret (.error .indexError))
      (fun f => msgData f = []) := by
  cases h with
  | ret => trivial
  | send hnext => exact hnext
  | recv hk hempty _ => exact fun f _ => ⟨hk f, hempty f⟩

theorem OnlyEmpty.expire {α : Type} {code : EcuCode α} (h : OnlyEmpty code) :
    OnlyEmpty code.expire := by
  cases h with
  | ret a => exact .ret a
  | send hnext => exact .send hnext
  | recv _ _ hexpired => exact hexpired

theorem fatal_cons_iff (b₀ : UInt8) (rest : List UInt8) :
    (b₀ :: rest = [] ∨ ∃ b, b₀ :: rest = [b] ∧ pciType b = 1) ↔ rest = [] ∧ pciType b₀ = 1 := by
  constructor
  · rintro (hnil | ⟨b, hb, hfirst⟩)
    · cases hnil
    · cases hb
      exact ⟨rfl, hfirst⟩
  · rintro ⟨rfl, hfirst⟩
    exact Or.inr ⟨b₀, rfl, hfirst⟩

theorem splits_recvIsotp (polls : Nat) :
    (recvIsotp ecuId (polls + 1)).act.Splits (fun code => (Doing.receiving code).Sound ecuId)
      (fun code => code = .ret (.error .indexError))
      (fun f => msgData f = [] ∨ ∃ b, msgData f = [b] ∧ pciType b = 1) := by
  rw [recvIsotp]
  intro f _
  dsimp only
  generalize msgData f = data
  cases data with
  | nil => exact ⟨fun hf => absurd (Or.inl rfl) hf, fun _ => rfl⟩
  | cons b₀ rest =>
      rw [fatal_cons_iff]
      dsimp only
      by_cases hsingle : pciType b₀ = 0
      · rw [if_pos hsingle, hsingle]
        exact ⟨fun _ => .receiving (.ret _), fun hf => absurd hf.2 (by decide)⟩
      · rw [if_neg hsingle]
        by_cases hfirst : pciType b₀ = 1
        · rw [if_pos hfirst]
          cases rest with
          | nil => exact ⟨fun hf => absurd ⟨rfl, hfirst⟩ hf, fun _ => rfl⟩
          | cons b₁ rest =>
              have hrest := onlyEmpty_recvConsecutive ecuId
                (((b₀.toNat &&& 0x0F) <<< 8) ||| b₁.toNat) polls 1 (rest.take 6)
              exact ⟨fun _ => .receiving (.send hrest),
                fun hf => absurd hf.1 (List.cons_ne_nil _ _)⟩
        · rw [if_neg hfirst]
          exact ⟨fun _ => .listening polls, fun hf => absurd hf.2 hfirst⟩

theorem splits_doing (ecuId : Nat) {α : Type} {code : EcuCode α} (h : OnlyEmpty code)
    {ecu : EcuState} (hdtcs : ecu.dtcs.length < 65536) (dispatched : Nat) {wrap : EcuCode α → Doing}
    (hsound : ∀ code, OnlyEmpty code → (wrap code).Sound ecuId)
    (hcrashed : ∀ e, EcuSimulator.crashed ⟨ecu, dispatched, wrap (.ret (.error e))⟩ = true) :
    (code.act.map fun code => EcuSimulator.mk ecu dispatched (wrap code)).Splits (Alive ecuId)
      (fun sim => sim.crashed = true) (fun f => msgData f = []) := by
  apply h.splits.map
  · exact fun code hcode => ⟨hdtcs, hsound code hcode⟩
  · intro code hcode
    rw [hcode]
    exact hcrashed _

theorem fatal_of_listening (h : sim.Listening ecuId) : Fatal ecuId sim =
    fun f => msgData f = [] ∨ ∃ b, msgData f = [b] ∧ pciType b = 1 := by
  funext f
  unfold Fatal
  rw [eq_true h, true_and]

theorem fatal_of_not_listening (h : ¬sim.Listening ecuId) :
    Fatal ecuId sim = fun f => msgData f = [] := by
  funext f
  unfold Fatal
  rw [eq_false h, false_and, or_false]

theorem act_of_listening (hdtcs : sim.ecu.dtcs.length < 65536) (h : sim.Listening ecuId)
    (polls : Nat) :
    (sim.actPy env ecuId polls).Splits (Alive ecuId) (fun sim => sim.crashed = true)
      (Fatal ecuId sim) := by
  rw [fatal_of_listening h]
  obtain ⟨ecu, dispatched, place⟩ := sim
  obtain ⟨left, hdoing⟩ := h
  change place = .receiving (recvIsotp ecuId (left + 1)) at hdoing
  subst hdoing
  change (Act.map (fun code => EcuSimulator.mk ecu dispatched (.receiving code))
    (recvIsotp ecuId (left + 1)).act).Splits _ _ _
  apply (splits_recvIsotp left).map
  · exact fun code hcode => ⟨hdtcs, hcode⟩
  · intro code hcode
    rw [hcode]
    rfl

theorem Alive.act (h : Alive ecuId sim) (polls : Nat) :
    (sim.actPy env ecuId polls).Splits (Alive ecuId) (fun sim => sim.crashed = true)
      (Fatal ecuId sim) := by
  by_cases hlistening : sim.Listening ecuId
  · exact act_of_listening h.dtcs hlistening polls
  · rw [fatal_of_not_listening hlistening]
    obtain ⟨ecu, dispatched, place⟩ := sim
    have hdtcs : ecu.dtcs.length < 65536 := h.dtcs
    cases h.doing with
    | listening left =>
        cases left with
        | zero => exact ⟨hdtcs, .listening polls⟩
        | succ left => exact absurd ⟨left, rfl⟩ hlistening
    | receiving hcode =>
        have hnext := splits_doing ecuId hcode hdtcs dispatched (fun _ => .receiving) fun _ => rfl
        cases hcode with
        | ret pdu =>
            cases pdu with
            | none => exact ⟨hdtcs, .listening polls⟩
            | some pdu =>
                change Alive ecuId (EcuSimulator.handle _ ecuId _ pdu)
                rw [handle_eq hdtcs]
                exact alive_onRequest hdtcs pdu
        | send => exact hnext
        | recv => exact hnext
    | responding hcode =>
        have hnext := splits_doing ecuId hcode hdtcs dispatched (fun _ => .responding) fun _ => rfl
        cases hcode with
        | ret => exact ⟨hdtcs, .listening polls⟩
        | send => exact hnext
        | recv => exact hnext

theorem Alive.expire (h : Alive ecuId sim) : Alive ecuId sim.expire := by
  obtain ⟨ecu, dispatched, doing⟩ := sim
  have hdtcs : ecu.dtcs.length < 65536 := h.dtcs
  cases h.doing with
  | listening polls =>
      cases polls with
      | zero => exact ⟨hdtcs, .listening 0⟩
      | succ polls => exact ⟨hdtcs, .listening polls⟩
  | receiving hcode => exact ⟨hdtcs, .receiving hcode.expire⟩
  | responding hcode => exact ⟨hdtcs, .responding hcode.expire⟩

theorem crashed_iff : sim.crashed = true ↔
    (∃ e, sim.doing = .receiving (.ret (.error e))) ∨
      ∃ e, sim.doing = .responding (.ret (.error e)) := by
  unfold EcuSimulator.crashed
  constructor
  · split
    · exact fun _ => Or.inl ⟨_, by assumption⟩
    · exact fun _ => Or.inr ⟨_, by assumption⟩
    · exact fun h => absurd h Bool.false_ne_true
  · rintro (⟨e, he⟩ | ⟨e, he⟩)
    · rw [he]
    · rw [he]

theorem mortal_thread (env : Surroundings) (ecuId : Nat) :
    (thread env ecuId).Mortal (Alive ecuId) (fun sim => sim.crashed = true) (Fatal ecuId) where
  disjoint := fun h => h.not_crashed
  act := fun polls _ h => h.act polls
  expire := fun h => h.expire
  halts := by
    intro polls sim h
    obtain ⟨ecu, dispatched, doing⟩ := sim
    rcases crashed_iff.mp h with ⟨e, he⟩ | ⟨e, he⟩
    · cases he
      rfl
    · cases he
      rfl
  stays := by
    intro sim h
    obtain ⟨ecu, dispatched, doing⟩ := sim
    rcases crashed_iff.mp h with ⟨e, he⟩ | ⟨e, he⟩
    · cases he
      rfl
    · cases he
      rfl

theorem alive_boot (env : Surroundings) (ecuId : Nat) (monotonic : Rat) :
    Alive ecuId (boot env ecuId monotonic).state :=
  ⟨Nat.lt_of_sub_eq_succ rfl, .listening env.polls⟩

end Alive

end Uds.PyEcu
