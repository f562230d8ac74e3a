import Uds.Base.History
import Uds.Ecusim.Runs
/-!
# Lockout

The third failed key starts a lockout of 300 seconds in which no seed is to be
issued, whatever else is requested.  Every service keeps to that but one: an
accepted reset zeroes the security state, lockout included.  So the policy
holds in the runs that never reset the ECU while a lockout is active.
-/

namespace Uds.Ecusim

open Uds.Base Uds.Core

/-- No reading of the clock is earlier than one before it. -/
def MonotonicClock (inputs : List Input) : Prop :=
  (∀ a ∈ inputs, ∀ i j, i ≤ j → a.env.clock i ≤ a.env.clock j) ∧
    inputs.Pairwise fun a b => ∀ i j, a.env.clock i ≤ b.env.clock j

theorem MonotonicClock.before {xs ys : List Input} {a b : Input}
    (h : MonotonicClock (xs ++ ys)) (ha : a ∈ xs) (hb : b ∈ ys) (i j : Nat) :
    a.env.clock i ≤ b.env.clock j :=
  (List.pairwise_append.mp h.2).2.2 a ha b hb i j

theorem monotonicClock_schedule {requests : List (Int × List UInt8)}
    (h : (requests.map Prod.fst).Pairwise (· ≤ ·)) : MonotonicClock (schedule requests) := by
  have hle : ∀ {s t : Int}, s ≤ t → (⟨s, 0⟩ : Timespec) ≤ ⟨t, 0⟩ := by
    intro s t hst
    rcases Int.lt_or_eq_of_le hst with hlt | heq
    · exact Or.inl hlt
    · exact Or.inr ⟨heq, Int.le_refl 0⟩
  constructor
  · intro a ha i j _
    obtain ⟨r, -, rfl⟩ := List.mem_map.mp ha
    exact hle (Int.le_refl r.1)
  · apply List.Pairwise.map _ _ (List.pairwise_map.mp h)
    intro r r' hr i j
    exact hle hr

/-- A key answered with NRC 0x36 without having been refused by the lockout
check: the failed attempt that starts a lockout. -/
def LocksOut (x : EcuTurn) : Prop :=
  Requests .securityAccess x ∧ subFn x &&& 0x01 = 0 ∧ x.output = [0x7F, 0x27, 0x36] ∧
    (checkLocked x.pre.security (x.input.env.clock 0)).2 = false

/-- A request for a seed. -/
def RequestsSeed (x : EcuTurn) : Prop := Requests .securityAccess x ∧ subFn x &&& 0x01 ≠ 0

/-- NRC 0x36, and no new seed. -/
def RefusesSeed (x : EcuTurn) : Prop :=
  x.output = [0x7F, 0x27, 0x36] ∧ (ecusimStep x.pre x.input).1.security = x.pre.security

/-- Every request for a seed within 300 seconds of a lockout is refused. -/
def LockoutPolicy (history : List EcuTurn) : Prop :=
  history.Pairwise fun x y => LocksOut x → RequestsSeed y →
    (y.input.env.clock 0).sec < (x.input.env.clock 2).sec + udsCoreLockoutSecs → RefusesSeed y

/-- A reset that is accepted while a lockout is active. -/
def ResetsLocked (x : EcuTurn) : Prop :=
  Positive .ecuReset x ∧ x.pre.security.LockedAt (x.input.env.clock 0)

instance (x : EcuTurn) : Decidable (LocksOut x) := inferInstanceAs (Decidable (_ ∧ _ ∧ _ ∧ _))

instance (x : EcuTurn) : Decidable (RequestsSeed x) := inferInstanceAs (Decidable (_ ∧ _))

instance (x : EcuTurn) : Decidable (RefusesSeed x) := inferInstanceAs (Decidable (_ ∧ _))

instance (history : List EcuTurn) : Decidable (LockoutPolicy history) :=
  inferInstanceAs (Decidable (List.Pairwise _ _))

instance (x : EcuTurn) : Decidable (ResetsLocked x) :=
  inferInstanceAs (Decidable (_ ∧ _ ∧ _))

/-! ## One turn -/

theorem length_of_subFn_ne {req : List UInt8} (h : req.getD 1 0 &&& 0x01 ≠ 0) :
    2 ≤ req.length := by
  by_contra hshort
  have hzero : req.getD 1 0 = 0 := by
    rw [List.getD_eq_getElem?_getD, List.getElem?_eq_none (by omega)]
    rfl
  rw [hzero] at h
  exact h rfl

theorem security_of_lockedAt {sim : EcuSimulator} {i : Input}
    (h : sim.security.LockedAt (i.env.clock 0)) (hC : ¬ResetsLocked (turn ecusimStep sim i)) :
    (ecusimStep sim i).1.security = sim.security := by
  rcases security_of_turn sim i with ⟨hsec, -⟩ | ⟨hpos, -⟩ | ⟨-, hsec⟩ | ⟨-, hsec, -⟩
  · exact hsec
  · exact absurd ⟨hpos, h⟩ hC
  · rw [hsec, requestSeed_of_lockedAt h]
  · rw [hsec, sendKey_of_lockedAt h]

theorem refusesSeed_of_lockedAt {sim : EcuSimulator} {i : Input}
    (h : sim.security.LockedAt (i.env.clock 0)) (hreq : RequestsSeed (turn ecusimStep sim i)) :
    RefusesSeed (turn ecusimStep sim i) := by
  obtain ⟨hhead, hodd⟩ := hreq
  change i.req.head? = some Service.securityAccess.sid at hhead
  change i.req.getD 1 0 &&& 0x01 ≠ 0 at hodd
  have hserve := serve_requestSeed sim i.env i.req ecusimMaxPdu (length_of_subFn_ne hodd) hodd
  rw [requestSeed_refused h hodd (by decide)] at hserve
  have hstep := ecusimStep_of_head sim hhead
  rw [hserve] at hstep
  constructor
  · exact congrArg Prod.snd hstep
  · exact congrArg (fun out => out.1.security) hstep

theorem locked_of_locksOut {sim : EcuSimulator} {i : Input}
    (h : LocksOut (turn ecusimStep sim i)) :
    (ecusimStep sim i).1.security.locked = true ∧
      (ecusimStep sim i).1.security.lockedTs = i.env.clock 2 := by
  obtain ⟨hhead, heven, hout, hcheck⟩ := h
  change i.req.head? = some Service.securityAccess.sid at hhead
  change i.req.getD 1 0 &&& 0x01 = 0 at heven
  change (ecusimStep sim i).2 = _ at hout
  have hstep := ecusimStep_of_head sim hhead
  rw [hstep] at hout ⊢
  by_cases hshort : i.req.length < 2 + udsCoreSeedLen
  · rw [serve_securityAccess_short sim i.env i.req ecusimMaxPdu (Or.inr ⟨heven, hshort⟩)] at hout
    have hbad : reply 0x27 badLength ≠ [0x7F, 0x27, 0x36] := by decide
    exact absurd hout hbad
  · obtain ⟨hsec, hresp⟩ := serve_sendKey sim i.env i.req ecusimMaxPdu (by omega) heven
    rw [hsec]
    apply sendKey_locks hcheck
    rw [hresp] at hout
    apply error_of_reply hout
    intro resp hok
    rw [sendKey_ok _ _ _ _ _ hok]
    simp

/-! ## Runs -/

/-- After a lockout that started at second `t`: it is still active, or the clock
has reached its end. -/
def LockedSince (t : Int) (past : List EcuTurn) (sim : EcuSimulator) : Prop :=
  (sim.security.locked = true ∧ sim.security.lockedTs.sec = t) ∨
    ∃ x ∈ past, t + udsCoreLockoutSecs ≤ (x.input.env.clock 0).sec

theorem LockedSince.step {t : Int} {past : List EcuTurn} {sim : EcuSimulator} {i : Input}
    (h : LockedSince t past sim) (hC : ¬ResetsLocked (turn ecusimStep sim i)) :
    LockedSince t (past ++ [turn ecusimStep sim i]) (ecusimStep sim i).1 := by
  rcases h with ⟨hlocked, ht⟩ | ⟨x, hx, hend⟩
  · by_cases hnow : (i.env.clock 0).sec < t + udsCoreLockoutSecs
    · rw [← ht] at hnow
      rw [LockedSince, security_of_lockedAt ⟨hlocked, hnow⟩ hC]
      exact Or.inl ⟨hlocked, ht⟩
    · exact Or.inr ⟨turn ecusimStep sim i, by simp, Int.not_lt.mp hnow⟩
  · exact Or.inr ⟨x, List.mem_append_left _ hx, hend⟩

/-- The policy holds in every run that never resets the ECU while a lockout is
active. -/
theorem lockoutPolicy_of_runs (ecuId : UInt8) (now : Timespec) (inputs : List Input)
    (hclock : MonotonicClock inputs)
    (hC : ∀ x ∈ turnsFrom ecusimStep (ecusimInit ecuId now) inputs, ¬ResetsLocked x) :
    LockoutPolicy (turnsFrom ecusimStep (ecusimInit ecuId now) inputs) := by
  apply pairwise_of_splits
  intro h x h₁ y h₂ hsplit hlocks hseed hnow
  -- the run: `before`, the lockout `i`, then `mid` and the request `j`
  obtain ⟨before, i, after, hinputs, -, rfl, hafter⟩ := turnsFrom_eq_append_cons ecusimStep hsplit
  obtain ⟨mid, j, rest, hrest, rfl, rfl, -⟩ := turnsFrom_eq_append_cons ecusimStep hafter.symm
  generalize hsim : runFrom ecusimStep (ecusimInit ecuId now) before = sim at *
  have hstart := locked_of_locksOut hlocks
  have hmid : LockedSince (i.env.clock 2).sec (turnsFrom ecusimStep (ecusimStep sim i).1 mid)
      (runFrom ecusimStep (ecusimStep sim i).1 mid) := by
    refine run_invariant ecusimStep (C := fun x => ¬ResetsLocked x)
      (LockedSince (i.env.clock 2).sec) ?_ (fun past sim i hI hC => hI.step hC) mid ?_
    · exact Or.inl ⟨hstart.1, by rw [hstart.2]⟩
    · intro z hz
      apply hC
      rw [hsplit]
      simp [hz]
  apply refusesSeed_of_lockedAt _ hseed
  rcases hmid with ⟨hlocked, ht⟩ | ⟨z, hz, hend⟩
  · exact ⟨hlocked, by rw [ht]; exact hnow⟩
  · -- the clock has not yet reached the end of the lockout, so no turn before has
    have hz := input_mem_of_turn ecusimStep hz
    have hparts : inputs = (before ++ i :: mid) ++ j :: rest := by
      rw [hinputs, hrest]
      simp
    rw [hparts] at hclock
    have hle := Timespec.sec_le (hclock.before (a := z.input) (b := j) (by simp [hz]) (by simp) 0 0)
    exact absurd hnow (Int.not_lt.mpr (Int.le_trans hend hle))

/-- Three wrong keys in a row. -/
def failThrice : List (Int × List UInt8) :=
  [(5, [0x27, 0x01]), (5, [0x27, 0x02, 0, 0, 0, 0]), (6, [0x27, 0x01]),
    (6, [0x27, 0x02, 0, 0, 0, 0]), (7, [0x27, 0x01]), (7, [0x27, 0x02, 0, 0, 0, 0])]

theorem lockoutPolicy_of_failThrice :
    LockoutPolicy (turnsFrom ecusimStep (ecusimInit 1 .zero)
      (schedule (failThrice ++ [(306, [0x27, 0x01])]))) :=
  lockoutPolicy_of_runs 1 .zero _ (monotonicClock_schedule (by decide)) (by decide)

/-- A soft reset in the second of the lockout, and a new seed is issued. -/
theorem lockoutPolicy_fails :
    MonotonicClock (schedule (failThrice ++ [(7, [0x11, 0x03]), (8, [0x27, 0x01])])) ∧
      ¬LockoutPolicy (turnsFrom ecusimStep (ecusimInit 1 .zero)
        (schedule (failThrice ++ [(7, [0x11, 0x03]), (8, [0x27, 0x01])]))) := by
  constructor
  · exact monotonicClock_schedule (by decide)
  · decide

end Uds.Ecusim
