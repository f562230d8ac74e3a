import Mathlib.Tactic.ByContra
import Mathlib.Tactic.SplitIfs
import Uds.Base.Machine
import Uds.Core.Nrc
/-!
# Routine control

Service 0x31 (`routine_control.c`) over a registry of routines.  Each routine is an automaton
that only accepted calls move: a start from every state, a stop from `RUNNING`.  Nothing in
the service finishes a routine, so it leaves `RESULT_AVAILABLE` but does not enter it.
-/

namespace Uds.Core

open Uds.Base

inductive UdsRoutineState where
  | idle
  | running
  | stopped
  | resultAvailable
  deriving DecidableEq

/-- `result` are the first `result_len` bytes of `result_data[16]`. -/
structure UdsRoutineEntry where
  routineId : UInt16
  state : UdsRoutineState
  result : List UInt8
  result_le : result.length ≤ 16
  minSession : UInt8
  requiresSecurity : Bool
  deriving DecidableEq

abbrev UdsRoutineRegistry := List UdsRoutineEntry

def routineFind (reg : UdsRoutineRegistry) (routineId : UInt16) : Option UdsRoutineEntry :=
  reg.find? fun e => e.routineId = routineId

/-- Assign `entry->state` through the pointer that `routine_find` returns. -/
def routineSetState (state : UdsRoutineState) (routineId : UInt16) :
    UdsRoutineRegistry → UdsRoutineRegistry
  | [] => []
  | e :: reg =>
    if e.routineId = routineId then { e with state := state } :: reg
    else e :: routineSetState state routineId reg

/-- The header of every positive response. -/
def routineHeader (subFn : UInt8) (routineId : UInt16) : List UInt8 :=
  [0x71, subFn, (routineId >>> 8).toUInt8, (routineId &&& 0xFF).toUInt8]

/-- The option record is not read. -/
def udsSvcRoutineControl (reg : UdsRoutineRegistry) (subFn : UInt8) (routineId : UInt16)
    (sessionType : UInt8) (securityUnlocked : Bool) (respSize : Nat) :
    UdsRoutineRegistry × Response :=
  if subFn < 0x01 ∨ subFn > 0x03 then (reg, .error (.errNrc .subFunctionNotSupported))
  else
    match routineFind reg routineId with
    | none => (reg, .error (.errNrc .requestOutOfRange))
    | some entry =>
      if sessionType < entry.minSession then (reg, .error (.errNrc .requestOutOfRange))
      else if entry.requiresSecurity && !securityUnlocked then
        (reg, .error (.errNrc .securityAccessDenied))
      else if subFn = 0x01 then
        if respSize < 4 then (reg, .error .errBuf)
        else (routineSetState .running routineId reg, .ok (routineHeader 0x01 routineId))
      else if subFn = 0x02 then
        if entry.state ≠ .running then (reg, .error (.errNrc .conditionsNotCorrect))
        else if respSize < 4 then (reg, .error .errBuf)
        else (routineSetState .stopped routineId reg, .ok (routineHeader 0x02 routineId))
      else
        if entry.state ≠ .resultAvailable then (reg, .error (.errNrc .conditionsNotCorrect))
        else if respSize < 4 + entry.result.length then (reg, .error .errBuf)
        else (reg, .ok (routineHeader 0x03 routineId ++ entry.result))

/-! ## The registry -/

section Registry

variable {reg : UdsRoutineRegistry} {id : UInt16} {entry : UdsRoutineEntry}

theorem routineFind_eq_some : routineFind reg id = some entry ↔
    ∃ before after, reg = before ++ entry :: after ∧ entry.routineId = id ∧
      ∀ e ∈ before, e.routineId ≠ id := by
  unfold routineFind
  rw [List.find?_eq_some_iff_append]
  constructor
  · rintro ⟨hid, before, after, hreg, hbefore⟩
    exact ⟨before, after, hreg, by simpa using hid, fun e he => by simpa using hbefore e he⟩
  · rintro ⟨before, after, hreg, hid, hbefore⟩
    exact ⟨by simpa using hid, before, after, hreg, fun e he => by simpa using hbefore e he⟩

theorem routineSetState_append (state : UdsRoutineState) {before after : UdsRoutineRegistry}
    (hid : entry.routineId = id) (hbefore : ∀ e ∈ before, e.routineId ≠ id) :
    routineSetState state id (before ++ entry :: after) =
      before ++ { entry with state := state } :: after := by
  induction before with
  | nil => exact if_pos hid
  | cons e before ih =>
      obtain ⟨hne, hrest⟩ := List.forall_mem_cons.mp hbefore
      rw [List.cons_append, routineSetState, if_neg hne, ih hrest]
      rfl

theorem routineFind_setState_self (state : UdsRoutineState) (h : routineFind reg id = some entry) :
    routineFind (routineSetState state id reg) id = some { entry with state := state } := by
  obtain ⟨before, after, rfl, hid, hbefore⟩ := routineFind_eq_some.mp h
  rw [routineSetState_append state hid hbefore]
  exact routineFind_eq_some.mpr ⟨before, after, rfl, hid, hbefore⟩

theorem routineFind_setState_of_ne (state : UdsRoutineState) {id' : UInt16} (hne : id' ≠ id) :
    routineFind (routineSetState state id reg) id' = routineFind reg id' := by
  induction reg with
  | nil => rfl
  | cons e reg ih =>
      unfold routineFind at ih ⊢
      unfold routineSetState
      by_cases hid : e.routineId = id
      · have hne' : e.routineId ≠ id' := by
          rw [hid]
          exact hne.symm
        rw [if_pos hid, List.find?_cons_of_neg (by simpa using hne'),
          List.find?_cons_of_neg (by simpa using hne')]
      · rw [if_neg hid]
        by_cases hid' : e.routineId = id'
        · rw [List.find?_cons_of_pos (by simpa using hid'),
            List.find?_cons_of_pos (by simpa using hid')]
        · rw [List.find?_cons_of_neg (by simpa using hid'),
            List.find?_cons_of_neg (by simpa using hid'), ih]

end Registry

/-! ## Calls -/

structure RoutineCall where
  subFn : UInt8
  routineId : UInt16
  sessionType : UInt8
  securityUnlocked : Bool
  respSize : Nat

def routineStep (reg : UdsRoutineRegistry) (call : RoutineCall) : UdsRoutineRegistry × Response :=
  udsSvcRoutineControl reg call.subFn call.routineId call.sessionType call.securityUnlocked
    call.respSize

/-- The session and the security state that the routine asks for. -/
def RoutineCall.Authorised (call : RoutineCall) (entry : UdsRoutineEntry) : Prop :=
  entry.minSession ≤ call.sessionType ∧
    (entry.requiresSecurity = true → call.securityUnlocked = true)

/-- What each accepted call requires of the entry, besides that it is authorised. -/
def RoutineCall.Ready (call : RoutineCall) (entry : UdsRoutineEntry) : Prop :=
  (call.subFn = 0x01 ∧ 4 ≤ call.respSize) ∨
    (call.subFn = 0x02 ∧ entry.state = .running ∧ 4 ≤ call.respSize) ∨
    (call.subFn = 0x03 ∧ entry.state = .resultAvailable ∧
      4 + entry.result.length ≤ call.respSize)

/-- The registry and the response of an accepted call. -/
def RoutineCall.effect (call : RoutineCall) (reg : UdsRoutineRegistry) (entry : UdsRoutineEntry) :
    UdsRoutineRegistry × Response :=
  if call.subFn = 0x01 then
    (routineSetState .running call.routineId reg, .ok (routineHeader 0x01 call.routineId))
  else if call.subFn = 0x02 then
    (routineSetState .stopped call.routineId reg, .ok (routineHeader 0x02 call.routineId))
  else (reg, .ok (routineHeader 0x03 call.routineId ++ entry.result))

section Calls

variable {reg : UdsRoutineRegistry} {call : RoutineCall}

theorem subFn_of_ready {entry : UdsRoutineEntry} (h : call.Ready entry) :
    ¬(call.subFn < 0x01 ∨ call.subFn > 0x03) := by
  rcases h with ⟨h, -⟩ | ⟨h, -⟩ | ⟨h, -⟩
  · rw [h]
    decide
  · rw [h]
    decide
  · rw [h]
    decide

theorem eq_three_of_subFn {b : UInt8} (h : ¬(b < 0x01 ∨ b > 0x03)) (h1 : b ≠ 0x01)
    (h2 : b ≠ 0x02) : b = 0x03 := by
  have hlow : ¬b.toNat < 1 := fun hlt => h (Or.inl (UInt8.lt_iff_toNat_lt.mpr hlt))
  have hhigh : ¬3 < b.toNat := fun hlt => h (Or.inr (UInt8.lt_iff_toNat_lt.mpr hlt))
  have hne1 : b.toNat ≠ 1 := fun heq => h1 (UInt8.toNat_inj.mp heq)
  have hne2 : b.toNat ≠ 2 := fun heq => h2 (UInt8.toNat_inj.mp heq)
  apply UInt8.toNat_inj.mp
  change b.toNat = 3
  omega

theorem routineStep_refused (reg : UdsRoutineRegistry) (call : RoutineCall)
    (h : ¬((¬(call.subFn < 0x01 ∨ call.subFn > 0x03)) ∧
      ∃ entry, routineFind reg call.routineId = some entry ∧ call.Authorised entry)) :
    ∃ e, routineStep reg call = (reg, .error e) := by
  unfold routineStep udsSvcRoutineControl
  by_cases hsub : call.subFn < 0x01 ∨ call.subFn > 0x03
  · exact ⟨_, if_pos hsub⟩
  · rw [if_neg hsub]
    cases hfind : routineFind reg call.routineId with
    | none => exact ⟨_, rfl⟩
    | some entry =>
        simp only
        by_cases hsession : call.sessionType < entry.minSession
        · exact ⟨_, if_pos hsession⟩
        · rw [if_neg hsession]
          by_cases hsecurity : (entry.requiresSecurity && !call.securityUnlocked) = true
          · exact ⟨_, if_pos hsecurity⟩
          · have hauth : call.Authorised entry := by
              refine ⟨UInt8.not_lt.mp hsession, fun hrequires => ?_⟩
              simpa [hrequires] using hsecurity
            exact absurd ⟨hsub, entry, hfind, hauth⟩ h

theorem routineStep_authorised {entry : UdsRoutineEntry}
    (hsub : ¬(call.subFn < 0x01 ∨ call.subFn > 0x03))
    (hfind : routineFind reg call.routineId = some entry) (hauth : call.Authorised entry) :
    (call.Ready entry ∧ routineStep reg call = call.effect reg entry) ∨
      (¬call.Ready entry ∧ ∃ e, routineStep reg call = (reg, .error e)) := by
  have hsession : ¬call.sessionType < entry.minSession := UInt8.not_lt.mpr hauth.1
  have hsecurity : ¬(entry.requiresSecurity && !call.securityUnlocked) = true := by
    intro h
    obtain ⟨hrequires, hlocked⟩ := Bool.and_eq_true_iff.mp h
    rw [hauth.2 hrequires] at hlocked
    cases hlocked
  unfold routineStep udsSvcRoutineControl RoutineCall.effect RoutineCall.Ready
  rw [if_neg hsub, hfind]
  simp only
  rw [if_neg hsession, if_neg hsecurity]
  by_cases hstart : call.subFn = 0x01
  · rw [if_pos hstart, if_pos hstart]
    by_cases hroom : call.respSize < 4
    · exact Or.inr ⟨by simp [hstart, hroom], _, if_pos hroom⟩
    · exact Or.inl ⟨Or.inl ⟨hstart, by omega⟩, if_neg hroom⟩
  · rw [if_neg hstart, if_neg hstart]
    by_cases hstop : call.subFn = 0x02
    · rw [if_pos hstop, if_pos hstop]
      by_cases hrunning : entry.state = .running
      · rw [if_neg (by simpa using hrunning)]
        by_cases hroom : call.respSize < 4
        · exact Or.inr ⟨by simp [hstop, hroom], _, if_pos hroom⟩
        · exact Or.inl ⟨Or.inr (Or.inl ⟨hstop, hrunning, by omega⟩), if_neg hroom⟩
      · exact Or.inr ⟨by simp [hstop, hrunning], _, if_pos hrunning⟩
    · rw [if_neg hstop, if_neg hstop]
      have hresults := eq_three_of_subFn hsub hstart hstop
      by_cases havailable : entry.state = .resultAvailable
      · rw [if_neg (by simpa using havailable)]
        by_cases hroom : call.respSize < 4 + entry.result.length
        · exact Or.inr ⟨by simp [hresults, hroom], _, if_pos hroom⟩
        · exact Or.inl ⟨Or.inr (Or.inr ⟨hresults, havailable, by omega⟩), if_neg hroom⟩
      · exact Or.inr ⟨by simp [hresults, havailable], _, if_pos havailable⟩

/-- The entry that accepts a call. -/
def Accepts (reg : UdsRoutineRegistry) (call : RoutineCall) (entry : UdsRoutineEntry) : Prop :=
  routineFind reg call.routineId = some entry ∧ call.Authorised entry ∧ call.Ready entry

theorem routineStep_cases (reg : UdsRoutineRegistry) (call : RoutineCall) :
    (∃ entry, Accepts reg call entry ∧ routineStep reg call = call.effect reg entry) ∨
      ((¬∃ entry, Accepts reg call entry) ∧ ∃ e, routineStep reg call = (reg, .error e)) := by
  by_cases hchecks : (¬(call.subFn < 0x01 ∨ call.subFn > 0x03)) ∧
      ∃ entry, routineFind reg call.routineId = some entry ∧ call.Authorised entry
  · obtain ⟨hsub, entry, hfind, hauth⟩ := hchecks
    rcases routineStep_authorised hsub hfind hauth with ⟨hready, hstep⟩ | ⟨hnot, hstep⟩
    · exact Or.inl ⟨entry, ⟨hfind, hauth, hready⟩, hstep⟩
    · refine Or.inr ⟨?_, hstep⟩
      rintro ⟨entry', hfind', -, hready⟩
      rw [hfind] at hfind'
      cases hfind'
      exact hnot hready
  · refine Or.inr ⟨?_, routineStep_refused reg call hchecks⟩
    rintro ⟨entry, hfind, hauth, hready⟩
    exact hchecks ⟨subFn_of_ready hready, entry, hfind, hauth⟩

theorem effect_ok (call : RoutineCall) (reg : UdsRoutineRegistry) (entry : UdsRoutineEntry) :
    ∃ resp, (call.effect reg entry).2 = .ok resp := by
  unfold RoutineCall.effect
  split_ifs
  · exact ⟨_, rfl⟩
  · exact ⟨_, rfl⟩
  · exact ⟨_, rfl⟩

theorem routineStep_ok_iff : (∃ resp, (routineStep reg call).2 = .ok resp) ↔
    ∃ entry, Accepts reg call entry := by
  rcases routineStep_cases reg call with ⟨entry, haccepts, hstep⟩ | ⟨hnot, e, hstep⟩
  · rw [hstep]
    exact iff_of_true (effect_ok call reg entry) ⟨entry, haccepts⟩
  · rw [hstep]
    exact iff_of_false nofun hnot

theorem routineStep_of_ok {resp : List UInt8} (h : (routineStep reg call).2 = .ok resp) :
    ∃ entry, Accepts reg call entry ∧ routineStep reg call = call.effect reg entry := by
  rcases routineStep_cases reg call with haccepts | ⟨-, e, hstep⟩
  · exact haccepts
  · rw [hstep] at h
    cases h

end Calls

/-! ## What one call does -/

/-- A call leaves the registry as it is, or succeeds, is authorised and changes only the state
of the first entry with the identifier. -/
def Framed (reg : UdsRoutineRegistry) (call : RoutineCall) : Prop :=
  (routineStep reg call).1 = reg ∨
    ∃ resp before entry after state, (routineStep reg call).2 = .ok resp ∧
      reg = before ++ entry :: after ∧ entry.routineId = call.routineId ∧
        (∀ e ∈ before, e.routineId ≠ call.routineId) ∧ call.Authorised entry ∧
          (routineStep reg call).1 = before ++ { entry with state := state } :: after

/-- The state of the routine that a lookup finds. -/
def stateOf (reg : UdsRoutineRegistry) (id : UInt16) : Option UdsRoutineState :=
  (routineFind reg id).map UdsRoutineEntry.state

/-- A start succeeds from every state, and the routine runs. -/
def StartMoves (reg : UdsRoutineRegistry) (call : RoutineCall) : Prop :=
  ((∃ resp, (routineStep reg call).2 = .ok resp) ↔
    ∃ entry, routineFind reg call.routineId = some entry ∧ call.Authorised entry ∧
      4 ≤ call.respSize) ∧
  ∀ resp, (routineStep reg call).2 = .ok resp →
    resp = routineHeader 0x01 call.routineId ∧
      stateOf (routineStep reg call).1 call.routineId = some .running

/-- A stop succeeds for a running routine, and stops it. -/
def StopMoves (reg : UdsRoutineRegistry) (call : RoutineCall) : Prop :=
  ((∃ resp, (routineStep reg call).2 = .ok resp) ↔
    ∃ entry, routineFind reg call.routineId = some entry ∧ call.Authorised entry ∧
      entry.state = .running ∧ 4 ≤ call.respSize) ∧
  ∀ resp, (routineStep reg call).2 = .ok resp →
    resp = routineHeader 0x02 call.routineId ∧
      stateOf (routineStep reg call).1 call.routineId = some .stopped

/-- Results are given where they are available and there is room for them, and stay. -/
def ResultsStay (reg : UdsRoutineRegistry) (call : RoutineCall) : Prop :=
  ((∃ resp, (routineStep reg call).2 = .ok resp) ↔
    ∃ entry, routineFind reg call.routineId = some entry ∧ call.Authorised entry ∧
      entry.state = .resultAvailable ∧ 4 + entry.result.length ≤ call.respSize) ∧
  (routineStep reg call).1 = reg

section Step

variable (reg : UdsRoutineRegistry) (call : RoutineCall)

theorem framed_setState {entry : UdsRoutineEntry} {state : UdsRoutineState} {resp : List UInt8}
    (haccepts : Accepts reg call entry)
    (hstep : routineStep reg call = (routineSetState state call.routineId reg, .ok resp)) :
    Framed reg call := by
  obtain ⟨hfind, hauth, -⟩ := haccepts
  obtain ⟨before, after, hreg, hid, hbefore⟩ := routineFind_eq_some.mp hfind
  refine Or.inr ⟨resp, before, entry, after, state, by rw [hstep], hreg, hid, hbefore, hauth, ?_⟩
  rw [hstep, hreg]
  exact routineSetState_append state hid hbefore

theorem framed : Framed reg call := by
  rcases routineStep_cases reg call with ⟨entry, haccepts, hstep⟩ | ⟨-, e, hstep⟩
  · unfold RoutineCall.effect at hstep
    split_ifs at hstep
    · exact framed_setState reg call haccepts hstep
    · exact framed_setState reg call haccepts hstep
    · exact Or.inl (congrArg Prod.fst hstep)
  · exact Or.inl (congrArg Prod.fst hstep)

theorem start_spec (hsub : call.subFn = 0x01) : StartMoves reg call := by
  constructor
  · rw [routineStep_ok_iff]
    simp [Accepts, RoutineCall.Ready, hsub]
  · intro resp h
    obtain ⟨entry, haccepts, hstep⟩ := routineStep_of_ok h
    rw [RoutineCall.effect, if_pos hsub] at hstep
    rw [hstep] at h ⊢
    cases h
    refine ⟨rfl, ?_⟩
    rw [stateOf, routineFind_setState_self .running haccepts.1]
    rfl

theorem stop_spec (hsub : call.subFn = 0x02) : StopMoves reg call := by
  constructor
  · rw [routineStep_ok_iff]
    simp [Accepts, RoutineCall.Ready, hsub]
  · intro resp h
    obtain ⟨entry, haccepts, hstep⟩ := routineStep_of_ok h
    rw [RoutineCall.effect, if_neg (by rw [hsub]; decide), if_pos hsub] at hstep
    rw [hstep] at h ⊢
    cases h
    refine ⟨rfl, ?_⟩
    rw [stateOf, routineFind_setState_self .stopped haccepts.1]
    rfl

theorem results_spec (hsub : call.subFn = 0x03) : ResultsStay reg call := by
  constructor
  · rw [routineStep_ok_iff]
    simp [Accepts, RoutineCall.Ready, hsub]
  · rcases routineStep_cases reg call with ⟨entry, -, hstep⟩ | ⟨-, e, hstep⟩
    · rw [RoutineCall.effect, if_neg (by rw [hsub]; decide), if_neg (by rw [hsub]; decide)] at hstep
      exact congrArg Prod.fst hstep
    · exact congrArg Prod.fst hstep

end Step

/-! ## Runs -/

abbrev RoutineTurn := Turn UdsRoutineRegistry RoutineCall Response

/-- A call of the sub-function for the routine, answered positively. -/
def Accepted (subFn : UInt8) (id : UInt16) (x : RoutineTurn) : Prop :=
  x.input.subFn = subFn ∧ x.input.routineId = id ∧ ∃ resp, x.output = .ok resp

theorem running_step {reg : UdsRoutineRegistry} {call : RoutineCall} {id : UInt16}
    (hnot : stateOf reg id ≠ some .running)
    (hstart : ¬Accepted 0x01 id (turn routineStep reg call)) :
    stateOf (routineStep reg call).1 id ≠ some .running := by
  rcases routineStep_cases reg call with ⟨entry, haccepts, hstep⟩ | ⟨-, e, hstep⟩
  · by_cases hid : call.routineId = id
    · subst hid
      by_cases hone : call.subFn = 0x01
      · exact absurd ⟨hone, rfl, by rw [turn, hstep]; exact effect_ok call reg entry⟩ hstart
      · rw [RoutineCall.effect, if_neg hone] at hstep
        rw [hstep]
        split_ifs
        · rw [stateOf, routineFind_setState_self .stopped haccepts.1]
          simp
        · exact hnot
    · have hother : stateOf (routineStep reg call).1 id = stateOf reg id := by
        rw [hstep, RoutineCall.effect]
        unfold stateOf
        split_ifs
        · rw [routineFind_setState_of_ne _ (Ne.symm hid)]
        · rw [routineFind_setState_of_ne _ (Ne.symm hid)]
        · rfl
      rwa [hother]
  · rw [hstep]
    exact hnot

/-- Between two stops of one routine there is a start of it: the first stop leaves the routine
stopped, the second finds it running, and only a start gets it there. -/
theorem start_between_stops {reg : UdsRoutineRegistry} {calls : List RoutineCall} {id : UInt16}
    {before mid after : List RoutineTurn} {x y : RoutineTurn}
    (heq : turnsFrom routineStep reg calls = before ++ x :: (mid ++ y :: after))
    (hx : Accepted 0x02 id x) (hy : Accepted 0x02 id y) : ∃ z ∈ mid, Accepted 0x01 id z := by
  obtain ⟨calls₁, call, rest, -, -, hturn, hrest⟩ := turnsFrom_eq_append_cons routineStep heq
  obtain ⟨calls₂, call', -, -, hmid, hturn', -⟩ :=
    turnsFrom_eq_append_cons routineStep hrest.symm
  subst hturn hturn' hmid
  obtain ⟨hstop, rfl, resp, hresp⟩ := hx
  obtain ⟨hstop', hid, hresp'⟩ := hy
  have hstopped := ((stop_spec _ call hstop).2 resp hresp).2
  by_contra hnone
  have hnot := run_invariant routineStep (C := fun z => ¬Accepted 0x01 call.routineId z)
    (fun _ s => stateOf s call.routineId ≠ some .running) (by rw [hstopped]; simp)
    (fun _ s c hnot hstart => running_step hnot hstart) calls₂
    fun z hz hstart => hnone ⟨z, hz, hstart⟩
  obtain ⟨entry, hfind, -, hrunning, -⟩ := (stop_spec _ call' hstop').1.mp hresp'
  apply hnot
  change (routineFind _ call.routineId).map UdsRoutineEntry.state = some .running
  have hid' : call'.routineId = call.routineId := hid
  rw [← hid', hfind, ← hrunning]
  rfl

/-- Whether the results of the routine in a place of the registry are available. -/
def ResultsAt (reg : UdsRoutineRegistry) (i : Nat) : Prop :=
  (reg[i]?).map UdsRoutineEntry.state = some .resultAvailable

theorem resultsAt_setState {state : UdsRoutineState} (hstate : state ≠ .resultAvailable)
    {id : UInt16} {reg : UdsRoutineRegistry} {i : Nat}
    (h : ResultsAt (routineSetState state id reg) i) : ResultsAt reg i := by
  induction reg generalizing i with
  | nil => exact h
  | cons e reg ih =>
      unfold ResultsAt routineSetState at h
      by_cases hid : e.routineId = id
      · rw [if_pos hid] at h
        cases i with
        | zero => exact absurd (Option.some.inj h) hstate
        | succ i => exact h
      · rw [if_neg hid] at h
        cases i with
        | zero => exact h
        | succ i => exact ih h

theorem resultsAt_step {reg : UdsRoutineRegistry} {call : RoutineCall} {i : Nat}
    (h : ResultsAt (routineStep reg call).1 i) : ResultsAt reg i := by
  rcases routineStep_cases reg call with ⟨entry, -, hstep⟩ | ⟨-, e, hstep⟩
  · rw [hstep, RoutineCall.effect] at h
    split_ifs at h
    · exact resultsAt_setState (by decide) h
    · exact resultsAt_setState (by decide) h
    · exact h
  · rwa [hstep] at h

theorem resultsAt_run {reg : UdsRoutineRegistry} {i : Nat} (calls : List RoutineCall)
    (h : ResultsAt (runFrom routineStep reg calls) i) : ResultsAt reg i := by
  induction calls generalizing reg with
  | nil => exact h
  | cons call calls ih => exact resultsAt_step (ih h)

/-- The registry as a state machine: the frame and the three sub-functions of every call, a
start between the stops of a routine in every run, and no run that finishes a routine. -/
theorem routine_automaton :
    (∀ reg call, Framed reg call) ∧
    (∀ reg call, call.subFn = 0x01 → StartMoves reg call) ∧
    (∀ reg call, call.subFn = 0x02 → StopMoves reg call) ∧
    (∀ reg call, call.subFn = 0x03 → ResultsStay reg call) ∧
    (∀ reg calls id before mid after x y,
      turnsFrom routineStep reg calls = before ++ x :: (mid ++ y :: after) →
        Accepted 0x02 id x → Accepted 0x02 id y → ∃ z ∈ mid, Accepted 0x01 id z) ∧
    ∀ reg calls i, ResultsAt (runFrom routineStep reg calls) i → ResultsAt reg i := by
  refine ⟨framed, start_spec, stop_spec, results_spec, ?_, fun reg calls i => resultsAt_run calls⟩
  intro reg calls id before mid after x y heq hx hy
  exact start_between_stops heq hx hy

/-- A response buffer of three bytes: the routine runs, and a stop does not succeed. -/
theorem stop_refused_running :
    ¬∀ (reg : UdsRoutineRegistry) (call : RoutineCall), call.subFn = 0x02 →
      ((∃ resp, (routineStep reg call).2 = .ok resp) ↔
        ∃ entry, routineFind reg call.routineId = some entry ∧ entry.state = .running) := by
  intro hclaim
  obtain ⟨resp, hresp⟩ := (hclaim [⟨0x0203, .running, [], by decide, 0x01, false⟩]
    ⟨0x02, 0x0203, 0x01, false, 3⟩ rfl).mpr
      ⟨⟨0x0203, .running, [], by decide, 0x01, false⟩, by decide, rfl⟩
  exact absurd hresp nofun

end Uds.Core
