import Uds.Core.Unlocking
import Uds.Ecusim.Lockout
/-!
# Session expiry

A request that comes too long after the last Diagnostic Session Control or
Tester Present should find the default session and nothing unlocked.  Neither
`ecusim_run` nor the dispatcher consults `uds_core_session_expired`, so the
session and the unlocked level stay as the requests left them, however late the
next request is.
-/

namespace Uds.Ecusim

open Uds.Base Uds.Core

/-! ## Requests -/

/-- A 0x10 request for a session that exists. -/
def ChangesSession (x : EcuTurn) : Prop :=
  Requests .diagnosticSessionControl x ∧ 2 ≤ x.input.req.length ∧
    (UdsSessionType.ofCode (subFn x)).isSome = true

/-- A 0x3E request with sub-function 0x00, with or without a response. -/
def KeepsAlive (x : EcuTurn) : Prop :=
  Requests .testerPresent x ∧ 2 ≤ x.input.req.length ∧ subFn x &&& 0x7F = 0

/-- A 0x11 request for a reset that exists. -/
def Resets (x : EcuTurn) : Prop :=
  Requests .ecuReset x ∧ 2 ≤ x.input.req.length ∧ 0x01 ≤ subFn x ∧ subFn x ≤ 0x03

/-- A 0x27 request with the right key for the pending seed. -/
def SendsKey (x : EcuTurn) : Prop :=
  Requests .securityAccess x ∧
    ComparesKey x.pre.security (subFn x) (x.input.req.drop 2) ecusimMaxPdu x.input.env.clock ∧
      x.input.req.drop 2 = seedXorMask x.pre.security.seed

/-- The two kinds of request that restart the S3 timer. -/
def Refreshes (x : EcuTurn) : Prop := ChangesSession x ∨ KeepsAlive x

def EntersSession (x : EcuTurn) : Prop := ChangesSession x ∧ subFn x ≠ 0x01

def LeavesSession (x : EcuTurn) : Prop := (ChangesSession x ∧ subFn x = 0x01) ∨ Resets x

instance (x : EcuTurn) : Decidable (ChangesSession x) := inferInstanceAs (Decidable (_ ∧ _ ∧ _))

instance (x : EcuTurn) : Decidable (KeepsAlive x) := inferInstanceAs (Decidable (_ ∧ _ ∧ _))

instance (x : EcuTurn) : Decidable (Refreshes x) := inferInstanceAs (Decidable (_ ∨ _))

/-! ## The policy -/

/-- A reading of the clock in nanoseconds. -/
def nanoseconds (t : Timespec) : Int := t.sec * 1000000000 + t.nsec

/-- More than `s3_ms` and one millisecond lie between the two readings. -/
def TimedOut (s3Ms : UInt32) (last now : Timespec) : Prop :=
  (s3Ms.toNat + 1) * 1000000 < nanoseconds now - nanoseconds last

instance (s3Ms : UInt32) (last now : Timespec) : Decidable (TimedOut s3Ms last now) :=
  inferInstanceAs (Decidable (_ < _))

/-- The request of `x` comes too long after the last turn of `h` that restarted
the timer. -/
def Late (h : List EcuTurn) (x : EcuTurn) : Prop :=
  Since (fun y => Refreshes y ∧
    TimedOut x.pre.session.cfg.s3Ms (y.input.env.clock 0) (x.input.env.clock 0)) Refreshes h

instance (h : List EcuTurn) (x : EcuTurn) : Decidable (Late h x) :=
  inferInstanceAs (Decidable (Since _ _ _))

/-- No level is unlocked, in either record of it. -/
def NothingUnlocked (sim : EcuSimulator) : Prop :=
  sim.session.securityLevel = 0 ∧ ∀ level, udsCoreSecIsUnlocked sim.security level = false

/-- Late requests are handled in the default session with nothing unlocked. -/
def ExpiryPolicy (history : List EcuTurn) : Prop :=
  ∀ h x h', history = h ++ x :: h' → Late h x →
    x.pre.session.type = .default ∧ NothingUnlocked x.pre

/-! ## Services -/

section Services

variable (sim : EcuSimulator) (env : Env) (req : List UInt8)

theorem serve_changesSession {type : UdsSessionType} (hlen : 2 ≤ req.length)
    (htype : UdsSessionType.ofCode (req.getD 1 0) = some type) :
    (serve sim env req ecusimMaxPdu .diagnosticSessionControl).1 =
      { sim with
        session := { sim.session with
          type := type
          securityLevel := if req.getD 1 0 = 0x01 then 0 else sim.session.securityLevel
          lastActivity := env.clock 0 } } := by
  simp only [serve, udsCoreDsc, htype]
  rw [if_neg (by omega), if_neg (by decide)]
  rfl

theorem serve_dsc_refused
    (h : ¬(2 ≤ req.length ∧ (UdsSessionType.ofCode (req.getD 1 0)).isSome = true)) :
    (serve sim env req ecusimMaxPdu .diagnosticSessionControl).1 = sim := by
  simp only [serve, udsCoreDsc]
  split
  · rfl
  · cases htype : UdsSessionType.ofCode (req.getD 1 0) with
    | none => rfl
    | some type => exact absurd ⟨by omega, by rw [htype]; rfl⟩ h

theorem serve_keepsAlive (hlen : 2 ≤ req.length) (hsub : req.getD 1 0 &&& 0x7F = 0) :
    (serve sim env req ecusimMaxPdu .testerPresent).1 =
      { sim with session := { sim.session with lastActivity := env.clock 0 } } := by
  simp only [serve, udsCoreTesterPresent]
  rw [if_neg (by omega), if_neg (fun hne => hne hsub)]
  split
  · rfl
  · rw [if_neg (by decide)]

theorem serve_testerPresent_refused (h : ¬(2 ≤ req.length ∧ req.getD 1 0 &&& 0x7F = 0)) :
    (serve sim env req ecusimMaxPdu .testerPresent).1 = sim := by
  simp only [serve, udsCoreTesterPresent]
  split
  · rfl
  · rw [if_pos (fun hsub => h ⟨by omega, hsub⟩)]

theorem serve_resets (hlen : 2 ≤ req.length) (hlo : 0x01 ≤ req.getD 1 0)
    (hhi : req.getD 1 0 ≤ 0x03) :
    (serve sim env req ecusimMaxPdu .ecuReset).1 =
      { sim with
        session := udsCoreSessionInit sim.ecuId none (env.clock 0)
        security := udsCoreSecurityInit } := by
  have hkind : ¬(req.getD 1 0 < 0x01 ∨ req.getD 1 0 > 0x03) := by
    rintro (hlt | hgt)
    · exact UInt8.not_lt.mpr hlo hlt
    · exact UInt8.not_lt.mpr hhi hgt
  simp only [serve, udsSvcEcuReset]
  rw [if_neg (by omega), if_neg hkind, if_neg (by decide)]

theorem serve_ecuReset_refused
    (h : ¬(2 ≤ req.length ∧ 0x01 ≤ req.getD 1 0 ∧ req.getD 1 0 ≤ 0x03)) :
    (serve sim env req ecusimMaxPdu .ecuReset).1 = sim := by
  simp only [serve, udsSvcEcuReset]
  split
  · rfl
  · rw [if_pos]
    by_contra hkind
    rw [not_or] at hkind
    exact h ⟨by omega, UInt8.not_lt.mp hkind.1, UInt8.not_lt.mp hkind.2⟩

theorem serve_acceptsKey
    (hcompares : ComparesKey sim.security (req.getD 1 0) (req.drop 2) ecusimMaxPdu env.clock)
    (hkey : req.drop 2 = seedXorMask sim.security.seed) :
    (serve sim env req ecusimMaxPdu .securityAccess).1.session =
        { sim.session with securityLevel := req.getD 1 0 - 1 } ∧
      (serve sim env req ecusimMaxPdu .securityAccess).1.security.unlockedLevel =
        req.getD 1 0 - 1 := by
  have hlen : req.length = 2 + udsCoreSeedLen := by
    have hdrop := hcompares.2.2.2.2.2.2
    rw [List.length_drop] at hdrop
    unfold udsCoreSeedLen at hdrop ⊢
    omega
  have heven : req.getD 1 0 &&& 0x01 = 0 := by
    by_contra hodd
    exact hcompares.1 (Or.inr hodd)
  rcases sendKey_pending sim.security (req.getD 1 0) (req.drop 2) ecusimMaxPdu env.clock with
    ⟨-, -, ⟨-, hlevel, hok⟩ | ⟨hwrong, -⟩⟩ | ⟨hnot, -⟩
  · simp only [serve]
    rw [if_neg (by omega), if_neg (fun hodd => hodd heven), if_neg (by omega), hok]
    exact ⟨by rw [hlevel], hlevel⟩
  · exact absurd hkey hwrong
  · exact absurd hcompares hnot

theorem serve_securityAccess_locked
    (h : ¬(ComparesKey sim.security (req.getD 1 0) (req.drop 2) ecusimMaxPdu env.clock ∧
      req.drop 2 = seedXorMask sim.security.seed)) :
    (serve sim env req ecusimMaxPdu .securityAccess).1.session = sim.session ∧
      (serve sim env req ecusimMaxPdu .securityAccess).1.security.unlockedLevel =
        sim.security.unlockedLevel := by
  by_cases hshort : req.length < 2 ∨
      (req.getD 1 0 &&& 0x01 = 0 ∧ req.length < 2 + udsCoreSeedLen)
  · rw [serve_securityAccess_short sim env req ecusimMaxPdu hshort]
    exact ⟨rfl, rfl⟩
  · rw [not_or] at hshort
    by_cases heven : req.getD 1 0 &&& 0x01 = 0
    · have hlen : 2 + udsCoreSeedLen ≤ req.length := by
        by_contra hlt
        exact hshort.2 ⟨heven, by omega⟩
      rcases sendKey_pending sim.security (req.getD 1 0) (req.drop 2) ecusimMaxPdu env.clock with
        ⟨hcompares, -, ⟨hkey, -⟩ | ⟨-, hlevel, e, herr⟩⟩ | ⟨-, -, hlevel, e, herr⟩
      · exact absurd ⟨hcompares, hkey⟩ h
      all_goals
        simp only [serve]
        rw [if_neg (by omega), if_neg (fun hodd => hodd heven), if_neg (by omega), herr]
        exact ⟨rfl, hlevel⟩
    · rw [serve_requestSeed sim env req ecusimMaxPdu (by omega) heven]
      exact ⟨rfl, requestSeed_unlockedLevel ..⟩

theorem serve_session {svc : Service} (h10 : svc ≠ .diagnosticSessionControl)
    (h3e : svc ≠ .testerPresent) (h27 : svc ≠ .securityAccess) (h11 : svc ≠ .ecuReset) :
    (serve sim env req ecusimMaxPdu svc).1.session = sim.session := by
  cases svc with
  | diagnosticSessionControl => contradiction
  | testerPresent => contradiction
  | securityAccess => contradiction
  | ecuReset => contradiction
  | requestTransferExit => rfl
  | _ => simp only [serve]; split <;> first | rfl | split <;> rfl

end Services

/-! ## One turn -/

/-- What a turn does to the session and to the unlocked level. -/
inductive SessionStep (x : EcuTurn) (sim' : EcuSimulator) : Prop
  | changed (h : ChangesSession x) (type : UdsSessionType)
      (code : UdsSessionType.ofCode (subFn x) = some type)
      (session : sim'.session =
        { x.pre.session with
          type := type
          securityLevel := if subFn x = 0x01 then 0 else x.pre.session.securityLevel
          lastActivity := x.input.env.clock 0 })
      (level : sim'.security.unlockedLevel = x.pre.security.unlockedLevel)
  | alive (h : KeepsAlive x)
      (session : sim'.session = { x.pre.session with lastActivity := x.input.env.clock 0 })
      (level : sim'.security.unlockedLevel = x.pre.security.unlockedLevel)
  | reset (h : Resets x)
      (session : sim'.session = udsCoreSessionInit x.pre.ecuId none (x.input.env.clock 0))
      (level : sim'.security.unlockedLevel = 0)
  | unlocked (h : SendsKey x)
      (session : sim'.session = { x.pre.session with securityLevel := subFn x - 1 })
      (level : sim'.security.unlockedLevel = subFn x - 1)
  | kept (hchanges : ¬ChangesSession x) (halive : ¬KeepsAlive x) (hreset : ¬Resets x)
      (hkey : ¬SendsKey x) (session : sim'.session = x.pre.session)
      (level : sim'.security.unlockedLevel = x.pre.security.unlockedLevel)

theorem Requests.eq {svc svc' : Service} {x : EcuTurn} (h : Requests svc x)
    (h' : Requests svc' x) : svc = svc' :=
  sid_injective (Option.some.inj (h.symm.trans h'))

theorem Requests.not_other {svc svc' : Service} {x : EcuTurn} {p : Prop} (h : Requests svc x)
    (hne : svc ≠ svc') : ¬(Requests svc' x ∧ p) := fun hother => hne (h.eq hother.1)

section Turn

variable (sim : EcuSimulator) (i : Input)

theorem state_of_requests {svc : Service} (h : Requests svc (turn ecusimStep sim i)) :
    (ecusimStep sim i).1 = (serve sim i.env i.req ecusimMaxPdu svc).1 :=
  congrArg Prod.fst (ecusimStep_of_head sim h)

theorem sessionStep_dsc (h : Requests .diagnosticSessionControl (turn ecusimStep sim i)) :
    SessionStep (turn ecusimStep sim i) (ecusimStep sim i).1 := by
  have hstep := state_of_requests sim i h
  by_cases hchanges : ChangesSession (turn ecusimStep sim i)
  · obtain ⟨type, htype⟩ := Option.isSome_iff_exists.mp hchanges.2.2
    rw [serve_changesSession sim i.env i.req hchanges.2.1 htype] at hstep
    exact .changed hchanges type htype (by rw [hstep]; rfl) (by rw [hstep]; rfl)
  · rw [serve_dsc_refused sim i.env i.req fun hok => hchanges ⟨h, hok⟩] at hstep
    exact .kept hchanges (h.not_other (by decide)) (h.not_other (by decide))
      (h.not_other (by decide)) (by rw [hstep]; rfl) (by rw [hstep]; rfl)

theorem sessionStep_testerPresent (h : Requests .testerPresent (turn ecusimStep sim i)) :
    SessionStep (turn ecusimStep sim i) (ecusimStep sim i).1 := by
  have hstep := state_of_requests sim i h
  by_cases halive : KeepsAlive (turn ecusimStep sim i)
  · rw [serve_keepsAlive sim i.env i.req halive.2.1 halive.2.2] at hstep
    exact .alive halive (by rw [hstep]; rfl) (by rw [hstep]; rfl)
  · rw [serve_testerPresent_refused sim i.env i.req fun hok => halive ⟨h, hok⟩] at hstep
    exact .kept (h.not_other (by decide)) halive (h.not_other (by decide))
      (h.not_other (by decide)) (by rw [hstep]; rfl) (by rw [hstep]; rfl)

theorem sessionStep_securityAccess (h : Requests .securityAccess (turn ecusimStep sim i)) :
    SessionStep (turn ecusimStep sim i) (ecusimStep sim i).1 := by
  have hstep := state_of_requests sim i h
  by_cases hkey : SendsKey (turn ecusimStep sim i)
  · obtain ⟨hsession, hlevel⟩ := serve_acceptsKey sim i.env i.req hkey.2.1 hkey.2.2
    rw [← hstep] at hsession hlevel
    exact .unlocked hkey hsession hlevel
  · obtain ⟨hsession, hlevel⟩ := serve_securityAccess_locked sim i.env i.req
      fun hok => hkey ⟨h, hok⟩
    rw [← hstep] at hsession hlevel
    exact .kept (h.not_other (by decide)) (h.not_other (by decide)) (h.not_other (by decide))
      hkey hsession hlevel

theorem sessionStep_ecuReset (h : Requests .ecuReset (turn ecusimStep sim i)) :
    SessionStep (turn ecusimStep sim i) (ecusimStep sim i).1 := by
  have hstep := state_of_requests sim i h
  by_cases hreset : Resets (turn ecusimStep sim i)
  · rw [serve_resets sim i.env i.req hreset.2.1 hreset.2.2.1 hreset.2.2.2] at hstep
    exact .reset hreset (by rw [hstep]; rfl) (by rw [hstep]; rfl)
  · rw [serve_ecuReset_refused sim i.env i.req fun hok => hreset ⟨h, hok⟩] at hstep
    exact .kept (h.not_other (by decide)) (h.not_other (by decide)) hreset
      (h.not_other (by decide)) (by rw [hstep]; rfl) (by rw [hstep]; rfl)

theorem sessionStep_other {svc : Service} (h : Requests svc (turn ecusimStep sim i))
    (h10 : svc ≠ .diagnosticSessionControl) (h3e : svc ≠ .testerPresent)
    (h27 : svc ≠ .securityAccess) (h11 : svc ≠ .ecuReset) :
    SessionStep (turn ecusimStep sim i) (ecusimStep sim i).1 := by
  have hstep := state_of_requests sim i h
  apply SessionStep.kept (h.not_other h10) (h.not_other h3e) (h.not_other h11) (h.not_other h27)
  · rw [hstep]
    exact serve_session sim i.env i.req h10 h3e h27 h11
  · rw [hstep, serve_security sim i.env i.req ecusimMaxPdu svc h27 h11]
    rfl

theorem sessionStep_of_turn : SessionStep (turn ecusimStep sim i) (ecusimStep sim i).1 := by
  rcases ecusimStep_cases sim i with ⟨svc, hreq⟩ | ⟨hno, hsame⟩
  · cases svc with
    | diagnosticSessionControl => exact sessionStep_dsc sim i hreq
    | testerPresent => exact sessionStep_testerPresent sim i hreq
    | securityAccess => exact sessionStep_securityAccess sim i hreq
    | ecuReset => exact sessionStep_ecuReset sim i hreq
    | _ =>
        exact sessionStep_other sim i hreq (by decide) (by decide) (by decide) (by decide)
  · have hnot : ∀ {svc : Service} {p : Prop}, ¬(Requests svc (turn ecusimStep sim i) ∧ p) :=
      fun h => hno _ h.1
    exact .kept hnot hnot hnot hnot (by rw [hsame]; rfl) (by rw [hsame]; rfl)

end Turn

theorem type_eq_default_iff {b : UInt8} {type : UdsSessionType}
    (h : UdsSessionType.ofCode b = some type) : type = .default ↔ b = 0x01 := by
  constructor
  · rintro rfl
    by_contra hb
    unfold UdsSessionType.ofCode at h
    rw [if_neg hb] at h
    split_ifs at h <;> cases h
  · rintro rfl
    exact (Option.some.inj h).symm

theorem sub_one_ne_zero {b : UInt8} (heven : b &&& 0x01 = 0) : b - 1 ≠ 0 := by
  intro hzero
  have hone : b = 1 := by
    calc
      b = (b - 1) + 1 := (UInt8.sub_add_cancel ..).symm
      _ = 1 := by rw [hzero]; rfl
  rw [hone] at heven
  cases heven

theorem SendsKey.level_ne_zero {x : EcuTurn} (h : SendsKey x) : subFn x - 1 ≠ 0 := by
  apply sub_one_ne_zero
  by_contra hodd
  exact h.2.1.1 (Or.inr hodd)

/-! ## Runs -/

/-- Session and unlocked level, read off the requests so far. -/
structure ExpiryInv (h : List EcuTurn) (sim : EcuSimulator) : Prop where
  type : sim.session.type ≠ .default ↔ Since EntersSession LeavesSession h
  level : sim.security.unlockedLevel ≠ 0 ↔ Since SendsKey Resets h
  record : sim.session.securityLevel = 0 ∨
    sim.session.securityLevel = sim.security.unlockedLevel

section Step

variable {h : List EcuTurn} {x : EcuTurn} {sim' : EcuSimulator} (hinv : ExpiryInv h x.pre)
include hinv

theorem ExpiryInv.keepsType (hchanges : ¬ChangesSession x) (hreset : ¬Resets x)
    (htype : sim'.session.type = x.pre.session.type) :
    sim'.session.type ≠ .default ↔ Since EntersSession LeavesSession (h ++ [x]) := by
  rw [since_snoc, htype, hinv.type]
  simp [EntersSession, LeavesSession, hchanges, hreset]

theorem ExpiryInv.keepsLevel (hkey : ¬SendsKey x) (hreset : ¬Resets x)
    (hlevel : sim'.security.unlockedLevel = x.pre.security.unlockedLevel) :
    sim'.security.unlockedLevel ≠ 0 ↔ Since SendsKey Resets (h ++ [x]) := by
  rw [since_snoc, hlevel, hinv.level]
  simp [hkey, hreset]

theorem ExpiryInv.step (hstep : SessionStep x sim') : ExpiryInv (h ++ [x]) sim' := by
  cases hstep with
  | changed hchanges type code session level =>
      have hreset : ¬Resets x := hchanges.1.not_other (by decide)
      have hkey : ¬SendsKey x := hchanges.1.not_other (by decide)
      constructor
      · rw [since_snoc, session]
        simp only [Ne, type_eq_default_iff code, EntersSession, LeavesSession]
        by_cases hdefault : subFn x = 0x01
        · simp [hdefault, hchanges]
        · simp [hdefault, hchanges]
      · exact hinv.keepsLevel hkey hreset level
      · rw [session, level]
        by_cases hdefault : subFn x = 0x01
        · exact Or.inl (if_pos hdefault)
        · simpa [hdefault] using hinv.record
  | alive halive session level =>
      have hreset : ¬Resets x := halive.1.not_other (by decide)
      have hkey : ¬SendsKey x := halive.1.not_other (by decide)
      have hchanges : ¬ChangesSession x := halive.1.not_other (by decide)
      constructor
      · exact hinv.keepsType hchanges hreset (by rw [session])
      · exact hinv.keepsLevel hkey hreset level
      · rw [session, level]
        exact hinv.record
  | reset hreset session level =>
      have hkey : ¬SendsKey x := hreset.1.not_other (by decide)
      have hchanges : ¬ChangesSession x := hreset.1.not_other (by decide)
      constructor
      · rw [since_snoc, session]
        simp [EntersSession, LeavesSession, hchanges, hreset, udsCoreSessionInit]
      · rw [since_snoc, level]
        simp [hkey, hreset]
      · rw [session]
        exact Or.inl rfl
  | unlocked hkey session level =>
      have hreset : ¬Resets x := hkey.1.not_other (by decide)
      have hchanges : ¬ChangesSession x := hkey.1.not_other (by decide)
      constructor
      · exact hinv.keepsType hchanges hreset (by rw [session])
      · rw [since_snoc, level]
        simp [hkey, hkey.level_ne_zero]
      · rw [session, level]
        exact Or.inr rfl
  | kept hchanges halive hreset hkey session level =>
      constructor
      · exact hinv.keepsType hchanges hreset (by rw [session])
      · exact hinv.keepsLevel hkey hreset level
      · rw [session, level]
        exact hinv.record

end Step

theorem expiryInv_of_run (ecuId : UInt8) (now : Timespec) (inputs : List Input) :
    ExpiryInv (turnsFrom ecusimStep (ecusimInit ecuId now) inputs)
      (runFrom ecusimStep (ecusimInit ecuId now) inputs) := by
  apply run_invariant ecusimStep (C := fun _ => True) ExpiryInv
  · constructor
    · exact iff_of_false (fun hne => hne rfl) (not_since_nil _ _)
    · exact iff_of_false (fun hne => hne rfl) (not_since_nil _ _)
    · exact Or.inl rfl
  · intro h sim i hinv _
    exact ExpiryInv.step (x := turn ecusimStep sim i) hinv (sessionStep_of_turn sim i)
  · exact fun _ _ => trivial

theorem ExpiryInv.nothingUnlocked_iff {h : List EcuTurn} {sim : EcuSimulator}
    (hinv : ExpiryInv h sim) : NothingUnlocked sim ↔ ¬Since SendsKey Resets h := by
  rw [← hinv.level, not_not]
  constructor
  · rintro ⟨-, hnone⟩
    by_contra hlevel
    have hsome : udsCoreSecIsUnlocked sim.security sim.security.unlockedLevel = true := by
      simp [udsCoreSecIsUnlocked, hlevel]
    rw [hnone] at hsome
    cases hsome
  · intro hzero
    constructor
    · rcases hinv.record with hrecord | hrecord
      · exact hrecord
      · rw [hrecord, hzero]
    · intro level
      unfold udsCoreSecIsUnlocked
      rw [hzero]
      by_cases hlevel : level = 0
      · simp [hlevel]
      · simp [Ne.symm hlevel]

/-- A late request finds the default session and nothing unlocked in exactly the
runs that left every other session, and locked every level, by themselves. -/
theorem expiryPolicy_iff (ecuId : UInt8) (now : Timespec) (inputs : List Input) :
    ExpiryPolicy (turnsFrom ecusimStep (ecusimInit ecuId now) inputs) ↔
      ∀ h x h', turnsFrom ecusimStep (ecusimInit ecuId now) inputs = h ++ x :: h' → Late h x →
        ¬Since EntersSession LeavesSession h ∧ ¬Since SendsKey Resets h := by
  have hpre : ∀ h x h', turnsFrom ecusimStep (ecusimInit ecuId now) inputs = h ++ x :: h' →
      ((x.pre.session.type = .default ∧ NothingUnlocked x.pre) ↔
        (¬Since EntersSession LeavesSession h ∧ ¬Since SendsKey Resets h)) := by
    intro h x h' hsplit
    obtain ⟨before, i, after, -, rfl, rfl, -⟩ := turnsFrom_eq_append_cons ecusimStep hsplit
    have hinv := expiryInv_of_run ecuId now before
    apply and_congr
    · rw [← hinv.type, not_not]
      rfl
    · exact hinv.nothingUnlocked_iff
  constructor
  · intro hpolicy h x h' hsplit hlate
    exact (hpre h x h' hsplit).mp (hpolicy h x h' hsplit hlate)
  · intro hleft h x h' hsplit hlate
    exact (hpre h x h' hsplit).mpr (hleft h x h' hsplit hlate)

/-! ## What `uds_core_session_expired` would find -/

theorem sessionExpired_of_timedOut {sess : UdsCoreSession} {now : Timespec}
    (h : TimedOut sess.cfg.s3Ms sess.lastActivity now) : udsCoreSessionExpired sess now = true := by
  unfold TimedOut nanoseconds at h
  unfold udsCoreSessionExpired timespecDiffMs
  have hcut : (now.nsec - sess.lastActivity.nsec) - 1000000 <
      (now.nsec - sess.lastActivity.nsec).tdiv 1000000 * 1000000 := by
    have hmod := Int.tmod_add_tdiv_mul (now.nsec - sess.lastActivity.nsec) 1000000
    have hlt := Int.tmod_lt_of_pos (now.nsec - sess.lastActivity.nsec)
      (show (0 : Int) < 1000000 by decide)
    omega
  apply decide_eq_true
  omega

/-- `last_activity` is the time of the last request that restarted the timer,
unless a reset came after it. -/
def ActivityInv (h : List EcuTurn) (sim : EcuSimulator) : Prop :=
  ∀ t, Since (fun y => Refreshes y ∧ y.input.env.clock 0 = t)
    (fun y => Refreshes y ∨ Resets y) h → sim.session.lastActivity = t

theorem ActivityInv.step {h : List EcuTurn} {x : EcuTurn} {sim' : EcuSimulator}
    (hinv : ActivityInv h x.pre) (hstep : SessionStep x sim') : ActivityInv (h ++ [x]) sim' := by
  intro t hsince
  rw [since_snoc] at hsince
  have hold : ¬Refreshes x → x.pre.session.lastActivity = t := by
    intro hquiet
    rcases hsince with ⟨hrefreshes, -⟩ | ⟨-, hsince⟩
    · exact absurd hrefreshes hquiet
    · exact hinv t hsince
  have hnew : Refreshes x → x.input.env.clock 0 = t := by
    intro hrefreshes
    rcases hsince with ⟨-, ht⟩ | ⟨hquiet, -⟩
    · exact ht
    · exact absurd (Or.inl hrefreshes) hquiet
  cases hstep with
  | changed hchanges type code session level =>
      rw [session]
      exact hnew (Or.inl hchanges)
  | alive halive session level =>
      rw [session]
      exact hnew (Or.inr halive)
  | reset hreset session level =>
      rcases hsince with ⟨hchanges | halive, -⟩ | ⟨hquiet, -⟩
      · exact absurd hchanges (hreset.1.not_other (by decide))
      · exact absurd halive (hreset.1.not_other (by decide))
      · exact absurd (Or.inr hreset) hquiet
  | unlocked hkey session level =>
      rw [session]
      apply hold
      rintro (hchanges | halive)
      · exact absurd hchanges (hkey.1.not_other (by decide))
      · exact absurd halive (hkey.1.not_other (by decide))
  | kept hchanges halive hreset hkey session level =>
      rw [session]
      exact hold (not_or.mpr ⟨hchanges, halive⟩)

/-- Every late request that no reset has come before would be caught by it. -/
theorem sessionExpired_of_late {ecuId : UInt8} {now : Timespec} {inputs : List Input}
    {h h' : List EcuTurn} {x : EcuTurn}
    (hsplit : turnsFrom ecusimStep (ecusimInit ecuId now) inputs = h ++ x :: h')
    (hlate : Late h x) (hreset : ∀ y ∈ h, ¬Resets y) :
    udsCoreSessionExpired x.pre.session (x.input.env.clock 0) = true := by
  obtain ⟨before, i, after, -, rfl, rfl, -⟩ := turnsFrom_eq_append_cons ecusimStep hsplit
  have hinv : ActivityInv (turnsFrom ecusimStep (ecusimInit ecuId now) before)
      (runFrom ecusimStep (ecusimInit ecuId now) before) := by
    apply run_invariant ecusimStep (C := fun _ => True) ActivityInv
    · exact fun t hsince => absurd hsince (not_since_nil _ _)
    · intro h sim i hinv _
      exact ActivityInv.step (x := turn ecusimStep sim i) hinv (sessionStep_of_turn sim i)
    · exact fun _ _ => trivial
  obtain ⟨pre, y, post, hturns, ⟨hrefreshes, htimedOut⟩, hpost⟩ := hlate
  apply sessionExpired_of_timedOut
  have hactivity := hinv (y.input.env.clock 0) ⟨pre, y, post, hturns, ⟨hrefreshes, rfl⟩, ?_⟩
  · change TimedOut _ (runFrom ecusimStep (ecusimInit ecuId now) before).session.lastActivity _
    rw [hactivity]
    exact htimedOut
  · intro z hz
    apply not_or.mpr ⟨hpost z hz, hreset z _⟩
    rw [hturns]
    exact List.mem_append_right _ (List.mem_cons_of_mem _ hz)

/-- The extended session is entered, and twelve seconds later the next request
comes. -/
def enterAndWait : List Input := schedule [(0, [0x10, 0x03]), (12, [0x22, 0xF1, 0x87])]

/-- It is handled in the extended session, which has expired by the measure of
`uds_core_session_expired`. -/
theorem expiryPolicy_enterAndWait :
    MonotonicClock enterAndWait ∧
      udsCoreSessionExpired
        (runFrom ecusimStep (ecusimInit 1 .zero) (schedule [(0, [0x10, 0x03])])).session
        ⟨12, 0⟩ = true ∧
      ¬ExpiryPolicy (turnsFrom ecusimStep (ecusimInit 1 .zero) enterAndWait) := by
  refine ⟨monotonicClock_schedule (by decide), by decide, ?_⟩
  intro hpolicy
  have hlate := hpolicy [_] _ [] rfl (by decide)
  exact absurd hlate.1 (by decide)

end Uds.Ecusim
