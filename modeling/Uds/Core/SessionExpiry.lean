import Mathlib.Algebra.Ring.Int.Defs
import Uds.Core.Session
/-!
# Session expiry

How exact `uds_core_session_expired` is.  `timespec_diff_ms` adds whole seconds and a
nanosecond difference that is negative when the nanoseconds borrow, and the division of C
truncates, so the result is rounded down without a borrow and up with one.  It is never a
whole millisecond away from the elapsed time, and it never goes back.
-/

namespace Uds.Core

/-- A reading whose nanoseconds are within one second. -/
def Timespec.Valid (t : Timespec) : Prop := 0 ≤ t.nsec ∧ t.nsec ≤ 999999999

/-- The true time from `b` to `a`. -/
def elapsedNs (a b : Timespec) : Int := (a.sec - b.sec) * 1000000000 + (a.nsec - b.nsec)

/-! ## Truncating division -/

theorem tdiv_of_nonneg {n : Int} (hn : 0 ≤ n) :
    n.tdiv 1000000 * 1000000 ≤ n ∧ n < (n.tdiv 1000000 + 1) * 1000000 := by
  rw [Int.tdiv_eq_ediv_of_nonneg hn]
  omega

theorem tdiv_of_nonpos {n : Int} (hn : n ≤ 0) :
    (n.tdiv 1000000 - 1) * 1000000 < n ∧ n ≤ n.tdiv 1000000 * 1000000 := by
  have hneg := tdiv_of_nonneg (n := -n) (by omega)
  rw [Int.neg_tdiv] at hneg
  omega

theorem tdiv_bounds (n : Int) :
    (n.tdiv 1000000 - 1) * 1000000 < n ∧ n < (n.tdiv 1000000 + 1) * 1000000 := by
  rcases Int.le_total 0 n with hn | hn
  · have h := tdiv_of_nonneg hn
    omega
  · have h := tdiv_of_nonpos hn
    omega

theorem tdiv_mono {m n : Int} (h : m ≤ n) : m.tdiv 1000000 ≤ n.tdiv 1000000 := by
  rcases Int.le_total 0 m with hm | hm
  · have hlow := tdiv_of_nonneg hm
    have hhigh := tdiv_of_nonneg (Int.le_trans hm h)
    omega
  · have hlow := tdiv_of_nonpos hm
    rcases Int.le_total 0 n with hn | hn
    · have hhigh := tdiv_of_nonneg hn
      omega
    · have hhigh := tdiv_of_nonpos hn
      omega

/-! ## The difference in milliseconds -/

theorem timespecDiffMs_bounds (a b : Timespec) :
    (timespecDiffMs a b - 1) * 1000000 < elapsedNs a b ∧
      elapsedNs a b < (timespecDiffMs a b + 1) * 1000000 := by
  have hdiv := tdiv_bounds (a.nsec - b.nsec)
  unfold timespecDiffMs elapsedNs
  omega

/-- Two nanosecond differences from one reading are at most 999 whole milliseconds apart,
whichever of them borrows. -/
theorem tdiv_nsec_le {x y z : Int} (hx : x ≤ 999999999) (hy : 0 ≤ y) (hz : 0 ≤ z)
    (hz' : z ≤ 999999999) : (x - z).tdiv 1000000 ≤ 999 + (y - z).tdiv 1000000 := by
  have htop := tdiv_mono (show x - z ≤ 999999999 - z by omega)
  have hbottom := tdiv_mono (show -z ≤ y - z by omega)
  have hdown := tdiv_of_nonneg (show 0 ≤ 999999999 - z by omega)
  have hup := tdiv_of_nonpos (show -z ≤ 0 by omega)
  omega

/-- A later reading is not fewer milliseconds after `b`: where the seconds are the same the
quotient is monotone, and a new second is worth more than both roundings. -/
theorem timespecDiffMs_mono {a a' b : Timespec} (ha : a.Valid) (ha' : a'.Valid) (hb : b.Valid)
    (h : a ≤ a') : timespecDiffMs a b ≤ timespecDiffMs a' b := by
  unfold timespecDiffMs
  rcases h with hlt | ⟨hsec, hnsec⟩
  · have hrounding := tdiv_nsec_le ha.2 ha'.1 hb.1 hb.2
    omega
  · have hquotient := tdiv_mono (show a.nsec - b.nsec ≤ a'.nsec - b.nsec by omega)
    omega

theorem timespecDiffMs_self (a : Timespec) : timespecDiffMs a a = 0 := by
  unfold timespecDiffMs
  simp

/-! ## The type `long` -/

/-- The result of an operation on `long`, where it has one. -/
def long (n : Int) : Option Int := if -2 ^ 63 ≤ n ∧ n < 2 ^ 63 then some n else none

/-- `timespec_diff_ms` with the type of every step. -/
def timespecDiffMsLong (a b : Timespec) : Option Int := do
  let secDiff ← long (a.sec - b.sec)
  let nsecDiff ← long (a.nsec - b.nsec)
  let ms ← long (secDiff * 1000)
  long (ms + nsecDiff.tdiv 1000000)

/-- `uds_core_session_expired` in the arithmetic of `long`. -/
def sessionExpiredLong (sess : UdsCoreSession) (now : Timespec) : Option Bool :=
  (timespecDiffMsLong now sess.lastActivity).map fun elapsedMs =>
    elapsedMs > (sess.cfg.s3Ms.toNat : Int)

/-- The difference, and its whole seconds, are numbers of milliseconds that a `long` holds. -/
def WithinLong (a b : Timespec) : Prop :=
  (a.sec - b.sec) * 1000 < 2 ^ 63 ∧ timespecDiffMs a b < 2 ^ 63

theorem long_of_range {n : Int} (hlow : -2 ^ 63 ≤ n) (hhigh : n < 2 ^ 63) : long n = some n :=
  if_pos ⟨hlow, hhigh⟩

theorem timespecDiffMsLong_eq {a b : Timespec} (ha : a.Valid) (hb : b.Valid) (h : b ≤ a)
    (hlong : WithinLong a b) : timespecDiffMsLong a b = some (timespecDiffMs a b) := by
  obtain ⟨hms, hsum⟩ := hlong
  have hsec := Timespec.sec_le h
  have hle := timespecDiffMs_mono hb ha hb h
  rw [timespecDiffMs_self] at hle
  unfold timespecDiffMsLong
  rw [long_of_range (n := a.sec - b.sec) (by omega) (by omega)]
  simp only [Option.bind_eq_bind, Option.bind_some]
  rw [long_of_range (n := a.nsec - b.nsec) (by have := ha.1; have := hb.2; omega)
    (by have := ha.2; have := hb.1; omega)]
  simp only [Option.bind_some]
  rw [long_of_range (by omega) hms]
  simp only [Option.bind_some]
  exact long_of_range (Int.le_trans (by decide) hle) hsum

theorem sessionExpiredLong_eq {sess : UdsCoreSession} {now : Timespec}
    (hlast : sess.lastActivity.Valid) (hnow : now.Valid) (h : sess.lastActivity ≤ now)
    (hlong : WithinLong now sess.lastActivity) :
    sessionExpiredLong sess now = some (udsCoreSessionExpired sess now) := by
  unfold sessionExpiredLong
  rw [timespecDiffMsLong_eq hnow hlast h hlong]
  rfl

/-! ## Expiry -/

section Expiry

variable {sess : UdsCoreSession} {now later : Timespec}

theorem expired_iff : udsCoreSessionExpired sess now = true ↔
    (sess.cfg.s3Ms.toNat : Int) < timespecDiffMs now sess.lastActivity := by
  unfold udsCoreSessionExpired
  simp

theorem not_expired_of_le
    (h : elapsedNs now sess.lastActivity ≤ sess.cfg.s3Ms.toNat * 1000000) :
    udsCoreSessionExpired sess now = false := by
  apply Bool.eq_false_iff.mpr
  intro hexpired
  have hms := expired_iff.mp hexpired
  have hbounds := timespecDiffMs_bounds now sess.lastActivity
  omega

theorem expired_of_le
    (h : ((sess.cfg.s3Ms.toNat : Int) + 1) * 1000000 ≤ elapsedNs now sess.lastActivity) :
    udsCoreSessionExpired sess now = true := by
  apply expired_iff.mpr
  have hbounds := timespecDiffMs_bounds now sess.lastActivity
  omega

theorem expired_of_expired {sess' : UdsCoreSession} (hlast : sess.lastActivity.Valid)
    (hnow : now.Valid) (hlater : later.Valid) (hle : now ≤ later)
    (hkept : sess'.lastActivity = sess.lastActivity) (hcfg : sess'.cfg = sess.cfg)
    (h : udsCoreSessionExpired sess now = true) : udsCoreSessionExpired sess' later = true := by
  apply expired_iff.mpr
  rw [hkept, hcfg]
  have hms := expired_iff.mp h
  have hmono := timespecDiffMs_mono hnow hlater hlast hle
  omega

end Expiry

/-- Expiry is exact to one millisecond and stays, in the arithmetic of `long`, while the
last activity is the same. -/
theorem session_expiry (sess sess' : UdsCoreSession) (now later : Timespec)
    (hlast : sess.lastActivity.Valid) (hnow : now.Valid) (hlater : later.Valid)
    (hpast : sess.lastActivity ≤ now) (hle : now ≤ later)
    (hlong : WithinLong now sess.lastActivity) (hlong' : WithinLong later sess.lastActivity)
    (hkept : sess'.lastActivity = sess.lastActivity) (hcfg : sess'.cfg = sess.cfg) :
    (elapsedNs now sess.lastActivity ≤ sess.cfg.s3Ms.toNat * 1000000 →
      sessionExpiredLong sess now = some false) ∧
    (((sess.cfg.s3Ms.toNat : Int) + 1) * 1000000 ≤ elapsedNs now sess.lastActivity →
      sessionExpiredLong sess now = some true) ∧
    (sessionExpiredLong sess now = some true → sessionExpiredLong sess' later = some true) := by
  have hpast' : sess'.lastActivity ≤ later := by
    rw [hkept]
    exact Timespec.le_trans hpast hle
  rw [sessionExpiredLong_eq hlast hnow hpast hlong,
    sessionExpiredLong_eq (hkept ▸ hlast) hlater hpast' (hkept ▸ hlong')]
  refine ⟨fun h => ?_, fun h => ?_, fun h => ?_⟩
  · rw [not_expired_of_le h]
  · rw [expired_of_le h]
  · rw [expired_of_expired hlast hnow hlater hle hkept hcfg (Option.some.inj h)]

/-- Ten seconds and a millisecond after a last activity, across a borrow, and the second after. -/
theorem session_expiry_after_ten_seconds :
    sessionExpiredLong (udsCoreSessionInit 1 none ⟨5, 999500000⟩) ⟨16, 500000⟩ = some true ∧
      sessionExpiredLong (udsCoreSessionInit 1 none ⟨5, 999500000⟩) ⟨17, 0⟩ = some true := by
  have hexpiry := session_expiry (udsCoreSessionInit 1 none ⟨5, 999500000⟩)
    (udsCoreSessionInit 1 none ⟨5, 999500000⟩) ⟨16, 500000⟩ ⟨17, 0⟩ ⟨by decide, by decide⟩
    ⟨by decide, by decide⟩ ⟨by decide, by decide⟩ (by decide) (by decide) ⟨by decide, by decide⟩
    ⟨by decide, by decide⟩ rfl rfl
  have hexpired := hexpiry.2.1 (by decide)
  exact ⟨hexpired, hexpiry.2.2 hexpired⟩

end Uds.Core
