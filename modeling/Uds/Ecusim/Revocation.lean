import Uds.Base.History
import Uds.Ecusim.Runs
/-!
# Revocation of security access

Returning to the default session and resetting should both revoke the unlocked
level, so that a secured write needs an accepted key after the last of them.
`uds_core_dsc` clears `session.security_level` only, whereas a write consults
`security.unlocked_level`, so the policy holds in the runs that never return to
the default session while level 0x01 is unlocked.
-/

namespace Uds.Ecusim

open Uds.Base Uds.Core

/-- An accepted key for level 0x01. -/
def Unlocks (x : EcuTurn) : Prop := Positive .securityAccess x ∧ subFn x = 0x02

/-- An accepted change to the default session. -/
def ReturnsToDefault (x : EcuTurn) : Prop :=
  Positive .diagnosticSessionControl x ∧ subFn x = 0x01

def Revokes (x : EcuTurn) : Prop := ReturnsToDefault x ∨ Positive .ecuReset x

/-- The identifier that a 0x2E request names. -/
def writtenDid (req : List UInt8) : UInt16 :=
  ((req.getD 1 0).toUInt16 <<< 8) ||| (req.getD 2 0).toUInt16

/-- An accepted write to an identifier that requires security. -/
def SecuredWrite (x : EcuTurn) : Prop :=
  Positive .writeDataByIdentifier x ∧
    ((didFind x.pre.didReg (writtenDid x.input.req)).any fun e => e.requiresSecurity) = true

/-- Every secured write follows an accepted key with no revocation in between. -/
def RevocationPolicy (history : List EcuTurn) : Prop :=
  ∀ h x h', history = h ++ x :: h' → SecuredWrite x → Since Unlocks Revokes h

/-- A change to the default session that finds level 0x01 unlocked. -/
def LeavesUnlocked (x : EcuTurn) : Prop :=
  ReturnsToDefault x ∧ udsCoreSecIsUnlocked x.pre.security 0x01 = true

instance (x : EcuTurn) : Decidable (Unlocks x) := inferInstanceAs (Decidable (_ ∧ _))

instance (x : EcuTurn) : Decidable (Revokes x) :=
  inferInstanceAs (Decidable ((_ ∧ _) ∨ _))

instance (x : EcuTurn) : Decidable (LeavesUnlocked x) :=
  inferInstanceAs (Decidable ((_ ∧ _) ∧ _))

instance (x : EcuTurn) : Decidable (SecuredWrite x) := inferInstanceAs (Decidable (_ ∧ _))

theorem isUnlocked_iff (sec : UdsCoreSecurity) :
    udsCoreSecIsUnlocked sec 0x01 = true ↔ sec.unlockedLevel = 0x01 := by
  simp [udsCoreSecIsUnlocked]

theorem SecuredWrite.unlocked {sim : EcuSimulator} {i : Input}
    (h : SecuredWrite (turn ecusimStep sim i)) : sim.security.unlockedLevel = 0x01 := by
  obtain ⟨hpos, hsec⟩ := h
  have hok := serve_of_positive hpos
  simp only [serve] at hok
  split at hok
  · cases hok
  · obtain ⟨entry, hfind, -, -, hreq, -⟩ := udsSvcWriteDid_ok hok
    change ((didFind sim.didReg (writtenDid i.req)).any fun e => e.requiresSecurity) = true at hsec
    unfold writtenDid at hsec
    rw [hfind] at hsec
    exact (isUnlocked_iff _).mp (hreq hsec)

theorem not_reset {x : EcuTurn} (h : Requests .securityAccess x) : ¬Positive .ecuReset x :=
  fun hpos => absurd (h.symm.trans hpos.1) (by decide)

/-- Level 0x01 is unlocked after a turn only if it was before and the ECU was
not reset, or if the turn is an accepted key for it. -/
theorem unlocked_of_turn {sim : EcuSimulator} {i : Input}
    (h : (ecusimStep sim i).1.security.unlockedLevel = 0x01) :
    (sim.security.unlockedLevel = 0x01 ∧ ¬Positive .ecuReset (turn ecusimStep sim i)) ∨
      Unlocks (turn ecusimStep sim i) := by
  rcases security_of_turn sim i with
    ⟨hsec, hreset⟩ | ⟨-, hsec⟩ | ⟨hreq, hsec⟩ | ⟨hreq, hsec, hout⟩
  · rw [hsec] at h
    exact Or.inl ⟨h, hreset⟩
  · rw [hsec] at h
    cases h
  · rw [hsec, requestSeed_unlockedLevel] at h
    exact Or.inl ⟨h, not_reset hreq⟩
  · rw [hsec] at h
    rcases sendKey_unlockedLevel sim.security (i.req.getD 1 0) (i.req.drop 2) ecusimMaxPdu
      i.env.clock with hsame | ⟨hlevel, hok⟩
    · rw [hsame] at h
      exact Or.inl ⟨h, not_reset hreq⟩
    · apply Or.inr
      rw [hlevel] at h
      rw [hok] at hout
      constructor
      · exact ⟨hreq, congrArg List.head? hout⟩
      · change i.req.getD 1 0 = 0x02
        calc
          i.req.getD 1 0 = (i.req.getD 1 0 - 1) + 1 := (UInt8.sub_add_cancel ..).symm
          _ = 0x02 := by rw [h]; rfl

theorem since_of_unlocked (ecuId : UInt8) (now : Timespec) (inputs : List Input)
    (hC : ∀ x ∈ turnsFrom ecusimStep (ecusimInit ecuId now) inputs, ¬LeavesUnlocked x) :
    (runFrom ecusimStep (ecusimInit ecuId now) inputs).security.unlockedLevel = 0x01 →
      Since Unlocks Revokes (turnsFrom ecusimStep (ecusimInit ecuId now) inputs) := by
  refine run_invariant ecusimStep (C := fun x => ¬LeavesUnlocked x)
    (fun past sim => sim.security.unlockedLevel = 0x01 → Since Unlocks Revokes past)
    ?_ ?_ inputs hC
  · intro hinit
    cases hinit
  · intro past sim i hI hC hunlocked
    rw [since_snoc]
    rcases unlocked_of_turn hunlocked with ⟨hpre, hreset⟩ | hkey
    · apply Or.inr
      constructor
      · rintro (hdefault | hpos)
        · exact hC ⟨hdefault, (isUnlocked_iff _).mpr hpre⟩
        · exact hreset hpos
      · exact hI hpre
    · exact Or.inl hkey

/-- The policy holds in every run that never returns to the default session
while level 0x01 is unlocked. -/
theorem revocationPolicy_of_runs (ecuId : UInt8) (now : Timespec) (inputs : List Input)
    (hC : ∀ x ∈ turnsFrom ecusimStep (ecusimInit ecuId now) inputs, ¬LeavesUnlocked x) :
    RevocationPolicy (turnsFrom ecusimStep (ecusimInit ecuId now) inputs) := by
  intro h x h' hsplit hwrite
  obtain ⟨before, i, after, -, rfl, rfl, -⟩ := turnsFrom_eq_append_cons ecusimStep hsplit
  apply since_of_unlocked ecuId now before
  · intro y hy
    apply hC
    rw [hsplit]
    exact List.mem_append_left _ hy
  · exact hwrite.unlocked

/-- Unlocking level 0x01 against the seed 00 00 00 00 and rewriting the VIN. -/
def unlockAndWrite : List Input :=
  schedule [(0, [0x10, 0x03]), (0, [0x27, 0x01]), (0, [0x27, 0x02, 0xAB, 0xCD, 0x12, 0x34]),
    (0, [0x2E, 0xF1, 0x90] ++ List.replicate 17 0x41)]

theorem revocationPolicy_of_unlockAndWrite :
    RevocationPolicy (turnsFrom ecusimStep (ecusimInit 1 .zero) unlockAndWrite) :=
  revocationPolicy_of_runs 1 .zero unlockAndWrite (by decide)

/-- Unlocking level 0x01, returning to the default session and then entering the
extended session. -/
def unlockAndReturn : List Input :=
  schedule [(0, [0x27, 0x01]), (0, [0x27, 0x02, 0xAB, 0xCD, 0x12, 0x34]), (0, [0x10, 0x01]),
    (0, [0x10, 0x03])]

/-- After that the VIN can still be rewritten. -/
theorem revocationPolicy_fails :
    ¬RevocationPolicy (turnsFrom ecusimStep (ecusimInit 1 .zero)
      (unlockAndReturn ++ schedule [(0, [0x2E, 0xF1, 0x90] ++ List.replicate 17 0x41)])) := by
  intro h
  rw [turnsFrom_append] at h
  have hsince := h _ _ [] rfl (by decide)
  exact absurd hsince (by decide)

end Uds.Ecusim
