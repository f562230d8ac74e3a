import Uds.Base.History
import Uds.PyEcu.FlashSessions
/-!
# Security access of the Python simulator

What a request can do to the security state, and what follows for whole runs: a level is
unlocked exactly since a fresh key for it, a lockout holds for its 300 seconds and no
longer, and nobody gets more than three wrong keys for each accepted one in such a time.
-/

namespace Uds.PyEcu

open Uds.Base

/-! ## What a request can do -/

/-- The security state. -/
structure Access where
  securityLevel : Int
  pendingSeed : Option (List UInt8)
  pendingLevel : Int
  failCount : Nat
  locked : Bool
  lockedTs : Rat

def EcuState.access (ecu : EcuState) : Access :=
  ⟨ecu.securityLevel, ecu.pendingSeed, ecu.pendingLevel, ecu.failCount, ecu.locked, ecu.lockedTs⟩

/-- A lockout is over, if there was one. -/
def Access.freed (a : Access) : Access :=
  if a.locked then { a with locked := false, failCount := 0 } else a

/-- A seed is not refused. -/
def Access.Free (a : Access) (now : Rat) : Prop :=
  a.locked = true → lockoutSecs ≤ binary64.sub now a.lockedTs

def subFn (req : List UInt8) : UInt8 := req.getD 1 0

/-- The level that a key is for. -/
def keyLevel (req : List UInt8) : Int := ((subFn req).toNat : Int) - 1

def keyOf (req : List UInt8) : List UInt8 := (req.drop 2).take seedLen

def RequestsSeed (req : List UInt8) : Prop := req.head? = some 0x27 ∧ subFn req &&& 0x01 ≠ 0

def SendsKey (req : List UInt8) : Prop :=
  req.head? = some 0x27 ∧ 2 ≤ req.length ∧ subFn req &&& 0x01 = 0

/-- A change to the default session, or a reset of a known type; both are always accepted. -/
def Revokes (req : List UInt8) : Prop :=
  (req.head? = some 0x10 ∧ subFn req = 0x01) ∨
    (req.head? = some 0x11 ∧ subFn req ∈ [(0x01 : UInt8), 0x02, 0x03])

/-- What becomes of the security state on a request, and the answer where it matters. -/
inductive AccessEffect (a : Access) (now : Rat) (urandom req : List UInt8) :
    Access → Option (List UInt8) → Prop where
  | other (hseed : ¬RequestsSeed req) (hkey : ¬SendsKey req) (hkept : ¬Revokes req)
      (out : Option (List UInt8)) : AccessEffect a now urandom req a out
  | revoked (hseed : ¬RequestsSeed req) (hkey : ¬SendsKey req) (hrevokes : Revokes req)
      (out : Option (List UInt8)) :
      AccessEffect a now urandom req { a with securityLevel := 0, pendingSeed := none } out
  | waits (hseed : RequestsSeed req) (hlocked : ¬a.Free now) :
      AccessEffect a now urandom req a (some (nrc 0x27 nrcTimeDelayNotExpired))
  | unlocked (hseed : RequestsSeed req) (hfree : a.Free now)
      (hlevel : a.securityLevel = (subFn req).toNat) :
      AccessEffect a now urandom req a.freed (some ([0x67, subFn req] ++ [0, 0, 0, 0]))
  | drawn (hseed : RequestsSeed req) (hfree : a.Free now)
      (hlevel : a.securityLevel ≠ (subFn req).toNat) :
      AccessEffect a now urandom req
        { a.freed with pendingSeed := some urandom, pendingLevel := (subFn req).toNat }
        (some ([0x67, subFn req] ++ urandom))
  | unasked (hkey : SendsKey req)
      (hnone : ∀ seed, a.pendingSeed = some seed → a.pendingLevel ≠ keyLevel req) :
      AccessEffect a now urandom req a (some (nrc 0x27 nrcRequestSequenceError))
  | short (hkey : SendsKey req) {seed : List UInt8} (hpending : a.pendingSeed = some seed)
      (hlevel : a.pendingLevel = keyLevel req) :
      AccessEffect a now urandom req a (some (nrc 0x27 nrcIncorrectMsgLen))
  | wrong (hkey : SendsKey req) {seed : List UInt8} (hpending : a.pendingSeed = some seed)
      (hlevel : a.pendingLevel = keyLevel req) (hwrong : keyOf req ≠ computeKey seed)
      (hless : a.failCount + 1 < maxAttempts) :
      AccessEffect a now urandom req
        { a with pendingSeed := none, failCount := a.failCount + 1 }
        (some (nrc 0x27 nrcInvalidKey))
  | exceeded (hkey : SendsKey req) {seed : List UInt8} (hpending : a.pendingSeed = some seed)
      (hlevel : a.pendingLevel = keyLevel req) (hwrong : keyOf req ≠ computeKey seed)
      (hmany : maxAttempts ≤ a.failCount + 1) :
      AccessEffect a now urandom req
        { a with
          pendingSeed := none, failCount := a.failCount + 1, locked := true, lockedTs := now }
        (some (nrc 0x27 nrcExceededAttempts))
  | right (hkey : SendsKey req) {seed : List UInt8} (hpending : a.pendingSeed = some seed)
      (hlevel : a.pendingLevel = keyLevel req) (hright : keyOf req = computeKey seed) :
      AccessEffect a now urandom req
        { a with pendingSeed := none, securityLevel := keyLevel req, failCount := 0 }
        (some [0x67, subFn req])

section Effect

variable (ecu : EcuState) (draws : Draws) (req : List UInt8)

theorem access_testerPresent : (svcTesterPresent ecu draws req).1.access = ecu.access := by
  unfold svcTesterPresent
  dsimp only
  split_ifs <;> rfl

theorem access_readDid : (svcReadDid ecu req).1.access = ecu.access := by
  unfold svcReadDid
  split_ifs
  · rfl
  · split <;> rfl

theorem access_writeDid : (svcWriteDid ecu req).1.access = ecu.access := by
  unfold svcWriteDid
  split_ifs
  · rfl
  · dsimp only
    split
    · rfl
    · split_ifs <;> rfl

theorem access_clearDtc : (svcClearDtc ecu req).1.access = ecu.access := by
  unfold svcClearDtc
  dsimp only
  split_ifs <;> rfl

theorem access_readDtc : (svcReadDtc ecu req).1.access = ecu.access := by
  unfold svcReadDtc
  dsimp only
  split_ifs <;> rfl

theorem access_requestDownload : (svcRequestDownload ecu req).1.access = ecu.access := by
  unfold svcRequestDownload
  split <;> rfl

theorem access_requestUpload : (svcRequestUpload ecu req).1.access = ecu.access := by
  unfold svcRequestUpload
  split <;> rfl

theorem access_transferData : (svcTransferData ecu req).1.access = ecu.access := by
  unfold svcTransferData
  dsimp only
  split_ifs <;> rfl

theorem access_transferExit : (svcTransferExit ecu).1.access = ecu.access := by
  unfold svcTransferExit
  split_ifs <;> rfl

theorem access_dispatch_other {sid : UInt8} {args : List UInt8} (h10 : sid ≠ 0x10)
    (h27 : sid ≠ 0x27) (h11 : sid ≠ 0x11) :
    (dispatch ecu draws (sid :: args)).1.access = ecu.access := by
  unfold dispatch
  simp only [if_neg h10, if_neg h27, if_neg h11]
  split_ifs
  · exact access_testerPresent ecu draws _
  · exact access_readDid ecu _
  · exact access_writeDid ecu _
  · exact access_clearDtc ecu _
  · exact access_readDtc ecu _
  · exact access_requestDownload ecu _
  · exact access_requestUpload ecu _
  · exact access_transferData ecu _
  · exact access_transferExit ecu
  · rfl

theorem AccessEffect.of_sid {a a' : Access} {now : Rat} {urandom args : List UInt8} {sid : UInt8}
    {out : Option (List UInt8)} (h27 : sid ≠ 0x27) (hkept : ¬Revokes (sid :: args) → a' = a)
    (hrevoked : Revokes (sid :: args) → a' = { a with securityLevel := 0, pendingSeed := none }) :
    AccessEffect a now urandom (sid :: args) a' out := by
  have hseed : ¬RequestsSeed (sid :: args) := fun h => h27 (Option.some.inj h.1)
  have hkey : ¬SendsKey (sid :: args) := fun h => h27 (Option.some.inj h.1)
  by_cases h : Revokes (sid :: args)
  · rw [hrevoked h]
    exact .revoked hseed hkey h out
  · rw [hkept h]
    exact .other hseed hkey h out

theorem accessEffect_dsc (args : List UInt8) :
    AccessEffect ecu.access draws.monotonic draws.urandom.toList (0x10 :: args)
      (svcDsc ecu draws (0x10 :: args)).1.access (svcDsc ecu draws (0x10 :: args)).2 := by
  have hrevokes : Revokes (0x10 :: args) ↔ subFn (0x10 :: args) = 0x01 := by
    constructor
    · rintro (⟨-, h⟩ | ⟨h, -⟩)
      · exact h
      · cases h
    · exact fun h => Or.inl ⟨rfl, h⟩
  apply AccessEffect.of_sid (by decide)
  · intro h
    have hsub : (0x10 :: args : List UInt8).getD 1 0 ≠ 0x01 := mt hrevokes.mpr h
    unfold svcDsc
    dsimp only
    rw [if_neg hsub]
    split_ifs <;> rfl
  · intro h
    have hsub : (0x10 :: args : List UInt8).getD 1 0 = 0x01 := hrevokes.mp h
    have hlen : ¬(0x10 :: args : List UInt8).length < 2 := by
      cases args with
      | nil => cases hsub
      | cons b args => simp
    unfold svcDsc
    dsimp only
    rw [if_neg hlen, hsub, if_neg (by decide), if_pos rfl]
    rfl

theorem accessEffect_reset (args : List UInt8) :
    AccessEffect ecu.access draws.monotonic draws.urandom.toList (0x11 :: args)
      (svcEcuReset ecu (0x11 :: args)).1.access (svcEcuReset ecu (0x11 :: args)).2 := by
  have hrevokes : Revokes (0x11 :: args) ↔
      (0x11 :: args : List UInt8).getD 1 0 ∈ [(0x01 : UInt8), 0x02, 0x03] := by
    constructor
    · rintro (⟨h, -⟩ | ⟨-, h⟩)
      · cases h
      · exact h
    · exact fun h => Or.inr ⟨rfl, h⟩
  apply AccessEffect.of_sid (by decide)
  · intro h
    unfold svcEcuReset
    dsimp only
    rw [if_pos (mt hrevokes.mpr h)]
    split_ifs <;> rfl
  · intro h
    have hmem := hrevokes.mp h
    have hlen : ¬(0x11 :: args : List UInt8).length < 2 := by
      cases args with
      | nil => exact absurd hmem (by decide)
      | cons b args => simp
    unfold svcEcuReset
    dsimp only
    rw [if_neg hlen, if_neg (not_not.mpr hmem)]
    rfl

theorem access_free_iff : ecu.access.Free draws.monotonic ↔
    ¬(ecu.locked = true ∧ binary64.sub draws.monotonic ecu.lockedTs < lockoutSecs) := by
  rw [not_and, not_lt]
  rfl

theorem accessEffect_drawSeed {args : List UInt8} {freed : EcuState}
    (hseed : RequestsSeed (0x27 :: args)) (hfree : ecu.access.Free draws.monotonic)
    (hfreed : freed.access = ecu.access.freed)
    (hlevel : freed.securityLevel = ecu.securityLevel) :
    AccessEffect ecu.access draws.monotonic draws.urandom.toList (0x27 :: args)
      (drawSeed freed draws (subFn (0x27 :: args))).1.access
      (drawSeed freed draws (subFn (0x27 :: args))).2 := by
  unfold drawSeed
  dsimp only
  by_cases h : freed.securityLevel = ((subFn (0x27 :: args)).toNat : Int)
  · rw [if_pos h, hfreed]
    exact .unlocked hseed hfree (hlevel.symm.trans h)
  · rw [if_neg h]
    have heffect : AccessEffect ecu.access draws.monotonic draws.urandom.toList (0x27 :: args)
        _ _ := .drawn hseed hfree (hlevel.symm.trans_ne h)
    rw [← hfreed] at heffect
    exact heffect

theorem accessEffect_requestSeed {args : List UInt8} (hseed : RequestsSeed (0x27 :: args)) :
    AccessEffect ecu.access draws.monotonic draws.urandom.toList (0x27 :: args)
      (requestSeed ecu draws (subFn (0x27 :: args))).1.access
      (requestSeed ecu draws (subFn (0x27 :: args))).2 := by
  have hfree := access_free_iff ecu draws
  unfold requestSeed
  by_cases hlocked : ecu.locked = true
  · have hfreed : ecu.access.freed = { ecu.access with locked := false, failCount := 0 } :=
      if_pos hlocked
    rw [if_pos hlocked]
    by_cases hearly : binary64.sub draws.monotonic ecu.lockedTs < lockoutSecs
    · rw [if_pos hearly]
      exact .waits hseed fun h => hfree.mp h ⟨hlocked, hearly⟩
    · rw [if_neg hearly]
      exact accessEffect_drawSeed ecu draws hseed (hfree.mpr fun h => hearly h.2) hfreed.symm rfl
  · have hfreed : ecu.access.freed = ecu.access := if_neg hlocked
    rw [if_neg hlocked]
    exact accessEffect_drawSeed ecu draws hseed (hfree.mpr fun h => hlocked h.1) hfreed.symm rfl

theorem accessEffect_sendKey {args : List UInt8} (hkey : SendsKey (0x27 :: args)) :
    AccessEffect ecu.access draws.monotonic draws.urandom.toList (0x27 :: args)
      (sendKey ecu draws (0x27 :: args) (subFn (0x27 :: args))).1.access
      (sendKey ecu draws (0x27 :: args) (subFn (0x27 :: args))).2 := by
  unfold sendKey
  cases hpending : ecu.pendingSeed with
  | none =>
      refine .unasked hkey fun seed h => ?_
      rw [show ecu.access.pendingSeed = none from hpending] at h
      cases h
  | some seed =>
      have hpending' : ecu.access.pendingSeed = some seed := hpending
      dsimp only
      by_cases hlevel : ecu.pendingLevel = ((subFn (0x27 :: args)).toNat : Int) - 1
      · rw [if_neg (not_not.mpr hlevel)]
        by_cases hshort : (0x27 :: args : List UInt8).length < 2 + seedLen
        · rw [if_pos hshort]
          exact .short hkey hpending' hlevel
        · rw [if_neg hshort]
          by_cases hright : ((0x27 :: args : List UInt8).drop 2).take seedLen = computeKey seed
          · rw [if_neg (not_not.mpr hright)]
            exact .right hkey hpending' hlevel hright
          · rw [if_pos hright]
            by_cases hmany : ecu.failCount + 1 ≥ maxAttempts
            · rw [if_pos hmany]
              exact .exceeded hkey hpending' hlevel hright hmany
            · rw [if_neg hmany]
              exact .wrong hkey hpending' hlevel hright (not_le.mp hmany)
      · rw [if_pos hlevel]
        exact .unasked hkey fun _ _ => hlevel

theorem accessEffect_securityAccess (args : List UInt8) :
    AccessEffect ecu.access draws.monotonic draws.urandom.toList (0x27 :: args)
      (svcSecurityAccess ecu draws (0x27 :: args)).1.access
      (svcSecurityAccess ecu draws (0x27 :: args)).2 := by
  unfold svcSecurityAccess
  by_cases hlen : (0x27 :: args : List UInt8).length < 2
  · rw [if_pos hlen]
    have hargs : args = [] := List.length_eq_zero_iff.mp (by rw [List.length_cons] at hlen; omega)
    refine .other ?_ (fun h => absurd h.2.1 (not_le.mpr hlen)) ?_ _
    · rw [hargs]
      exact fun h => h.2 rfl
    · rintro (⟨h, -⟩ | ⟨h, -⟩)
      · exact absurd (Option.some.inj h) (by decide)
      · exact absurd (Option.some.inj h) (by decide)
  · rw [if_neg hlen]
    dsimp only
    by_cases hodd : (0x27 :: args : List UInt8).getD 1 0 &&& 0x01 = 0
    · rw [if_neg (not_not.mpr hodd)]
      exact accessEffect_sendKey ecu draws ⟨rfl, not_lt.mp hlen, hodd⟩
    · rw [if_pos hodd]
      exact accessEffect_requestSeed ecu draws ⟨rfl, hodd⟩

theorem accessEffect : AccessEffect ecu.access draws.monotonic draws.urandom.toList req
    (dispatch ecu draws req).1.access (dispatch ecu draws req).2 := by
  cases req with
  | nil =>
      refine .other (fun h => ?_) (fun h => ?_) ?_ _
      · cases h.1
      · cases h.1
      · rintro (⟨h, -⟩ | ⟨h, -⟩) <;> cases h
  | cons sid args =>
      by_cases h10 : sid = 0x10
      · subst h10
        exact accessEffect_dsc ecu draws args
      by_cases h27 : sid = 0x27
      · subst h27
        exact accessEffect_securityAccess ecu draws args
      by_cases h11 : sid = 0x11
      · subst h11
        exact accessEffect_reset ecu draws args
      rw [access_dispatch_other ecu draws h10 h27 h11]
      apply AccessEffect.of_sid h27 (fun _ => rfl)
      rintro (⟨h, -⟩ | ⟨h, -⟩)
      · exact absurd (Option.some.inj h) h10
      · exact absurd (Option.some.inj h) h11

end Effect

end Uds.PyEcu
