import Uds.Core.Unlocking
import Uds.Tools.EcuLink
/-!
# The Python security service

`UdsSecurity.unlock` (`security.py`) against the C simulator.  Both sides give
an all-zero seed the meaning "already unlocked", but the simulator can also draw
one.
-/

namespace Uds.Tools

open Uds.Core Uds.Ecusim

def sidSa : UInt8 := 0x27
def xorMask : List UInt8 := [0xAB, 0xCD, 0x12, 0x34]

/-- `UdsSecurity.compute_key`. -/
def computeKey (seed : List UInt8) : List UInt8 :=
  seed.mapIdx fun i b => b ^^^ xorMask.getD (i % 4) 0

section Client

variable {σ : Type} (transport : Transport σ)

/-- `UdsSecurity.unlock`. -/
def unlock (level : Nat) : Py σ Bool := do
  let seedRequest ← bytes [sidSa.toNat, level]
  let seedResponse ← request transport seedRequest
  if seedResponse.length < 2 ∨ seedResponse.getD 0 0 ≠ 0x67 then
    Py.raise (.udsProtocolError ("Unexpected SA seed response: " ++ hex seedResponse))
  else
    let seed := seedResponse.drop 2
    -- an all-zero seed means already unlocked
    if seed.all (fun b => b = 0) then pure true
    else
      let key := computeKey seed
      let keyHead ← bytes [sidSa.toNat, level + 1]
      let keyResponse ← request transport (keyHead ++ key)
      if keyResponse.length < 2 ∨ keyResponse.getD 0 0 ≠ 0x67 then
        Py.raise (.udsProtocolError ("Unexpected SA key response: " ++ hex keyResponse))
      else pure true

/-- The response passes the check that `unlock` makes of it. -/
def Accepted (response : List UInt8) : Prop :=
  ¬(response.length < 2 ∨ response.getD 0 0 ≠ 0x67)

theorem Accepted.head {response : List UInt8} (h : Accepted response) :
    response.head? = some 0x67 := by
  obtain ⟨hlen, hhead⟩ := not_or.mp h
  cases response with
  | nil => exact absurd (by simp) hlen
  | cons b response => exact congrArg some (Decidable.of_not_not hhead)

variable {transport} {level : Nat} {s s' : σ}

theorem bytes_sidSa {n : Nat} (h : n < 256) (s : σ) :
    (bytes [sidSa.toNat, n]).run s = (.ok [0x27, UInt8.ofNat n], s) := by
  apply bytes_run
  intro m hm
  rcases List.mem_pair.mp hm with rfl | rfl
  · decide
  · exact h

theorem unlock_cases (hlevel : level ≤ 253)
    (h : (unlock transport level).run s = (.ok true, s')) :
    ∃ seedResponse s₁,
      (request transport [0x27, UInt8.ofNat level]).run s = (.ok seedResponse, s₁) ∧
        Accepted seedResponse ∧
          (((∀ b ∈ seedResponse.drop 2, b = 0) ∧ s' = s₁) ∨
            ∃ keyResponse, (request transport ([0x27, UInt8.ofNat (level + 1)] ++
                computeKey (seedResponse.drop 2))).run s₁ = (.ok keyResponse, s') ∧
              Accepted keyResponse) := by
  unfold unlock at h
  rw [Py.run_bind (bytes_sidSa (by omega) s)] at h
  obtain ⟨seedResponse, s₁, hseed, h⟩ := Py.run_bind_ok h
  refine ⟨seedResponse, s₁, hseed, ?_⟩
  by_cases hcheck : seedResponse.length < 2 ∨ seedResponse.getD 0 0 ≠ 0x67
  · rw [if_pos hcheck] at h
    exact absurd h Py.run_raise_ne
  · rw [if_neg hcheck] at h
    refine ⟨hcheck, ?_⟩
    by_cases hzero : (seedResponse.drop 2).all (fun b => b = 0) = true
    · rw [if_pos hzero] at h
      cases h
      exact Or.inl ⟨by simpa using hzero, rfl⟩
    · rw [if_neg hzero, Py.run_bind (bytes_sidSa (by omega) s₁)] at h
      obtain ⟨keyResponse, s₂, hkey, h⟩ := Py.run_bind_ok h
      by_cases hcheck' : keyResponse.length < 2 ∨ keyResponse.getD 0 0 ≠ 0x67
      · rw [if_pos hcheck'] at h
        exact absurd h Py.run_raise_ne
      · rw [if_neg hcheck'] at h
        cases h
        exact Or.inr ⟨keyResponse, hkey, hcheck'⟩

/-- A zero seed ends `unlock` at once. -/
theorem unlock_of_zero {seed : List UInt8} (hlevel : level ≤ 253)
    (hseed : (request transport [0x27, UInt8.ofNat level]).run s =
      (.ok ([0x67, UInt8.ofNat level] ++ seed), s'))
    (hzero : ∀ b ∈ seed, b = 0) : (unlock transport level).run s = (.ok true, s') := by
  have hall : seed.all (fun b => b = 0) = true := by simpa using hzero
  unfold unlock
  rw [Py.run_bind (bytes_sidSa (by omega) s), Py.run_bind hseed, if_neg (by simp)]
  simp only [List.cons_append, List.nil_append, List.drop_succ_cons, List.drop_zero]
  rw [if_pos hall, Py.run_pure]

end Client

/-! ## Against the simulator -/

theorem ofNat_and_one (n : Nat) : (UInt8.ofNat n &&& 0x01).toNat = n % 2 := by
  rw [UInt8.toNat_and, UInt8.toNat_ofNat']
  change n % 256 &&& 1 = n % 2
  rw [Nat.and_one_is_mod]
  omega

section Simulator

variable {envs : Nat → Env} {sim : EcuSimulator} {n level : Nat} {resp : List UInt8}
  {link : EcuLink}

theorem odd_of_mod (h : level % 2 = 1) : UInt8.ofNat level &&& 0x01 ≠ 0 := by
  intro hzero
  have hval := ofNat_and_one level
  rw [hzero, h] at hval
  cases hval

theorem even_of_mod (h : level % 2 = 1) : UInt8.ofNat (level + 1) &&& 0x01 = 0 := by
  apply UInt8.toNat_inj.mp
  rw [ofNat_and_one]
  change (level + 1) % 2 = 0
  omega

theorem serve_seed (sim : EcuSimulator) (env : Env) (hodd : level % 2 = 1) :
    serve sim env [0x27, UInt8.ofNat level] ecusimMaxPdu .securityAccess =
      ({ sim with
          security := (udsCoreSecRequestSeed sim.security (UInt8.ofNat level) ecusimMaxPdu
            env.clock env.rand).1 },
        (udsCoreSecRequestSeed sim.security (UInt8.ofNat level) ecusimMaxPdu env.clock
          env.rand).2) :=
  serve_requestSeed sim env [0x27, UInt8.ofNat level] ecusimMaxPdu (Nat.le_refl 2) (odd_of_mod hodd)

theorem seed_received (hodd : level % 2 = 1)
    (h : (request (ecuTransport envs) [0x27, UInt8.ofNat level]).run ⟨sim, n, []⟩ =
      (.ok resp, link)) (hpos : Accepted resp) :
    ¬sim.security.LockedAt ((envs n).clock 0) ∧
      resp = [0x67, UInt8.ofNat level] ++
        sentSeed sim.security (UInt8.ofNat level) (envs n).rand ∧
      link = ⟨link.sim, n + 1, []⟩ ∧
      link.sim.security.unlockedLevel = sim.security.unlockedLevel := by
  have hsize : 2 + udsCoreSeedLen ≤ ecusimMaxPdu := by decide
  obtain ⟨hserve, hlink⟩ := serve_of_request .securityAccess h hpos.head
  change serve sim (envs n) [0x27, UInt8.ofNat level] ecusimMaxPdu .securityAccess = _ at hserve
  rw [serve_seed sim (envs n) hodd] at hserve
  obtain ⟨hsim, hresp⟩ := Prod.mk.inj hserve
  by_cases hlocked : sim.security.LockedAt ((envs n).clock 0)
  · rw [requestSeed_refused hlocked (odd_of_mod hodd) hsize] at hresp
    cases hresp
  · rw [requestSeed_sent hlocked (odd_of_mod hodd) hsize] at hresp
    refine ⟨hlocked, (Except.ok.inj hresp).symm, hlink, ?_⟩
    rw [← hsim]
    exact requestSeed_unlockedLevel ..

theorem seed_requested (hodd : level % 2 = 1)
    (hlocked : ¬sim.security.LockedAt ((envs n).clock 0)) :
    ∃ sim' : EcuSimulator,
      (request (ecuTransport envs) [0x27, UInt8.ofNat level]).run ⟨sim, n, []⟩ =
          (.ok ([0x67, UInt8.ofNat level] ++
            sentSeed sim.security (UInt8.ofNat level) (envs n).rand), ⟨sim', n + 1, []⟩) ∧
        sim'.security.unlockedLevel = sim.security.unlockedLevel := by
  have hsize : 2 + udsCoreSeedLen ≤ ecusimMaxPdu := by decide
  have hserve := serve_seed sim (envs n) hodd
  rw [requestSeed_sent hlocked (odd_of_mod hodd) hsize] at hserve
  refine ⟨_, request_served .securityAccess hserve rfl, ?_⟩
  exact requestSeed_unlockedLevel ..

theorem unlockedLevel_of_key {key : List UInt8} (hodd : level % 2 = 1)
    (hlen : key.length = udsCoreSeedLen)
    (h : (request (ecuTransport envs) ([0x27, UInt8.ofNat (level + 1)] ++ key)).run
      ⟨sim, n, []⟩ = (.ok resp, link)) (hpos : Accepted resp) :
    link.sim.security.unlockedLevel = UInt8.ofNat level := by
  obtain ⟨hserve, -⟩ := serve_of_request .securityAccess h hpos.head
  have hcall := serve_sendKey sim (envs n) ([0x27, UInt8.ofNat (level + 1)] ++ key) ecusimMaxPdu
    (by rw [List.length_append, hlen]; exact Nat.le_refl _) (even_of_mod hodd)
  change serve sim (envs n) ([0x27, UInt8.ofNat (level + 1)] ++ key) ecusimMaxPdu
    .securityAccess = _ at hserve
  rw [hserve] at hcall
  rw [hcall.1, unlockedLevel_of_ok _ _ _ _ _ hcall.2.symm]
  change UInt8.ofNat (level + 1) - 1 = UInt8.ofNat level
  rw [UInt8.ofNat_add]
  exact UInt8.add_sub_cancel ..

theorem unlock_deceived (hodd : level % 2 = 1) (hlevel : level ≤ 253)
    (hlocked : ¬sim.security.LockedAt ((envs n).clock 0))
    (hrand : ∀ i < udsCoreSeedLen, (envs n).rand i = 0) :
    ∃ link, (unlock (ecuTransport envs) level).run ⟨sim, n, []⟩ = (.ok true, link) ∧
      link.sim.security.unlockedLevel = sim.security.unlockedLevel := by
  have hzero : ∀ b ∈ sentSeed sim.security (UInt8.ofNat level) (envs n).rand, b = 0 :=
    (sentSeed_eq_zero ..).mpr (Or.inr hrand)
  obtain ⟨sim', hseed, hkept⟩ := seed_requested hodd hlocked
  exact ⟨_, unlock_of_zero hlevel hseed hzero, hkept⟩

theorem unlockedLevel_of_unlock (hodd : level % 2 = 1) (hlevel : level ≤ 253)
    (h : (unlock (ecuTransport envs) level).run ⟨sim, n, []⟩ = (.ok true, link)) :
    link.sim.security.unlockedLevel = UInt8.ofNat level ∨
      ¬sim.security.LockedAt ((envs n).clock 0) ∧ (∀ i < udsCoreSeedLen, (envs n).rand i = 0) ∧
        link.sim.security.unlockedLevel = sim.security.unlockedLevel := by
  obtain ⟨seedResponse, link₁, hseed, haccepted, hend⟩ := unlock_cases hlevel h
  obtain ⟨hlocked, rfl, hlink, hkept⟩ := seed_received hodd hseed haccepted
  simp only [List.cons_append, List.nil_append, List.drop_succ_cons, List.drop_zero] at hend
  rcases hend with ⟨hzero, rfl⟩ | ⟨keyResponse, hkey, haccepted'⟩
  · rcases (sentSeed_eq_zero ..).mp hzero with hsame | hrand
    · exact Or.inl (hkept.trans hsame)
    · exact Or.inr ⟨hlocked, hrand, hkept⟩
  · rw [hlink] at hkey
    apply Or.inl
    apply unlockedLevel_of_key hodd _ hkey haccepted'
    rw [List.length_mapIdx, length_sentSeed]

theorem isUnlocked_ofNat (hodd : level % 2 = 1) (sec : UdsCoreSecurity) :
    udsCoreSecIsUnlocked sec (UInt8.ofNat level) = true ↔
      sec.unlockedLevel = UInt8.ofNat level := by
  have hne : UInt8.ofNat level ≠ 0 := by
    intro hzero
    have hbit := odd_of_mod hodd
    rw [hzero] at hbit
    exact hbit rfl
  simp [udsCoreSecIsUnlocked, hne]

/-- `unlock` can be trusted if and only if the simulator is locked, has the level
unlocked already, or draws a seed that is not zero. -/
theorem unlock_sound (envs : Nat → Env) (sim : EcuSimulator) (n level : Nat)
    (hodd : level % 2 = 1) (hlevel : level ≤ 253) :
    (∀ link, (unlock (ecuTransport envs) level).run ⟨sim, n, []⟩ = (.ok true, link) →
        udsCoreSecIsUnlocked link.sim.security (UInt8.ofNat level) = true) ↔
      sim.security.LockedAt ((envs n).clock 0) ∨
        sim.security.unlockedLevel = UInt8.ofNat level ∨
          ∃ i < udsCoreSeedLen, (envs n).rand i ≠ 0 := by
  simp only [isUnlocked_ofNat hodd]
  constructor
  · intro hsound
    by_contra hnot
    obtain ⟨hlocked, hlevel', hrand⟩ : ¬sim.security.LockedAt ((envs n).clock 0) ∧
        sim.security.unlockedLevel ≠ UInt8.ofNat level ∧
          ¬∃ i < udsCoreSeedLen, (envs n).rand i ≠ 0 := by
      simpa only [not_or] using hnot
    have hzero : ∀ i < udsCoreSeedLen, (envs n).rand i = 0 := by
      intro i hi
      by_contra hbyte
      exact hrand ⟨i, hi, hbyte⟩
    obtain ⟨link, hrun, hkept⟩ := unlock_deceived hodd hlevel hlocked hzero
    exact hlevel' (hkept.symm.trans (hsound link hrun))
  · intro hcond link hrun
    rcases unlockedLevel_of_unlock hodd hlevel hrun with hdone | ⟨hlocked, hzero, hkept⟩
    · exact hdone
    · rcases hcond with hactive | hsame | ⟨i, hi, hbyte⟩
      · exact absurd hactive hlocked
      · exact hkept.trans hsame
      · exact absurd (hzero i hi) hbyte

/-- `rand()` returns four zero bytes to a simulator that has just started. -/
def zeroSeed : Nat → Env := fun _ => ⟨fun _ => .zero, fun _ => 0⟩

theorem unlock_zeroSeed :
    ∃ link, (unlock (ecuTransport zeroSeed) 1).run ⟨ecusimInit 0x01 .zero, 0, []⟩ =
        (.ok true, link) ∧
      udsCoreSecIsUnlocked link.sim.security 0x01 = false := by
  have hlocked : ¬(ecusimInit 0x01 .zero).security.LockedAt ((zeroSeed 0).clock 0) := by
    rintro ⟨hlocked, -⟩
    cases hlocked
  have hodd : 1 % 2 = 1 := rfl
  obtain ⟨link, hrun, hkept⟩ := unlock_deceived hodd (by decide) hlocked fun _ _ => rfl
  refine ⟨link, hrun, ?_⟩
  change (link.sim.security.unlockedLevel = 0x01 && (0x01 : UInt8) ≠ 0) = false
  rw [hkept]
  decide

theorem unlock_sound_levelOne :
    (∀ link, (unlock (ecuTransport zeroSeed) 1).run ⟨ecusimInit 0x01 .zero, 0, []⟩ =
        (.ok true, link) → udsCoreSecIsUnlocked link.sim.security (UInt8.ofNat 1) = true) ↔
      (ecusimInit 0x01 .zero).security.LockedAt .zero ∨
        (ecusimInit 0x01 .zero).security.unlockedLevel = UInt8.ofNat 1 ∨
          ∃ i < udsCoreSeedLen, (zeroSeed 0).rand i ≠ 0 :=
  unlock_sound zeroSeed (ecusimInit 0x01 .zero) 0 1 rfl (by decide)

end Simulator

end Uds.Tools
