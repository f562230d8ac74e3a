import Uds.System.Bench
import Uds.Tools.FlashTool
/-!
# The tools at a bench

Operators with scripts of commands, and flash tools that program one simulator each, all at
once on one bus.  What becomes of them is what becomes of each alone at a link.
-/

namespace Uds.System

open Uds.Base Uds.Base.Peer Uds.Can Uds.Core Uds.Tools Uds.Ecusim Uds.Bootloader

section Tools

variable (envs : UInt8 → Nat → Env) {polls : Nat} {ecuIds : List UInt8}

/-- On a bench where everybody follows a script of commands, every run comes to an end, and
there everybody has the results, and every simulator is in the state, that the script comes
to over a transport that dispatches at once. -/
theorem scripts_settle (hids : ∀ ecuId ∈ ecuIds, ValidEcuId ecuId) (hpolls : 586 ≤ polls)
    (scripts : UInt8 → Script) (hsized : ∀ ecuId, (scripts ecuId).Sized)
    (ecus : UInt8 → EcuSimulator × Nat) (reqBufs : UInt8 → Mem UInt8) :
    ∃ dialogs : UInt8 → Dialog (List (Except PyError Output)),
      (∀ ecuId, ∀ {σ : Type} (transport : Transport σ) (s : σ),
        (dialogs ecuId).run transport s = (scripts ecuId).run transport s) ∧
      Inevitable ((benchBus _ envs).Patient (benchExpire _ envs) (among ecuIds))
        (fun c => ∀ ecuId ∈ ecuIds, Settled c ecuId
          ((scripts ecuId).run (ecuTransport (envs ecuId)) ⟨(ecus ecuId).1, (ecus ecuId).2, []⟩))
        (benchStart _ envs polls dialogs ecus reqBufs) := by
  choose dialogs hspeaks hfits using fun ecuId => dialog_of_script (envs ecuId) (hsized ecuId)
  refine ⟨dialogs, hspeaks, ?_⟩
  have hsettles := bench_settles hids hpolls dialogs ecus reqBufs
    fun ecuId _ => hfits ecuId (ecus ecuId)
  refine hsettles.mono fun c hc ecuId hmem => ?_
  rw [← hspeaks]
  exact hc ecuId hmem

/-- Two operators: one changes the session and reads an identifier if that worked, the other
reads the trouble codes. -/
def twoScripts (ecuId : UInt8) : Script :=
  if ecuId = 1 then
    .command (.session 3) fun
      | .ok _ => .command (.readDid [0xF190]) fun _ => .done
      | .error _ => .done
  else .command (.readDtc 0xFF) fun _ => .done

theorem sized_twoScripts (ecuId : UInt8) : (twoScripts ecuId).Sized := by
  unfold twoScripts
  split
  · refine ⟨trivial, fun result => ?_⟩
    cases result with
    | ok output => exact ⟨show 1 ≤ 2047 by decide, fun _ => trivial⟩
    | error e => trivial
  · exact ⟨trivial, fun _ => trivial⟩

theorem valid_two : ∀ ecuId ∈ ([1, 2] : List UInt8), ValidEcuId ecuId := by
  intro ecuId hmem
  rcases List.mem_pair.mp hmem with rfl | rfl <;> decide

theorem scripts_settle_two :
    ∃ dialogs : UInt8 → Dialog (List (Except PyError Output)),
      (∀ ecuId, ∀ {σ : Type} (transport : Transport σ) (s : σ),
        (dialogs ecuId).run transport s = (twoScripts ecuId).run transport s) ∧
      Inevitable ((benchBus _ fun _ => zeroSeed).Patient (benchExpire _ fun _ => zeroSeed)
          (among [1, 2]))
        (fun c => ∀ ecuId ∈ ([1, 2] : List UInt8), Settled c ecuId
          ((twoScripts ecuId).run (ecuTransport zeroSeed) ⟨ecusimInit ecuId .zero, 0, []⟩))
        (benchStart _ (fun _ => zeroSeed) 586 dialogs (fun ecuId => (ecusimInit ecuId .zero, 0))
          fun _ _ => 0) :=
  scripts_settle (fun _ => zeroSeed) valid_two (le_refl 586) twoScripts sized_twoScripts
    (fun ecuId => (ecusimInit ecuId .zero, 0)) fun _ _ => 0

/-! ## Flash tools -/

/-- What a flash tool is to program, where the simulator has flash and the request can say
so. -/
structure FlashJob where
  address : Nat
  image : List UInt8
  addrLen : Nat
  sizeLen : Nat
  unlockLevel : Nat
  encodable : Encodable address image.length addrLen sizeLen
  image_ne : image ≠ []
  inside : address + image.length ≤ udsFlashMaxSize
  odd : unlockLevel % 2 = 1
  level_le : unlockLevel ≤ 253

/-- `flash_tool.py` with `download`, and then with `upload` for as many bytes. -/
def FlashJob.run (job : FlashJob) {σ : Type} (transport : Transport σ) : Py σ (List UInt8) := do
  let _ ← flashDownload transport job.address job.image job.addrLen job.sizeLen job.unlockLevel
  upload transport job.image.length job.address job.image.length job.addrLen job.sizeLen

/-- The flash after the job. -/
def FlashJob.programmed (job : FlashJob) (flash : Mem UInt8) : Mem UInt8 :=
  (flash.fill job.address job.image.length udsFlashEraseValue).store job.address job.image

theorem FlashJob.suits (job : FlashJob) (envs : Nat → Env) (pre : EcuSimulator × Nat → Prop) :
    Suits envs pre fun transport => job.run transport := by
  have haddr := job.encodable.addrLen_le
  have hsize := job.encodable.sizeLen_le
  exact (suits_flashDownload job.address job.image (by omega) job.unlockLevel).bind
    fun _ => suits_upload _ _ _ (by omega)

/-- What has become of a client with a job and of its simulator. -/
def Programmed (envs : Nat → Env) (job : FlashJob) (s : EcuSimulator × Nat)
    (result : Except PyError (List UInt8)) (sim : EcuSimulator) : Prop :=
  (Unlocks envs (programming s.1 ((envs s.2).clock 0)) (s.2 + 1) job.unlockLevel →
    result = .ok job.image ∧ sim.flash.data = job.programmed s.1.flash.data) ∧
  (¬Unlocks envs (programming s.1 ((envs s.2).clock 0)) (s.2 + 1) job.unlockLevel →
    (∃ e, result = .error e) ∧ sim.flash = s.1.flash)

/-- Flash tools at work on simulators that have been used before and are not in the middle
of a transfer: every run of all of them comes to an end, and then every simulator that let
its tool unlock it has the image, and the tool has read it back; the others have the flash
they had, and their tools report an error. -/
theorem flashTools_settle (hids : ∀ ecuId ∈ ecuIds, ValidEcuId ecuId) (hpolls : 586 ≤ polls)
    (jobs : UInt8 → FlashJob) (ecus : UInt8 → EcuSimulator × Nat) (reqBufs : UInt8 → Mem UInt8)
    (hreach : ∀ ecuId ∈ ecuIds, ∃ now,
      Reachable ecusimStep (ecusimInit ecuId now) (ecus ecuId).1)
    (hidle : ∀ ecuId ∈ ecuIds, (ecus ecuId).1.xfer.mode = .idle) :
    ∃ dialogs : UInt8 → Dialog (Except PyError (List UInt8)),
      (∀ ecuId, Speaks (dialogs ecuId) fun transport => (jobs ecuId).run transport) ∧
      Inevitable ((benchBus _ envs).Patient (benchExpire _ envs) (among ecuIds))
        (fun c => ∀ ecuId ∈ ecuIds, ∃ result sim n reqBuf,
          c.state (.client ecuId) = Agent.ret result ∧
            c.state (.server ecuId) = atHead (sim, n) reqBuf ∧
              Programmed (envs ecuId) (jobs ecuId) (ecus ecuId) result sim)
        (benchStart _ envs polls dialogs ecus reqBufs) := by
  choose dialogs hspeaks hfits using
    fun ecuId => (jobs ecuId).suits (envs ecuId) fun _ => True
  refine ⟨dialogs, hspeaks, ?_⟩
  have hsettles := bench_settles hids hpolls dialogs ecus reqBufs
    fun ecuId _ => hfits ecuId (ecus ecuId) trivial
  refine hsettles.mono fun c hc ecuId hmem => ?_
  obtain ⟨hclient, reqBuf, hecu⟩ := hc ecuId hmem
  obtain ⟨now, hreachable⟩ := hreach ecuId hmem
  obtain ⟨result, sim, n, hrun, hunlocks, hnot⟩ := flashDownload_upload_outcome (envs ecuId)
    (n := (ecus ecuId).2) (jobs ecuId).image.length (jobs ecuId).odd (jobs ecuId).level_le
    (jobs ecuId).encodable (programmable_of_reachable hreachable (jobs ecuId).inside)
    (jobs ecuId).image_ne (hidle ecuId hmem) le_rfl
  have hrun' : (dialogs ecuId).run (ecuTransport (envs ecuId))
      ⟨(ecus ecuId).1, (ecus ecuId).2, []⟩ = (result, ⟨sim, n, []⟩) := by
    rw [hspeaks]
    exact hrun
  rw [hrun'] at hclient hecu
  exact ⟨result, sim, n, reqBuf, hclient, hecu, hunlocks, hnot⟩

/-- Three bytes at the beginning of the flash. -/
def smallJob : FlashJob where
  address := 0
  image := [0xDE, 0xAD, 0x01]
  addrLen := 4
  sizeLen := 2
  unlockLevel := 1
  encodable := ⟨by decide, by decide, by decide, by decide, by decide, by decide⟩
  image_ne := by decide
  inside := by decide
  odd := rfl
  level_le := by decide

theorem flashTools_settle_two :
    ∃ dialogs : UInt8 → Dialog (Except PyError (List UInt8)),
      (∀ ecuId : UInt8, Speaks (dialogs ecuId) fun transport => smallJob.run transport) ∧
      Inevitable ((benchBus _ fun _ => zeroSeed).Patient (benchExpire _ fun _ => zeroSeed)
          (among [1, 2]))
        (fun c => ∀ ecuId ∈ ([1, 2] : List UInt8), ∃ result sim n reqBuf,
          c.state (.client ecuId) = Agent.ret result ∧
            c.state (.server ecuId) = atHead (sim, n) reqBuf ∧
              Programmed zeroSeed smallJob (ecusimInit ecuId .zero, 0) result sim)
        (benchStart _ (fun _ => zeroSeed) 586 dialogs (fun ecuId => (ecusimInit ecuId .zero, 0))
          fun _ _ => 0) :=
  flashTools_settle (fun _ => zeroSeed) valid_two (le_refl 586) (fun _ => smallJob)
    (fun ecuId => (ecusimInit ecuId .zero, 0)) (fun _ _ => 0) (fun _ _ => ⟨.zero, [], rfl⟩)
    fun _ _ => rfl

end Tools

end Uds.System
