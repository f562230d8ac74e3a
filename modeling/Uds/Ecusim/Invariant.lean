import Uds.Ecusim.Runs
/-!
# Reachable states

What holds in every state that a run of requests leads to: the registries keep
their sizes and the flash its region table, a transfer in progress has the fixed
block size, and an idle transfer session is the initial one.
-/

namespace Uds.Ecusim

open Uds.Base Uds.Core Uds.Bootloader

/-- The size of a buffer of `did_data`. -/
def didDataSize : Nat := 32

structure SimInv (sim : EcuSimulator) : Prop where
  didData : ∀ e ∈ sim.didReg, e.data.length ≤ didDataSize
  dtcs : sim.dtcReg.length ≤ ecusimMaxDtcs
  regions : sim.flash.regions = defaultRegions
  idle : sim.xfer.mode = .idle → sim.xfer = udsXferInit
  active : sim.xfer.mode ≠ .idle → sim.xfer.maxBlockSize = flashMaxBlockData

theorem SimInv.init (ecuId : UInt8) (now : Timespec) : SimInv (ecusimInit ecuId now) where
  didData := by
    change ∀ e ∈ defaultDids, e.data.length ≤ didDataSize
    decide
  dtcs := by
    change defaultDtcs.length ≤ ecusimMaxDtcs
    decide
  regions := rfl
  idle := fun _ => rfl
  active := fun h => absurd rfl h

section Frame

variable (sim : EcuSimulator) (env : Env) (req : List UInt8) (respSz : Nat) (svc : Service)

theorem serve_didReg (h2E : svc ≠ .writeDataByIdentifier) :
    (serve sim env req respSz svc).1.didReg = sim.didReg := by
  cases svc with
  | writeDataByIdentifier => contradiction
  | requestTransferExit => rfl
  | _ => simp only [serve]; repeat (first | rfl | split)

theorem serve_dtcReg (h14 : svc ≠ .clearDiagnosticInformation) :
    (serve sim env req respSz svc).1.dtcReg = sim.dtcReg := by
  cases svc with
  | clearDiagnosticInformation => contradiction
  | requestTransferExit => rfl
  | _ => simp only [serve]; repeat (first | rfl | split)

theorem serve_xfer (h34 : svc ≠ .requestDownload) (h35 : svc ≠ .requestUpload)
    (h36 : svc ≠ .transferData) (h37 : svc ≠ .requestTransferExit) :
    (serve sim env req respSz svc).1.xfer = sim.xfer := by
  cases svc with
  | requestDownload => contradiction
  | requestUpload => contradiction
  | transferData => contradiction
  | requestTransferExit => contradiction
  | _ => simp only [serve]; repeat (first | rfl | split)

theorem serve_flash (h34 : svc ≠ .requestDownload) (h36 : svc ≠ .transferData) :
    (serve sim env req respSz svc).1.flash = sim.flash := by
  cases svc with
  | requestDownload => contradiction
  | transferData => contradiction
  | requestTransferExit => rfl
  | _ => simp only [serve]; repeat (first | rfl | split)

/-- A dispatch leaves the registry alone, or stores data of the registered length. -/
theorem serve_didReg_cases :
    (serve sim env req respSz svc).1.didReg = sim.didReg ∨
      ∃ didId data entry, didFind sim.didReg didId = some entry ∧
        data.length = entry.data.length ∧
          (serve sim env req respSz svc).1.didReg = didStore data didId sim.didReg := by
  by_cases h2E : svc = .writeDataByIdentifier
  · subst h2E
    simp only [serve]
    split
    · exact Or.inl rfl
    · generalize hout : udsSvcWriteDid sim.didReg _ _ _ _ respSz = out
      cases hresp : out.2 with
      | error e =>
          rw [← hout] at hresp ⊢
          exact Or.inl (udsSvcWriteDid_error hresp)
      | ok resp =>
          rw [← hout] at hresp ⊢
          obtain ⟨entry, hfind, -, -, -, hlen, hreg⟩ := udsSvcWriteDid_ok hresp
          exact Or.inr ⟨_, _, entry, hfind, hlen, hreg⟩
  · exact Or.inl (serve_didReg sim env req respSz svc h2E)

theorem serve_didData (h : ∀ e ∈ sim.didReg, e.data.length ≤ didDataSize) :
    ∀ e ∈ (serve sim env req respSz svc).1.didReg, e.data.length ≤ didDataSize := by
  rcases serve_didReg_cases sim env req respSz svc with
    hsame | ⟨didId, data, entry, hfind, hlen, hreg⟩
  · rw [hsame]
    exact h
  · rw [hreg]
    have hsize : data.length ≤ didDataSize := by
      rw [hlen]
      exact h entry (mem_of_didFind hfind)
    exact forall_didStore (fun _ _ => hsize) h

theorem serve_dtcs : (serve sim env req respSz svc).1.dtcReg.length = sim.dtcReg.length := by
  by_cases h14 : svc = .clearDiagnosticInformation
  · subst h14
    simp only [serve]
    split
    · rfl
    · exact length_udsSvcClearDtc ..
  · rw [serve_dtcReg sim env req respSz svc h14]

theorem serve_regions : (serve sim env req respSz svc).1.flash.regions = sim.flash.regions := by
  cases svc with
  | requestDownload =>
      simp only [serve]
      split
      · rfl
      · exact requestDownload_regions ..
  | transferData =>
      simp only [serve]
      split
      · rfl
      · exact transferData_regions ..
  | requestTransferExit => rfl
  | _ => simp only [serve]; repeat (first | rfl | split)

theorem serve_xfer_cases :
    (serve sim env req respSz svc).1.xfer = sim.xfer ∨
      (serve sim env req respSz svc).1.xfer = udsXferInit ∨
      (∃ mode address memSize, mode ≠ .idle ∧
        (serve sim env req respSz svc).1.xfer = startXfer mode address memSize) ∨
      (sim.xfer.mode ≠ .idle ∧ ∃ transferred blockSeq, (serve sim env req respSz svc).1.xfer =
        { sim.xfer with transferred := transferred, blockSeq := blockSeq }) := by
  by_cases h34 : svc = .requestDownload
  · subst h34
    simp only [serve]
    split
    · exact Or.inl rfl
    · rcases requestDownload_xfer sim.xfer sim.flash (req.getD 2 0) (req.drop 3) respSz with
        hsame | ⟨address, memSize, hstart⟩
      · exact Or.inl hsame
      · exact Or.inr (Or.inr (Or.inl ⟨.download, address, memSize, by decide, hstart⟩))
  · by_cases h35 : svc = .requestUpload
    · subst h35
      simp only [serve]
      split
      · exact Or.inl rfl
      · rcases requestUpload_xfer sim.xfer sim.flash (req.getD 2 0) (req.drop 3) respSz with
          hsame | ⟨address, memSize, hstart⟩
        · exact Or.inl hsame
        · exact Or.inr (Or.inr (Or.inl ⟨.upload, address, memSize, by decide, hstart⟩))
    · by_cases h36 : svc = .transferData
      · subst h36
        simp only [serve]
        split
        · exact Or.inl rfl
        · rcases transferData_xfer sim.xfer sim.flash (req.getD 1 0) (req.drop 2) respSz with
            hsame | hmoved
          · exact Or.inl hsame
          · exact Or.inr (Or.inr (Or.inr hmoved))
      · by_cases h37 : svc = .requestTransferExit
        · subst h37
          rcases transferExit_xfer sim.xfer respSz with hsame | hinit
          · exact Or.inl hsame
          · exact Or.inr (Or.inl hinit)
        · exact Or.inl (serve_xfer sim env req respSz svc h34 h35 h36 h37)

end Frame

theorem SimInv.serve {sim : EcuSimulator} (h : SimInv sim) (env : Env) (req : List UInt8)
    (respSz : Nat) (svc : Service) : SimInv (serve sim env req respSz svc).1 where
  didData := serve_didData sim env req respSz svc h.didData
  dtcs := by
    rw [serve_dtcs]
    exact h.dtcs
  regions := by
    rw [serve_regions]
    exact h.regions
  idle := by
    intro hidle
    rcases serve_xfer_cases sim env req respSz svc with
      hsame | hinit | ⟨mode, _, _, hmode, hstart⟩ | ⟨hactive, _, _, hmoved⟩
    · rw [hsame] at hidle ⊢
      exact h.idle hidle
    · exact hinit
    · rw [hstart] at hidle
      exact absurd hidle hmode
    · rw [hmoved] at hidle
      exact absurd hidle hactive
  active := by
    intro hmode
    rcases serve_xfer_cases sim env req respSz svc with
      hsame | hinit | ⟨_, _, _, -, hstart⟩ | ⟨hactive, _, _, hmoved⟩
    · rw [hsame] at hmode ⊢
      exact h.active hmode
    · rw [hinit] at hmode
      exact absurd rfl hmode
    · rw [hstart]
      rfl
    · rw [hmoved]
      exact h.active hactive

theorem SimInv.step {sim : EcuSimulator} (h : SimInv sim) (i : Input) :
    SimInv (ecusimStep sim i).1 := by
  rcases ecusimStep_cases sim i with ⟨svc, hreq⟩ | ⟨-, hsame⟩
  · rw [ecusimStep_of_head _ hreq]
    exact h.serve i.env i.req ecusimMaxPdu svc
  · rw [hsame]
    exact h

theorem simInv_of_reachable {ecuId : UInt8} {now : Timespec} {sim : EcuSimulator}
    (h : Reachable ecusimStep (ecusimInit ecuId now) sim) : SimInv sim :=
  h.invariant ecusimStep SimInv (SimInv.init ecuId now) fun _ i hinv => hinv.step i

end Uds.Ecusim
