import Uds.Ecusim.Invariant
/-!
# ECU reset

An accepted reset should bring all volatile state back to what `ecusim_init`
left.  The source restores session and security but not the transfer session,
so a reset in the middle of a transfer leaves an ECU that refuses every new
one; a reset outside a transfer does all it should.
-/

namespace Uds.Ecusim

open Uds.Base Uds.Core Uds.Bootloader

/-- The volatile state of `sim` is that of `fresh`. -/
structure Restored (fresh sim : EcuSimulator) : Prop where
  type : sim.session.type = fresh.session.type
  securityLevel : sim.session.securityLevel = fresh.session.securityLevel
  security : sim.security = fresh.security
  xfer : sim.xfer = fresh.xfer

/-- A 0x34 or 0x35 request has the same outcome as on `fresh` with the same
flash contents. -/
def TransfersAsFresh (fresh sim : EcuSimulator) : Prop :=
  ∀ i : Input, i.req.head? = some 0x34 ∨ i.req.head? = some 0x35 →
    (ecusimStep sim i).2 = (ecusimStep { fresh with flash := sim.flash } i).2 ∧
      (ecusimStep sim i).1.xfer = (ecusimStep { fresh with flash := sim.flash } i).1.xfer ∧
      (ecusimStep sim i).1.flash = (ecusimStep { fresh with flash := sim.flash } i).1.flash

theorem step_of_reset {sim : EcuSimulator} {i : Input}
    (h : Positive .ecuReset (turn ecusimStep sim i)) :
    (ecusimStep sim i).1 =
      { sim with
        session := udsCoreSessionInit sim.ecuId none (i.env.clock 0)
        security := udsCoreSecurityInit } := by
  have hreq : i.req.head? = some Service.ecuReset.sid := h.1
  have hok := serve_of_positive h
  rw [ecusimStep_of_head _ hreq] at hok ⊢
  rcases serve_ecuReset_cases sim i.env i.req ecusimMaxPdu with ⟨e, herr⟩ | heq
  · rw [herr] at hok
    cases hok
  · rw [heq]

theorem restored_iff {ecuId : UInt8} {now : Timespec} {sim : EcuSimulator} {i : Input}
    (hinv : SimInv sim) (h : Positive .ecuReset (turn ecusimStep sim i)) :
    Restored (ecusimInit ecuId now) (ecusimStep sim i).1 ↔ sim.xfer.mode = .idle := by
  rw [step_of_reset h]
  constructor
  · intro hrestored
    have hxfer : sim.xfer = udsXferInit := hrestored.xfer
    rw [hxfer]
    rfl
  · intro hidle
    exact ⟨rfl, rfl, rfl, hinv.idle hidle⟩

theorem transfersAsFresh_of_xfer {fresh sim : EcuSimulator} (h : sim.xfer = fresh.xfer) :
    TransfersAsFresh fresh sim := by
  intro i hreq
  rcases hreq with hreq | hreq
  · change i.req.head? = some Service.requestDownload.sid at hreq
    rw [ecusimStep_of_head _ hreq, ecusimStep_of_head _ hreq]
    simp only [serve, h]
    split
    · exact ⟨rfl, h, rfl⟩
    · exact ⟨rfl, rfl, rfl⟩
  · change i.req.head? = some Service.requestUpload.sid at hreq
    rw [ecusimStep_of_head _ hreq, ecusimStep_of_head _ hreq]
    simp only [serve, h]
    split
    · exact ⟨rfl, h, rfl⟩
    · exact ⟨rfl, rfl, rfl⟩

theorem requestDownload_refused {sim : EcuSimulator} (h : sim.xfer.mode ≠ .idle) (env : Env) :
    (ecusimStep sim ⟨env, [0x34, 0x00, 0x00]⟩).2 = [0x7F, 0x34, 0x22] := by
  have hhead : (0x34 :: [0x00, 0x00]).head? = some Service.requestDownload.sid := rfl
  rw [ecusimStep_of_head sim hhead]
  simp only [serve, udsSvcRequestDownload]
  rw [if_neg (by decide), if_pos h]
  rfl

theorem requestDownload_of_idle {sim : EcuSimulator} (h : sim.xfer.mode = .idle) (env : Env) :
    (ecusimStep sim ⟨env, [0x34, 0x00, 0x00]⟩).2 = [0x7F, 0x34, 0x13] := by
  have hhead : (0x34 :: [0x00, 0x00]).head? = some Service.requestDownload.sid := rfl
  rw [ecusimStep_of_head sim hhead]
  simp only [serve, udsSvcRequestDownload]
  rw [if_neg (by decide), if_neg (by simpa using h)]
  rfl

theorem transfersAsFresh_iff {ecuId : UInt8} {now : Timespec} {sim : EcuSimulator} {i : Input}
    (hinv : SimInv sim) (h : Positive .ecuReset (turn ecusimStep sim i)) :
    TransfersAsFresh (ecusimInit ecuId now) (ecusimStep sim i).1 ↔ sim.xfer.mode = .idle := by
  have hxfer : (ecusimStep sim i).1.xfer = sim.xfer := by rw [step_of_reset h]
  constructor
  · intro hfresh
    by_contra hactive
    have hresp := (hfresh ⟨i.env, [0x34, 0x00, 0x00]⟩ (Or.inl rfl)).1
    rw [requestDownload_refused (by rw [hxfer]; exact hactive),
      requestDownload_of_idle rfl] at hresp
    exact absurd hresp (by decide)
  · intro hidle
    apply transfersAsFresh_of_xfer
    rw [hxfer]
    exact hinv.idle hidle

/-- In every reachable state, an accepted reset restores the initial volatile
state, and transfers start as on a fresh ECU, exactly when no transfer was in
progress. -/
theorem ecuReset_iff {ecuId : UInt8} {now : Timespec} {sim : EcuSimulator} {i : Input}
    (hreach : Reachable ecusimStep (ecusimInit ecuId now) sim)
    (h : Positive .ecuReset (turn ecusimStep sim i)) :
    (Restored (ecusimInit ecuId now) (ecusimStep sim i).1 ↔ sim.xfer.mode = .idle) ∧
      (TransfersAsFresh (ecusimInit ecuId now) (ecusimStep sim i).1 ↔
        sim.xfer.mode = .idle) :=
  ⟨restored_iff (simInv_of_reachable hreach) h, transfersAsFresh_iff (simInv_of_reachable hreach) h⟩

/-- A download of three bytes has been accepted. -/
def midDownload : EcuSimulator :=
  runFrom ecusimStep (ecusimInit 1 .zero) (schedule [(0, [0x34, 0x00, 0x11, 0x05, 0x03])])

def hardReset : Input := ⟨⟨fun _ => .zero, fun _ => 0⟩, [0x11, 0x01]⟩

theorem ecuReset_iff_midDownload :
    (Restored (ecusimInit 1 .zero) (ecusimStep midDownload hardReset).1 ↔
        midDownload.xfer.mode = .idle) ∧
      (TransfersAsFresh (ecusimInit 1 .zero) (ecusimStep midDownload hardReset).1 ↔
        midDownload.xfer.mode = .idle) :=
  ecuReset_iff ⟨_, rfl⟩ (by decide)

/-- Resetting there leaves the download in progress. -/
theorem ecuReset_fails :
    Reachable ecusimStep (ecusimInit 1 .zero) midDownload ∧
      Positive .ecuReset (turn ecusimStep midDownload hardReset) ∧
        ¬Restored (ecusimInit 1 .zero) (ecusimStep midDownload hardReset).1 := by
  refine ⟨⟨_, rfl⟩, by decide, ?_⟩
  intro h
  exact absurd h.xfer (by decide)

end Uds.Ecusim
