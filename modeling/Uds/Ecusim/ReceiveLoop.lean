import Uds.Base.History
import Uds.Base.Machine
import Uds.Ecusim.Dispatch
import Uds.Tp.RecvGrammar
/-!
# The receive loop

`ecusim_run` reads one socket at three places: for the first frame of a request,
for Consecutive Frames inside `uds_tp_recv`, and for Flow Control inside
`uds_tp_send`.  One step is one call of `uds_can_recv` or `uds_can_send` with the
code up to the next one.  A frame that comes while the loop is busy waits in the
socket, so the frames that arrive are the frames that are read, in their order.
-/

namespace Uds.Ecusim

open Uds.Base Uds.Can Uds.Tp

/-- `tp_cfg` of `ecusim_run`. -/
def ecusimTpConfig : UdsTpConfig where
  timeoutMs := 100
  blockSize := 0
  stMin := 0

/-- Where `ecusim_run` is. -/
inductive LoopPoint where
  /-- at the head of the loop, before the first frame of a request -/
  | waiting
  /-- inside `uds_tp_recv`, after the first frame -/
  | reassembling (p : RecvProc 8)
  /-- inside `uds_tp_send` -/
  | responding (p : SendProc 8)
  | stopped

structure ReceiveLoop where
  sim : EcuSimulator
  reqBuf : Mem UInt8
  point : LoopPoint

/-- What the loop may find at one step: the outcomes of `uds_can_recv` and
`uds_can_send`, what a dispatch reads, and the value of `running`. -/
structure LoopInput where
  recv : Except UdsCanError CanFrame
  send : Except UdsCanError Unit
  env : Env
  running : Bool

/-- The call that a step made, and the request it passed to `ecusim_dispatch`. -/
structure LoopOutput where
  event : Option (Event CanFrame UdsCanError)
  dispatched : Option (List UInt8)

abbrev LoopTurn := Turn ReceiveLoop LoopInput LoopOutput

section Step

variable (respCanId : UInt32)

/-- The loop inside `uds_tp_send`; it ignores the outcome of the call. -/
def afterSend : SendProc 8 → LoopPoint
  | .ret _ => .waiting
  | p => .responding p

/-- The loop after `uds_tp_recv` has returned. -/
def onRequest (s : ReceiveLoop) (env : Env) (res : UdsTpRecvResult) :
    ReceiveLoop × Option (List UInt8) :=
  -- a timeout and a failed read skip only the message on stderr
  if res.rc ≠ .ok then ({ s with reqBuf := res.buf, point := .waiting }, none)
  else
    let req := res.buf.load 0 res.outLen
    let out := ecusimDispatch s.sim env req ecusimMaxPdu
    ({ sim := out.1
       reqBuf := res.buf
       point :=
        if out.2.length > 0 then afterSend (udsTpSend respCanId out.2 ecusimTpConfig)
        else .waiting }, some req)

/-- The loop inside `uds_tp_recv`. -/
def afterRecv (s : ReceiveLoop) (env : Env) : RecvProc 8 → ReceiveLoop × Option (List UInt8)
  | .ret res => onRequest respCanId s env res
  | p => ({ s with point := .reassembling p }, none)

/-- One action of a call of `uds_tp_recv`. -/
def recvStep (s : ReceiveLoop) (i : LoopInput) (p : RecvProc 8) : ReceiveLoop × LoopOutput :=
  let act := p.answer i.recv i.send
  let next := afterRecv respCanId s i.env act.2
  (next.1, ⟨act.1, next.2⟩)

def ecusimRunStep (s : ReceiveLoop) (i : LoopInput) : ReceiveLoop × LoopOutput :=
  match s.point with
  | .waiting =>
    if i.running then
      recvStep respCanId s i (udsTpRecv respCanId s.reqBuf ecusimMaxPdu 0 ecusimTpConfig)
    else ({ s with point := .stopped }, ⟨none, none⟩)
  | .reassembling p => recvStep respCanId s i p
  | .responding p =>
    let act := p.answer i.recv i.send
    ({ s with point := afterSend act.2 }, ⟨act.1, none⟩)
  | .stopped => (s, ⟨none, none⟩)

end Step

/-! ## Single Frames in a history -/

/-- The loop takes the next frame for the first frame of a request. -/
def LoopPoint.awaits : LoopPoint → Bool
  | waiting => true
  | _ => false

@[simp] theorem LoopPoint.awaits_eq_true {p : LoopPoint} : p.awaits = true ↔ p = waiting := by
  cases p <;> simp [awaits]

/-- The payload of the Single Frame that was read. -/
def LoopOutput.singleFrame (out : LoopOutput) : Option (List UInt8) :=
  (out.event.bind Event.deliver?).bind Tp.singleFrame

/-- The Single Frames read in a history, in their order. -/
def singleFrames (history : List LoopTurn) : List (List UInt8) :=
  history.filterMap fun x => x.output.singleFrame

/-- A request as short as those of Single Frames. -/
def isShort (req : List UInt8) : Bool := req.length ≤ 7

/-- The short requests passed to `ecusim_dispatch`, in their order. -/
def shortRequests (history : List LoopTurn) : List (List UInt8) :=
  (history.filterMap fun x => x.output.dispatched).filter isShort

theorem singleFrames_of_outputs (history : List LoopTurn) :
    singleFrames history = (history.map Turn.output).filterMap LoopOutput.singleFrame := by
  rw [List.filterMap_map]
  rfl

theorem shortRequests_of_outputs (history : List LoopTurn) :
    shortRequests history =
      ((history.map Turn.output).filterMap LoopOutput.dispatched).filter isShort := by
  rw [List.filterMap_map]
  rfl

/-! ## Requests of several frames -/

/-- A call of `uds_tp_recv` that cannot return a short request. -/
def ReturnsLong (p : RecvProc 8) : Prop :=
  ∀ tr res, Steps p tr (.ret res) → res.rc = .ok → 8 ≤ res.outLen

theorem returnsLong_of_ne {res : UdsTpRecvResult} (h : res.rc ≠ .ok) :
    ReturnsLong (.ret res) := by
  intro tr res' hsteps hok
  obtain ⟨-, heq⟩ := hsteps.eq_nil_of_ret
  rw [Proc.ret.inj heq] at hok
  exact absurd hok h

section FirstFrame

variable (txId : UInt32) (buf : Mem UInt8) {bufSize : Nat} (outLen : Nat) (cfg : UdsTpConfig)

theorem returnsLong_recvMulti (ff : CanFrame) {len : Nat} (h : 8 ≤ len) (hfit : len ≤ bufSize) :
    ReturnsLong (recvMulti classic txId cfg bufSize len outLen udsTpFfDataBytes
      (buf.store 0 (ff.slice 2 6))) := by
  intro tr res hsteps hok
  obtain ⟨ins, outs, hexec⟩ := hsteps.exists_exec
  have hrun := received_multi txId buf outLen cfg outs ff h hfit ins
  rw [hexec] at hrun
  have hlen : res.outLen = len := hrun.outLen_of_ok hok
  omega

theorem returnsLong_onFirstFrame {f : CanFrame} (hsix : 6 ≤ bufSize)
    (h : ∀ p, IsSf f p → ¬p.length ≤ bufSize) :
    ReturnsLong (onFirstFrame txId buf bufSize outLen cfg f) := by
  by_cases hff : ∃ len, IsFf f len
  · obtain ⟨len, hlen⟩ := hff
    rw [onFirstFrame_ff txId buf outLen cfg hlen hsix]
    by_cases hfull : len > bufSize % 2 ^ 32
    · rw [if_pos hfull]
      exact returnsLong_of_ne UdsTpError.noConfusion
    · rw [if_neg hfull]
      have hmod := Nat.mod_le bufSize (2 ^ 32)
      exact returnsLong_recvMulti txId buf outLen cfg f hlen.ge (by omega)
  · have hnoff : ∀ len, IsFf f len → ¬6 ≤ bufSize := fun len hlen => absurd ⟨len, hlen⟩ hff
    obtain ⟨rc, hrc, hret⟩ := onFirstFrame_other txId buf outLen cfg h hnoff
    rw [hret]
    exact returnsLong_of_ne hrc

end FirstFrame

/-! ## One turn -/

/-- What is left of a call of `uds_tp_recv` after its first frame returns no short
request. -/
def ReceiveLoop.Inv (s : ReceiveLoop) : Prop :=
  ∀ p, s.point = .reassembling p → ReturnsLong p

/-- A step keeps the invariant, and the short request that it dispatches is the
Single Frame that it reads at the head of the loop. -/
structure Serves (s : ReceiveLoop) (out : ReceiveLoop × LoopOutput) : Prop where
  inv : out.1.Inv
  short : out.2.dispatched.filter isShort = if s.point.awaits then out.2.singleFrame else none

theorem Serves.of_waiting {s : ReceiveLoop} {out : ReceiveLoop × LoopOutput}
    (h : s.point = .waiting) (hinv : out.1.Inv)
    (hshort : out.2.dispatched.filter isShort = out.2.singleFrame) : Serves s out :=
  ⟨hinv, by rw [if_pos (LoopPoint.awaits_eq_true.mpr h), hshort]⟩

theorem Serves.of_busy {s : ReceiveLoop} {out : ReceiveLoop × LoopOutput}
    (h : s.point ≠ .waiting) (hinv : out.1.Inv)
    (hshort : out.2.dispatched.filter isShort = none) : Serves s out :=
  ⟨hinv, by rw [if_neg (mt LoopPoint.awaits_eq_true.mp h), hshort]⟩

section Turns

variable (respCanId : UInt32) (s : ReceiveLoop) (i : LoopInput)

theorem afterSend_ne (p : SendProc 8) (q : RecvProc 8) : afterSend p ≠ .reassembling q := by
  cases p <;> exact LoopPoint.noConfusion

theorem inv_onRequest (env : Env) (res : UdsTpRecvResult) :
    (onRequest respCanId s env res).1.Inv := by
  intro q hq
  unfold onRequest at hq
  by_cases hrc : res.rc ≠ .ok
  · rw [if_pos hrc] at hq
    cases hq
  · rw [if_neg hrc] at hq
    dsimp only at hq
    split at hq
    · exact absurd hq (afterSend_ne _ q)
    · cases hq

theorem dispatched_onRequest_long (env : Env) {res : UdsTpRecvResult}
    (h : res.rc = .ok → 8 ≤ res.outLen) :
    (onRequest respCanId s env res).2.filter isShort = none := by
  unfold onRequest
  by_cases hrc : res.rc ≠ .ok
  · rw [if_pos hrc]
    rfl
  · rw [if_neg hrc]
    have hlen : 8 ≤ res.outLen := h (by simpa using hrc)
    have hlong : ¬res.outLen ≤ 7 := by omega
    apply Option.filter_some_neg
    simpa [isShort] using hlong

theorem dispatched_onRequest_single (env : Env) (buf : Mem UInt8) (req : List UInt8) :
    (onRequest respCanId s env ⟨.ok, buf.store 0 req, req.length⟩).2 = some req := by
  unfold onRequest
  rw [if_neg (by simp), Mem.load_store]

theorem afterRecv_long (env : Env) {p : RecvProc 8} (h : ReturnsLong p) :
    (afterRecv respCanId s env p).1.Inv ∧
      (afterRecv respCanId s env p).2.filter isShort = none := by
  cases p with
  | ret res =>
      exact ⟨inv_onRequest respCanId s env res,
        dispatched_onRequest_long respCanId s env (h [] res .nil)⟩
  | send m k => exact ⟨fun q hq => by rwa [← LoopPoint.reassembling.inj hq], rfl⟩
  | recv k => exact ⟨fun q hq => by rwa [← LoopPoint.reassembling.inj hq], rfl⟩

theorem afterRecv_first (env : Env) (f : CanFrame) :
    (afterRecv respCanId s env (onFirstFrame respCanId s.reqBuf ecusimMaxPdu 0 ecusimTpConfig
        f)).1.Inv ∧
      (afterRecv respCanId s env (onFirstFrame respCanId s.reqBuf ecusimMaxPdu 0 ecusimTpConfig
        f)).2.filter isShort = singleFrame f := by
  have hmax : ecusimMaxPdu = 4095 := rfl
  cases hf : singleFrame f with
  | some req =>
      have hsf : IsSf f req := (singleFrame_eq_some f req).mp hf
      have hle := hsf.le
      rw [onFirstFrame_sf respCanId s.reqBuf 0 ecusimTpConfig hsf (by omega)]
      constructor
      · exact inv_onRequest respCanId s env _
      · rw [afterRecv, dispatched_onRequest_single]
        exact Option.filter_some_pos (decide_eq_true hle)
  | none =>
      apply afterRecv_long
      apply returnsLong_onFirstFrame respCanId s.reqBuf 0 ecusimTpConfig (by omega)
      intro req hsf
      rw [(singleFrame_eq_some f req).mpr hsf] at hf
      cases hf

theorem returnsLong_onRecv_error (err : UdsCanError) (k : CanFrame → RecvProc 8) :
    ReturnsLong (onRecv (⟨·, s.reqBuf, 0⟩) k (.error err)) := by
  cases err with
  | errTimeout => exact returnsLong_of_ne UdsTpError.noConfusion
  | _ => exact returnsLong_of_ne UdsTpError.noConfusion

theorem recvStep_udsTpRecv :
    recvStep respCanId s i (udsTpRecv respCanId s.reqBuf ecusimMaxPdu 0 ecusimTpConfig) =
      let next := afterRecv respCanId s i.env (onRecv (⟨·, s.reqBuf, 0⟩)
        (onFirstFrame respCanId s.reqBuf ecusimMaxPdu 0 ecusimTpConfig) i.recv)
      (next.1, ⟨some (.recvd i.recv), next.2⟩) := by
  rfl

theorem serves_waiting (h : s.point = .waiting) : Serves s (ecusimRunStep respCanId s i) := by
  unfold ecusimRunStep
  simp only [h]
  by_cases hrun : i.running = true
  · rw [if_pos hrun, recvStep_udsTpRecv]
    cases hrecv : i.recv with
    | error err =>
        have hfail := afterRecv_long respCanId s i.env (returnsLong_onRecv_error s err
          (onFirstFrame respCanId s.reqBuf ecusimMaxPdu 0 ecusimTpConfig))
        exact .of_waiting h hfail.1 hfail.2
    | ok f =>
        have hfirst := afterRecv_first respCanId s i.env f
        exact .of_waiting h hfirst.1 hfirst.2
  · rw [if_neg hrun]
    exact .of_waiting h (fun p hp => LoopPoint.noConfusion hp) rfl

theorem serves_reassembling {p : RecvProc 8} (hp : ReturnsLong p)
    (h : s.point = .reassembling p) : Serves s (ecusimRunStep respCanId s i) := by
  have hlong := afterRecv_long respCanId s i.env (Proc.of_answer i.recv i.send hp)
  have hbusy : s.point ≠ .waiting := by simp [h]
  unfold ecusimRunStep
  simp only [h]
  exact .of_busy hbusy hlong.1 hlong.2

theorem serves_responding {p : SendProc 8} (h : s.point = .responding p) :
    Serves s (ecusimRunStep respCanId s i) := by
  have hbusy : s.point ≠ .waiting := by simp [h]
  unfold ecusimRunStep
  simp only [h]
  exact .of_busy hbusy (fun q hq => absurd hq (afterSend_ne _ q)) rfl

theorem serves_stopped (h : s.point = .stopped) : Serves s (ecusimRunStep respCanId s i) := by
  have hbusy : s.point ≠ .waiting := by simp [h]
  have hinv : s.Inv := fun q hq => absurd (h.symm.trans hq) LoopPoint.noConfusion
  unfold ecusimRunStep
  simp only [h]
  exact .of_busy hbusy hinv rfl

theorem serves_step (hs : s.Inv) : Serves s (ecusimRunStep respCanId s i) := by
  cases h : s.point with
  | waiting => exact serves_waiting respCanId s i h
  | reassembling p => exact serves_reassembling respCanId s i (hs p h) h
  | responding p => exact serves_responding respCanId s i h
  | stopped => exact serves_stopped respCanId s i h

end Turns

/-! ## Every run -/

section Runs

variable (respCanId : UInt32) (sim : EcuSimulator) (reqBuf : Mem UInt8)

/-- The history of `ecusim_run` from its start, whatever is found at each step. -/
def ecusimRun (inputs : List LoopInput) : List LoopTurn :=
  turnsFrom (ecusimRunStep respCanId) ⟨sim, reqBuf, .waiting⟩ inputs

theorem short_of_turn (inputs : List LoopInput) :
    ∀ x ∈ ecusimRun respCanId sim reqBuf inputs, x.output.dispatched.filter isShort =
      if x.pre.point.awaits then x.output.singleFrame else none := by
  apply forall_turns (ecusimRunStep respCanId) ReceiveLoop.Inv (P := fun x =>
    x.output.dispatched.filter isShort = if x.pre.point.awaits then x.output.singleFrame else none)
  · exact fun p hp => LoopPoint.noConfusion hp
  · exact fun s i hs => (serves_step respCanId s i hs).inv
  · exact fun s i hs => (serves_step respCanId s i hs).short

theorem shortRequests_eq (inputs : List LoopInput) :
    shortRequests (ecusimRun respCanId sim reqBuf inputs) =
      singleFrames ((ecusimRun respCanId sim reqBuf inputs).filter fun x =>
        x.pre.point.awaits) := by
  unfold shortRequests singleFrames
  rw [List.filter_filterMap, List.filterMap_filter]
  apply List.filterMap_congr
  exact short_of_turn respCanId sim reqBuf inputs

theorem shortRequests_eq_iff (inputs : List LoopInput) :
    shortRequests (ecusimRun respCanId sim reqBuf inputs) =
        singleFrames (ecusimRun respCanId sim reqBuf inputs) ↔
      ∀ x ∈ ecusimRun respCanId sim reqBuf inputs, x.output.singleFrame ≠ none →
        x.pre.point.awaits := by
  rw [shortRequests_eq]
  exact filterMap_filter_eq_iff _ _ _

/-- In every run the short requests that `ecusim_dispatch` gets are the Single
Frames read while the loop awaits the first frame of a request, each once and in
their order.  So none is lost exactly when every Single Frame is read there. -/
theorem ecusimRun_singleFrames (inputs : List LoopInput) :
    shortRequests (ecusimRun respCanId sim reqBuf inputs) =
        singleFrames ((ecusimRun respCanId sim reqBuf inputs).filter fun x =>
          x.pre.point.awaits) ∧
      (shortRequests (ecusimRun respCanId sim reqBuf inputs) =
          singleFrames (ecusimRun respCanId sim reqBuf inputs) ↔
        ∀ x ∈ ecusimRun respCanId sim reqBuf inputs, x.output.singleFrame ≠ none →
          x.pre.point.awaits) :=
  ⟨shortRequests_eq respCanId sim reqBuf inputs, shortRequests_eq_iff respCanId sim reqBuf inputs⟩

end Runs

/-! ## A Single Frame that is lost -/

section Stray

variable (respCanId : UInt32) (s : ReceiveLoop) (i : LoopInput) {len : Nat}

theorem step_firstFrame {f : CanFrame} (h : s.point = .waiting) (hrun : i.running = true)
    (hrecv : i.recv = .ok f) (hff : IsFf f len) :
    ecusimRunStep respCanId s i =
      ({ s with point := .reassembling (sendFrame (⟨·, s.reqBuf.store 0 (f.slice 2 6), 0⟩)
            (.ok (flowControlFrame classic respCanId ecusimTpConfig))
            (recvLoop classic respCanId ecusimTpConfig ecusimMaxPdu len 0 6 1 0
              (s.reqBuf.store 0 (f.slice 2 6)))) },
        ⟨some (.recvd (.ok f)), none⟩) := by
  have hfit : ¬len > ecusimMaxPdu % 2 ^ 32 := Nat.not_lt.mpr hff.le
  unfold ecusimRunStep
  simp only [h]
  rw [if_pos hrun, recvStep_udsTpRecv, hrecv, onRecv,
    onFirstFrame_ff respCanId s.reqBuf 0 ecusimTpConfig hff (by decide), if_neg hfit, recvMulti,
    encodeFc_cts]
  rfl

theorem step_flowControl {fail : UdsTpError → UdsTpRecvResult} {fc : CanFrame} {p : RecvProc 8}
    (h : s.point = .reassembling (sendFrame fail (.ok fc) p)) (hsend : i.send = .ok ())
    (hp : ∀ res, p ≠ .ret res) :
    ecusimRunStep respCanId s i =
      ({ s with point := .reassembling p }, ⟨some (.sent fc (.ok ())), none⟩) := by
  unfold ecusimRunStep
  simp only [h]
  rw [sendFrame, recvStep, Proc.answer, hsend, onSend]
  cases p with
  | ret res => exact absurd rfl (hp res)
  | send m k => rfl
  | recv k => rfl

section Reassembly

variable {received : Nat} (sn : Nat) (buf : Mem UInt8) (hlt : received < len)
include hlt

theorem recvLoop_reads :
    ∃ k, recvLoop classic respCanId ecusimTpConfig ecusimMaxPdu len 0 received sn 0 buf =
      recvFrame (⟨·, buf, 0⟩)
        (storeConsecutive classic ecusimMaxPdu 0 received sn
          (min classic.cfDataBytes (len - received)) buf k) := by
  have hroom : ¬(0 < ecusimTpConfig.blockSize.toNat ∧ ecusimTpConfig.blockSize.toNat ≤ 0) := by
    decide
  exact ⟨_, recvLoop_of_room sn hlt hroom⟩

theorem step_stray {f : CanFrame}
    (h : s.point = .reassembling
      (recvLoop classic respCanId ecusimTpConfig ecusimMaxPdu len 0 received sn 0 buf))
    (hrecv : i.recv = .ok f) (hf : frameType f ≠ .cf) :
    ecusimRunStep respCanId s i =
      ({ s with reqBuf := buf, point := .waiting }, ⟨some (.recvd (.ok f)), none⟩) := by
  obtain ⟨k, hloop⟩ := recvLoop_reads respCanId sn buf hlt
  unfold ecusimRunStep
  simp only [h]
  rw [hloop, recvFrame, recvStep, Proc.answer, hrecv, onRecv, storeConsecutive, if_pos hf]
  rfl

end Reassembly

end Stray

theorem stray_lost (respCanId : UInt32) (sim : EcuSimulator) (reqBuf : Mem UInt8)
    (i₁ i₂ i₃ : LoopInput) {ff sf : CanFrame} {len : Nat} {req : List UInt8}
    (hrun : i₁.running = true) (hrecv₁ : i₁.recv = .ok ff) (hff : IsFf ff len)
    (hsend : i₂.send = .ok ()) (hrecv₃ : i₃.recv = .ok sf) (hsf : IsSf sf req) :
    shortRequests (ecusimRun respCanId sim reqBuf [i₁, i₂, i₃]) = [] ∧
      singleFrames (ecusimRun respCanId sim reqBuf [i₁, i₂, i₃]) = [req] := by
  have hlt : 6 < len := by
    have hge := hff.ge
    omega
  have htype : frameType sf ≠ .cf := by
    have hpci := hsf.pci
    have hle := hsf.le
    rw [Ne, frameType_eq_cf]
    omega
  have hnosf : Tp.singleFrame ff = none := by
    apply Option.eq_none_iff_forall_ne_some.mpr
    exact fun p hp => hff.not_isSf ((singleFrame_eq_some ff p).mp hp)
  have hloop (buf : Mem UInt8) (res : UdsTpRecvResult) :
      recvLoop classic respCanId ecusimTpConfig ecusimMaxPdu len 0 6 1 0 buf ≠ .ret res := by
    obtain ⟨k, heq⟩ := recvLoop_reads respCanId 1 buf hlt
    simp [heq, recvFrame]
  have hfirst := step_firstFrame respCanId ⟨sim, reqBuf, .waiting⟩ i₁ rfl hrun hrecv₁ hff
  have hflow := step_flowControl respCanId _ i₂ (congrArg (·.1.point) hfirst) hsend (hloop _)
  have hstray := step_stray respCanId _ i₃ 1 _ hlt (congrArg (·.1.point) hflow) hrecv₃ htype
  have hturns : (ecusimRun respCanId sim reqBuf [i₁, i₂, i₃]).map Turn.output =
      [⟨some (.recvd (.ok ff)), none⟩,
        ⟨some (.sent (flowControlFrame classic respCanId ecusimTpConfig) (.ok ())), none⟩,
        ⟨some (.recvd (.ok sf)), none⟩] := by
    simp only [ecusimRun, turnsFrom, turn, List.map_cons, List.map_nil]
    rw [hstray, hflow, hfirst]
  constructor
  · rw [shortRequests_of_outputs, hturns]
    rfl
  · rw [singleFrames_of_outputs, hturns]
    have hsome : Tp.singleFrame sf = some req := (singleFrame_eq_some sf req).mpr hsf
    simp [List.filterMap_cons, LoopOutput.singleFrame, Event.deliver?, hnosf, hsome]

/-- A frame on the request identifier of ECU 1. -/
def arrives (bytes : List UInt8) : LoopInput where
  recv := .ok (.ofBytes 0x601 8 Frame.le_classic bytes)
  send := .ok ()
  env := ⟨fun _ => ⟨0, 0⟩, fun _ => 0⟩
  running := true

/-- The First Frame of an 0x2E request, the Flow Control for it, and a 0x3E
request instead of the Consecutive Frame. -/
def strayTesterPresent : List LoopInput :=
  [arrives [0x10, 8, 0x2E, 0x01, 0x01, 0, 0, 0], arrives [], arrives [2, 0x3E, 0x80]]

/-- A keep-alive that arrives during another request is not dispatched. -/
theorem strayTesterPresent_lost :
    shortRequests (ecusimRun 0x681 (ecusimInit 1 ⟨0, 0⟩) (fun _ => 0) strayTesterPresent) ≠
      singleFrames (ecusimRun 0x681 (ecusimInit 1 ⟨0, 0⟩) (fun _ => 0) strayTesterPresent) := by
  have hff : IsFf (.ofBytes 0x601 8 le_rfl [0x10, 8, 0x2E, 0x01, 0x01, 0, 0, 0]) 8 :=
    ⟨by decide, by decide, by decide, by decide, rfl⟩
  have hsf : IsSf (.ofBytes 0x601 8 le_rfl [2, 0x3E, 0x80]) [0x3E, 0x80] :=
    ⟨by decide, by decide, by decide, by decide, by decide⟩
  obtain ⟨hshort, hsingle⟩ := stray_lost 0x681 (ecusimInit 1 ⟨0, 0⟩) (fun _ => 0)
    (arrives [0x10, 8, 0x2E, 0x01, 0x01, 0, 0, 0]) (arrives []) (arrives [2, 0x3E, 0x80])
    rfl rfl hff rfl rfl hsf
  rw [strayTesterPresent, hshort, hsingle]
  exact List.cons_ne_nil _ _ ∘ Eq.symm

end Uds.Ecusim
