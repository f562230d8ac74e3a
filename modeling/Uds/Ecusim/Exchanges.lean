import Uds.Ecusim.ReceiveLoop
import Uds.Ecusim.ResponseFormat
import Uds.Ecusim.Runs
import Uds.Tp.Progress
/-!
# The server behind the loop

Seen from the bus `ecusim_run` is a series of exchanges: it listens until its calls are those
for one PDU or cannot become so, dispatches the PDU, and sends what the dispatch returns.
Every run of the loop is such a series, whatever arrives and whichever calls fail, and the
simulator goes through a run of requests.
-/

namespace Uds.Ecusim

open Uds.Base Uds.Can Uds.Tp

/-- The calls for a request, the request that is dispatched, and the calls for its response. -/
structure Exchange where
  heard : List CanEvent
  request : Option Input
  said : List CanEvent

def Exchange.events (x : Exchange) : List CanEvent := x.heard ++ x.said

/-- An exchange as a step of the simulator. -/
def exchangeStep (sim : EcuSimulator) (x : Exchange) : EcuSimulator × List UInt8 :=
  match x.request with
  | some i => ecusimStep sim i
  | none => (sim, [])

/-- The Flow Control of `ecusim_run`. -/
def ecusimFlow (respCanId : UInt32) : CanFrame := flowControlFrame classic respCanId ecusimTpConfig

/-- The calls of an exchange are those of a listener and of a sender of the response. -/
structure Faithful (respCanId : UInt32) (x : Turn EcuSimulator Exchange (List UInt8)) : Prop where
  hears : Hears (ecusimFlow respCanId) x.input.heard (x.input.request.map Input.req)
  heard_le : x.input.heard.length ≤ 587
  replies : Replies respCanId x.output x.input.said

/-- An exchange that is over: nothing more can be heard, and nothing is left to send, unless the
last call for it let the loop down. -/
structure Over (respCanId : UInt32) (x : Turn EcuSimulator Exchange (List UInt8)) : Prop where
  heard : ¬Unfinished (ecusimFlow respCanId) x.input.heard
  replied : Replied respCanId x.output x.input.said

theorem Faithful.of_hears {respCanId : UInt32} {x : Turn EcuSimulator Exchange (List UInt8)}
    (h : Hears (ecusimFlow respCanId) x.input.heard (x.input.request.map Input.req))
    (h' : Replies respCanId x.output x.input.said) : Faithful respCanId x :=
  ⟨h, h.length_le, h'⟩

/-- The calls of a history, in their order. -/
def loopEvents (history : List LoopTurn) : List CanEvent :=
  history.filterMap fun x => x.output.event

/-- The requests dispatched in a history, in their order. -/
def loopRequests (history : List LoopTurn) : List Input :=
  history.filterMap fun x => x.output.dispatched.map (⟨x.input.env, ·⟩)

theorem runFrom_exchanges (sim : EcuSimulator) (xs : List Exchange) :
    runFrom exchangeStep sim xs = runFrom ecusimStep sim (xs.filterMap Exchange.request) := by
  induction xs generalizing sim with
  | nil => rfl
  | cons x xs ih =>
      rw [runFrom, ih]
      cases hreq : x.request with
      | none => rw [exchangeStep, hreq, List.filterMap_cons_none hreq]
      | some i => rw [exchangeStep, hreq, List.filterMap_cons_some hreq, runFrom]

section Loop

variable (respCanId : UInt32) (sim₀ : EcuSimulator)

/-- A series of exchanges, and the simulator after them. -/
structure Exchanged (xs : List Exchange) (sim : EcuSimulator) : Prop where
  faithful : ∀ x ∈ turnsFrom exchangeStep sim₀ xs, Faithful respCanId x
  /-- only the last one may be under way -/
  ended : ∀ x ∈ (turnsFrom exchangeStep sim₀ xs).dropLast, Over respCanId x
  sim_eq : runFrom exchangeStep sim₀ xs = sim

/-- The last one is over, too. -/
structure Finished (xs : List Exchange) (sim : EcuSimulator) : Prop where
  exchanged : Exchanged respCanId sim₀ xs sim
  ended : ∀ x ∈ turnsFrom exchangeStep sim₀ xs, Over respCanId x

/-- The exchanges up to a point of the loop. -/
inductive Conversing : List Exchange → ReceiveLoop → Prop where
  | waiting {xs : List Exchange} {s : ReceiveLoop} (hpoint : s.point = .waiting)
      (h : Finished respCanId sim₀ xs s.sim) : Conversing xs s
  | reassembling {xs : List Exchange} {s : ReceiveLoop} {p : RecvProc 8} (buf : Mem UInt8)
      {tr : List CanEvent} (hpoint : s.point = .reassembling p)
      (h : Finished respCanId sim₀ xs s.sim)
      (hsteps : Steps (udsTpRecv respCanId buf ecusimMaxPdu 0 ecusimTpConfig) tr p)
      (hp : ∀ res, p ≠ .ret res) : Conversing (xs ++ [⟨tr, none, []⟩]) s
  | responding {xs : List Exchange} {s : ReceiveLoop} {p : SendProc 8} {sim : EcuSimulator}
      {heard tr : List CanEvent} {i : Input} (hpoint : s.point = .responding p)
      (h : Finished respCanId sim₀ xs sim) (hsim : s.sim = (ecusimStep sim i).1)
      (hheard : Hears (ecusimFlow respCanId) heard (some i.req))
      (hsteps : Steps (udsTpSend respCanId (ecusimStep sim i).2 ecusimTpConfig) tr p)
      (hp : ∀ rc, p ≠ .ret rc) : Conversing (xs ++ [⟨heard, some i, tr⟩]) s
  | stopped {xs : List Exchange} {s : ReceiveLoop} (hpoint : s.point = .stopped)
      (h : Finished respCanId sim₀ xs s.sim) : Conversing xs s

variable {respCanId sim₀}

theorem finished_nil : Finished respCanId sim₀ [] sim₀ := by
  refine ⟨⟨?_, ?_, rfl⟩, ?_⟩
  · exact fun x hx => absurd hx List.not_mem_nil
  · exact fun x hx => absurd hx List.not_mem_nil
  · exact fun x hx => absurd hx List.not_mem_nil

theorem Exchanged.turns_snoc {xs : List Exchange} {sim : EcuSimulator}
    (h : Exchanged respCanId sim₀ xs sim) (x : Exchange) :
    turnsFrom exchangeStep sim₀ (xs ++ [x]) =
      turnsFrom exchangeStep sim₀ xs ++ [turn exchangeStep sim x] := by
  rw [turnsFrom_append, h.sim_eq]
  rfl

theorem Finished.exchanged_snoc {xs : List Exchange} {sim : EcuSimulator}
    (h : Finished respCanId sim₀ xs sim) {x : Exchange}
    (hx : Faithful respCanId (turn exchangeStep sim x)) :
    Exchanged respCanId sim₀ (xs ++ [x]) (exchangeStep sim x).1 := by
  have hturns := h.exchanged.turns_snoc x
  refine ⟨?_, ?_, ?_⟩
  · intro y hy
    rw [hturns] at hy
    rcases List.mem_append.mp hy with hy | hy
    · exact h.exchanged.faithful y hy
    · rwa [List.mem_singleton.mp hy]
  · rw [hturns, List.dropLast_concat]
    exact h.ended
  · rw [runFrom_append, h.exchanged.sim_eq]
    rfl

theorem Finished.snoc {xs : List Exchange} {sim : EcuSimulator}
    (h : Finished respCanId sim₀ xs sim) {x : Exchange}
    (hx : Faithful respCanId (turn exchangeStep sim x))
    (hover : Over respCanId (turn exchangeStep sim x)) :
    Finished respCanId sim₀ (xs ++ [x]) (exchangeStep sim x).1 := by
  refine ⟨h.exchanged_snoc hx, fun y hy => ?_⟩
  rw [h.exchanged.turns_snoc x] at hy
  rcases List.mem_append.mp hy with hy | hy
  · exact h.ended y hy
  · rwa [List.mem_singleton.mp hy]

theorem hears_of_loop {buf : Mem UInt8} {tr : List CanEvent} {p : RecvProc 8}
    (h : Steps (udsTpRecv respCanId buf ecusimMaxPdu 0 ecusimTpConfig) tr p) :
    Hears (ecusimFlow respCanId) tr (returnedPdu p) :=
  hears_of_steps (by decide) (by decide) rfl h

theorem conversing_afterSend {xs : List Exchange} {s : ReceiveLoop} {p : SendProc 8}
    {sim : EcuSimulator} {heard tr : List CanEvent} {i : Input}
    (h : Finished respCanId sim₀ xs sim) (hsim : s.sim = (ecusimStep sim i).1)
    (hheard : Hears (ecusimFlow respCanId) heard (some i.req))
    (hsteps : Steps (udsTpSend respCanId (ecusimStep sim i).2 ecusimTpConfig) tr p) :
    Conversing respCanId sim₀ (xs ++ [⟨heard, some i, tr⟩]) { s with point := afterSend p } := by
  have hfaithful : Faithful respCanId (turn exchangeStep sim ⟨heard, some i, tr⟩) :=
    .of_hears hheard (replies_of_steps (by decide) hsteps)
  cases p with
  | ret rc =>
      have hreplied :=
        replied_of_steps (by decide) (length_ecusimDispatch_le sim i.env i.req) hsteps
      have hover : Over respCanId (turn exchangeStep sim ⟨heard, some i, tr⟩) :=
        ⟨((hheard.some_iff _).mp rfl).not_unfinished, hreplied⟩
      refine .waiting rfl ?_
      have hnext := h.snoc hfaithful hover
      rwa [exchangeStep, ← hsim] at hnext
  | send m k => exact .responding rfl h hsim hheard hsteps fun rc hret => by cases hret
  | recv k => exact .responding rfl h hsim hheard hsteps fun rc hret => by cases hret

theorem conversing_afterRecv {xs : List Exchange} {s : ReceiveLoop} {p : RecvProc 8}
    {buf : Mem UInt8} {tr : List CanEvent} (env : Env) (h : Finished respCanId sim₀ xs s.sim)
    (hsteps : Steps (udsTpRecv respCanId buf ecusimMaxPdu 0 ecusimTpConfig) tr p) :
    Conversing respCanId sim₀
      (xs ++ [⟨tr, (afterRecv respCanId s env p).2.map (⟨env, ·⟩), []⟩])
      (afterRecv respCanId s env p).1 := by
  have hhears := hears_of_loop hsteps
  cases p with
  | send m k => exact .reassembling buf rfl h hsteps fun res hret => by cases hret
  | recv k => exact .reassembling buf rfl h hsteps fun res hret => by cases hret
  | ret res =>
      rw [afterRecv]
      unfold onRequest
      by_cases hrc : res.rc = .ok
      · rw [if_neg (not_not.mpr hrc)]
        rw [returnedPdu, if_pos hrc] at hhears
        obtain ⟨i, hi⟩ : ∃ i : Input, ⟨env, res.buf.load 0 res.outLen⟩ = i := ⟨_, rfl⟩
        have hheard : Hears (ecusimFlow respCanId) tr (some i.req) := by rwa [← hi]
        have hheardAll : ¬Unfinished (ecusimFlow respCanId) tr :=
          ((hheard.some_iff _).mp rfl).not_unfinished
        have hdispatch : ecusimDispatch s.sim env (res.buf.load 0 res.outLen) ecusimMaxPdu =
            ecusimStep s.sim i := by
          rw [← hi]
          rfl
        simp only [Option.map_some, hi, hdispatch]
        split
        · exact conversing_afterSend (s := ⟨_, res.buf, .waiting⟩) h rfl hheard .nil
        · have hnone : (ecusimStep s.sim i).2 = [] :=
            List.eq_nil_of_length_eq_zero (Nat.eq_zero_of_not_pos ‹_›)
          have hover : Over respCanId (turn exchangeStep s.sim ⟨tr, some i, []⟩) := by
            refine ⟨hheardAll, ?_⟩
            change Replied respCanId (ecusimStep s.sim i).2 []
            rw [hnone]
            exact replied_nil respCanId
          exact .waiting rfl (h.snoc (x := ⟨tr, some i, []⟩) (.of_hears hheard (.nil _ _)) hover)
      · rw [if_pos hrc]
        rw [returnedPdu, if_neg hrc] at hhears
        have hover : Over respCanId (turn exchangeStep s.sim ⟨tr, none, []⟩) :=
          ⟨not_unfinished_of_ret (by decide) (by decide) rfl hsteps, replied_nil respCanId⟩
        exact .waiting rfl (h.snoc (x := ⟨tr, none, []⟩) (.of_hears hhears (.nil _ _)) hover)

/-- One more call, and perhaps a request. -/
structure Advances (xs xs' : List Exchange) (event : Option CanEvent) (request : Option Input) :
    Prop where
  events_eq : xs'.flatMap Exchange.events = xs.flatMap Exchange.events ++ event.toList
  requests_eq : xs'.filterMap Exchange.request =
    xs.filterMap Exchange.request ++ request.toList

theorem Advances.refl (xs : List Exchange) : Advances xs xs none none :=
  ⟨(List.append_nil _).symm, (List.append_nil _).symm⟩

theorem conversing_recvStep {xs : List Exchange} {s : ReceiveLoop} (i : LoopInput) {p : RecvProc 8}
    {buf : Mem UInt8} {tr : List CanEvent} (h : Finished respCanId sim₀ xs s.sim)
    (hsteps : Steps (udsTpRecv respCanId buf ecusimMaxPdu 0 ecusimTpConfig) tr p)
    (hp : ∀ res, p ≠ .ret res) :
    ∃ e request, (recvStep respCanId s i p).2.event = some e ∧
      (recvStep respCanId s i p).2.dispatched.map (⟨i.env, ·⟩) = request ∧
      Conversing respCanId sim₀ (xs ++ [⟨tr ++ [e], request, []⟩])
        (recvStep respCanId s i p).1 := by
  obtain ⟨e, he, hstep⟩ := p.step_answer i.recv i.send hp
  exact ⟨e, _, he, rfl, conversing_afterRecv i.env h (hsteps.snoc hstep)⟩

theorem advances_heard (xs : List Exchange) (tr : List CanEvent) (e : CanEvent)
    (request : Option Input) :
    Advances (xs ++ [⟨tr, none, []⟩]) (xs ++ [⟨tr ++ [e], request, []⟩]) (some e) request := by
  constructor
  · simp [Exchange.events]
  · cases request <;> simp

theorem conversing_step {xs : List Exchange} {s : ReceiveLoop}
    (h : Conversing respCanId sim₀ xs s) (i : LoopInput) :
    ∃ xs', Conversing respCanId sim₀ xs' (ecusimRunStep respCanId s i).1 ∧
      Advances xs xs' (ecusimRunStep respCanId s i).2.event
        ((ecusimRunStep respCanId s i).2.dispatched.map (⟨i.env, ·⟩)) := by
  unfold ecusimRunStep
  cases h with
  | waiting hpoint h =>
      simp only [hpoint]
      by_cases hrun : i.running = true
      · rw [if_pos hrun]
        obtain ⟨e, request, he, hrequest, hnext⟩ := conversing_recvStep i h .nil fun res hret =>
          by cases hret
        rw [he, hrequest]
        refine ⟨_, hnext, ?_⟩
        constructor
        · simp [Exchange.events]
        · cases request <;> simp
      · rw [if_neg hrun]
        exact ⟨xs, .stopped rfl h, .refl xs⟩
  | reassembling buf hpoint h hsteps hp =>
      simp only [hpoint]
      obtain ⟨e, request, he, hrequest, hnext⟩ := conversing_recvStep i h hsteps hp
      rw [he, hrequest]
      exact ⟨_, hnext, advances_heard _ _ e request⟩
  | @responding xs s p sim heard tr input hpoint h hsim hheard hsteps hp =>
      simp only [hpoint]
      obtain ⟨e, he, hstep⟩ := p.step_answer i.recv i.send hp
      rw [he]
      refine ⟨_, conversing_afterSend h hsim hheard (hsteps.snoc hstep), ?_⟩
      constructor
      · simp [Exchange.events]
      · simp
  | stopped hpoint h =>
      simp only [hpoint]
      exact ⟨xs, .stopped hpoint h, .refl xs⟩

theorem Conversing.exchanged {xs : List Exchange} {s : ReceiveLoop}
    (h : Conversing respCanId sim₀ xs s) : Exchanged respCanId sim₀ xs s.sim := by
  cases h with
  | waiting hpoint h => exact h.exchanged
  | stopped hpoint h => exact h.exchanged
  | @reassembling xs s p buf tr hpoint h hsteps hp =>
      have hhears := hears_of_loop hsteps
      have hnone : returnedPdu p = none := by
        cases p with
        | ret res => exact absurd rfl (hp res)
        | send m k => rfl
        | recv k => rfl
      rw [hnone] at hhears
      exact h.exchanged_snoc (x := ⟨tr, none, []⟩) (.of_hears hhears (.nil _ _))
  | @responding xs s p sim heard tr i hpoint h hsim hheard hsteps hp =>
      rw [hsim]
      exact h.exchanged_snoc (x := ⟨heard, some i, tr⟩)
        (.of_hears hheard (replies_of_steps (by decide) hsteps))

end Loop

/-- Whatever arrives on the bus and whichever calls fail, a run of `ecusim_run` is a series of
exchanges.  In each the loop listens as long as its calls can still become those for one PDU,
it dispatches exactly the PDU that they are for, and sends an initial part of the response and
nothing else.  The simulator is where the run of these requests leads. -/
theorem ecusimRun_exchanges (respCanId : UInt32) (sim : EcuSimulator) (reqBuf : Mem UInt8)
    (inputs : List LoopInput) :
    ∃ xs : List Exchange,
      loopEvents (ecusimRun respCanId sim reqBuf inputs) = xs.flatMap Exchange.events ∧
        loopRequests (ecusimRun respCanId sim reqBuf inputs) = xs.filterMap Exchange.request ∧
          Exchanged respCanId sim xs
            (runFrom (ecusimRunStep respCanId) ⟨sim, reqBuf, .waiting⟩ inputs).sim ∧
            (runFrom (ecusimRunStep respCanId) ⟨sim, reqBuf, .waiting⟩ inputs).sim =
              runFrom ecusimStep sim (loopRequests (ecusimRun respCanId sim reqBuf inputs)) := by
  have hrun : ∃ xs : List Exchange,
      loopEvents (ecusimRun respCanId sim reqBuf inputs) = xs.flatMap Exchange.events ∧
        loopRequests (ecusimRun respCanId sim reqBuf inputs) = xs.filterMap Exchange.request ∧
          Conversing respCanId sim xs
            (runFrom (ecusimRunStep respCanId) ⟨sim, reqBuf, .waiting⟩ inputs) := by
    apply run_invariant (ecusimRunStep respCanId) (C := fun _ => True) fun history s =>
      ∃ xs : List Exchange, loopEvents history = xs.flatMap Exchange.events ∧
        loopRequests history = xs.filterMap Exchange.request ∧ Conversing respCanId sim xs s
    · exact ⟨[], rfl, rfl, .waiting rfl finished_nil⟩
    · rintro history s i ⟨xs, hevents, hrequests, hconv⟩ -
      obtain ⟨xs', hnext, hadvances⟩ := conversing_step hconv i
      refine ⟨xs', ?_, ?_, hnext⟩
      · rw [hadvances.events_eq, ← hevents, loopEvents, loopEvents, List.filterMap_append]
        congr 1
      · rw [hadvances.requests_eq, ← hrequests, loopRequests, loopRequests,
          List.filterMap_append]
        congr 1
    · exact fun _ _ => trivial
  obtain ⟨xs, hevents, hrequests, hconv⟩ := hrun
  refine ⟨xs, hevents, hrequests, hconv.exchanged, ?_⟩
  rw [hrequests, ← runFrom_exchanges, hconv.exchanged.sim_eq]

end Uds.Ecusim
