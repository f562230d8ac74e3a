import Mathlib.Tactic.ByContra
import Uds.Base.Machine
import Uds.Base.Network
/-!
# One party and its surroundings

A party as its surroundings drive it: messages arrive in its inbox, it moves, and the
deadline of its receive passes, in any order.  A message that it takes at the wrong moment
may end it, and then exactly the runs survive in which it takes none.  While nothing arrives
it moves as long as it can and its deadline passes where it waits, so all code that it is in
the middle of comes to its end.
-/

namespace Uds.Base

/-- A party with states `S`; its surroundings choose an `R` for each of its moves. -/
structure Party (M S R : Type) where
  act : R → S → Act M S
  expire : S → S

/-- The agent when the deadline of its receive has passed. -/
def Agent.expire {M α : Type} : Agent M α → Agent M α
  | .recv _ _ expired => expired
  | code => code

/-- The action leads to states that are `alive`, but with a `fatal` message to a `dead` one. -/
def Act.Splits {M S : Type} (alive dead : S → Prop) (fatal : M → Prop) : Act M S → Prop
  | .halt => True
  | .send _ next => alive next
  | .recv accepts k =>
    ∀ m, accepts m = true → (¬fatal m → alive (k m)) ∧ (fatal m → dead (k m))
  | .internal next => alive next

theorem Act.Splits.map {M S T : Type} {alive dead : S → Prop} {alive' dead' : T → Prop}
    {fatal : M → Prop} {g : S → T} {a : Act M S} (h : a.Splits alive dead fatal)
    (halive : ∀ s, alive s → alive' (g s)) (hdead : ∀ s, dead s → dead' (g s)) :
    (a.map g).Splits alive' dead' fatal := by
  cases a with
  | halt => trivial
  | send m next => exact halive next h
  | recv accepts k =>
      intro m hm
      exact ⟨fun hf => halive _ ((h m hm).1 hf), fun hf => hdead _ ((h m hm).2 hf)⟩
  | internal next => exact halive next h

namespace Party

inductive Event (M R : Type) where
  | arrive (m : M)
  | move (r : R)
  | expire

/-- A party and the messages that it has not yet received. -/
structure Config (M S : Type) where
  state : S
  inbox : List M

variable {M S R : Type} (p : Party M S R)

/-- What an event leads to, and what the party sends. -/
def step (c : Config M S) : Event M R → Config M S × Option M
  | .arrive m => (⟨c.state, c.inbox ++ [m]⟩, none)
  | .move r =>
    match p.act r c.state with
    | .halt => (c, none)
    | .send m next => (⟨next, c.inbox⟩, some m)
    | .recv accepts k =>
      match c.inbox with
      | [] => (c, none)
      | m :: ms => (⟨if accepts m then k m else c.state, ms⟩, none)
    | .internal next => (⟨next, c.inbox⟩, none)
  | .expire => (⟨p.expire c.state, c.inbox⟩, none)

/-- With this event the party takes `m`. -/
def Takes (c : Config M S) (e : Event M R) (m : M) : Prop :=
  ∃ r accepts k ms, e = .move r ∧ p.act r c.state = .recv accepts k ∧ c.inbox = m :: ms ∧
    accepts m = true

section Steps

variable {p} {c : Config M S} {r : R}

theorem step_halt (h : p.act r c.state = .halt) : p.step c (.move r) = (c, none) := by
  simp only [step, h]

theorem step_send {m : M} {next : S} (h : p.act r c.state = .send m next) :
    p.step c (.move r) = (⟨next, c.inbox⟩, some m) := by
  simp only [step, h]

theorem step_internal {next : S} (h : p.act r c.state = .internal next) :
    p.step c (.move r) = (⟨next, c.inbox⟩, none) := by
  simp only [step, h]

section Receive

variable {accepts : M → Bool} {k : M → S} {m : M} {ms : List M}

theorem step_wait (h : p.act r c.state = .recv accepts k) (hc : c.inbox = []) :
    p.step c (.move r) = (c, none) := by
  simp only [step, h, hc]

theorem step_take (h : p.act r c.state = .recv accepts k) (hc : c.inbox = m :: ms)
    (hm : accepts m = true) : p.step c (.move r) = (⟨k m, ms⟩, none) := by
  simp only [step, h, hc, if_pos hm]

theorem step_drop (h : p.act r c.state = .recv accepts k) (hc : c.inbox = m :: ms)
    (hm : ¬accepts m = true) : p.step c (.move r) = (⟨c.state, ms⟩, none) := by
  simp only [step, h, hc, if_neg hm]

end Receive

theorem runFrom_arrive (c : Config M S) (ms : List M) :
    runFrom p.step c (ms.map .arrive) = ⟨c.state, c.inbox ++ ms⟩ := by
  induction ms generalizing c with
  | nil =>
      rw [List.append_nil]
      rfl
  | cons m ms ih =>
      rw [List.map_cons, runFrom, ih]
      change Config.mk c.state ((c.inbox ++ [m]) ++ ms) = _
      rw [List.append_assoc]
      rfl

end Steps

/-! ## Messages that end the party -/

/-- To take a `fatal` message makes a party that is `alive` a `dead` one, and nothing else
does; it stays dead. -/
structure Mortal (alive dead : S → Prop) (fatal : S → M → Prop) : Prop where
  disjoint : ∀ {s}, alive s → ¬dead s
  act : ∀ r {s}, alive s → (p.act r s).Splits alive dead (fatal s)
  expire : ∀ {s}, alive s → alive (p.expire s)
  halts : ∀ r {s}, dead s → p.act r s = .halt
  stays : ∀ {s}, dead s → dead (p.expire s)

/-- In this turn the party takes no fatal message. -/
def Harmless (fatal : S → M → Prop) (x : Turn (Config M S) (Event M R) (Option M)) : Prop :=
  ∀ m, p.Takes x.pre x.input m → ¬fatal x.pre.state m

namespace Mortal

variable {p} {alive dead : S → Prop} {fatal : S → M → Prop} (hp : p.Mortal alive dead fatal)
  {c : Config M S} {e : Event M R}
include hp

theorem alive_step (h : alive c.state) (hc : p.Harmless fatal (turn p.step c e)) :
    alive (p.step c e).1.state := by
  cases e with
  | arrive m => exact h
  | expire => exact hp.expire h
  | move r =>
      have hsplits := hp.act r h
      cases hact : p.act r c.state with
      | halt =>
          rw [step_halt hact]
          exact h
      | send m next =>
          rw [hact] at hsplits
          rw [step_send hact]
          exact hsplits
      | internal next =>
          rw [hact] at hsplits
          rw [step_internal hact]
          exact hsplits
      | recv accepts k =>
          rw [hact] at hsplits
          cases hinbox : c.inbox with
          | nil =>
              rw [step_wait hact hinbox]
              exact h
          | cons m ms =>
              by_cases hm : accepts m = true
              · rw [step_take hact hinbox hm]
                exact (hsplits m hm).1 (hc m ⟨r, accepts, k, ms, rfl, hact, hinbox, hm⟩)
              · rw [step_drop hact hinbox hm]
                exact h

theorem dead_step (h : dead c.state) : dead (p.step c e).1.state := by
  cases e with
  | arrive m => exact h
  | expire => exact hp.stays h
  | move r =>
      rw [step_halt (hp.halts r h)]
      exact h

theorem dies_step (h : alive c.state) (hc : ¬p.Harmless fatal (turn p.step c e)) :
    dead (p.step c e).1.state := by
  have htaken : ∃ m, p.Takes c e m ∧ fatal c.state m := by
    by_contra hnot
    exact hc fun m hm hfatal => hnot ⟨m, hm, hfatal⟩
  obtain ⟨m, ⟨r, accepts, k, ms, rfl, hact, hinbox, hm⟩, hfatal⟩ := htaken
  have hsplits := hp.act r h
  rw [hact] at hsplits
  rw [step_take hact hinbox hm]
  exact (hsplits m hm).2 hfatal

theorem dead_run (h : dead c.state) (events : List (Event M R)) :
    dead (runFrom p.step c events).state := by
  induction events generalizing c with
  | nil => exact h
  | cons e events ih => exact ih (hp.dead_step h)

theorem alive_run (h : alive c.state) (events : List (Event M R))
    (hc : ∀ x ∈ turnsFrom p.step c events, p.Harmless fatal x) :
    alive (runFrom p.step c events).state := by
  apply run_invariant p.step (C := p.Harmless fatal) (fun _ c => alive c.state) h
  · exact fun _ c e halive hturn => hp.alive_step halive hturn
  · exact hc

/-- A run survives if and only if no turn of it is fatal. -/
theorem not_dead_iff (h : alive c.state) (events : List (Event M R)) :
    ¬dead (runFrom p.step c events).state ↔
      ∀ x ∈ turnsFrom p.step c events, p.Harmless fatal x := by
  constructor
  · intro hdead
    induction events generalizing c with
    | nil => exact fun x hx => absurd hx List.not_mem_nil
    | cons e events ih =>
        have hturn : p.Harmless fatal (turn p.step c e) := by
          by_contra hfatal
          exact hdead (hp.dead_run (hp.dies_step h hfatal) events)
        exact List.forall_mem_cons.mpr ⟨hturn, ih (hp.alive_step h hturn) hdead⟩
  · exact fun hc => hp.disjoint (hp.alive_run h events hc)

end Mortal

/-! ## While nothing arrives -/

/-- What happens next: a deadline passes only where the party waits. -/
def quietEvent (r : R) (c : Config M S) : Event M R :=
  match p.act r c.state, c.inbox with
  | .recv _ _, [] => .expire
  | _, _ => .move r

/-- The next `n` events. -/
def quietEvents (r : R) : Nat → Config M S → List (Event M R)
  | 0, _ => []
  | n + 1, c => p.quietEvent r c :: quietEvents r n (p.step c (p.quietEvent r c)).1

/-- The party after them. -/
def after (r : R) (n : Nat) (c : Config M S) : Config M S :=
  runFrom p.step c (p.quietEvents r n c)

/-- While nothing arrives, the party sends `ms` and comes to `c'`. -/
def Emits (r : R) (c : Config M S) (ms : List M) (c' : Config M S) : Prop :=
  ∃ n, p.after r n c = c' ∧
    (turnsFrom p.step c (p.quietEvents r n c)).filterMap Turn.output = ms

/-- None of the messages that have arrived is fatal when the party comes to take it. -/
def Undisturbed (fatal : S → M → Prop) (r : R) (c : Config M S) : Prop :=
  ∀ n, ∀ x ∈ turnsFrom p.step c (p.quietEvents r n c), p.Harmless fatal x

section Quiet

variable {p} {r : R} {c c' c'' : Config M S} {ms ms' : List M}

theorem quietEvents_add (r : R) (n k : Nat) (c : Config M S) :
    p.quietEvents r (n + k) c = p.quietEvents r n c ++ p.quietEvents r k (p.after r n c) := by
  induction n generalizing c with
  | zero =>
      rw [Nat.zero_add]
      rfl
  | succ n ih =>
      rw [Nat.succ_add, quietEvents, ih]
      rfl

theorem after_add (r : R) (n k : Nat) (c : Config M S) :
    p.after r (n + k) c = p.after r k (p.after r n c) := by
  induction n generalizing c with
  | zero =>
      rw [Nat.zero_add]
      rfl
  | succ n ih =>
      rw [Nat.succ_add]
      exact ih _

theorem Emits.refl (c : Config M S) : p.Emits r c [] c := ⟨0, rfl, rfl⟩

theorem Emits.trans (h : p.Emits r c ms c') (h' : p.Emits r c' ms' c'') :
    p.Emits r c (ms ++ ms') c'' := by
  obtain ⟨n, rfl, rfl⟩ := h
  obtain ⟨k, rfl, rfl⟩ := h'
  refine ⟨n + k, after_add r n k c, ?_⟩
  rw [quietEvents_add, turnsFrom_append, List.filterMap_append]
  rfl

theorem Emits.step (r : R) (c : Config M S) :
    p.Emits r c (p.step c (p.quietEvent r c)).2.toList (p.step c (p.quietEvent r c)).1 := by
  refine ⟨1, rfl, ?_⟩
  cases hout : (p.step c (p.quietEvent r c)).2 with
  | none =>
      exact List.filterMap_cons_none (a := turn p.step c (p.quietEvent r c)) hout
  | some m =>
      exact List.filterMap_cons_some (a := turn p.step c (p.quietEvent r c)) hout

theorem Emits.send {m : M} {next : S} (h : p.act r c.state = .send m next) :
    p.Emits r c [m] ⟨next, c.inbox⟩ := by
  have hstep := Emits.step (p := p) r c
  have hmove : p.quietEvent r c = .move r := by
    simp only [quietEvent, h]
  rwa [hmove, step_send h] at hstep

theorem Emits.internal {next : S} (h : p.act r c.state = .internal next) :
    p.Emits r c [] ⟨next, c.inbox⟩ := by
  have hstep := Emits.step (p := p) r c
  have hmove : p.quietEvent r c = .move r := by
    simp only [quietEvent, h]
  rwa [hmove, step_internal h] at hstep

section Receive

variable {accepts : M → Bool} {k : M → S} {m : M}

theorem Emits.expire (h : p.act r c.state = .recv accepts k) (hc : c.inbox = []) :
    p.Emits r c [] ⟨p.expire c.state, c.inbox⟩ := by
  have hstep := Emits.step (p := p) r c
  have hwait : p.quietEvent r c = .expire := by
    simp only [quietEvent, h, hc]
  rwa [hwait] at hstep

theorem quietEvent_of_cons (h : p.act r c.state = .recv accepts k) (hc : c.inbox = m :: ms) :
    p.quietEvent r c = .move r := by
  simp only [quietEvent, h, hc]

theorem Emits.take (h : p.act r c.state = .recv accepts k) (hc : c.inbox = m :: ms)
    (hm : accepts m = true) : p.Emits r c [] ⟨k m, ms⟩ := by
  have hstep := Emits.step (p := p) r c
  rwa [quietEvent_of_cons h hc, step_take h hc hm] at hstep

theorem Emits.drop (h : p.act r c.state = .recv accepts k) (hc : c.inbox = m :: ms)
    (hm : ¬accepts m = true) : p.Emits r c [] ⟨c.state, ms⟩ := by
  have hstep := Emits.step (p := p) r c
  rwa [quietEvent_of_cons h hc, step_drop h hc hm] at hstep

end Receive

theorem Emits.eventually {I : Config M S → Prop}
    (hkeep : ∀ c, I c → I (p.step c (p.quietEvent r c)).1) (h : p.Emits r c ms c') (hc : I c') :
    ∃ n₀, ∀ n ≥ n₀, I (p.after r n c) := by
  have hstays : ∀ k c, I c → I (p.after r k c) := by
    intro k
    induction k with
    | zero => exact fun c hc => hc
    | succ k ih => exact fun c hc => ih _ (hkeep c hc)
  obtain ⟨n₀, rfl, -⟩ := h
  refine ⟨n₀, fun n hn => ?_⟩
  obtain ⟨k, rfl⟩ := Nat.exists_eq_add_of_le hn
  rw [after_add]
  exact hstays k _ hc

theorem Emits.undisturbed {fatal : S → M → Prop} (h : p.Emits r c ms c')
    (hc : p.Undisturbed fatal r c) : p.Undisturbed fatal r c' := by
  obtain ⟨n, rfl, -⟩ := h
  intro k x hx
  apply hc (n + k)
  rw [quietEvents_add, turnsFrom_append]
  exact List.mem_append_right _ hx

theorem Emits.alive {alive dead : S → Prop} {fatal : S → M → Prop}
    (hp : p.Mortal alive dead fatal) (h : p.Emits r c ms c') (hc : p.Undisturbed fatal r c)
    (halive : alive c.state) : alive c'.state := by
  obtain ⟨n, rfl, -⟩ := h
  exact hp.alive_run halive _ (hc n)

/-- A party for which nothing has arrived takes nothing. -/
theorem undisturbed_of_empty (fatal : S → M → Prop) (r : R) (hc : c.inbox = []) :
    p.Undisturbed fatal r c := by
  have htakes : ∀ c e m, c.inbox = [] → ¬p.Takes c e m := by
    rintro c e m hc ⟨r, accepts, k, ms, -, -, hcons, -⟩
    rw [hc] at hcons
    cases hcons
  have hempty : ∀ c, c.inbox = [] → (p.step c (p.quietEvent r c)).1.inbox = [] := by
    intro c hc
    cases hact : p.act r c.state with
    | halt => simp only [quietEvent, hact, step, hc]
    | send m next => simp only [quietEvent, hact, step, hc]
    | recv accepts k => simp only [quietEvent, hact, step, hc]
    | internal next => simp only [quietEvent, hact, step, hc]
  intro n
  induction n generalizing c with
  | zero => exact fun x hx => absurd hx List.not_mem_nil
  | succ n ih =>
      have hturn : p.Harmless fatal (turn p.step c (p.quietEvent r c)) :=
        fun m hm => absurd hm (htakes c _ m hc)
      exact List.forall_mem_cons.mpr ⟨hturn, ih (hempty c hc)⟩

end Quiet

end Party

/-! ## Code that a party is in the middle of -/

/-- When exactly the messages `ms` arrive, and then nothing more, the agent sends `sent`,
returns `a` and has not received `left`. -/
inductive Agent.Plays {M α : Type} : Agent M α → List M → List M → List M → α → Prop
  | ret (a : α) (ms : List M) : Plays (.ret a) ms [] ms a
  | send {m : M} {next : Agent M α} {ms sent left : List M} {a : α} :
      Plays next ms sent left a → Plays (.send m next) ms (m :: sent) left a
  | take {accepts : M → Bool} {k : M → Agent M α} {expired : Agent M α} {m : M}
      {ms sent left : List M} {a : α} : accepts m = true → Plays (k m) ms sent left a →
      Plays (.recv accepts k expired) (m :: ms) sent left a
  | drop {accepts : M → Bool} {k : M → Agent M α} {expired : Agent M α} {m : M}
      {ms sent left : List M} {a : α} : ¬accepts m = true →
      Plays (.recv accepts k expired) ms sent left a →
      Plays (.recv accepts k expired) (m :: ms) sent left a
  | expire {accepts : M → Bool} {k : M → Agent M α} {expired : Agent M α}
      {sent left : List M} {a : α} : Plays expired [] sent left a →
      Plays (.recv accepts k expired) [] sent left a

/-- Every agent comes to its end; by its structure, and where it waits by the messages that
it drops. -/
theorem Agent.exists_plays {M α : Type} (code : Agent M α) (ms : List M) :
    ∃ sent left a, code.Plays ms sent left a ∧ left.length ≤ ms.length := by
  induction code generalizing ms with
  | ret a => exact ⟨[], ms, a, .ret a ms, le_rfl⟩
  | send m next ih =>
      obtain ⟨sent, left, a, hplays, hle⟩ := ih ms
      exact ⟨m :: sent, left, a, .send hplays, hle⟩
  | recv accepts k expired ihk ihe =>
      induction ms with
      | nil =>
          obtain ⟨sent, left, a, hplays, hle⟩ := ihe []
          exact ⟨sent, left, a, .expire hplays, hle⟩
      | cons m ms ihms =>
          by_cases hm : accepts m = true
          · obtain ⟨sent, left, a, hplays, hle⟩ := ihk m ms
            exact ⟨sent, left, a, .take hm hplays, hle.trans (Nat.le_succ _)⟩
          · obtain ⟨sent, left, a, hplays, hle⟩ := ihms
            exact ⟨sent, left, a, .drop hm hplays, hle.trans (Nat.le_succ _)⟩

namespace Party

variable {M S R α : Type} {p : Party M S R}

/-- The states `wrap code` do what the code does, until it returns. -/
structure Embeds (p : Party M S R) (wrap : Agent M α → S) : Prop where
  act : ∀ r code, (∀ a, code ≠ .ret a) → p.act r (wrap code) = code.act.map wrap
  expire : ∀ code, p.expire (wrap code) = wrap code.expire

theorem Embeds.emits {wrap : Agent M α → S} (h : p.Embeds wrap) (r : R) {code : Agent M α}
    {ms sent left : List M} {a : α} (hplays : code.Plays ms sent left a) :
    p.Emits r ⟨wrap code, ms⟩ sent ⟨wrap (.ret a), left⟩ := by
  have hrecv : ∀ accepts k expired,
      p.act r (wrap (.recv accepts k expired)) = .recv accepts fun m => wrap (k m) :=
    fun accepts k expired => h.act r _ fun a ha => by cases ha
  induction hplays with
  | ret a ms => exact .refl _
  | @send m next ms sent left a _ ih =>
      have hact : p.act r (wrap (.send m next)) = .send m (wrap next) :=
        h.act r _ fun a ha => by cases ha
      exact (Emits.send (c := ⟨wrap (.send m next), ms⟩) hact).trans ih
  | @take accepts k expired m ms sent left a hm _ ih =>
      have htake := Emits.take (c := ⟨wrap (.recv accepts k expired), m :: ms⟩)
        (hrecv accepts k expired) rfl hm
      exact htake.trans ih
  | @drop accepts k expired m ms sent left a hm _ ih =>
      have hdrop := Emits.drop (c := ⟨wrap (.recv accepts k expired), m :: ms⟩)
        (hrecv accepts k expired) rfl hm
      exact hdrop.trans ih
  | @expire accepts k expired sent left a _ ih =>
      have hexpire := Emits.expire (c := ⟨wrap (.recv accepts k expired), []⟩)
        (hrecv accepts k expired) rfl
      rw [h.expire] at hexpire
      exact hexpire.trans ih

end Party

end Uds.Base
