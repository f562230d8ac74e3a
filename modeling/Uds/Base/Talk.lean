import Uds.Base.Channel
import Uds.Base.Network
/-!
# Two agents that talk

Two agents and the messages on the way between them, and nothing else.  Two processes
over channels that lose nothing come to what the agents made of them come to.  Two
parties of a network that play the agents can follow them to the end of every talk.
-/

namespace Uds.Base

variable {M α β : Type}

/-- Two agents and what is on the way to each. -/
structure Talk (M α β : Type) where
  left : Agent M α
  right : Agent M β
  toLeft : List M
  toRight : List M

namespace Talk

/-- An agent sends a message, or takes one or drops it. -/
inductive Step : Talk M α β → Talk M α β → Prop
  | sendLeft (m : M) (p : Agent M α) (q : Agent M β) (a b : List M) :
      Step ⟨.send m p, q, a, b⟩ ⟨p, q, a, b ++ [m]⟩
  | sendRight (m : M) (p : Agent M α) (q : Agent M β) (a b : List M) :
      Step ⟨p, .send m q, a, b⟩ ⟨p, q, a ++ [m], b⟩
  | recvLeft (accepts : M → Bool) (k : M → Agent M α) (expired : Agent M α) (q : Agent M β)
      (m : M) (a b : List M) :
      Step ⟨.recv accepts k expired, q, m :: a, b⟩
        ⟨if accepts m then k m else .recv accepts k expired, q, a, b⟩
  | recvRight (p : Agent M α) (accepts : M → Bool) (k : M → Agent M β) (expired : Agent M β)
      (m : M) (a b : List M) :
      Step ⟨p, .recv accepts k expired, a, m :: b⟩
        ⟨p, if accepts m then k m else .recv accepts k expired, a, b⟩

end Talk

/-! ## Processes -/

section Processes

variable {E : Type} (fromRight fromLeft : M → Bool) (timeout : E)

/-- The agents behind two processes, with what is on the way. -/
def Net.talk (c : Net M E α β) : Talk M α β where
  left := c.left.agent fromRight timeout
  right := c.right.agent fromLeft timeout
  toLeft := c.toLeft
  toRight := c.toRight

/-- What is on the way, and what is going to be, is let through. -/
structure Net.Open (c : Net M E α β) : Prop where
  left : c.left.Offers fun m => fromLeft m = true
  right : c.right.Offers fun m => fromRight m = true
  toLeft : ∀ m ∈ c.toLeft, fromRight m = true
  toRight : ∀ m ∈ c.toRight, fromLeft m = true

variable {fromRight fromLeft timeout} {c c' : Net M E α β}

theorem Net.Open.comm (h : c.Open fromRight fromLeft) (hs : Comm (Medium.lossless M) c c') :
    c'.Open fromRight fromLeft ∧
      Talk.Step (c.talk fromRight fromLeft timeout) (c'.talk fromRight fromLeft timeout) := by
  obtain ⟨hl, hr, ha, hb⟩ := h
  cases hs with
  | sendLeft m k q a b i j =>
      cases hl with
      | send hm hk =>
          refine ⟨⟨hk _, hr, ha, fun m' hm' => ?_⟩, .sendLeft ..⟩
          rcases List.mem_append.mp hm' with hm' | hm'
          · exact hb m' hm'
          · obtain rfl : m' = m := by simpa [Medium.lossless] using hm'
            exact hm
  | sendRight p m k a b i j =>
      cases hr with
      | send hm hk =>
          refine ⟨⟨hl, hk _, fun m' hm' => ?_, hb⟩, .sendRight ..⟩
          rcases List.mem_append.mp hm' with hm' | hm'
          · exact ha m' hm'
          · obtain rfl : m' = m := by simpa [Medium.lossless] using hm'
            exact hm
  | recvLeft k q a m b i j =>
      cases hl with
      | recv hk =>
          refine ⟨⟨hk _, hr, fun m' hm' => ha m' (List.mem_cons_of_mem _ hm'), hb⟩, ?_⟩
          have hstep : Talk.Step (Net.talk fromRight fromLeft timeout ⟨.recv k, q, a, m :: b, i, j⟩)
              _ := .recvLeft ..
          rwa [if_pos (ha m List.mem_cons_self)] at hstep
  | recvRight p k m a b i j =>
      cases hr with
      | recv hk =>
          refine ⟨⟨hl, hk _, ha, fun m' hm' => hb m' (List.mem_cons_of_mem _ hm')⟩, ?_⟩
          have hstep : Talk.Step (Net.talk fromRight fromLeft timeout ⟨p, .recv k, m :: a, b, i, j⟩)
              _ := .recvRight ..
          rwa [if_pos (hb m List.mem_cons_self)] at hstep

theorem Net.Open.talk (h : c.Open fromRight fromLeft)
    (hrun : Relation.ReflTransGen (Comm (Medium.lossless M)) c c') :
    Relation.ReflTransGen Talk.Step (c.talk fromRight fromLeft timeout)
      (c'.talk fromRight fromLeft timeout) := by
  induction hrun using Relation.ReflTransGen.head_induction_on with
  | refl => exact .refl
  | head hs _ ih =>
      obtain ⟨hnext, hstep⟩ := h.comm hs
      exact .head hstep (ih hnext)

end Processes

/-! ## Parties that play agents -/

namespace Network

variable {ι : Type} (b : Network ι M)

/-- In this state party `i` does what the agent does, as long as it receives messages of
`theirs`; where the agent returns `a`, the party is in state `K a`. -/
inductive Plays (i : ι) (theirs : M → Prop) (K : α → b.State i) : Agent M α → b.State i → Prop
  | ret (a : α) : Plays i theirs K (.ret a) (K a)
  | send {m : M} {next : Agent M α} {x x' : b.State i} : b.act i x = .send m x' →
      Plays i theirs K next x' → Plays i theirs K (.send m next) x
  | recv {accepts accepts' : M → Bool} {k : M → Agent M α} {k' : M → b.State i}
      {expired : Agent M α} {x : b.State i} : b.act i x = .recv accepts' k' →
      (∀ m, theirs m → accepts' m = accepts m) →
      (∀ m, accepts m = true → Plays i theirs K (k m) (k' m)) →
      Plays i theirs K (.recv accepts k expired) x

variable {b} {i j : ι} {theirs : M → Prop} {K : α → b.State i}

theorem Plays.of_ret {a : α} {x : b.State i} (h : b.Plays i theirs K (.ret a) x) : x = K a := by
  cases h
  rfl

theorem Plays.react_recv {accepts : M → Bool} {k : M → Agent M α} {expired : Agent M α}
    {x : b.State i} (h : b.Plays i theirs K (.recv accepts k expired) x) {m : M} (hm : theirs m)
    (q : List M) :
    ∃ x', b.react x (m :: q) = some ⟨x', q, none⟩ ∧
      b.Plays i theirs K (if accepts m then k m else .recv accepts k expired) x' := by
  cases h with
  | recv hact hsame hk =>
      rename_i accepts' k'
      have hreact : b.react x (m :: q) = some ⟨if accepts' m then k' m else x, q, none⟩ := by
        unfold react
        rw [hact]
      refine ⟨_, hreact, ?_⟩
      by_cases haccepts : accepts m = true
      · rw [hsame m hm, if_pos haccepts, if_pos haccepts]
        exact hk m haccepts
      · rw [hsame m hm, if_neg haccepts, if_neg haccepts]
        exact .recv hact hsame hk

/-- Agents that are a part of the state of party `i`. -/
def Hosts (b : Network ι M) (i : ι) (embed : Agent M β → b.State i) : Prop :=
  ∀ p, b.act i (embed p) = p.act.map embed

theorem Hosts.plays {embed : Agent M β → b.State i} (h : b.Hosts i embed) (theirs : M → Prop)
    (p : Agent M α) (g : α → Agent M β) :
    b.Plays i theirs (fun a => embed (g a)) p (embed (p.bind g)) := by
  induction p with
  | ret a => exact .ret a
  | send m next ih => exact .send (h _) ih
  | recv accepts k expired ihk => exact .recv (h _) (fun _ _ => rfl) fun m _ => ihk m

variable [DecidableEq ι] {on : ι → Bool} {L : β → b.State j} {outLeft outRight : M → Prop}

/-- Where two parties are in a talk, which goes on with what each may still send. -/
structure Follows (b : Network ι M) (i j : ι) (K : α → b.State i) (L : β → b.State j)
    (outLeft outRight : M → Prop) (c : b.Config) (t : Talk M α β) : Prop where
  left : b.Plays i outRight K t.left (c.state i)
  right : b.Plays j outLeft L t.right (c.state j)
  inboxLeft : c.inbox i = t.toLeft
  inboxRight : c.inbox j = t.toRight
  sendsLeft : t.left.Confined outLeft fun _ => True
  sendsRight : t.right.Confined outRight fun _ => True
  toLeft : ∀ m ∈ t.toLeft, outRight m
  toRight : ∀ m ∈ t.toRight, outLeft m

section Follows

variable {c : b.Config} {t t' : Talk M α β}

theorem Follows.sendLeft (hne : j ≠ i) (hi : on i = true) (hj : on j = true)
    (hwire : ∀ m, b.wire m = m) {m : M} {p : Agent M α} {q : Agent M β} {as bs : List M}
    (h : b.Follows i j K L outLeft outRight c ⟨.send m p, q, as, bs⟩) :
    ∃ c', b.Step on c c' ∧ b.Follows i j K L outLeft outRight c' ⟨p, q, as, bs ++ [m]⟩ := by
  obtain ⟨hleft, hright, has, hbs, hsends, hsends', hta, htb⟩ := h
  cases hleft with
  | send hact hplays =>
      cases hsends with
      | send hm hnext =>
          refine ⟨_, .sends hi hact rfl, ?_, ?_, ?_, ?_, hnext, hsends', hta, ?_⟩
          · rwa [commit_state_self]
          · rwa [commit_state_of_ne _ _ _ hne]
          · rwa [commit_inbox_self]
          · rw [commit_inbox_of_ne _ _ _ hne hj, hbs]
            exact congrArg (bs ++ [·]) (hwire m)
          · intro m' hm'
            rcases List.mem_append.mp hm' with hm' | hm'
            · exact htb m' hm'
            · rwa [List.mem_singleton.mp hm']

theorem Follows.recvLeft (hne : j ≠ i) (hi : on i = true) (hj : on j = true)
    {accepts : M → Bool} {k : M → Agent M α} {expired : Agent M α} {q : Agent M β} {m : M}
    {as bs : List M}
    (h : b.Follows i j K L outLeft outRight c ⟨.recv accepts k expired, q, m :: as, bs⟩) :
    ∃ c', b.Step on c c' ∧ b.Follows i j K L outLeft outRight c'
      ⟨if accepts m then k m else .recv accepts k expired, q, as, bs⟩ := by
  obtain ⟨hleft, hright, has, hbs, hsends, hsends', hta, htb⟩ := h
  have hsends₁ : (if accepts m then k m else .recv accepts k expired).Confined outLeft
      fun _ => True := by
    by_cases haccepts : accepts m = true
    · rw [if_pos haccepts]
      cases hsends with
      | recv _ hk _ => exact hk m haccepts
    · rwa [if_neg haccepts]
  obtain ⟨x', hreact, hplays⟩ := hleft.react_recv (hta m List.mem_cons_self) as
  change c.inbox i = m :: as at has
  rw [← has] at hreact
  refine ⟨_, .move hi hreact, ?_, ?_, ?_, ?_, hsends₁, hsends',
    fun m' hm' => hta m' (List.mem_cons_of_mem _ hm'), htb⟩
  · rwa [commit_state_self]
  · rwa [commit_state_of_ne _ _ _ hne]
  · exact commit_inbox_self ..
  · rw [commit_inbox_of_ne _ _ _ hne hj]
    exact (List.append_nil _).trans hbs

omit [DecidableEq ι] in
theorem Follows.symm (h : b.Follows i j K L outLeft outRight c t) :
    b.Follows j i L K outRight outLeft c ⟨t.right, t.left, t.toRight, t.toLeft⟩ :=
  ⟨h.right, h.left, h.inboxRight, h.inboxLeft, h.sendsRight, h.sendsLeft, h.toRight, h.toLeft⟩

theorem Follows.step (hne : i ≠ j) (hi : on i = true) (hj : on j = true)
    (hwire : ∀ m, b.wire m = m) (h : b.Follows i j K L outLeft outRight c t)
    (hs : Talk.Step t t') :
    ∃ c', b.Step on c c' ∧ b.Follows i j K L outLeft outRight c' t' := by
  cases hs with
  | sendLeft => exact h.sendLeft hne.symm hi hj hwire
  | sendRight =>
      obtain ⟨c', hstep, h'⟩ := h.symm.sendLeft hne hj hi hwire
      exact ⟨c', hstep, h'.symm⟩
  | recvLeft => exact h.recvLeft hne.symm hi hj
  | recvRight =>
      obtain ⟨c', hstep, h'⟩ := h.symm.recvLeft hne hj hi
      exact ⟨c', hstep, h'.symm⟩

theorem Follows.run (hne : i ≠ j) (hi : on i = true) (hj : on j = true)
    (hwire : ∀ m, b.wire m = m) (h : b.Follows i j K L outLeft outRight c t)
    (hrun : Relation.ReflTransGen Talk.Step t t') :
    ∃ c', Relation.ReflTransGen (b.Step on) c c' ∧ b.Follows i j K L outLeft outRight c' t' := by
  induction hrun with
  | refl => exact ⟨c, .refl, h⟩
  | tail _ hs ih =>
      obtain ⟨c', hrun, h'⟩ := ih
      obtain ⟨c'', hstep, h''⟩ := h'.step hne hi hj hwire hs
      exact ⟨c'', hrun.tail hstep, h''⟩

end Follows

/-- Parties `i` and `j` are in these states, with nothing on the way to them. -/
structure Rest (b : Network ι M) (i j : ι) (x : b.State i) (y : b.State j) (c : b.Config) :
    Prop where
  left : c.state i = x
  right : c.state j = y
  inboxLeft : c.inbox i = []
  inboxRight : c.inbox j = []

/-- From one pair of states the two parties come to another. -/
def Leads (b : Network ι M) (on : ι → Bool) (i j : ι) (x : b.State i) (y : b.State j)
    (x' : b.State i) (y' : b.State j) : Prop :=
  ∀ c, b.Rest i j x y c → ∃ c', Relation.ReflTransGen (b.Step on) c c' ∧ b.Rest i j x' y' c'

section Leads

variable {x x' : b.State i} {y y' : b.State j}

/-- A talk in which both agents return takes the parties that play them to what follows. -/
theorem leads_of_talk (hne : i ≠ j) (hi : on i = true) (hj : on j = true)
    (hwire : ∀ m, b.wire m = m) {p : Agent M α} {q : Agent M β} {v : α} {w : β}
    (hrun : Relation.ReflTransGen Talk.Step ⟨p, q, [], []⟩ ⟨.ret v, .ret w, [], []⟩)
    (hp : p.Confined outLeft fun _ => True) (hq : q.Confined outRight fun _ => True)
    (hx : b.Plays i outRight K p x) (hy : b.Plays j outLeft L q y) :
    b.Leads on i j x y (K v) (L w) := by
  intro c hc
  have hfollows : b.Follows i j K L outLeft outRight c ⟨p, q, [], []⟩ :=
    ⟨hc.left ▸ hx, hc.right ▸ hy, hc.inboxLeft, hc.inboxRight, hp, hq,
      fun m hm => absurd hm List.not_mem_nil, fun m hm => absurd hm List.not_mem_nil⟩
  obtain ⟨c', hrun, hend⟩ := hfollows.run hne hi hj hwire hrun
  exact ⟨c', hrun, hend.left.of_ret, hend.right.of_ret, hend.inboxLeft, hend.inboxRight⟩

end Leads

end Network

end Uds.Base
