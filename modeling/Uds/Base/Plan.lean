import Mathlib.Data.List.Infix
/-!
# Clients that follow a plan

A plan says what a client sends next, as a list of messages that the responses so far
determine.  A conversation follows it: a message goes out when all before it were accepted,
and the conversation ends with the first that is not, with one that cannot be sent, or with
the plan.  Nothing is asked of the server.
-/

namespace Uds.Base

variable {μ ρ ε : Type}

/-- How one exchange shows in a log: with a response that ends it, or without.  `said` are
the messages in a log. -/
structure Manner (μ ρ ε : Type) where
  Answered : μ → ρ → List ε → Prop
  Failed : μ → List ε → Prop
  Accepts : μ → ρ → Prop
  said : List ε → List μ
  said_append : ∀ l l', said (l ++ l') = said l ++ said l'
  said_answered : ∀ {m r l}, Answered m r l → said l = [m]
  said_failed : ∀ {m l}, Failed m l → said l = [m]

/-- The messages, where `none` cannot be sent. -/
abbrev Plan (μ ρ : Type) := List ρ → List (Option μ)

/-- Further responses change nothing of the plan up to the message after them. -/
def Plan.Settled (plan : Plan μ ρ) : Prop :=
  ∀ rs r, (plan (rs ++ [r])).take (rs.length + 1) = (plan rs).take (rs.length + 1)

section Conversation

variable (w : Manner μ ρ ε) (plan : Plan μ ρ)

/-- Exchanges with accepted responses, which take the responses from `rs` to `rs'`. -/
inductive Progress : List ρ → List ρ → List ε → Prop where
  | refl (rs : List ρ) : Progress rs rs []
  | exchange {rs rs' : List ρ} {m : μ} {r : ρ} {l l' : List ε}
      (hnext : (plan rs)[rs.length]? = some (some m)) (hanswered : w.Answered m r l)
      (haccepts : w.Accepts m r) (hrest : Progress (rs ++ [r]) rs' l') :
      Progress rs rs' (l ++ l')

/-- The end of a conversation, and whether the plan is finished. -/
inductive Ending (rs : List ρ) : List ε → Bool → Prop where
  | finished (hnext : (plan rs).length = rs.length) : Ending rs [] true
  | unsendable (hnext : (plan rs)[rs.length]? = some none) : Ending rs [] false
  | refused {m : μ} {r : ρ} {l : List ε} (hnext : (plan rs)[rs.length]? = some (some m))
      (hanswered : w.Answered m r l) (hrefused : ¬w.Accepts m r) : Ending rs l false
  | failed {m : μ} {l : List ε} (hnext : (plan rs)[rs.length]? = some (some m))
      (hfailed : w.Failed m l) : Ending rs l false

/-- A conversation from the responses `rs` on. -/
def ConversationFrom (rs : List ρ) (l : List ε) (done : Bool) : Prop :=
  ∃ rs' l₁ l₂, l = l₁ ++ l₂ ∧ Progress w plan rs rs' l₁ ∧ Ending w plan rs' l₂ done

/-- A conversation from its beginning. -/
def Conversation (l : List ε) (done : Bool) : Prop := ConversationFrom w plan [] l done

variable {w plan} {rs rs' rs'' : List ρ} {l l' : List ε} {done : Bool}

theorem Progress.single {m : μ} {r : ρ} (hnext : (plan rs)[rs.length]? = some (some m))
    (hanswered : w.Answered m r l) (haccepts : w.Accepts m r) :
    Progress w plan rs (rs ++ [r]) l := by
  have h := Progress.exchange hnext hanswered haccepts (.refl (rs ++ [r]))
  rwa [List.append_nil] at h

theorem Progress.trans (h : Progress w plan rs rs' l) (h' : Progress w plan rs' rs'' l') :
    Progress w plan rs rs'' (l ++ l') := by
  induction h with
  | refl => exact h'
  | exchange hnext hanswered haccepts _ ih =>
      rw [List.append_assoc]
      exact .exchange hnext hanswered haccepts (ih h')

theorem Progress.conversation (h : Progress w plan rs rs' l)
    (h' : ConversationFrom w plan rs' l' done) : ConversationFrom w plan rs (l ++ l') done := by
  obtain ⟨rs'', l₁, l₂, rfl, hmore, hend⟩ := h'
  exact ⟨rs'', l ++ l₁, l₂, (List.append_assoc ..).symm, h.trans hmore, hend⟩

theorem Ending.conversation (h : Ending w plan rs l done) : ConversationFrom w plan rs l done :=
  ⟨rs, [], l, rfl, .refl rs, h⟩

/-! ## What a client has said -/

theorem Manner.said_nil : w.said [] = [] := by
  have h := w.said_append [] []
  simpa using h

theorem Progress.said (hplan : plan.Settled) (h : Progress w plan rs rs' l)
    (before : List ε) (hbefore : (w.said before).map some = (plan rs).take rs.length) :
    (w.said (before ++ l)).map some = (plan rs').take rs'.length := by
  induction h generalizing before with
  | refl =>
      rw [List.append_nil]
      exact hbefore
  | @exchange rs rs' m r l l' hnext hanswered haccepts hrest ih =>
      rw [← List.append_assoc]
      apply ih (before ++ l)
      rw [w.said_append, w.said_answered hanswered, List.map_append, hbefore, List.length_append,
        List.length_singleton, hplan rs r, List.take_add_one, hnext]
      rfl

/-- Whatever the server does, the messages are an initial part of the plan, and all of it if
the client comes to its end. -/
theorem Conversation.said (hplan : plan.Settled) (h : Conversation w plan l done) :
    ∃ rs, (w.said l).map some <+: plan rs ∧
      (done = true → (w.said l).map some = plan rs) := by
  obtain ⟨rs, l₁, l₂, rfl, hprogress, hend⟩ := h
  have hsaid : (w.said l₁).map some = (plan rs).take rs.length := by
    have hfirst := hprogress.said hplan []
    rw [w.said_nil] at hfirst
    exact hfirst rfl
  have hlast {m : μ} (hnext : (plan rs)[rs.length]? = some (some m)) (hl : w.said l₂ = [m]) :
      (w.said (l₁ ++ l₂)).map some <+: plan rs := by
    have htake : (w.said (l₁ ++ l₂)).map some = (plan rs).take (rs.length + 1) := by
      rw [w.said_append, hl, List.map_append, hsaid, List.take_add_one, hnext]
      rfl
    rw [htake]
    exact List.take_prefix _ _
  refine ⟨rs, ?_⟩
  cases hend with
  | finished hnext =>
      rw [List.append_nil, hsaid, ← hnext, List.take_length]
      exact ⟨List.prefix_rfl, fun _ => rfl⟩
  | unsendable hnext =>
      rw [List.append_nil, hsaid]
      exact ⟨List.take_prefix _ _, nofun⟩
  | refused hnext hanswered => exact ⟨hlast hnext (w.said_answered hanswered), nofun⟩
  | failed hnext hfailed => exact ⟨hlast hnext (w.said_failed hfailed), nofun⟩

end Conversation

end Uds.Base
