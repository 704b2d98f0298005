import Mathlib.Logic.Relation
import PostMarkup.Expansion.Calls
import PostMarkup.Proofs.Content.Reading
import PostMarkup.Proofs.Tables

/-!
Why expansion ends for every table. The steps from a content to the contents that are written on its
behalf are followed without regard to any limit on the depth: each template that is opened takes one
more name out of those that can still be called, and between two of them the content gets smaller.
-/

namespace PostMarkup

namespace Content

def Calls (called : Text) : Content → Prop
  | nil => False
  | text _ next => next.Calls called
  | call name inner _ next => called = name ∨ inner.Calls called ∨ next.Calls called

theorem callable_of_calls {callable : Text → Bool} {content : Content} {name : Text}
    (wellFormed : content.WellFormed callable) (calls : content.Calls name) :
    callable name = true := by
  induction content with
  | nil => cases calls
  | text run next induction =>
      rcases wellFormed with ⟨-, -, -, nextWellFormed⟩
      exact induction nextWellFormed calls
  | call other inner span next innerInduction nextInduction =>
      rcases wellFormed with ⟨-, called, -, innerWellFormed, nextWellFormed⟩
      rcases calls with rfl | innerCalls | nextCalls
      · exact called
      · exact innerInduction innerWellFormed innerCalls
      · exact nextInduction nextWellFormed nextCalls

end Content

/-- Where an expansion stands: the names whose templates are open, the innermost first, and the
content that is to be written. -/
structure Stage where
  active : List Text
  content : Content

/-- One step into the work that writing a content consists of. A template is opened for a call
whatever the depth of the call, and its body may have been read under any limit. -/
inductive Enters (templates : Table) : Stage → Stage → Prop
  | pastText {active : List Text} {run : Text} {next : Content} :
      Enters templates ⟨active, .text run next⟩ ⟨active, next⟩
  | pastCall {active : List Text} {name : Text} {inner next : Content} {span : Span} :
      Enters templates ⟨active, .call name inner span next⟩ ⟨active, next⟩
  | inside {active : List Text} {name : Text} {inner next : Content} {span : Span} :
      Enters templates ⟨active, .call name inner span next⟩ ⟨active, inner⟩
  | opened {active : List Text} {name source : Text} {inner next body : Content} {span : Span}
      {limit depth offset : Nat} (listed : templates.get? (Reference.written name) = some source)
      (read : Content.ofTextAt (Template.callable templates (name :: active)) limit depth offset
        source = .ok body) :
      Enters templates ⟨active, .call name inner span next⟩ ⟨name :: active, body⟩

namespace Stage

/-- Every call that is still to be written has a template, and one that is not open. -/
def Fresh (templates : Table) (stage : Stage) : Prop :=
  ∀ name, stage.content.Calls name → Template.callable templates stage.active name = true

variable {templates : Table}

theorem fresh_of_read {active : List Text} {content : Content} {text : Text}
    {limit depth offset : Nat}
    (read : Content.ofTextAt (Template.callable templates active) limit depth offset text =
      .ok content) : Fresh templates ⟨active, content⟩ := by
  intro name calls
  exact Content.callable_of_calls (Content.of_text_at_sound read).2.1 calls

/-- From a fresh stage the work ends: the induction is on the names that are not open, and for one
list of open names on the content. -/
theorem accessible_of_fresh {active : List Text} {content : Content}
    (fresh : Fresh templates ⟨active, content⟩) :
    Acc (fun later earlier => Enters templates earlier later) ⟨active, content⟩ := by
  induction count : (Template.idleKeys templates active).length using Nat.strongRecOn
    generalizing active content with
  | ind count openInduction =>
      induction content with
      | nil =>
          constructor
          intro stage step
          cases step
      | text run next nextInduction =>
          constructor
          intro stage step
          cases step
          exact nextInduction fresh
      | call name inner span next innerInduction nextInduction =>
          constructor
          intro stage step
          cases step with
          | pastCall => exact nextInduction fun other calls => fresh other (Or.inr (Or.inr calls))
          | inside => exact innerInduction fun other calls => fresh other (Or.inr (Or.inl calls))
          | opened listed read =>
              have fewer := Template.idle_keys_shorten (fresh name (Or.inl rfl))
              rw [count] at fewer
              exact openInduction _ fewer (fresh_of_read read) rfl

theorem accessible (active : List Text) (content : Content) :
    Acc (fun later earlier => Enters templates earlier later) ⟨active, content⟩ := by
  induction content with
  | nil =>
      constructor
      intro stage step
      cases step
  | text run next nextInduction =>
      constructor
      intro stage step
      cases step
      exact nextInduction
  | call name inner span next innerInduction nextInduction =>
      constructor
      intro stage step
      cases step with
      | pastCall => exact nextInduction
      | inside => exact innerInduction
      | opened listed read => exact accessible_of_fresh (fresh_of_read read)

theorem enters_well_founded (templates : Table) :
    WellFounded fun later earlier => Enters templates earlier later :=
  ⟨fun stage => accessible stage.active stage.content⟩

def Sound (templates : Table) (stage : Stage) : Prop :=
  stage.active.Nodup ∧ (∀ name ∈ stage.active, Reference.written name ∈ templates.keys) ∧
    stage.Fresh templates

theorem sound_of_enters {earlier later : Stage} (sound : earlier.Sound templates)
    (step : Enters templates earlier later) : later.Sound templates := by
  rcases sound with ⟨distinct, listed, fresh⟩
  cases step with
  | pastText => exact ⟨distinct, listed, fresh⟩
  | pastCall => exact ⟨distinct, listed, fun other calls => fresh other (Or.inr (Or.inr calls))⟩
  | inside => exact ⟨distinct, listed, fun other calls => fresh other (Or.inr (Or.inl calls))⟩
  | @opened active name source inner next body span limit depth offset found read =>
      have free := fresh name (Or.inl rfl)
      simp only [Template.callable, Content.callable, Bool.and_eq_true, Bool.not_eq_true',
        List.contains_eq_mem, decide_eq_false_iff_not, Table.contains_iff_mem_keys] at free
      refine ⟨List.nodup_cons.2 ⟨free.1, distinct⟩, ?_, fresh_of_read read⟩
      intro other member
      rcases List.mem_cons.1 member with rfl | member
      · exact free.2
      · exact listed other member

theorem sound_of_reaches {start stage : Stage} (sound : start.Sound templates)
    (path : Relation.ReflTransGen (Enters templates) start stage) : stage.Sound templates := by
  induction path with
  | refl => exact sound
  | tail _ step induction => exact sound_of_enters induction step

theorem sound_of_body {limit depth offset : Nat} {text : Text} {content : Content}
    (read : Content.ofTextAt (Content.callable templates) limit depth offset text = .ok content) :
    Sound templates ⟨[], content⟩ := by
  refine ⟨List.nodup_nil, ?_, ?_⟩
  · intro name member
    cases member
  · intro name calls
    have called := Content.callable_of_calls (Content.of_text_at_sound read).2.1 calls
    simpa [Template.callable] using called

end Stage

/-- What opening a template amounts to when its name can be called: the step `Enters.opened`. -/
theorem Template.expand_of_callable {templates : Table} {active : List Text} {name : Text}
    (free : callable templates active name = true) :
    name ∉ active ∧ ∃ source, templates.get? (Reference.written name) = some source ∧
      ∀ limit depth, expand templates limit active name depth = (do
        let body ← (Content.ofTextAt (callable templates (name :: active)) limit (depth + 1) 0
          source).mapError Fault.insideTemplate
        body.render (expand templates limit (name :: active)) (depth + 1)) := by
  have parts := free
  simp only [callable, Content.callable, Bool.and_eq_true, Bool.not_eq_true',
    List.contains_eq_mem, decide_eq_false_iff_not, Table.contains_iff_get] at parts
  rcases parts with ⟨inactive, source, found⟩
  refine ⟨inactive, source, found, ?_⟩
  intro limit depth
  rw [expand, dif_pos free, found]
  rfl

end PostMarkup
