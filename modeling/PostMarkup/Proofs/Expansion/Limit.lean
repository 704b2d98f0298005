import PostMarkup.Proofs.Expansion.Lexical
import PostMarkup.Proofs.Expansion.Termination

/-!
What the limit on the depth does to an expansion. It can refuse, and then one of the two faults about
depth is the result; every other result is the result under all higher limits and at all lower depths
too. A limit that is not less than the number of bytes in the text and in all templates never refuses.
-/

namespace PostMarkup

open Outcome (Raises SameUnless)
open Text (byteLength)

namespace Fault

def AboutDepth : Fault → Prop
  | templateTooDeep _ _ => True
  | callTooDeep _ _ _ => True
  | _ => False

def Unclosed : Fault → Prop
  | unclosedCall _ _ => True
  | _ => False

/-- The faults of reading and writing a content that has room for `levels` levels: one is about depth
only when the limit is lower than that. -/
def Possible (limit levels : Nat) (fault : Fault) : Prop :=
  fault.Unclosed ∨ fault.AboutDepth ∧ limit < levels

theorem Unclosed.not_about_depth {fault : Fault} (unclosed : fault.Unclosed) :
    ¬ fault.AboutDepth := by
  cases fault with
  | unclosedCall name offset => exact id
  | _ => cases unclosed

/-- More levels make room for the same faults. -/
theorem Possible.raises_of_le {Value : Type} {outcome : Except Fault Value} {limit fewer levels : Nat}
    (start : Raises (Possible limit fewer) outcome) (le : fewer ≤ levels) :
    Raises (Possible limit levels) outcome := by
  refine start.weaken ?_
  intro fault possible
  exact possible.imp_right fun deep => ⟨deep.1, Nat.lt_of_lt_of_le deep.2 le⟩

theorem about_depth_inside_template (fault : Fault) :
    fault.insideTemplate.AboutDepth ↔ fault.AboutDepth := by
  cases fault <;> rfl

theorem unclosed_inside_template (fault : Fault) :
    fault.insideTemplate.Unclosed ↔ fault.Unclosed := by
  cases fault <;> rfl

theorem possible_inside_template (limit levels : Nat) (fault : Fault) :
    fault.insideTemplate.Possible limit levels ↔ fault.Possible limit levels := by
  simp only [Possible, about_depth_inside_template, unclosed_inside_template]

end Fault

/-- The result under a low limit is about depth, or it is the result under a high limit. -/
def CutOff {Value : Type} (low high : Except Fault Value) : Prop :=
  (∃ fault, low = .error fault ∧ fault.AboutDepth) ∨ high = low

namespace CutOff

variable {Value Result : Type} {low high : Except Fault Value}

theorem refl (outcome : Except Fault Value) : CutOff outcome outcome := SameUnless.refl outcome

theorem bind {nextLow nextHigh : Value → Except Fault Result} (first : CutOff low high)
    (next : ∀ value, CutOff (nextLow value) (nextHigh value)) :
    CutOff (low >>= nextLow) (high >>= nextHigh) :=
  SameUnless.bind first next

theorem eq_ok {value : Value} (first : CutOff low high) (reached : low = .ok value) :
    high = .ok value := by
  rcases first with ⟨fault, failed, -⟩ | same
  · rw [reached] at failed
    cases failed
  · rw [same, reached]

theorem map {change : Value → Result} (first : CutOff low high) :
    CutOff (low.map change) (high.map change) :=
  SameUnless.map first

theorem mapError_insideTemplate (first : CutOff low high) :
    CutOff (low.mapError Fault.insideTemplate) (high.mapError Fault.insideTemplate) := by
  rcases first with ⟨fault, rfl, deep⟩ | rfl
  · exact Or.inl ⟨fault.insideTemplate, rfl, fault.about_depth_inside_template.2 deep⟩
  · exact refl _

end CutOff

namespace Content

variable {limit higher deeper depth : Nat}

theorem of_text_at_cut_off (raised : limit ≤ higher) (lifted : depth ≤ deeper)
    (callable : Text → Bool) (offset : Nat) (text : Text) :
    CutOff (ofTextAt callable limit deeper offset text)
      (ofTextAt callable higher depth offset text) := by
  fun_induction ofTextAt callable limit deeper offset text generalizing depth with
  | case1 deeper offset =>
      rw [of_text_at_nil]
      exact CutOff.refl _
  | case2 deeper offset c rest uncut induction =>
      rw [of_text_at_plain uncut]
      exact (induction lifted).map
  | case3 deeper offset c rest name after opened tooDeep =>
      exact Or.inl ⟨_, rfl, trivial⟩
  | case4 deeper offset c rest name after opened within unclosed =>
      obtain ⟨valid, called, whole⟩ := Call.cut_opening_eq_some_iff.1 opened
      have raisedWithin : ¬ higher < depth := by omega
      rw [whole, of_text_at_call valid called, if_neg raisedWithin, unclosed]
      exact CutOff.refl _
  | case5 deeper offset c rest name after opened within inner behind closed start stop
      innerInduction =>
      rename_i nextInduction
      obtain ⟨valid, called, whole⟩ := Call.cut_opening_eq_some_iff.1 opened
      have innerLifted : depth + 1 ≤ deeper + 1 := by omega
      have raisedWithin : ¬ higher < depth := by omega
      have stops : stop = offset + byteLength (Call.written name inner) := by
        simp only [stop, start, Call.written, Text.byte_length_append]
        omega
      rw [whole, of_text_at_call valid called, if_neg raisedWithin, closed]
      simp only [← stops]
      refine (innerInduction innerLifted).bind fun content => ?_
      exact (nextInduction lifted).bind fun next => CutOff.refl _

theorem interpret_cut_off (raised : limit ≤ higher) (lifted : depth ≤ deeper) (templates : Table)
    (content : Content) :
    CutOff (interpret limit templates deeper content) (interpret higher templates depth content) := by
  -- A template goes on with a smaller table; within one table the content gets smaller.
  induction size : templates.entries.length using Nat.strongRecOn
    generalizing templates deeper depth content with
  | ind size tableInduction =>
      have template : ∀ name {deeper depth}, depth ≤ deeper →
          CutOff (interpretTemplate limit templates name deeper)
            (interpretTemplate higher templates name depth) := by
        intro name deeper depth lifted
        cases found : templates.get? (Reference.written name) with
        | none =>
            rw [interpret_template_none found, interpret_template_none found]
            exact CutOff.refl _
        | some source =>
            have fewer := Table.erase_shortens found
            rw [size] at fewer
            rw [interpret_template_some found, interpret_template_some found]
            -- The two limits read a template alike, or the lower one has refused it already.
            have bodyLifted : depth + 1 ≤ deeper + 1 := by omega
            refine (of_text_at_cut_off raised bodyLifted _ _ _).mapError_insideTemplate.bind ?_
            intro body
            exact tableInduction _ fewer bodyLifted _ _ rfl
      induction content generalizing deeper depth with
      | nil =>
          rw [interpret, interpret]
          exact CutOff.refl _
      | text run next nextInduction =>
          rw [interpret, interpret]
          exact (nextInduction lifted).map
      | call name inner span next innerInduction nextInduction =>
          have innerLifted : depth + 1 ≤ deeper + 1 := by omega
          rw [interpret, interpret]
          refine (innerInduction innerLifted).bind fun filling => ?_
          refine (template name lifted).bind fun frame => ?_
          exact (nextInduction lifted).bind fun rest => CutOff.refl _

/-- A text has room for no more levels than it has bytes. -/
theorem of_text_at_raises (callable : Text → Bool) (limit depth offset : Nat) (text : Text) :
    Raises (Fault.Possible limit (depth + byteLength text))
      (ofTextAt callable limit depth offset text) := by
  fun_induction ofTextAt callable limit depth offset text with
  | case1 depth offset => exact Raises.ok _
  | case2 depth offset c rest uncut induction =>
      rw [Text.byte_length_cons]
      exact (Fault.Possible.raises_of_le induction (by omega)).map
  | case3 depth offset c rest name after opened tooDeep =>
      exact Raises.error (Or.inr ⟨trivial, by omega⟩)
  | case4 depth offset c rest name after opened within unclosed =>
      exact Raises.error (Or.inl trivial)
  | case5 depth offset c rest name after opened within inner behind closed start stop
      innerInduction =>
      rename_i nextInduction
      have bracket : 1 ≤ '<'.utf8Size := '<'.utf8Size_pos
      have bytes := congrArg byteLength (Call.cut_opening_sound opened)
      rw [Call.cut_inner_sound closed] at bytes
      simp only [Call.openingTag, Text.byte_length_append, List.cons_append,
        Text.byte_length_cons] at bytes
      rw [Text.byte_length_cons]
      refine (Fault.Possible.raises_of_le innerInduction (by omega)).bind ?_
      intro content _
      refine (Fault.Possible.raises_of_le nextInduction (by omega)).bind ?_
      intro next _
      exact Raises.ok _

/-- Writing content goes no deeper than there are bytes in the content and in the templates that can
still be opened. -/
theorem interpret_raises (limit : Nat) (templates : Table) (depth : Nat) (content : Content) :
    Raises (Fault.Possible limit (depth + byteLength content.written + templates.valueBytes))
      (interpret limit templates depth content) := by
  induction size : templates.entries.length using Nat.strongRecOn
    generalizing templates depth content with
  | ind size tableInduction =>
      have template : ∀ name depth,
          Raises (Fault.Possible limit (depth + 1 + templates.valueBytes))
            (interpretTemplate limit templates name depth) := by
        intro name depth
        cases found : templates.get? (Reference.written name) with
        | none =>
            rw [interpret_template_none found]
            exact Raises.ok _
        | some source =>
            have fewer := Table.erase_shortens found
            have bytes := Table.value_bytes_erase found
            rw [size] at fewer
            rw [interpret_template_some found]
            have read := of_text_at_raises
              (callable (templates.erase (Reference.written name))) limit (depth + 1) 0 source
            have readInside := read.mapError
              fun fault possible => (fault.possible_inside_template _ _).2 possible
            refine (Fault.Possible.raises_of_le readInside (by omega)).bind ?_
            intro body reached
            have whole := (of_text_at_sound (Outcome.map_error_ok_iff.1 reached)).1
            rw [← whole] at bytes
            exact Fault.Possible.raises_of_le (tableInduction _ fewer _ _ _ rfl) (by omega)
      induction content generalizing depth with
      | nil =>
          rw [interpret]
          exact Raises.ok _
      | text run next nextInduction =>
          rw [interpret, written, Text.byte_length_append]
          exact (Fault.Possible.raises_of_le (nextInduction depth) (by omega)).map
      | call name inner span next innerInduction nextInduction =>
          have bracket : 1 ≤ '<'.utf8Size := '<'.utf8Size_pos
          simp only [written, Call.written, Call.openingTag, Text.byte_length_append,
            List.cons_append, Text.byte_length_cons]
          rw [interpret]
          refine (Fault.Possible.raises_of_le (innerInduction (depth + 1)) (by omega)).bind ?_
          intro filling _
          refine (Fault.Possible.raises_of_le (template name depth) (by omega)).bind ?_
          intro frame _
          refine (Fault.Possible.raises_of_le (nextInduction depth) (by omega)).bind ?_
          intro rest _
          exact Raises.ok _

end Content

theorem expand_calls_raises (templates : Table) (limit : Nat) (text : Text) :
    Raises (Fault.Possible limit (byteLength text + templates.valueBytes))
      (expandCalls templates limit text) := by
  unfold expandCalls
  have read := Content.of_text_at_raises (Content.callable templates) limit 0 0 text
  refine (Fault.Possible.raises_of_le read (by omega)).bind ?_
  intro content reached
  rw [Template.render_expand_eq_interpret, ← (Content.of_text_at_sound reached).1]
  have written := Content.interpret_raises limit templates 0 content
  exact Fault.Possible.raises_of_le written (by omega)

theorem expand_calls_cut_off {limit higher : Nat} (raised : limit ≤ higher) (templates : Table)
    (text : Text) :
    CutOff (expandCalls templates limit text) (expandCalls templates higher text) := by
  unfold expandCalls
  refine (Content.of_text_at_cut_off raised le_rfl _ 0 text).bind ?_
  intro content
  rw [Template.render_expand_eq_interpret, Template.render_expand_eq_interpret]
  exact Content.interpret_cut_off raised le_rfl templates content

/-- Expansion ends for every table, and a limit on the depth cuts results off without changing any.
Without regard to a limit no chain of steps into the work is endless, and on each one that begins at
a body the open names are different keys, while every call that is met opens a template. With as many
levels as there are bytes in the text and in the templates no fault is about depth. What is not about
depth is the same under all higher limits, and is a text or a call that is not closed. -/
theorem expansion_ends_and_limit_only_cuts_off (templates : Table) :
    (WellFounded fun later earlier => Enters templates earlier later) ∧
      (∀ limit text content stage, Content.ofText templates limit text = .ok content →
        Relation.ReflTransGen (Enters templates) ⟨[], content⟩ stage →
          stage.active.Nodup ∧
            (∀ name ∈ stage.active, Reference.written name ∈ templates.keys) ∧
            ∀ name, stage.content.Calls name → name ∉ stage.active ∧
              ∃ source, templates.get? (Reference.written name) = some source ∧
                ∀ depth, Template.expand templates limit stage.active name depth = (do
                  let body ← (Content.ofTextAt
                    (Template.callable templates (name :: stage.active)) limit (depth + 1) 0
                    source).mapError Fault.insideTemplate
                  body.render (Template.expand templates limit (name :: stage.active))
                    (depth + 1))) ∧
      (∀ limit text, byteLength text + templates.valueBytes ≤ limit →
        ∀ fault, expandCalls templates limit text = .error fault → ¬ fault.AboutDepth) ∧
      (∀ limit higher text, limit ≤ higher →
        (∀ fault, expandCalls templates limit text = .error fault → ¬ fault.AboutDepth) →
          expandCalls templates higher text = expandCalls templates limit text) ∧
      ∀ limit text fault, expandCalls templates limit text = .error fault →
        fault.AboutDepth ∨ fault.Unclosed := by
  refine ⟨Stage.enters_well_founded templates, ?_, ?_, ?_, ?_⟩
  · intro limit text content stage read path
    obtain ⟨distinct, listed, fresh⟩ := Stage.sound_of_reaches (Stage.sound_of_body read) path
    refine ⟨distinct, listed, ?_⟩
    intro name calls
    obtain ⟨inactive, source, found, opens⟩ := Template.expand_of_callable (fresh name calls)
    exact ⟨inactive, source, found, fun depth => opens limit depth⟩
  · intro limit text room fault run deep
    rcases expand_calls_raises templates limit text fault run with unclosed | beyond
    · exact unclosed.not_about_depth deep
    · exact absurd beyond.2 (Nat.not_lt.2 room)
  · intro limit higher text raised shallow
    rcases expand_calls_cut_off raised templates text with ⟨fault, run, deep⟩ | same
    · exact absurd deep (shallow fault run)
    · exact same
  · intro limit text fault run
    rcases expand_calls_raises templates limit text fault run with unclosed | beyond
    · exact Or.inr unclosed
    · exact Or.inl beyond.1

end PostMarkup
