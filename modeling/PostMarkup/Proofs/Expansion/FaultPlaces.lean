import PostMarkup.Proofs.Expansion.Limit
import PostMarkup.Proofs.Text.Bytes

/-!
Where the call stands that a fault names. Offsets are carried along while a text is read, however deep the
reading goes, so the tag of the call stands at the offset in the text that is read. That text is the body
only while the body itself is read. A template is read as a text of its own: the place of a call too deep
in it is dropped, but the place of a call that is not closed is reported as it is.
-/

namespace PostMarkup

open Call (openingTag)
open Outcome (Raises)
open Relation (ReflTransGen)
open Text (byteLength)

/-- What can be wrong with `source` under a limit: a call that is not closed or too deep, whose opening
tag stands at the offset of the fault. -/
def Fault.StandsIn (limit : Nat) (source : Text) : Fault → Prop
  | unclosedCall name offset => source.HoldsAt offset (openingTag name)
  | callTooDeep name offset deepest => deepest = limit ∧ source.HoldsAt offset (openingTag name)
  | _ => False

theorem Call.opening_stands {callable : Text → Bool} {source before text name after : Text}
    (opened : cutOpening? callable text = some (name, after)) (ahead : before ++ text <+: source) :
    source.HoldsAt (byteLength before) (openingTag name) := by
  rw [cut_opening_sound opened, ← List.append_assoc] at ahead
  exact Text.holds_at_of_prefix ((List.prefix_append _ after).trans ahead)

/-- Reading a part of a source complains about calls of that source, at all levels. -/
theorem Content.of_text_at_stands_in {callable : Text → Bool} {limit depth : Nat}
    {source before text : Text} (ahead : before ++ text <+: source) :
    Raises (Fault.StandsIn limit source) (ofTextAt callable limit depth (byteLength before) text) := by
  generalize counted : byteLength before = offset
  fun_induction ofTextAt callable limit depth offset text generalizing before with
  | case1 depth offset => exact Raises.ok _
  | case2 depth offset c rest uncut induction =>
      have later : before ++ [c] ++ rest <+: source := by simpa using ahead
      exact (induction later (by simp [counted])).map
  | case3 depth offset c rest name after opened tooDeep =>
      exact Raises.error ⟨rfl, counted ▸ Call.opening_stands opened ahead⟩
  | case4 depth offset c rest name after opened within unclosed =>
      exact Raises.error (counted ▸ Call.opening_stands opened ahead)
  | case5 depth offset c rest name after opened within inner behind closed start stop
      innerInduction =>
      rename_i nextInduction
      -- The call is cut into its tags and its content, which lie in the source one after the other.
      rw [Call.cut_opening_sound opened, Call.cut_inner_sound closed, ← List.append_assoc,
        ← List.append_assoc, ← List.append_assoc] at ahead
      have innerAhead : before ++ openingTag name ++ inner <+: source :=
        ((List.prefix_append _ (closingTag name)).trans (List.prefix_append _ behind)).trans ahead
      have innerCounted : byteLength (before ++ openingTag name) = start := by
        simp [start, counted]
      have nextCounted : byteLength (before ++ openingTag name ++ inner ++ closingTag name) = stop := by
        simp [stop, start, counted, Nat.add_assoc]
      refine (innerInduction innerAhead innerCounted).bind ?_
      intro content _
      refine (nextInduction ahead nextCounted).bind ?_
      intro next _
      exact Raises.ok _

def Stage.Opens (templates : Table) (source : Text) (stage : Stage) : Prop :=
  ∃ name inner span next, stage.content = .call name inner span next ∧
    Template.callable templates stage.active name = true ∧
      templates.get? (Reference.written name) = some source

/-- What a template can be refused for when it is opened on the way from a stage. -/
def Fault.FromTemplate (templates : Table) (limit : Nat) (start : Stage) (fault : Fault) : Prop :=
  ∃ (stage : Stage) (source : Text) (earlier : Fault), ReflTransGen (Enters templates) start stage ∧
    stage.Opens templates source ∧ earlier.StandsIn limit source ∧ fault = earlier.insideTemplate

namespace Fault

variable {templates : Table} {limit : Nat} {start next : Stage} {fault : Fault}

theorem FromTemplate.behind (later : fault.FromTemplate templates limit next)
    (step : Enters templates start next) : fault.FromTemplate templates limit start := by
  rcases later with ⟨stage, source, earlier, path, opens, stands, same⟩
  exact ⟨stage, source, earlier, ReflTransGen.head step path, opens, stands, same⟩

theorem raises_behind {Value : Type} {outcome : Except Fault Value}
    (later : Raises (FromTemplate templates limit next) outcome) (step : Enters templates start next) :
    Raises (FromTemplate templates limit start) outcome :=
  later.weaken fun _ fromTemplate => fromTemplate.behind step

/-- A template never reports the place of a call too deep. -/
theorem FromTemplate.of_about_depth (fromTemplate : fault.FromTemplate templates limit start)
    (deep : fault.AboutDepth) : ∃ name, fault = .templateTooDeep name limit := by
  rcases fromTemplate with ⟨stage, source, earlier, path, opens, stands, rfl⟩
  cases earlier with
  | callTooDeep name offset deepest =>
      rcases stands with ⟨rfl, -⟩
      exact ⟨name, rfl⟩
  | unclosedCall name offset => cases deep
  | _ => cases stands

/-- It reports the place of a call that is not closed, which is a place in the template. -/
theorem FromTemplate.of_unclosed {name : Text} {offset : Nat}
    (fromTemplate : (unclosedCall name offset).FromTemplate templates limit start) :
    ∃ (stage : Stage) (source : Text), ReflTransGen (Enters templates) start stage ∧
      stage.Opens templates source ∧ source.HoldsAt offset (openingTag name) := by
  rcases fromTemplate with ⟨stage, source, earlier, path, opens, stands, same⟩
  cases earlier with
  | unclosedCall other place =>
      cases same
      exact ⟨stage, source, path, opens, stands⟩
  | callTooDeep other place deepest => cases same
  | _ => cases stands

end Fault

/-- Writing content complains about templates only. The induction is on the names that are not active,
and for one list of active names on the content. -/
theorem Content.render_from_template (templates : Table) (limit : Nat) (active : List Text)
    (content : Content) (depth : Nat) :
    Raises (Fault.FromTemplate templates limit ⟨active, content⟩)
      (content.render (Template.expand templates limit active) depth) := by
  induction count : (Template.idleKeys templates active).length using Nat.strongRecOn
    generalizing active content depth with
  | ind count openInduction =>
      have template : ∀ name inner span next depth,
          Raises (Fault.FromTemplate templates limit ⟨active, .call name inner span next⟩)
            (Template.expand templates limit active name depth) := by
        intro name inner span next depth
        by_cases free : Template.callable templates active name = true
        · obtain ⟨-, source, found, opens⟩ := Template.expand_of_callable free
          have fewer := Template.idle_keys_shorten free
          rw [count] at fewer
          rw [opens]
          have read : Raises (Fault.StandsIn limit source)
              (ofTextAt (Template.callable templates (name :: active)) limit (depth + 1)
                (byteLength []) source) :=
            of_text_at_stands_in (List.prefix_refl source)
          have reported : ∀ earlier : Fault, earlier.StandsIn limit source →
              earlier.insideTemplate.FromTemplate templates limit
                ⟨active, .call name inner span next⟩ := by
            intro earlier stands
            exact ⟨_, source, earlier, ReflTransGen.refl,
              ⟨name, inner, span, next, rfl, free, found⟩, stands, rfl⟩
          refine (read.mapError reported).bind ?_
          intro body reached
          have bodyRead := Outcome.map_error_ok_iff.1 reached
          exact Fault.raises_behind (openInduction _ fewer _ _ _ rfl) (.opened found bodyRead)
        · rw [Template.expand, dif_neg free]
          exact Raises.ok _
      induction content generalizing depth with
      | nil => exact Raises.ok _
      | text run next nextInduction =>
          exact (Fault.raises_behind (nextInduction depth) .pastText).map
      | call name inner span next innerInduction nextInduction =>
          refine (Fault.raises_behind (innerInduction (depth + 1)) .inside).bind ?_
          intro filling _
          refine (template name inner span next depth).bind ?_
          intro frame _
          refine (Fault.raises_behind (nextInduction depth) .pastCall).bind ?_
          intro rest _
          exact Raises.ok _

section Expansion

variable {templates : Table} {limit : Nat} {text : Text} {fault : Fault}

theorem Content.stands_in_of_text (failed : Content.ofText templates limit text = .error fault) :
    fault.StandsIn limit text := by
  have whole : [] ++ text <+: text := List.prefix_refl text
  exact Content.of_text_at_stands_in whole fault failed

/-- An expansion fails over the body when the body is read, or over a template afterwards. -/
theorem expand_calls_error (failed : expandCalls templates limit text = .error fault) :
    (Content.ofText templates limit text = .error fault ∧ fault.StandsIn limit text) ∨
      ∃ content, Content.ofText templates limit text = .ok content ∧
        fault.FromTemplate templates limit ⟨[], content⟩ := by
  rcases Outcome.bind_error_iff.1 failed with refused | ⟨content, read, run⟩
  · exact Or.inl ⟨refused, Content.stands_in_of_text refused⟩
  · exact Or.inr ⟨content, read, Content.render_from_template templates limit [] content 0 fault run⟩

/-- A call too deep is always one of the body. A call that is not closed is one of the body, with its
place there, when the body cannot be read; else it is a call in a template that is opened on behalf of
the body, and the offset is its place in that template. -/
theorem call_fault_place (failed : expandCalls templates limit text = .error fault) :
    (∀ name offset deepest, fault = .callTooDeep name offset deepest →
      text.HoldsAt offset (openingTag name)) ∧
      ∀ name offset, fault = .unclosedCall name offset →
        (Content.ofText templates limit text = .error fault ∧
          text.HoldsAt offset (openingTag name)) ∨
        ∃ content, Content.ofText templates limit text = .ok content ∧
          ∃ (stage : Stage) (source : Text), ReflTransGen (Enters templates) ⟨[], content⟩ stage ∧
            stage.Opens templates source ∧ source.HoldsAt offset (openingTag name) := by
  constructor
  · intro name offset deepest same
    subst same
    rcases expand_calls_error failed with ⟨-, stands⟩ | ⟨content, -, fromTemplate⟩
    · exact stands.2
    · obtain ⟨other, tooDeep⟩ := fromTemplate.of_about_depth trivial
      cases tooDeep
  · intro name offset same
    subst same
    rcases expand_calls_error failed with inBody | ⟨content, read, fromTemplate⟩
    · exact Or.inl inBody
    · exact Or.inr ⟨content, read, fromTemplate.of_unclosed⟩

end Expansion

def plainTemplates : Table :=
  ⟨[("$c$".toList, "<li>\x7b\x7d</li>".toList), ("$d$".toList, "<p>\x7b\x7d</p>".toList)]⟩

theorem call_fault_place_of_unclosed_inside :
    expandCalls plainTemplates 50 "\u00e9<c>ab<d>x</c>".toList = .error (.unclosedCall ['d'] 7) ∧
      Text.HoldsAt "\u00e9<c>ab<d>x</c>".toList 7 "<d>".toList := by
  have refused : Content.ofText plainTemplates 50 "\u00e9<c>ab<d>x</c>".toList =
      .error (.unclosedCall ['d'] 7) := by decide +kernel
  have failed : expandCalls plainTemplates 50 "\u00e9<c>ab<d>x</c>".toList =
      .error (.unclosedCall ['d'] 7) := by
    rw [expandCalls, refused]
    rfl
  refine ⟨failed, ?_⟩
  rcases (call_fault_place failed).2 ['d'] 7 rfl with ⟨-, stands⟩ | ⟨content, read, -⟩
  · exact stands
  · rw [refused] at read
    cases read

/-- The call that is not closed stands in the template of the name that is called, two bytes behind its
beginning; two bytes behind the beginning of the body there is no such call. -/
theorem unclosed_call_of_template :
    expandCalls ⟨[("$a$".toList, "\x7b\x7d<b>".toList), ("$b$".toList, "x\x7b\x7d".toList)]⟩ 50
        "<b>z</b><a>y</a>".toList = .error (.unclosedCall ['b'] 2) ∧
      ¬ Text.HoldsAt "<b>z</b><a>y</a>".toList 2 "<b>".toList := by
  constructor <;> decide +kernel

end PostMarkup
