import PostMarkup.Proofs.Content.Reading
import PostMarkup.Proofs.Expansion.Lexical
import PostMarkup.Proofs.Placement

/-!
What becomes of the text around and inside calls. Templates are checked for a placement as they are
given, but a placement is filled only after the calls of the template have been expanded. In a table
whose keys hold no placement this makes no difference: the placement of a template stands in a run of
text, every run of text is kept, so the expanded template has a placement too and nothing is lost.
-/

namespace PostMarkup

namespace Text

/-- The pieces stand in the text, one behind the other and without overlap. -/
def InOrder : List Text → Text → Prop
  | [], _ => True
  | piece :: pieces, text => ∃ before after, text = before ++ piece ++ after ∧ InOrder pieces after

variable {pieces others : List Text} {text front back piece : Text}

theorem InOrder.within (inOrder : InOrder pieces text) (before after : Text) :
    InOrder pieces (before ++ text ++ after) := by
  induction pieces generalizing before text with
  | nil => trivial
  | cons piece pieces induction =>
      rcases inOrder with ⟨start, rest, rfl, restInOrder⟩
      refine ⟨before ++ start, rest ++ after, by simp, ?_⟩
      exact induction restInOrder []

theorem InOrder.append (frontInOrder : InOrder pieces front) (backInOrder : InOrder others back) :
    InOrder (pieces ++ others) (front ++ back) := by
  induction pieces generalizing front with
  | nil => simpa using backInOrder.within front []
  | cons piece pieces induction =>
      rcases frontInOrder with ⟨start, rest, rfl, restInOrder⟩
      exact ⟨start, rest ++ back, by simp, induction restInOrder⟩

theorem InOrder.infix_of_mem (inOrder : InOrder pieces text) (member : piece ∈ pieces) :
    piece <:+: text := by
  induction pieces generalizing text with
  | nil => cases member
  | cons first pieces induction =>
      rcases inOrder with ⟨start, rest, rfl, restInOrder⟩
      rcases List.mem_cons.1 member with rfl | member
      · exact ⟨start, rest, rfl⟩
      · exact List.infix_append_of_infix_right (induction restInOrder member)

end Text

namespace Content

def runs : Content → List Text
  | nil => []
  | text run next => run :: next.runs
  | call _ inner _ next => inner.runs ++ next.runs

variable {templates : Table} {limit depth : Nat}

theorem exists_run_of_placement {content : Content} (plain : templates.Plain)
    (wellFormed : content.WellFormed (callable templates)) (found : placement <:+: content.written) :
    ∃ run ∈ content.runs, placement <:+: run := by
  induction content with
  | nil => exact absurd found (by decide)
  | text run next induction =>
      rcases wellFormed with ⟨-, noText, -, nextWellFormed⟩
      rw [written, Text.infix_append_markup_iff (by decide) (written_begins_markup noText)] at found
      rcases found with here | later
      · exact ⟨run, List.mem_cons_self, here⟩
      · obtain ⟨other, member, holds⟩ := induction nextWellFormed later
        exact ⟨other, List.mem_cons_of_mem _ member, holds⟩
  | call name inner span next innerInduction nextInduction =>
      rcases wellFormed with ⟨-, called, -, innerWellFormed, nextWellFormed⟩
      rw [written, Call.written, placement_infix_call_iff (plain.name_plain called)] at found
      rcases found with inside | later
      · obtain ⟨run, member, holds⟩ := innerInduction innerWellFormed inside
        exact ⟨run, List.mem_append_left _ member, holds⟩
      · obtain ⟨run, member, holds⟩ := nextInduction nextWellFormed later
        exact ⟨run, List.mem_append_right _ member, holds⟩

/-- Writing content keeps its runs. The induction is on the size of the table, then on the content: a
template is written against a smaller table, and keeps the run that its placement lies in. -/
theorem interpret_keeps_runs {content : Content} {out : Text} (placed : templates.Placed)
    (plain : templates.Plain) (wellFormed : content.WellFormed (callable templates))
    (run : content.interpret limit templates depth = .ok out) :
    Text.InOrder content.runs out := by
  induction size : templates.entries.length using Nat.strongRecOn
    generalizing templates depth content out with
  | ind size tableInduction =>
      have framePlaced : ∀ name depth frame, callable templates name = true →
          interpretTemplate limit templates name depth = .ok frame → placement <:+: frame := by
        intro name depth frame called expanded
        obtain ⟨source, found⟩ := Table.contains_iff_get.1 called
        have fewer := Table.erase_shortens found
        rw [size] at fewer
        obtain ⟨body, read, written⟩ := (interpret_template_ok_iff found).1 expanded
        obtain ⟨rfl, bodyWellFormed, -⟩ := of_text_at_sound read
        have given := placed _ (Table.mem_entries_of_get found)
        have othersPlaced := placed.erase (Reference.written name)
        have othersPlain := plain.erase (Reference.written name)
        obtain ⟨piece, member, holds⟩ := exists_run_of_placement othersPlain bodyWellFormed given
        have kept := tableInduction _ fewer othersPlaced othersPlain bodyWellFormed written rfl
        exact holds.trans (kept.infix_of_mem member)
      induction content generalizing depth out with
      | nil => trivial
      | text piece next nextInduction =>
          rcases wellFormed with ⟨-, -, -, nextWellFormed⟩
          rw [interpret] at run
          obtain ⟨rest, nextRun, rfl⟩ := Outcome.map_ok_iff.1 run
          exact ⟨[], rest, rfl, nextInduction nextWellFormed nextRun⟩
      | call name inner span next innerInduction nextInduction =>
          rcases wellFormed with ⟨-, called, -, innerWellFormed, nextWellFormed⟩
          obtain ⟨filling, frame, rest, innerRun, expanded, nextRun, rfl⟩ :=
            interpret_call_ok_iff.1 run
          obtain ⟨before, after, filled⟩ :=
            Text.replace_first_of_infix (framePlaced name depth frame called expanded) filling
          have kept := (innerInduction innerWellFormed innerRun).within before after
          rw [filled]
          exact kept.append (nextInduction nextWellFormed nextRun)

end Content

/-- Expansion loses no text. When every template has a placement and no key has one, the runs of text
of a body, at all levels, stand in the result in the order of the body and without overlap. -/
theorem expand_calls_keeps_runs {templates : Table} {limit : Nat} {text out : Text}
    {content : Content} (placed : templates.Placed) (plain : templates.Plain)
    (read : Content.ofText templates limit text = .ok content)
    (run : expandCalls templates limit text = .ok out) : Text.InOrder content.runs out := by
  have wellFormed := (Content.of_text_at_sound read).2.1
  rw [expand_calls_eq_interpret, read] at run
  exact Content.interpret_keeps_runs placed plain wellFormed run

/-- Text can be lost where a key holds a placement. -/
example :
    (expandCalls ⟨[("$a$".toList, "<\x7b\x7d></\x7b\x7d>".toList),
      ("$\x7b\x7d$".toList, "k\x7b\x7d".toList)]⟩ 50 "<a>y</a>".toList).toOption = some ['k'] := by
  decide +kernel

def cyclicTemplates : Table :=
  ⟨[("$a$".toList, "(<b>\x7b\x7d</b>)".toList), ("$b$".toList, "[<a>\x7b\x7d</a>]\x7b\x7d".toList)]⟩

theorem expand_calls_keeps_runs_of_cyclic_templates :
    cyclicTemplates.Placed ∧ cyclicTemplates.Plain ∧
      ∃ content, Content.ofText cyclicTemplates 50 "x<a>y<b>z</b></a>w".toList = .ok content ∧
        content.runs = [['x'], ['y'], ['z'], ['w']] ∧
        ∃ out, expandCalls cyclicTemplates 50 "x<a>y<b>z</b></a>w".toList = .ok out ∧
          out = "x([<a>y[(<b>z</b>)]\x7b\x7d</a>]\x7b\x7d)w".toList ∧
          Text.InOrder content.runs out := by
  have placed : cyclicTemplates.Placed := by decide +kernel
  have plain : cyclicTemplates.Plain := by decide +kernel
  have read : Content.ofText cyclicTemplates 50 "x<a>y<b>z</b></a>w".toList =
      .ok (.text ['x'] (.call ['a'] (.text ['y'] (.call ['b'] (.text ['z'] .nil) ⟨5, 13⟩ .nil))
        ⟨1, 17⟩ (.text ['w'] .nil))) := Outcome.ok_of_to_option (by decide +kernel)
  have run : expandCalls cyclicTemplates 50 "x<a>y<b>z</b></a>w".toList =
      .ok "x([<a>y[(<b>z</b>)]\x7b\x7d</a>]\x7b\x7d)w".toList :=
    Outcome.ok_of_to_option (by decide +kernel)
  exact ⟨placed, plain, _, read, rfl, _, run, rfl, expand_calls_keeps_runs placed plain read run⟩

end PostMarkup
