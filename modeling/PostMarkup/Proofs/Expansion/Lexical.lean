import PostMarkup.Expansion.Calls
import PostMarkup.Proofs.Outcome
import PostMarkup.Proofs.Tables

/-!
Expansion without a list of active names. Instead of remembering which templates are being expanded,
a template is read and written against the table from which its own name has been taken out. The
table gets smaller with every template, so no depth is needed for the recursion to end. The two ways
of expanding give the same text and the same fault for every table.
-/

namespace PostMarkup

open Text (replaceFirst)

namespace Content

mutual

/-- Writes content against a table that loses the key of a call while the template of that call is
expanded. The calls of the content lie inside `depth` others. -/
def interpret (limit : Nat) (templates : Table) (depth : Nat) : Content → Except Fault Text
  | nil => .ok []
  | text run next => (interpret limit templates depth next).map (run ++ ·)
  | call name inner _ next => do
      let filling ← interpret limit templates (depth + 1) inner
      let frame ← interpretTemplate limit templates name depth
      let rest ← interpret limit templates depth next
      return replaceFirst placement filling frame ++ rest
termination_by content => (templates.entries.length, sizeOf content)
decreasing_by
  all_goals exact Prod.Lex.right _ (by simp only [text.sizeOf_spec, call.sizeOf_spec]; omega)

/-- The template of a name that is called at `depth`, read and written without the name itself. A
name without a template leaves nothing behind. -/
def interpretTemplate (limit : Nat) (templates : Table) (name : Text) (depth : Nat) :
    Except Fault Text :=
  match _ : templates.get? (Reference.written name) with
  | none => .ok []
  | some source => do
      let others := templates.erase (Reference.written name)
      let body ← (ofTextAt (callable others) limit (depth + 1) 0 source).mapError
        Fault.insideTemplate
      interpret limit others (depth + 1) body
termination_by (templates.entries.length, 0)
decreasing_by exact Prod.Lex.left _ _ (Table.erase_shortens ‹_›)

end

theorem interpret_eq_render (limit : Nat) (templates : Table) (depth : Nat) (content : Content) :
    interpret limit templates depth content =
      content.render (interpretTemplate limit templates) depth := by
  induction content generalizing depth with
  | nil => rw [interpret, render]
  | text run next induction => rw [interpret, render, induction]
  | call name inner span next innerInduction nextInduction =>
      rw [interpret, render, innerInduction, nextInduction]

theorem interpret_template_eq (limit : Nat) (templates : Table) (name : Text) (depth : Nat) :
    interpretTemplate limit templates name depth =
      match templates.get? (Reference.written name) with
      | none => .ok []
      | some source => (do
          let others := templates.erase (Reference.written name)
          let body ← (ofTextAt (callable others) limit (depth + 1) 0 source).mapError
            Fault.insideTemplate
          interpret limit others (depth + 1) body) := by
  rw [interpretTemplate]
  split
  · rename_i missing
    rw [missing]
  · rename_i source found
    rw [found]

theorem interpret_template_none {limit depth : Nat} {templates : Table} {name : Text}
    (missing : templates.get? (Reference.written name) = none) :
    interpretTemplate limit templates name depth = .ok [] := by
  rw [interpret_template_eq, missing]

theorem interpret_template_some {limit depth : Nat} {templates : Table} {name source : Text}
    (found : templates.get? (Reference.written name) = some source) :
    interpretTemplate limit templates name depth = (do
      let others := templates.erase (Reference.written name)
      let body ← (ofTextAt (callable others) limit (depth + 1) 0 source).mapError
        Fault.insideTemplate
      interpret limit others (depth + 1) body) := by
  rw [interpret_template_eq, found]

theorem interpret_call_ok_iff {limit depth : Nat} {templates : Table} {name out : Text}
    {inner next : Content} {span : Span} :
    (call name inner span next).interpret limit templates depth = .ok out ↔
      ∃ filling frame rest, inner.interpret limit templates (depth + 1) = .ok filling ∧
        interpretTemplate limit templates name depth = .ok frame ∧
        next.interpret limit templates depth = .ok rest ∧
        out = replaceFirst placement filling frame ++ rest := by
  rw [interpret]
  constructor
  · intro run
    obtain ⟨filling, innerRun, run⟩ := Outcome.bind_ok_iff.1 run
    obtain ⟨frame, expanded, run⟩ := Outcome.bind_ok_iff.1 run
    obtain ⟨rest, nextRun, same⟩ := Outcome.bind_ok_iff.1 run
    cases same
    exact ⟨filling, frame, rest, innerRun, expanded, nextRun, rfl⟩
  · intro reached
    rcases reached with ⟨filling, frame, rest, innerRun, expanded, nextRun, rfl⟩
    rw [innerRun, expanded, nextRun]
    rfl

theorem interpret_template_ok_iff {limit depth : Nat} {templates : Table} {name source frame : Text}
    (found : templates.get? (Reference.written name) = some source) :
    interpretTemplate limit templates name depth = .ok frame ↔
      ∃ body, ofTextAt (callable (templates.erase (Reference.written name))) limit (depth + 1) 0
          source = .ok body ∧
        body.interpret limit (templates.erase (Reference.written name)) (depth + 1) = .ok frame := by
  rw [interpret_template_some found]
  apply Iff.trans Outcome.bind_ok_iff
  simp only [Outcome.map_error_ok_iff]

end Content

namespace Template

def idle (templates : Table) (active : List Text) : Table :=
  active.foldr (fun name others => others.erase (Reference.written name)) templates

theorem get_idle (templates : Table) (active : List Text) (name : Text) :
    (idle templates active).get? (Reference.written name) =
      if name ∈ active then none else templates.get? (Reference.written name) := by
  induction active with
  | nil => simp [idle]
  | cons other active induction =>
      by_cases same : name = other
      · subst same
        simp [idle, Table.get_erase_self]
      · have different : Reference.written name ≠ Reference.written other :=
          fun written => same (Reference.written_injective written)
        have kept : ((idle templates active).erase (Reference.written other)).get?
            (Reference.written name) = (idle templates active).get? (Reference.written name) :=
          Table.get_erase_of_ne different
        simp only [List.mem_cons, same, false_or]
        rw [← induction]
        exact kept

/-- Being callable beside active templates is having a template that is not active. -/
theorem callable_idle (templates : Table) (active : List Text) :
    Content.callable (idle templates active) = callable templates active := by
  funext name
  rw [Content.callable, Table.contains, get_idle, callable, Content.callable, Table.contains]
  by_cases member : name ∈ active <;> simp [member]

/-- Expanding a template beside active names is expanding it without the templates of these names.
The induction is on the number of names that are not active. -/
theorem expand_eq_interpret_template (templates : Table) (limit : Nat) (active : List Text) :
    expand templates limit active = Content.interpretTemplate limit (idle templates active) := by
  induction count : (idleKeys templates active).length using Nat.strongRecOn
    generalizing active with
  | ind count induction =>
      funext name depth
      rw [expand]
      by_cases free : callable templates active name = true
      · have fewer := idle_keys_shorten free
        rw [count] at fewer
        have inside := induction _ fewer (name :: active) rfl
        have known := free
        rw [← callable_idle, Content.callable, Table.contains_iff_get] at known
        rcases known with ⟨source, found⟩
        have listed : templates.get? (Reference.written name) = some source := by
          rw [get_idle] at found
          split at found
          · cases found
          · exact found
        rw [dif_pos free, Content.interpret_template_some found, listed, inside, ← callable_idle]
        simp only [Content.interpret_eq_render]
        rfl
      · have missing : (idle templates active).get? (Reference.written name) = none := by
          rw [← callable_idle, Content.callable, Table.contains] at free
          simpa using free
        rw [dif_neg free, Content.interpret_template_none missing]

theorem render_expand_eq_interpret (templates : Table) (limit : Nat) (content : Content)
    (depth : Nat) :
    content.render (expand templates limit []) depth =
      content.interpret limit templates depth := by
  rw [expand_eq_interpret_template, Content.interpret_eq_render]
  rfl

end Template

/-- Remembering the names whose templates are being expanded comes to the same as taking them out of
the table, for cyclic tables too: the text and every fault agree. -/
theorem expand_calls_eq_interpret (templates : Table) (limit : Nat) (text : Text) :
    expandCalls templates limit text = (do
      let content ← Content.ofText templates limit text
      content.interpret limit templates 0) := by
  unfold expandCalls
  simp only [Template.render_expand_eq_interpret]

end PostMarkup
