import PostMarkup.Content.OfText

/-!
Expansion of calls. The content of a call is written first, then the template of the call with the
calls inside it, and the content takes the first placement of the result. While a template is being
expanded its own name is not callable inside it, so expansion ends for every table of templates; the
limit on the depth only refuses, it never bounds the recursion.
-/

namespace PostMarkup

open Text (replaceFirst)

namespace Content

/-- Writes content whose calls lie inside `depth` others. `template` gives the expanded template of
a name for a call at a depth. -/
def render (template : Text → Nat → Except Fault Text) (depth : Nat) :
    Content → Except Fault Text
  | nil => .ok []
  | text run next => (render template depth next).map (run ++ ·)
  | call name inner _ next => do
      let filling ← render template (depth + 1) inner
      let frame ← template name depth
      let rest ← render template depth next
      return replaceFirst placement filling frame ++ rest

end Content

namespace Fault

/-- A call too deep inside a template is reported without a place, as the place would lie in the
template and not in the body. All other faults keep their form. -/
def insideTemplate : Fault → Fault
  | callTooDeep name _ limit => templateTooDeep name limit
  | fault => fault

end Fault

namespace Template

/-- A name is callable inside the templates of `active` when it has a template and is not itself
active. -/
def callable (templates : Table) (active : List Text) (name : Text) : Bool :=
  !active.contains name && Content.callable templates name

def idleKeys (templates : Table) (active : List Text) : List Text :=
  templates.keys.filter fun key => !(active.map Reference.written).contains key

theorem idle_keys_shorten {templates : Table} {active : List Text} {name : Text}
    (free : callable templates active name = true) :
    (idleKeys templates (name :: active)).length < (idleKeys templates active).length := by
  simp only [callable, Content.callable, Bool.and_eq_true, Bool.not_eq_true',
    List.contains_eq_mem, decide_eq_false_iff_not] at free
  have narrowed : idleKeys templates (name :: active) =
      (idleKeys templates active).filter (· != Reference.written name) := by
    simp only [idleKeys, List.filter_filter]
    congr 1
    funext key
    by_cases same : key = Reference.written name <;> simp [same]
  rw [narrowed, List.length_filter_lt_length_iff_exists]
  refine ⟨Reference.written name, ?_, by simp⟩
  simp only [idleKeys, List.mem_filter, Bool.not_eq_true', List.contains_eq_mem,
    decide_eq_false_iff_not, List.mem_map, not_exists, not_and]
  refine ⟨Table.contains_iff_mem_keys.1 free.2, ?_⟩
  intro other member same
  exact free.1 (Reference.written_injective same ▸ member)

/-- The expanded template of a name that is called at `depth` inside the templates of `active`. A
name that is not callable there has an empty one. -/
def expand (templates : Table) (limit : Nat) (active : List Text) (name : Text) (depth : Nat) :
    Except Fault Text :=
  if _ : callable templates active name then do
    let source := (templates.get? (Reference.written name)).getD []
    let content ←
      (Content.ofTextAt (callable templates (name :: active)) limit (depth + 1) 0 source).mapError
        Fault.insideTemplate
    content.render (expand templates limit (name :: active)) (depth + 1)
  else .ok []
termination_by (idleKeys templates active).length
decreasing_by exact idle_keys_shorten ‹_›

end Template

def expandCalls (templates : Table) (limit : Nat) (text : Text) : Except Fault Text := do
  let content ← Content.ofText templates limit text
  content.render (Template.expand templates limit []) 0

end PostMarkup
