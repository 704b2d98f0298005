import PostMarkup.Content

/-!
Reading content from a text. A tag is a call only if its name is callable; all other markup is plain
text. Depth and offset are carried along for the faults and the ranges they are reported in, and the
limit on the depth is no part of the argument that reading ends.
-/

namespace PostMarkup.Content

open Text (byteLength)
open Call (cutOpening? cutInner? openingTag)

theorem inner_shortens {callable : Text → Bool} {text name after inner behind : Text}
    (opened : cutOpening? callable text = some (name, after))
    (closed : cutInner? name 0 after = some (inner, behind)) :
    inner.length < text.length ∧ behind.length < text.length := by
  rw [Call.cut_opening_sound opened, Call.cut_inner_sound closed]
  simp only [openingTag, closingTag, List.length_append, List.length_cons]
  omega

/-- Reads the content of a text that begins `offset` bytes into its source, where calls lie inside
`depth` others. A call too deep is refused before its closing tag is looked for, and the content of
a call is read before what follows it. -/
def ofTextAt (callable : Text → Bool) (limit depth offset : Nat) :
    Text → Except Fault Content
  | [] => .ok nil
  | c :: rest =>
      match _ : cutOpening? callable (c :: rest) with
      | none => (ofTextAt callable limit depth (offset + c.utf8Size) rest).map (consChar c)
      | some (name, after) =>
          if limit < depth then .error (.callTooDeep name offset limit)
          else
            match _ : cutInner? name 0 after with
            | none => .error (.unclosedCall name offset)
            | some (inner, behind) => do
                let start := offset + byteLength (openingTag name)
                let stop := start + byteLength (inner ++ closingTag name)
                let content ← ofTextAt callable limit (depth + 1) start inner
                let next ← ofTextAt callable limit depth stop behind
                return call name content ⟨offset, stop⟩ next
termination_by text => text.length
decreasing_by
  · simp
  · exact (inner_shortens ‹_› ‹_›).1
  · exact (inner_shortens ‹_› ‹_›).2

def callable (templates : Table) (name : Text) : Bool :=
  templates.contains (Reference.written name)

def ofText (templates : Table) (limit : Nat) (text : Text) : Except Fault Content :=
  ofTextAt (callable templates) limit 0 0 text

end PostMarkup.Content
