import PostMarkup.Fault
import PostMarkup.Table
import PostMarkup.Tag

/-!
Cutting a document into its top-level blocks. The body of a block reaches to the last closing tag of
its name, so tags inside a body are plain text here. Text between blocks is dropped. Two blocks of
one name would run together into one body; that is noticed by walking through the body.
-/

namespace PostMarkup

open Text (dropMark? byteLength)

/-- Whether the text opens the name again after it has closed it at level zero. `depth` counts the
openings that are still unclosed and `closed` tells whether level zero was closed before. -/
def reopensFrom (name : Text) (depth : Nat) (closed : Bool) : Text → Bool
  | [] => false
  | c :: rest =>
      match _ : dropMark? (closingTag name) (c :: rest) with
      | some after =>
          match depth with
          | 0 => reopensFrom name 0 true after
          | depth + 1 => reopensFrom name depth closed after
      | none =>
          match _ : OpeningTag.cut? (c :: rest) with
          | some tag =>
              if tag.name = name then closed || reopensFrom name (depth + 1) closed tag.after
              else reopensFrom name depth closed rest
          | none => reopensFrom name depth closed rest
termination_by text => text.length
decreasing_by
  · exact closing_tag_shortens ‹_›
  · exact closing_tag_shortens ‹_›
  · exact OpeningTag.cut_shortens ‹_›
  · simp
  · simp

/-- Whether a body closes its own name and opens it again, as the bodies of two blocks that ran
together do. -/
def reopens (name body : Text) : Bool := reopensFrom name 0 false body

/-- Reads the blocks of the text that begins `offset` bytes into the document, after those in
`blocks`. -/
def scanFrom (blocks : Table) (offset : Nat) : Text → Except Fault Table
  | [] => .ok blocks
  | c :: rest =>
      match _ : OpeningTag.cut? (c :: rest) with
      | none => scanFrom blocks (offset + c.utf8Size) rest
      | some tag =>
          match _ : cutBody? tag.name tag.after with
          | none => .error (.unclosedTag tag.name offset)
          | some (body, after) =>
              if blocks.contains tag.name || reopens tag.name body then
                .error (.repeatedTag tag.name)
              else
                scanFrom (blocks.insert tag.name body)
                  (offset + byteLength (tag.written ++ body ++ closingTag tag.name)) after
termination_by text => text.length
decreasing_by
  · simp
  · have inner := congrArg List.length (cut_body_sound ‹_›)
    have outer := OpeningTag.cut_shortens ‹_›
    simp only [List.length_append] at inner
    omega

def scan (document : Text) : Except Fault Table := scanFrom .empty 0 document

end PostMarkup
