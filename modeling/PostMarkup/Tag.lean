import PostMarkup.Reference
import PostMarkup.Text.Mark

/-!
Tags of top-level blocks. An opening tag has a name of word characters; whatever stands between the
name and the first closing angle bracket is accepted and ignored. A closing tag is exact.
-/

namespace PostMarkup

open Text (cutFirst? cutLast?)

def closingTag (name : Text) : Text := '<' :: '/' :: name ++ ['>']

structure OpeningTag where
  name : Text
  attributes : Text
  after : Text

namespace OpeningTag

def written (tag : OpeningTag) : Text := '<' :: tag.name ++ tag.attributes ++ ['>']

/-- The opening tag at the very start of the text. Something has to follow it, since a tag that ends
the text cannot have a body. -/
def cut? : Text → Option OpeningTag
  | '<' :: rest =>
      match cutFirst? ['>'] (rest.dropWhile isWordChar) with
      | some (attributes, after) =>
          if rest.takeWhile isWordChar = [] ∨ after = [] then none
          else some ⟨rest.takeWhile isWordChar, attributes, after⟩
      | none => none
  | _ => none

theorem cut_sound {text : Text} {tag : OpeningTag} (cut : cut? text = some tag) :
    text = tag.written ++ tag.after := by
  unfold cut? at cut
  split at cut
  · rename_i rest
    split at cut
    · rename_i attributes after found
      split at cut
      · simp at cut
      · simp only [Option.some.injEq] at cut
        subst cut
        have whole := List.takeWhile_append_dropWhile (p := isWordChar) (l := rest)
        rw [Text.cut_first_sound found] at whole
        simp only [written, List.cons_append, List.append_assoc] at whole ⊢
        rw [whole]
    · simp at cut
  · simp at cut

theorem cut_shortens {text : Text} {tag : OpeningTag} (cut : cut? text = some tag) :
    tag.after.length < text.length := by
  have whole := congrArg List.length (cut_sound cut)
  simp only [written, List.length_append, List.length_cons] at whole
  omega

end OpeningTag

/-- The body in front of the last closing tag of the name, and the text behind that tag. An empty
body is none. -/
def cutBody? (name text : Text) : Option (Text × Text) :=
  match cutLast? (closingTag name) text with
  | some (body, after) => if body = [] then none else some (body, after)
  | none => none

theorem cut_body_sound {name text body after : Text}
    (cut : cutBody? name text = some (body, after)) :
    text = body ++ closingTag name ++ after := by
  unfold cutBody? at cut
  split at cut
  · rename_i front back found
    split at cut
    · simp at cut
    · simp only [Option.some.injEq, Prod.mk.injEq] at cut
      obtain ⟨rfl, rfl⟩ := cut
      exact Text.cut_last_sound found
  · simp at cut

theorem closing_tag_shortens {name text after : Text}
    (dropped : Text.dropMark? (closingTag name) text = some after) :
    after.length < text.length := by
  simp only [Text.drop_mark_eq_some_iff.1 dropped, closingTag, List.length_append,
    List.length_cons]
  omega

end PostMarkup
