import PostMarkup.Assignment
import PostMarkup.Reference
import PostMarkup.Tag

/-!
Content of a body: runs of text and calls with content of their own. A forest is one inductive type
in which every node carries the nodes after it, so that recursion follows the data alone.
-/

namespace PostMarkup

open Text (dropMark?)

/-- A range of bytes, `stop` excluded. -/
structure Span where
  start : Nat
  stop : Nat
deriving DecidableEq

inductive Content where
  | nil
  /-- A run of plain text and the nodes after it. -/
  | text (run : Text) (next : Content)
  /-- A call, the content between its tags, the range of the whole call and the nodes after it. -/
  | call (name : Text) (inner : Content) (span : Span) (next : Content)
deriving DecidableEq

namespace Content

/-- The number of calls that lie inside one another at the deepest place. -/
def depth : Content → Nat
  | nil => 0
  | text _ next => next.depth
  | call _ inner _ next => max (inner.depth + 1) next.depth

/-- Puts a character in front, joining it to a run of text that comes first. -/
def consChar (c : Char) : Content → Content
  | text run next => text (c :: run) next
  | content => text [c] content

end Content

namespace Call

def openingTag (name : Text) : Text := '<' :: name ++ ['>']

/-- What the name of a call is made of. Unlike a block, a call may have punctuation in its name. -/
def isNameChar (c : Char) : Bool :=
  !Unicode.isWhiteSpace c && c ≠ '<' && c ≠ '>' && c ≠ '/'

def cutOpening? (callable : Text → Bool) : Text → Option (Text × Text)
  | '<' :: rest =>
      match rest.dropWhile isNameChar with
      | '>' :: after =>
          if rest.takeWhile isNameChar ≠ [] ∧ callable (rest.takeWhile isNameChar) then
            some (rest.takeWhile isNameChar, after)
          else none
      | _ => none
  | _ => none

theorem cut_opening_sound {callable : Text → Bool} {text name after : Text}
    (cut : cutOpening? callable text = some (name, after)) :
    text = openingTag name ++ after := by
  unfold cutOpening? at cut
  split at cut
  · rename_i rest
    split at cut
    · rename_i back dropped
      split at cut
      · simp only [Option.some.injEq, Prod.mk.injEq] at cut
        obtain ⟨rfl, rfl⟩ := cut
        have whole := List.takeWhile_append_dropWhile (p := isNameChar) (l := rest)
        rw [dropped] at whole
        simp [openingTag, whole]
      · simp at cut
    · simp at cut
  · simp at cut

/-- The text up to the closing tag that balances the opening tags of the name, and the text after
it. `depth` counts the opening tags inside that are still unclosed. Tags of other names are text. -/
def cutInner? (name : Text) (depth : Nat) : Text → Option (Text × Text)
  | [] => none
  | c :: rest =>
      match _ : dropMark? (closingTag name) (c :: rest) with
      | some after =>
          match depth with
          | 0 => some ([], after)
          | depth + 1 =>
              (cutInner? name depth after).map fun (inner, behind) =>
                (closingTag name ++ inner, behind)
      | none =>
          match _ : dropMark? (openingTag name) (c :: rest) with
          | some after =>
              (cutInner? name (depth + 1) after).map fun (inner, behind) =>
                (openingTag name ++ inner, behind)
          | none => (cutInner? name depth rest).map fun (inner, behind) => (c :: inner, behind)
termination_by text => text.length
decreasing_by
  · exact closing_tag_shortens ‹_›
  · have whole := congrArg List.length (Text.drop_mark_eq_some_iff.1 ‹_›)
    simp only [openingTag, List.length_append, List.length_cons] at whole ⊢
    omega
  · simp

theorem cut_inner_sound {name text inner after : Text} {depth : Nat}
    (cut : cutInner? name depth text = some (inner, after)) :
    text = inner ++ closingTag name ++ after := by
  fun_induction cutInner? name depth text generalizing inner with
  | case1 => simp at cut
  | case2 c rest back dropped =>
      simp only [Option.some.injEq, Prod.mk.injEq] at cut
      obtain ⟨rfl, rfl⟩ := cut
      simpa using Text.drop_mark_eq_some_iff.1 dropped
  | case3 c rest back dropped depth induction =>
      obtain ⟨⟨front, behind⟩, found, same⟩ := Option.map_eq_some_iff.1 cut
      simp only [Prod.mk.injEq] at same
      obtain ⟨rfl, rfl⟩ := same
      rw [Text.drop_mark_eq_some_iff.1 dropped, induction found]
      simp
  | case4 depth c rest dropped back opened induction =>
      obtain ⟨⟨front, behind⟩, found, same⟩ := Option.map_eq_some_iff.1 cut
      simp only [Prod.mk.injEq] at same
      obtain ⟨rfl, rfl⟩ := same
      rw [Text.drop_mark_eq_some_iff.1 opened, induction found]
      simp
  | case5 depth c rest dropped opened induction =>
      obtain ⟨⟨front, behind⟩, found, same⟩ := Option.map_eq_some_iff.1 cut
      simp only [Prod.mk.injEq] at same
      obtain ⟨rfl, rfl⟩ := same
      rw [induction found]
      simp

end Call

end PostMarkup
