import PostMarkup.Text
import PostMarkup.Unicode.Alphabetic
import PostMarkup.Unicode.Numeric

/-!
References: names between dollar signs. A reference inside a text has a name of word characters
only; the written form itself can be given to any name, and taken off any non-empty one.
-/

namespace PostMarkup

/-- Letters, numbers and the underscore. -/
def isWordChar (c : Char) : Bool := Unicode.isAlphabetic c || Unicode.isNumeric c || c = '_'

namespace Reference

def written (name : Text) : Text := '$' :: name ++ ['$']

theorem written_injective {left right : Text} (same : written left = written right) :
    left = right := by
  simpa [written] using same

/-- The name of a written reference. The empty name has a written form but cannot be read back. -/
def name? : Text → Option Text
  | '$' :: rest =>
      if rest.getLast? = some '$' ∧ rest.dropLast ≠ [] then some rest.dropLast else none
  | _ => none

def cut? : Text → Option (Text × Text)
  | '$' :: rest =>
      match rest.takeWhile isWordChar, rest.dropWhile isWordChar with
      | c :: name, '$' :: after => some (c :: name, after)
      | _, _ => none
  | _ => none

theorem cut_sound {text name after : Text} (cut : cut? text = some (name, after)) :
    text = written name ++ after := by
  unfold cut? at cut
  split at cut
  · rename_i rest
    split at cut
    · rename_i c front back taken dropped
      simp only [Option.some.injEq, Prod.mk.injEq] at cut
      obtain ⟨rfl, rfl⟩ := cut
      have whole := List.takeWhile_append_dropWhile (p := isWordChar) (l := rest)
      rw [taken, dropped] at whole
      simp [written, ← whole]
    · simp at cut
  · simp at cut

theorem cut_shortens {text name after : Text} (cut : cut? text = some (name, after)) :
    after.length < text.length := by
  simp only [cut_sound cut, written, List.length_append, List.length_cons]
  omega

end Reference

end PostMarkup
