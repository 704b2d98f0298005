import PostMarkup.Proofs.Scan.Cuts
import PostMarkup.Reference

/-!
References at the start of a text. Nothing but the reference itself settles whether it is read, so it is
read in front of any text.
-/

namespace PostMarkup

theorem IsWord.cut_written {name : Text} (word : IsWord name) (after : Text) :
    Reference.cut? (Reference.written name ++ after) = some (name, after) := by
  obtain ⟨c, rest, shape⟩ := List.exists_cons_of_ne_nil word.1
  have bounded : ∀ d ∈ ('$' :: after).head?, isWordChar d = false := by
    simp only [List.head?_cons, Option.mem_some_iff, forall_eq']
    decide
  obtain ⟨taken, dropped⟩ := Text.take_drop_while_append word.2 bounded
  have whole : Reference.written name ++ after = '$' :: (name ++ '$' :: after) := by
    simp [Reference.written]
  rw [whole, Reference.cut?, taken, dropped, shape]
  rfl

namespace Reference

variable {text name after : Text}

theorem cut_eq_some_iff :
    cut? text = some (name, after) ↔ IsWord name ∧ text = written name ++ after := by
  constructor
  · intro cut
    refine ⟨?_, cut_sound cut⟩
    unfold cut? at cut
    split at cut
    · rename_i rest
      split at cut
      · rename_i c front back taken dropped
        cases cut
        refine ⟨List.cons_ne_nil _ _, ?_⟩
        intro d member
        rw [← taken] at member
        exact List.mem_takeWhile_imp member
      · cases cut
    · cases cut
  · intro parts
    rcases parts with ⟨word, rfl⟩
    exact word.cut_written after

/-- What is no reference is none either when the text ends earlier. -/
theorem uncut_of_prefix {front : Text} (uncut : cut? text = none) (ahead : front <+: text) :
    cut? front = none := by
  rcases ahead with ⟨behind, rfl⟩
  apply Classical.byContradiction
  intro found
  obtain ⟨parts, cut⟩ := Option.ne_none_iff_exists'.1 found
  obtain ⟨word, whole⟩ := cut_eq_some_iff.1 cut
  rw [whole, List.append_assoc, word.cut_written] at uncut
  cases uncut

end Reference

end PostMarkup
