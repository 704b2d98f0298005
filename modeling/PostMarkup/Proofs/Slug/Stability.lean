import PostMarkup.Proofs.Slug.Naming

/-!
The name of a post is a canonical form of the words of its stem. A second pass reads the whole name as
one word, so the lowercase forms of the words have to stand with hyphens between them as they stood
alone; they do since each of their characters is settled.
-/

namespace PostMarkup.Slug

open Unicode (isWhiteSpace)
open Text (Settled)

variable {stem : Text} {c : Char}

theorem settled_of_mem_of_stem (held : c ∈ ofStem stem) : Settled c := by
  rcases Text.mem_intercalate held with seam | ⟨lowered, listed, within⟩
  · rw [List.mem_singleton.1 seam]
    exact Text.settled_of_fixed (by decide +kernel) (by decide)
  · obtain ⟨word, -, rfl⟩ := List.mem_map.1 listed
    exact Text.settled_of_mem_lowercase_from within

theorem of_stem_of_stem (stem : Text) : ofStem (ofStem stem) = ofStem stem := by
  cases shape : ofStem stem with
  | nil => rfl
  | cons first rest =>
      have filled : ofStem stem ≠ [] := by
        rw [shape]
        exact List.cons_ne_nil first rest
      have settled : Text.lowercase (ofStem stem) = ofStem stem :=
        Text.lowercase_of_settled fun c held => settled_of_mem_of_stem held
      rw [← shape]
      conv_lhs => rw [ofStem, Text.words_unbroken filled (not_white_of_mem_of_stem stem)]
      rw [List.map_singleton, List.intercalate_singleton, settled]

/-- A name is one word and stays what it is when it is made into a name again, and it depends on nothing
of the stem but its words. -/
theorem names_canonical :
    (∀ stem, ∀ c ∈ ofStem stem, isWhiteSpace c = false) ∧
    (∀ stem, ofStem (ofStem stem) = ofStem stem) ∧
    ∀ left right, Text.words left = Text.words right → ofStem left = ofStem right := by
  refine ⟨not_white_of_mem_of_stem, of_stem_of_stem, ?_⟩
  intro left right same
  rw [ofStem, ofStem, same]

/-- Two capital sigmas, the last of which ends its word, and a capital I with dot above, between blanks
of different kinds. -/
theorem names_canonical_of_greek_words :
    let left := " ΣΑΣ \u0130".toList
    let right := "ΣΑΣ\u3000\t\u0130\n".toList
    let name := "σας-i\u0307".toList
    ofStem left = name ∧ ofStem right = name ∧ ofStem name = name ∧ isWhiteSpace 'ς' = false := by
  intro left right name
  have named : ofStem left = name := by decide +kernel
  have same : Text.words left = Text.words right := by decide +kernel
  refine ⟨named, ?_, ?_, ?_⟩
  · rw [← names_canonical.2.2 left right same, named]
  · rw [← named, names_canonical.2.1 left]
  · exact names_canonical.1 left 'ς' (by rw [named]; decide)

end PostMarkup.Slug
