import PostMarkup.Proofs.Text.Lowercase
import PostMarkup.Proofs.Text.Splitting
import PostMarkup.Slug

/-!
What the name of a post can be. It is never empty, has no slash and no white space, and all the same it
is not always a name: a stem of one or two dots gives the name of the directory itself or of the one
above.
-/

namespace PostMarkup

open Unicode (Uncased isWhiteSpace uncased_of_lt uncased_of_white_space)

namespace Path

variable {path step stem : Text}

theorem mem_steps (listed : step ∈ steps path) : step ≠ [] ∧ '/' ∉ step := by
  obtain ⟨piece, filled⟩ := List.mem_filter.1 listed
  exact ⟨by simpa using filled, Text.not_mem_of_mem_split_on piece⟩

theorem mem_steps_of_mem_components (listed : step ∈ components path) : step ∈ steps path := by
  unfold components at listed
  split at listed
  · rename_i first rest _ shape
    rw [shape]
    rcases List.mem_cons.1 listed with rfl | later
    · exact List.mem_cons_self
    · exact List.mem_cons_of_mem first (List.mem_filter.1 later).1
  · exact (List.mem_filter.1 listed).1

theorem mem_of_mem_without_extension {name : Text} :
    ∀ c ∈ withoutExtension name, c ∈ name := by
  intro c held
  unfold withoutExtension at held
  split at held
  · exact held
  · have dropped := List.mem_of_mem_drop (List.mem_reverse.1 held)
    exact List.mem_reverse.1 ((List.dropWhile_suffix _).subset dropped)

theorem slash_not_mem_stem (found : stem? path = some stem) : '/' ∉ stem := by
  obtain ⟨name, named, rfl⟩ := Option.map_eq_some_iff.1 found
  intro slash
  unfold fileName? at named
  split at named
  · rename_i last final
    split at named
    · cases named
    · cases named
      have listed := mem_steps_of_mem_components (List.mem_of_getLast? final)
      exact (mem_steps listed).2 (mem_of_mem_without_extension '/' slash)
  · cases named

end Path

namespace Slug

variable {path name stem dots : Text} {c : Char}

theorem mem_word_of_mem_of_stem (uncased : Uncased c) (notHyphen : c ≠ '-')
    (held : c ∈ ofStem stem) : ∃ word ∈ Text.words stem, c ∈ word := by
  rcases Text.mem_intercalate held with seam | ⟨lowered, listed, within⟩
  · exact absurd (List.mem_singleton.1 seam) notHyphen
  · obtain ⟨word, inWords, rfl⟩ := List.mem_map.1 listed
    exact ⟨word, inWords, Text.mem_of_mem_lowercase uncased within⟩

theorem not_white_of_mem_of_stem (stem : Text) : ∀ c ∈ ofStem stem, isWhiteSpace c = false := by
  intro c held
  by_contra white
  rw [Bool.not_eq_false] at white
  have notHyphen : c ≠ '-' := by
    intro same
    rw [same] at white
    revert white
    decide
  obtain ⟨word, listed, within⟩ :=
    mem_word_of_mem_of_stem (uncased_of_white_space white) notHyphen held
  rw [((Text.mem_words listed).2 c within).2] at white
  cases white

theorem slash_not_mem_of_stem (free : '/' ∉ stem) : '/' ∉ ofStem stem := by
  intro held
  have uncased : Uncased '/' := uncased_of_lt (by decide)
  obtain ⟨word, listed, within⟩ := mem_word_of_mem_of_stem uncased (by decide) held
  exact free ((Text.mem_words listed).2 '/' within).1

/-- A name of dots comes from a stem with this one word. -/
theorem of_stem_eq_dots_iff (filled : dots ≠ []) (every : ∀ c ∈ dots, c = '.') :
    ofStem stem = dots ↔ Text.words stem = [dots] := by
  constructor
  · intro named
    unfold ofStem at named
    cases shape : Text.words stem with
    | nil =>
        rw [shape] at named
        exact absurd named.symm filled
    | cons word words =>
        rw [shape] at named
        cases words with
        | nil =>
            rw [List.map_singleton, List.intercalate_singleton] at named
            have uncased : ∀ c ∈ Text.lowercase word, Uncased c := by
              intro c held
              rw [every c (named ▸ held)]
              exact uncased_of_lt (by decide)
            rw [← named, Text.lowercase_of_uncased uncased]
        | cons next words =>
            -- Two words have a hyphen between them.
            rw [List.map_cons, List.map_cons, List.intercalate_cons_cons] at named
            have hyphen : '-' ∈ dots := by
              rw [← named]
              simp
            exact absurd (every '-' hyphen) (by decide)
  · intro shape
    rw [ofStem, shape, List.map_singleton, List.intercalate_singleton]
    apply Text.lowercase_of_settled
    intro c held
    rw [every c held]
    exact Text.settled_of_fixed (by decide +kernel) (by decide)

theorem exists_stem_of_named (named : ofPath path = .ok name) :
    ∃ stem, Path.stem? path = some stem ∧ name = ofStem stem ∧ name ≠ [] := by
  unfold ofPath at named
  split at named
  · cases named
  · rename_i stem found
    split at named
    · cases named
    · rename_i filled
      cases named
      exact ⟨stem, found, rfl, filled⟩

/-- A text that can be the name of one directory, unless it is made of dots. -/
structure Nameable (name : Text) : Prop where
  filled : name ≠ []
  unslashed : '/' ∉ name
  solid : ∀ c ∈ name, isWhiteSpace c = false

theorem nameable_of_named (named : ofPath path = .ok name) : Nameable name := by
  obtain ⟨stem, found, rfl, filled⟩ := exists_stem_of_named named
  exact ⟨filled, slash_not_mem_of_stem (Path.slash_not_mem_stem found), not_white_of_mem_of_stem stem⟩

end Slug

end PostMarkup
