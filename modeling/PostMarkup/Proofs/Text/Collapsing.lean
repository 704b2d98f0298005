import Mathlib.Data.List.Chain
import Mathlib.Data.List.Induction
import PostMarkup.Expansion
import PostMarkup.Proofs.Text.Splitting

/-!
What is left of a text when its white space is collapsed: its words, and whether there is white space in
front of the first and behind the last of them. Two texts that agree on these become the same text, and
the collapsed text itself agrees with what it was made from, so nothing else is forgotten.
-/

namespace PostMarkup

namespace Text

open Unicode (isWhiteSpace)

variable {text left right : Text} {c : Char} {within : Bool}

def opensBlank (text : Text) : Bool := text.head?.any isWhiteSpace

def endsBlank (text : Text) : Bool := text.getLast?.any isWhiteSpace

/-- The texts differ in the lengths and the kinds of their runs of white space at most. -/
structure SpacedAlike (left right : Text) : Prop where
  words : words left = words right
  opening : opensBlank left = opensBlank right
  ending : endsBlank left = endsBlank right

theorem SpacedAlike.symm (alike : SpacedAlike left right) : SpacedAlike right left :=
  ⟨alike.words.symm, alike.opening.symm, alike.ending.symm⟩

theorem SpacedAlike.trans {other : Text} (first : SpacedAlike left right)
    (second : SpacedAlike right other) : SpacedAlike left other :=
  ⟨first.words.trans second.words, first.opening.trans second.opening,
    first.ending.trans second.ending⟩

theorem collapse_from_white (white : isWhiteSpace c = true) (within : Bool) (text : Text) :
    collapseFrom within (c :: text) =
      if within then collapseFrom true text else ' ' :: collapseFrom true text := by
  rw [collapseFrom, if_pos white]

theorem collapse_from_solid (solid : isWhiteSpace c = false) (within : Bool) (text : Text) :
    collapseFrom within (c :: text) = c :: collapseFrom false text := by
  rw [collapseFrom, if_neg (Bool.eq_false_iff.1 solid)]

theorem white_space : isWhiteSpace ' ' = true := by decide

def gap (present : Bool) : Text := if present then [' '] else []

theorem collapse_from_false (text : Text) :
    collapseFrom false text = gap (opensBlank text) ++ collapseFrom true text := by
  cases text with
  | nil => rfl
  | cons c text =>
      cases white : isWhiteSpace c with
      | true => simp [collapse_from_white white, opensBlank, white, gap]
      | false => simp [collapse_from_solid white, opensBlank, white, gap]

theorem ends_blank_cons_cons (c d : Char) (text : Text) :
    endsBlank (c :: d :: text) = endsBlank (d :: text) := by
  rw [endsBlank, endsBlank, List.getLast?_cons_cons]

/-- A text without words is white space to its end. -/
theorem ends_blank_of_no_words (filled : text ≠ []) (wordless : words text = []) :
    endsBlank text = true := by
  rw [endsBlank, List.getLast?_eq_some_getLast filled, Option.any_some]
  exact words_eq_nil_iff.1 wordless _ (List.getLast_mem filled)

/-- The words, with one space between any two of them and one behind the last if white space follows. -/
theorem collapse_from_true (text : Text) :
    collapseFrom true text =
      List.intercalate [' '] (words text) ++ gap (endsBlank text && words text ≠ []) := by
  induction text with
  | nil => rfl
  | cons c text induction =>
      cases white : isWhiteSpace c with
      | true =>
          rw [collapse_from_white white, if_pos rfl, induction, words_cons_white white]
          cases text with
          | nil => simp [words]
          | cons d text => rw [ends_blank_cons_cons]
      | false =>
          rw [collapse_from_solid white, collapse_from_false, induction, words_cons_solid white]
          cases text with
          | nil => simp [opensBlank, endsBlank, words, gap, white]
          | cons d text =>
              rw [ends_blank_cons_cons, opensBlank, List.head?_cons, Option.any_some, Option.all_some]
              cases shape : words (d :: text) with
              | nil =>
                  have blank := words_eq_nil_iff.1 shape d List.mem_cons_self
                  have ending := ends_blank_of_no_words (List.cons_ne_nil d text) shape
                  simp [blank, ending, gap]
              | cons word words =>
                  cases isWhiteSpace d with
                  | true => simp [gap, List.intercalate_cons_cons]
                  | false =>
                    cases words with
                    | nil => simp [gap]
                    | cons next words => simp [gap, List.intercalate_cons_cons]

theorem collapse_eq_of_spaced_alike (alike : SpacedAlike left right) :
    collapse left = collapse right := by
  rw [collapse, collapse, collapse_from_false, collapse_from_false, collapse_from_true,
    collapse_from_true, alike.words, alike.opening, alike.ending]

theorem head_collapse (text : Text) :
    (collapse text).head?.map isWhiteSpace = text.head?.map isWhiteSpace := by
  cases text with
  | nil => rfl
  | cons c text =>
      cases white : isWhiteSpace c with
      | true => simp [collapse, collapse_from_white white, white, white_space]
      | false => simp [collapse, collapse_from_solid white, white]

theorem words_collapse_from (within : Bool) (text : Text) :
    words (collapseFrom within text) = words text := by
  induction text generalizing within with
  | nil => rfl
  | cons c text induction =>
      cases white : isWhiteSpace c with
      | true =>
          rw [collapse_from_white white, words_cons_white white]
          cases within with
          | true => exact induction true
          | false => exact (words_cons_white white_space _).trans (induction true)
      | false =>
          have same : (collapseFrom false text).head?.all isWhiteSpace =
              text.head?.all isWhiteSpace := by
            have kinds := congrArg (Option.all id) (head_collapse text)
            rw [Option.all_map, Option.all_map] at kinds
            exact kinds
          rw [collapse_from_solid white, words_cons_solid white, words_cons_solid white,
            induction false, same]

/-- Behind a text the flag tells of its last character. -/
theorem collapse_from_append (left right : Text) (within : Bool) :
    collapseFrom within (left ++ right) = collapseFrom within left ++
      collapseFrom ((left.getLast?.map isWhiteSpace).getD within) right := by
  induction left generalizing within with
  | nil => rfl
  | cons c left induction =>
      have last : (((c :: left).getLast?).map isWhiteSpace).getD within =
          (left.getLast?.map isWhiteSpace).getD (isWhiteSpace c) := by
        rw [List.getLast?_cons]
        cases left.getLast? <;> rfl
      rw [List.cons_append, last]
      cases white : isWhiteSpace c with
      | true =>
          rw [collapse_from_white white, collapse_from_white white, induction]
          cases within <;> rfl
      | false => rw [collapse_from_solid white, collapse_from_solid white, induction, List.cons_append]

theorem ends_blank_append (left : Text) (c : Char) : endsBlank (left ++ [c]) = isWhiteSpace c := by
  rw [endsBlank, List.getLast?_concat, Option.any_some]

theorem ends_blank_eq (text : Text) :
    endsBlank text = (text.getLast?.map isWhiteSpace).getD false := by
  rw [endsBlank]
  cases text.getLast? <;> rfl

theorem ends_blank_collapse (text : Text) : endsBlank (collapse text) = endsBlank text := by
  induction text using List.reverseRecOn with
  | nil => rfl
  | append_singleton text c induction =>
      rw [ends_blank_append, collapse, collapse_from_append, ← ends_blank_eq]
      cases white : isWhiteSpace c with
      | false => rw [collapse_from_solid white, collapseFrom, ends_blank_append, white]
      | true =>
          rw [collapse_from_white white, collapseFrom]
          cases inside : endsBlank text with
          | true =>
              rw [if_pos rfl, List.append_nil]
              exact induction.trans inside
          | false => exact (ends_blank_append _ ' ').trans white_space

/-- A collapsed text has the words of the text, and white space at the same ends. -/
theorem collapse_spaced_alike (text : Text) : SpacedAlike (collapse text) text where
  words := words_collapse_from false text
  opening := by
    have kinds := congrArg (Option.any id) (head_collapse text)
    rw [Option.any_map, Option.any_map] at kinds
    exact kinds
  ending := ends_blank_collapse text

theorem collapse_eq_iff : collapse left = collapse right ↔ SpacedAlike left right := by
  constructor
  · intro same
    have fromLeft := (collapse_spaced_alike left).symm
    rw [same] at fromLeft
    exact fromLeft.trans (collapse_spaced_alike right)
  · exact collapse_eq_of_spaced_alike

theorem white_of_mem_collapse_from (member : c ∈ collapseFrom within text)
    (white : isWhiteSpace c = true) : c = ' ' := by
  induction text generalizing within with
  | nil => exact absurd member List.not_mem_nil
  | cons d text induction =>
      cases kind : isWhiteSpace d with
      | true =>
          rw [collapse_from_white kind] at member
          split at member
          · exact induction member
          · rcases List.mem_cons.1 member with here | later
            · exact here
            · exact induction later
      | false =>
          rw [collapse_from_solid kind] at member
          rcases List.mem_cons.1 member with rfl | later
          · rw [kind] at white
            cases white
          · exact induction later

/-- Inside a run of white space the next character that is written is not white space, and so no two
neighbours are. -/
theorem spaces_apart (within : Bool) (text : Text) :
    (within = true → opensBlank (collapseFrom within text) = false) ∧
      (collapseFrom within text).IsChain fun c d => ¬(isWhiteSpace c = true ∧ isWhiteSpace d = true) := by
  induction text generalizing within with
  | nil => exact ⟨fun _ => rfl, List.IsChain.nil⟩
  | cons c text induction =>
      cases white : isWhiteSpace c with
      | true =>
          rw [collapse_from_white white]
          cases within with
          | true => exact induction true
          | false =>
              obtain ⟨solid, apart⟩ := induction true
              rw [if_neg Bool.false_ne_true]
              refine ⟨fun inside => absurd inside Bool.false_ne_true, List.isChain_cons.2 ⟨?_, apart⟩⟩
              rintro d first ⟨-, blank⟩
              have opened := solid rfl
              rw [opensBlank, first, Option.any_some, blank] at opened
              cases opened
      | false =>
          rw [collapse_from_solid white]
          refine ⟨fun _ => white, List.isChain_cons.2 ⟨?_, (induction false).2⟩⟩
          rintro d - ⟨blank, -⟩
          rw [white] at blank
          cases blank

end Text

open Text (SpacedAlike collapse)
open Unicode (isWhiteSpace)

/-- Collapsing forgets how long the runs of white space are and what they are made of, and nothing else;
a body is expanded alike however its white space is laid out. -/
theorem collapse_forgets_blanks_only :
    (∀ left right, collapse left = collapse right ↔ SpacedAlike left right) ∧
    (∀ text, ∀ c ∈ collapse text, isWhiteSpace c = true → c = ' ') ∧
    (∀ text, (collapse text).IsChain fun c d => ¬(isWhiteSpace c = true ∧ isWhiteSpace d = true)) ∧
    (∀ text, collapse (collapse text) = collapse text) ∧
    ∀ bindings templates options left right, SpacedAlike left right →
      expandBody bindings templates options left = expandBody bindings templates options right := by
  refine ⟨fun left right => Text.collapse_eq_iff, fun text c => Text.white_of_mem_collapse_from,
    fun text => (Text.spaces_apart false text).2, ?_, ?_⟩
  · intro text
    exact Text.collapse_eq_iff.2 (Text.collapse_spaced_alike text)
  · intro bindings templates options left right alike
    rw [expandBody, expandBody, Text.collapse_eq_iff.2 alike]

/-- Two bodies with blanks of different lengths and kinds, behind the last word as well. -/
theorem collapse_forgets_blanks_only_of_two_layouts :
    let left := "a \n\t $b$\n".toList
    let right := "a\u3000$b$ \u0085".toList
    let bindings : Table := ⟨[("$b$".toList, "\t".toList)]⟩
    SpacedAlike left right ∧ ' ' ∈ collapse left ∧ '\n' ∉ collapse left ∧
      collapse left = collapse right ∧
      expandBody bindings .empty .standard left = expandBody bindings .empty .standard right := by
  intro left right bindings
  have alike : SpacedAlike left right := ⟨by decide +kernel, by decide +kernel, by decide +kernel⟩
  have spaces := collapse_forgets_blanks_only.2.1 left
  have spaced : ' ' ∈ collapse left := by decide +kernel
  refine ⟨alike, spaced, ?_, ?_, ?_⟩
  · intro held
    exact absurd (spaces '\n' held (by decide)) (by decide)
  · exact (collapse_forgets_blanks_only.1 left right).2 alike
  · exact collapse_forgets_blanks_only.2.2.2.2 bindings .empty .standard left right alike

end PostMarkup
