import PostMarkup.Proofs.Content.Reading

/-!
Contents one after the other. The content of two texts in a row is the two contents joined, unless an
opening tag of a callable name begins in the first text and ends in the second. Only runs of text at
the seam change: they become one.
-/

namespace PostMarkup

open Call (cutOpening? openingTag IsName)

namespace Call

variable {callable : Text → Bool} {front back : Text}

/-- No opening tag of a callable name begins in front and ends behind. -/
def Apart (callable : Text → Bool) (front back : Text) : Prop :=
  ∀ name, IsName name → callable name = true →
    ∀ start rest, start ≠ [] → rest ≠ [] → start <:+ front → rest <+: back →
      openingTag name ≠ start ++ rest

theorem Apart.of_suffix {last : Text} (apart : Apart callable front back) (suffix : last <:+ front) :
    Apart callable last back := by
  intro name valid called start rest started ended inFront behind
  exact apart name valid called start rest started ended (inFront.trans suffix) behind

theorem apart_of_free (free : '<' ∉ front) : Apart callable front back := by
  intro name valid called start rest started ended inFront behind same
  obtain ⟨c, start, rfl⟩ := List.exists_cons_of_ne_nil started
  simp only [openingTag, List.cons_append, List.cons.injEq] at same
  have bracket : c ∈ front := inFront.subset List.mem_cons_self
  rw [← same.1] at bracket
  exact free bracket

/-- No callable tag begins in a run of text without one, when none reaches across its end. -/
theorem uncut_seam
    (unopened : ∀ name, IsName name → callable name = true → ¬ openingTag name <:+: front)
    (apart : Apart callable front back) :
    ∀ piece, piece <:+ front → piece ≠ [] → cutOpening? callable (piece ++ back) = none := by
  intro piece suffix nonempty
  rw [cut_opening_eq_none_iff]
  intro name valid called found
  rcases found with ⟨after, whole⟩
  rcases List.append_eq_append_iff.1 whole with ⟨within, same, -⟩ | ⟨reach, same, behind⟩
  · exact unopened name valid called (List.IsInfix.trans ⟨[], within, same.symm⟩ suffix.isInfix)
  · by_cases short : reach = []
    · rw [short, List.append_nil] at same
      exact unopened name valid called (same ▸ suffix.isInfix)
    · exact apart name valid called piece reach nonempty short suffix ⟨after, behind.symm⟩ same

end Call

namespace Content

variable {callable : Text → Bool}

def append : Content → Content → Content
  | nil, back => back
  | text run next, back => run.foldr consChar (next.append back)
  | call name inner span next, back => call name inner span (next.append back)

theorem written_foldr_cons_char (run : Text) (content : Content) :
    (run.foldr consChar content).written = run ++ content.written := by
  induction run with
  | nil => rfl
  | cons c run induction => rw [List.foldr_cons, written_cons_char, induction, List.cons_append]

theorem written_append (front back : Content) :
    (front.append back).written = front.written ++ back.written := by
  induction front with
  | nil => rfl
  | text run next induction =>
      rw [append, written_foldr_cons_char, induction, written, List.append_assoc]
  | call name inner span next _ induction =>
      rw [append, written, induction, written, List.append_assoc]

theorem fits_foldr_cons_char_iff {limit depth : Nat} (run : Text) (content : Content) :
    (run.foldr consChar content).Fits limit depth ↔ content.Fits limit depth := by
  induction run with
  | nil => rfl
  | cons c run induction => rw [List.foldr_cons, fits_cons_char_iff, induction]

theorem fits_append_iff {limit depth : Nat} {front back : Content} :
    (front.append back).Fits limit depth ↔ front.Fits limit depth ∧ back.Fits limit depth := by
  induction front with
  | nil => exact (and_iff_right fits_nil).symm
  | text run next induction =>
      rw [append, fits_foldr_cons_char_iff, induction]
      rfl
  | call name inner span next _ induction =>
      rw [append, fits_call_iff, induction, fits_call_iff, and_assoc, and_assoc]

theorem well_formed_foldr_cons_char {run : Text} {content : Content}
    (wellFormed : content.WellFormed callable)
    (uncut : ∀ back, back <:+ run → back ≠ [] → cutOpening? callable (back ++ content.written) = none) :
    (run.foldr consChar content).WellFormed callable := by
  induction run with
  | nil => exact wellFormed
  | cons c run induction =>
      have later : (run.foldr consChar content).WellFormed callable := by
        apply induction
        intro back suffix nonempty
        exact uncut back (suffix.trans (List.suffix_cons c run)) nonempty
      apply well_formed_cons_char c _ later
      rw [written_foldr_cons_char]
      exact uncut (c :: run) (List.suffix_refl _) (List.cons_ne_nil _ _)

theorem well_formed_append {front back : Content} (frontWellFormed : front.WellFormed callable)
    (backWellFormed : back.WellFormed callable)
    (apart : Call.Apart callable front.written back.written) :
    (front.append back).WellFormed callable := by
  induction front with
  | nil => exact backWellFormed
  | text run next induction =>
      rcases frontWellFormed with ⟨-, noText, unopened, nextWellFormed⟩
      have nextApart := apart.of_suffix (List.suffix_append run next.written)
      apply well_formed_foldr_cons_char (induction nextWellFormed nextApart)
      rw [written_append]
      by_cases last : next.written = []
      · -- The run ends at the seam, so only both texts together could make a tag.
        rw [written, last, List.append_nil] at apart
        rw [last, List.nil_append]
        exact Call.uncut_seam unopened apart
      · have markup := (written_begins_markup noText).append_of_ne_nil last back.written
        exact Call.uncut_run unopened markup
  | call name inner span next _ induction =>
      rcases frontWellFormed with ⟨valid, called, lacks, innerWellFormed, nextWellFormed⟩
      have nextApart := apart.of_suffix (List.suffix_append _ next.written)
      exact ⟨valid, called, lacks, innerWellFormed, induction nextWellFormed nextApart⟩

/-- A text is the written form of no more than one content, the ranges of its calls aside. -/
theorem unplaced_eq_of_written_eq {left right : Content} (leftWellFormed : left.WellFormed callable)
    (rightWellFormed : right.WellFormed callable) (same : left.written = right.written) :
    left.unplaced = right.unplaced := by
  have leftFits : left.Fits (max left.depth right.depth) 0 := fits_zero_iff.2 (by omega)
  have rightFits : right.Fits (max left.depth right.depth) 0 := fits_zero_iff.2 (by omega)
  have leftRead : ofTextAt callable _ 0 0 left.written = _ :=
    of_text_at_complete leftWellFormed leftFits
  have rightRead : ofTextAt callable _ 0 0 right.written = _ :=
    of_text_at_complete rightWellFormed rightFits
  rw [same, rightRead, Except.ok.injEq] at leftRead
  rw [← unplaced_place_from left 0, ← leftRead, unplaced_place_from]

end Content

end PostMarkup
