import Mathlib.Data.List.Chain
import Mathlib.Tactic.Common
import PostMarkup.Text.Lowercase
import PostMarkup.Unicode.WhiteSpace

/-!
What lowercase forms can hold. A character that nothing else is mapped to gets into a lowercase form
only from the text itself; white space and everything in front of the small letters of ASCII is of this
kind. What a lowercase form does hold is settled: a second pass leaves it alone, wherever it stands.
-/

namespace PostMarkup

namespace Unicode

variable {c : Char}

def CaseRun.lastImage (run : CaseRun) : Nat := run.image + (run.last - run.first)

def CaseRun.Reaches (run : CaseRun) (code : Nat) : Prop :=
  run.image ≤ code ∧ code ≤ run.lastImage ∧ (code - run.image) % run.step = 0

/-- A lowercase mapping leaves a character alone or ends among the images of a run. -/
theorem lowercase_char_eq_or_image (c : Char) :
    lowercaseChar c = c ∨ ∃ run ∈ lowercaseRuns, run.Reaches (lowercaseChar c).toNat := by
  unfold lowercaseChar
  split
  · rename_i code mapped
    obtain ⟨run, listed, image⟩ := List.exists_of_findSome?_eq_some mapped
    right
    refine ⟨run, listed, ?_⟩
    -- The images lie below the surrogates or between them and the last code point.
    have valid : lowercaseRuns.all (fun run => run.lastImage < 0xD800 ||
        (0xDFFF < run.image && run.lastImage < 0x110000)) = true := by
      decide +kernel
    have bounds := List.all_eq_true.1 valid run listed
    simp only [Bool.or_eq_true, Bool.and_eq_true, decide_eq_true_eq] at bounds
    rw [CaseRun.Reaches]
    rw [CaseRun.lastImage] at bounds ⊢
    simp only [CaseRun.image?] at image
    split at image
    · rename_i covered
      obtain ⟨behind, before, stepped⟩ := covered
      cases image
      have isValid : (run.image + (c.toNat - run.first)).isValidChar := by
        unfold Nat.isValidChar
        omega
      have point : (Char.ofNat (run.image + (c.toNat - run.first))).toNat =
          run.image + (c.toNat - run.first) := by
        rw [Char.ofNat, dif_pos isValid]
        rfl
      rw [point, Nat.add_sub_cancel_left]
      refine ⟨Nat.le_add_right _ _, ?_, stepped⟩
      omega
    · cases image
  · exact Or.inl rfl

/-- The images of the first run lie on those code points of the second one that it steps over. -/
def CaseRun.straddles (run other : CaseRun) : Bool :=
  other.step = 2 && (run.step = 2 || run.first = run.last) && (run.image + other.first) % 2 = 1

/-- No image of the run is covered by the others, which stand in ascending order. -/
def CaseRun.misses (run : CaseRun) : List CaseRun → Bool
  | [] => true
  | other :: others =>
      if other.last < run.image then run.misses others
      else run.lastImage < other.first || (run.straddles other && run.misses others)

theorem CaseRun.image_eq_none_of_straddles {run other : CaseRun} {code : Nat}
    (apart : run.straddles other = true) (reached : run.Reaches code) : other.image? code = none := by
  simp only [straddles, Bool.or_eq_true, Bool.and_eq_true, decide_eq_true_eq] at apart
  obtain ⟨⟨otherStep, ownStep⟩, parity⟩ := apart
  obtain ⟨fromImage, toImage, steps⟩ := reached
  rw [image?, if_neg]
  rintro ⟨behind, before, stepped⟩
  rw [otherStep] at stepped
  -- A run of one character has one image, whatever its step.
  rcases ownStep with two | single
  · rw [two] at steps
    omega
  · rw [lastImage, single, Nat.sub_self] at toImage
    omega

theorem CaseRun.image_eq_none_of_misses {run : CaseRun} {runs : List CaseRun} {code : Nat}
    (ascending : runs.Pairwise fun earlier later => earlier.first ≤ later.first)
    (missed : run.misses runs = true) (reached : run.Reaches code) :
    ∀ other ∈ runs, other.image? code = none := by
  induction runs with
  | nil => exact List.forall_mem_nil _
  | cons other others induction =>
      obtain ⟨first, later⟩ := List.pairwise_cons.1 ascending
      obtain ⟨fromImage, toImage, -⟩ := id reached
      have outside : ∀ run : CaseRun, code < run.first ∨ run.last < code → run.image? code = none := by
        intro run apart
        rw [image?, if_neg]
        omega
      rw [List.forall_mem_cons]
      rw [misses] at missed
      split at missed
      · exact ⟨outside other (Or.inr (by omega)), induction later missed⟩
      · rcases (Bool.or_eq_true _ _).mp missed with above | between
        · have beyond := of_decide_eq_true above
          refine ⟨outside other (Or.inl (by omega)), ?_⟩
          intro further member
          have order := first further member
          exact outside further (Or.inl (by omega))
        · obtain ⟨straddled, rest⟩ := (Bool.and_eq_true _ _).mp between
          exact ⟨image_eq_none_of_straddles straddled reached, induction later rest⟩

/-- No lowercase mapping ends where another one starts. -/
theorem lowercase_char_fixed (c : Char) :
    lowercaseChar (lowercaseChar c) = lowercaseChar c := by
  rcases lowercase_char_eq_or_image c with same | ⟨run, listed, reached⟩
  · rw [same, same]
  · have steps : (lowercaseRuns.map CaseRun.first).IsChain (· ≤ ·) := by decide +kernel
    have ascending := List.pairwise_map.1 steps.pairwise
    have missed : lowercaseRuns.all (fun run => run.misses lowercaseRuns) = true := by
      decide +kernel
    have unmapped : lowercaseRuns.findSome? (·.image? (lowercaseChar c).toNat) = none := by
      rw [List.findSome?_eq_none_iff]
      exact CaseRun.image_eq_none_of_misses ascending (List.all_eq_true.1 missed run listed) reached
    rw [lowercaseChar, unmapped]

/-- The characters that come from the two mappings outside the table. -/
def specialForms : List Char := ['i', '\u0307', 'ς']

/-- Nothing but the character itself has it in its lowercase form. -/
structure Uncased (c : Char) : Prop where
  onlyItself : ∀ d, lowercaseChar d = c → d = c
  notSpecial : c ∉ specialForms

theorem Ranges.exists_of_holds {code : Nat} {ranges : Ranges} (held : ranges.holds code = true) :
    ∃ range ∈ ranges, range.1 ≤ code ∧ code ≤ range.2 := by
  induction ranges with
  | nil => cases held
  | cons range ranges induction =>
      rcases range with ⟨first, last⟩
      rw [holds] at held
      split at held
      · cases held
      · rename_i notBelow
        rcases (Bool.or_eq_true _ _).mp held with here | later
        · refine ⟨(first, last), List.mem_cons_self, Nat.le_of_not_lt notBelow, ?_⟩
          exact of_decide_eq_true here
        · obtain ⟨range, listed, within⟩ := induction later
          exact ⟨range, List.mem_cons_of_mem _ listed, within⟩

theorem uncased_of_no_image (notSpecial : c ∉ specialForms)
    (outside : ∀ run ∈ lowercaseRuns, c.toNat < run.image ∨ run.lastImage < c.toNat) : Uncased c where
  onlyItself d mapped := by
    rcases lowercase_char_eq_or_image d with same | ⟨run, listed, fromImage, toImage, -⟩
    · exact same.symm.trans mapped
    · rw [mapped] at fromImage toImage
      have apart := outside run listed
      omega
  notSpecial := notSpecial

theorem uncased_of_white_space (white : isWhiteSpace c = true) : Uncased c := by
  have special : specialForms.all (fun d => !isWhiteSpace d) = true := by decide
  have apart : whiteSpaceRanges.all (fun range => lowercaseRuns.all fun run =>
      range.2 < run.image || run.lastImage < range.1) = true := by
    decide +kernel
  obtain ⟨range, listed, within⟩ := Ranges.exists_of_holds white
  apply uncased_of_no_image
  · intro member
    have visible := List.all_eq_true.1 special c member
    rw [white] at visible
    cases visible
  · intro run member
    have outside := List.all_eq_true.1 (List.all_eq_true.1 apart range listed) run member
    simp only [Bool.or_eq_true, decide_eq_true_eq] at outside
    omega

/-- The small letters of ASCII are the first characters that others are mapped to. -/
theorem uncased_of_lt (below : c.toNat < 'a'.toNat) : Uncased c := by
  have special : specialForms.all (fun d => 'a'.toNat ≤ d.toNat) = true := by decide
  have ascending : lowercaseRuns.all (fun run => 'a'.toNat ≤ run.image) = true := by
    decide +kernel
  apply uncased_of_no_image
  · intro member
    have bound := of_decide_eq_true (List.all_eq_true.1 special c member)
    omega
  · intro run member
    have bound := of_decide_eq_true (List.all_eq_true.1 ascending run member)
    omega

/-- The capital I with dot above. Its lowercase form stands outside of the table. -/
theorem uncased_dotted_capital : Uncased '\u0130' := by
  have apart : lowercaseRuns.all (fun run => '\u0130'.toNat < run.image ||
      run.lastImage < '\u0130'.toNat) = true := by
    decide +kernel
  apply uncased_of_no_image
  · decide
  · intro run member
    have outside := List.all_eq_true.1 apart run member
    simpa only [Bool.or_eq_true, decide_eq_true_eq] using outside

end Unicode

namespace Text

open Unicode (Uncased lowercaseChar lowercase_char_fixed specialForms uncased_dotted_capital)

variable {text beforeRev after : Text} {c d : Char}

theorem eq_of_mem_lowercase_between (uncased : Uncased c)
    (member : c ∈ lowercaseBetween beforeRev d after) : d = c := by
  have notSpecial := uncased.notSpecial
  simp only [specialForms, List.mem_cons, List.not_mem_nil, or_false, not_or] at notSpecial
  unfold lowercaseBetween at member
  split at member
  · simp only [List.mem_cons, List.not_mem_nil, or_false] at member
    rcases member with dotted | dotted
    · exact absurd dotted notSpecial.1
    · exact absurd dotted notSpecial.2.1
  · split at member
    · exact absurd (List.mem_singleton.1 member) notSpecial.2.2
    · exact uncased.onlyItself d (List.mem_singleton.1 member).symm

theorem mem_of_mem_lowercase_from (uncased : Uncased c)
    (member : c ∈ lowercaseFrom beforeRev text) : c ∈ text := by
  induction text generalizing beforeRev with
  | nil => exact absurd member List.not_mem_nil
  | cons d text induction =>
      rw [lowercaseFrom] at member
      rcases List.mem_append.1 member with here | later
      · exact List.mem_cons.2 (Or.inl (eq_of_mem_lowercase_between uncased here).symm)
      · exact List.mem_cons_of_mem d (induction later)

/-- An uncased character of a lowercase form comes from the text. -/
theorem mem_of_mem_lowercase (uncased : Uncased c) (member : c ∈ lowercase text) : c ∈ text :=
  mem_of_mem_lowercase_from uncased member

theorem lowercase_between_of_uncased (every : ∀ c ∈ lowercaseBetween beforeRev d after, Uncased c) :
    lowercaseBetween beforeRev d after = [d] := by
  unfold lowercaseBetween at every ⊢
  split at every
  · exact absurd (by decide) (every 'i' List.mem_cons_self).notSpecial
  · rename_i notDotted
    rw [if_neg notDotted]
    split at every
    · exact absurd (by decide) (every 'ς' List.mem_cons_self).notSpecial
    · rename_i notFinal
      rw [if_neg notFinal, ← (every _ List.mem_cons_self).onlyItself d rfl]

theorem lowercase_from_of_uncased (every : ∀ c ∈ lowercaseFrom beforeRev text, Uncased c) :
    lowercaseFrom beforeRev text = text := by
  induction text generalizing beforeRev with
  | nil => rfl
  | cons d text induction =>
      rw [lowercaseFrom] at every ⊢
      have here := lowercase_between_of_uncased fun c member => every c (List.mem_append_left _ member)
      have later := induction fun c member => every c (List.mem_append_right _ member)
      rw [here, later]
      rfl

/-- A lowercase form without cased characters is the text itself. -/
theorem lowercase_of_uncased (every : ∀ c ∈ lowercase text, Uncased c) : lowercase text = text :=
  lowercase_from_of_uncased every

/-- The character is its own lowercase form, whatever stands around it. -/
def Settled (c : Char) : Prop := ∀ beforeRev after, lowercaseBetween beforeRev c after = [c]

theorem settled_of_fixed (fixed : lowercaseChar c = c) (undotted : c ≠ '\u0130') : Settled c := by
  intro beforeRev after
  have notSigma : c ≠ 'Σ' := by
    rintro rfl
    revert fixed
    decide +kernel
  rw [lowercaseBetween, if_neg undotted, if_neg (fun final => notSigma final.1), fixed]

/-- Whatever form a character takes between two texts, that form is settled: also the final sigma, which
no longer looks at its place, and both parts of the dotted i. -/
theorem settled_of_mem_lowercase_between (member : c ∈ lowercaseBetween beforeRev d after) :
    Settled c := by
  unfold lowercaseBetween at member
  split at member
  · rcases List.mem_cons.1 member with rfl | later
    · exact settled_of_fixed (by decide +kernel) (by decide)
    · rw [List.mem_singleton.1 later]
      exact settled_of_fixed (by decide +kernel) (by decide)
  · rename_i undotted
    split at member
    · rw [List.mem_singleton.1 member]
      exact settled_of_fixed (by decide +kernel) (by decide)
    · rw [List.mem_singleton.1 member]
      apply settled_of_fixed (lowercase_char_fixed d)
      intro mapped
      exact undotted (uncased_dotted_capital.onlyItself d mapped)

theorem settled_of_mem_lowercase_from (member : c ∈ lowercaseFrom beforeRev text) : Settled c := by
  induction text generalizing beforeRev with
  | nil => exact absurd member List.not_mem_nil
  | cons d text induction =>
      rw [lowercaseFrom] at member
      rcases List.mem_append.1 member with here | later
      · exact settled_of_mem_lowercase_between here
      · exact induction later

theorem lowercase_from_of_settled (every : ∀ c ∈ text, Settled c) (beforeRev : Text) :
    lowercaseFrom beforeRev text = text := by
  induction text generalizing beforeRev with
  | nil => rfl
  | cons d text induction =>
      obtain ⟨here, later⟩ := List.forall_mem_cons.1 every
      rw [lowercaseFrom, here, induction later]
      rfl

/-- A text of settled characters is its own lowercase form. -/
theorem lowercase_of_settled (every : ∀ c ∈ text, Settled c) : lowercase text = text :=
  lowercase_from_of_settled every []

end Text

end PostMarkup
