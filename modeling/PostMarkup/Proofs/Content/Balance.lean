import PostMarkup.Proofs.Content.Grammar

/-!
The search for the closing tag of a call, against content. The search looks at the tags of one name
only and counts them on the bare text, while the content pairs the tags of all names. On the written
form of well-formed content the two agree: the search passes over the whole content when no run of
text holds the closing tag it looks for, and stops inside the content otherwise.
-/

namespace PostMarkup

open Text (dropMark?)
open Call (openingTag cutInner?)

namespace Call

variable {name front rest : Text} {depth : Nat}

def extend (front : Text) (cut : Option (Text × Text)) : Option (Text × Text) :=
  cut.map fun parts => (front ++ parts.1, parts.2)

@[simp]
theorem extend_some (inner after : Text) :
    extend front (some (inner, after)) = some (front ++ inner, after) := rfl

@[simp]
theorem extend_nil (cut : Option (Text × Text)) : extend [] cut = cut := by
  cases cut <;> rfl

theorem extend_extend (back : Text) (cut : Option (Text × Text)) :
    extend front (extend back cut) = extend (front ++ back) cut := by
  cases cut <;> simp [extend]

theorem cut_inner_cons (c : Char) (text : Text) :
    cutInner? name depth (c :: text) =
      match dropMark? (closingTag name) (c :: text) with
      | some after =>
          match depth with
          | 0 => some ([], after)
          | depth + 1 => extend (closingTag name) (cutInner? name depth after)
      | none =>
          match dropMark? (openingTag name) (c :: text) with
          | some after => extend (openingTag name) (cutInner? name (depth + 1) after)
          | none => extend [c] (cutInner? name depth text) := by
  rw [cutInner?]
  split
  · rename_i after closed
    rw [closed]
    rfl
  · rename_i unclosed
    rw [unclosed]
    split
    · rename_i after opened
      rw [opened]
      rfl
    · rename_i unopened
      rw [unopened]
      rfl

theorem cut_inner_of_closing {text after : Text}
    (closed : dropMark? (closingTag name) text = some after) :
    cutInner? name depth text =
      match depth with
      | 0 => some ([], after)
      | depth + 1 => extend (closingTag name) (cutInner? name depth after) := by
  cases text with
  | nil => cases closed
  | cons c text => rw [cut_inner_cons, closed]

theorem cut_inner_of_opening {text after : Text}
    (unclosed : dropMark? (closingTag name) text = none)
    (opened : dropMark? (openingTag name) text = some after) :
    cutInner? name depth text = extend (openingTag name) (cutInner? name (depth + 1) after) := by
  cases text with
  | nil => cases opened
  | cons c text => rw [cut_inner_cons, unclosed, opened]

theorem cut_inner_closing_zero (name after : Text) :
    cutInner? name 0 (closingTag name ++ after) = some ([], after) :=
  cut_inner_of_closing (Text.drop_mark_append _ _)

theorem cut_inner_closing_succ (name after : Text) (depth : Nat) :
    cutInner? name (depth + 1) (closingTag name ++ after) =
      extend (closingTag name) (cutInner? name depth after) :=
  cut_inner_of_closing (Text.drop_mark_append _ _)

theorem cut_inner_opening (valid : IsTagName name) (after : Text) :
    cutInner? name depth (openingTag name ++ after) =
      extend (openingTag name) (cutInner? name (depth + 1) after) := by
  apply cut_inner_of_opening
  · exact Text.drop_mark_eq_none_iff.2 valid.closing_not_prefix_opening
  · exact Text.drop_mark_append _ _

theorem cut_inner_plain {c : Char} (noClosing : ¬ closingTag name <+: c :: rest)
    (noOpening : ¬ openingTag name <+: c :: rest) :
    cutInner? name depth (c :: rest) = extend [c] (cutInner? name depth rest) := by
  have unclosed := Text.drop_mark_eq_none_iff.2 noClosing
  have unopened := Text.drop_mark_eq_none_iff.2 noOpening
  rw [cut_inner_cons, unclosed, unopened]

theorem cut_inner_skip (plain : ∀ back, back <:+ front → back ≠ [] →
      ¬ closingTag name <+: back ++ rest ∧ ¬ openingTag name <+: back ++ rest) :
    cutInner? name depth (front ++ rest) = extend front (cutInner? name depth rest) := by
  induction front with
  | nil => simp
  | cons c front induction =>
      have here := plain (c :: front) (List.suffix_refl _) (List.cons_ne_nil _ _)
      rw [List.cons_append] at here
      have later := induction (by
        intro back suffix nonempty
        exact plain back (suffix.trans (List.suffix_cons c front)) nonempty)
      rw [List.cons_append, cut_inner_plain here.1 here.2, later, extend_extend]
      rfl

/-- A run of text without either tag of the name is passed over, when a tag may follow it. -/
theorem cut_inner_run (valid : IsTagName name) (markup : BeginsMarkup rest)
    (noClosing : ¬ closingTag name <:+: front) (noOpening : ¬ openingTag name <:+: front) :
    cutInner? name depth (front ++ rest) = extend front (cutInner? name depth rest) := by
  apply cut_inner_skip
  intro back suffix nonempty
  constructor
  · intro found
    have within := valid.closing_is_tag.prefix_within nonempty markup found
    exact noClosing (within.isInfix.trans suffix.isInfix)
  · intro found
    have within := valid.opening_is_tag.prefix_within nonempty markup found
    exact noOpening (within.isInfix.trans suffix.isInfix)

theorem cut_inner_tag {mark : Text} (valid : IsTagName name) (tag : IsTag mark)
    (noClosing : ¬ closingTag name <+: mark ++ rest)
    (noOpening : ¬ openingTag name <+: mark ++ rest) :
    cutInner? name depth (mark ++ rest) = extend mark (cutInner? name depth rest) := by
  apply cut_inner_skip
  intro back suffix nonempty
  rcases tag with ⟨inside, rfl, free⟩
  rcases List.suffix_cons_iff.1 suffix with rfl | within
  · exact ⟨noClosing, noOpening⟩
  · obtain ⟨c, back, rfl⟩ := List.exists_cons_of_ne_nil nonempty
    have other : c ≠ '<' := by
      intro bracket
      subst bracket
      exact free (within.subset (List.mem_cons_self))
    exact ⟨valid.closing_is_tag.not_prefix_cons other, valid.opening_is_tag.not_prefix_cons other⟩

theorem cut_inner_other_opening {other : Text} (valid : IsTagName name)
    (validOther : IsTagName other) (different : name ≠ other) :
    cutInner? name depth (openingTag other ++ rest) =
      extend (openingTag other) (cutInner? name depth rest) := by
  apply cut_inner_tag valid validOther.opening_is_tag
  · exact validOther.closing_not_prefix_opening
  · rwa [valid.opening_prefix_opening_iff validOther]

theorem cut_inner_other_closing {other : Text} (valid : IsTagName name)
    (validOther : IsTagName other) (different : name ≠ other) :
    cutInner? name depth (closingTag other ++ rest) =
      extend (closingTag other) (cutInner? name depth rest) := by
  apply cut_inner_tag valid validOther.closing_is_tag
  · rwa [valid.closing_prefix_closing_iff validOther]
  · exact valid.opening_not_prefix_closing

end Call

namespace Content

open Call

variable {callable : Text → Bool} {name : Text}

/-- The search passes over a call when it passes over what lies inside the call. -/
theorem cut_inner_call {other inner rest : Text} (valid : IsTagName name)
    (validOther : IsTagName other)
    (passes : ∀ depth, cutInner? name depth (inner ++ (closingTag other ++ rest)) =
      extend inner (cutInner? name depth (closingTag other ++ rest))) (depth : Nat) :
    cutInner? name depth (Call.written other inner ++ rest) =
      extend (Call.written other inner) (cutInner? name depth rest) := by
  have parts : Call.written other inner ++ rest =
      openingTag other ++ (inner ++ (closingTag other ++ rest)) := by
    simp [Call.written]
  rw [parts]
  by_cases same : name = other
  · subst same
    rw [cut_inner_opening valid, passes, cut_inner_closing_succ]
    simp [extend_extend, Call.written]
  · rw [cut_inner_other_opening valid validOther same, passes,
      cut_inner_other_closing valid validOther same]
    simp [extend_extend, Call.written]

/-- The search passes over content in which no run holds the closing tag. -/
theorem cut_inner_content {content : Content} (valid : IsName name)
    (called : callable name = true) (wellFormed : content.WellFormed callable)
    (lacks : content.LacksClosing name) {rest : Text} (markup : BeginsMarkup rest) (depth : Nat) :
    cutInner? name depth (content.written ++ rest) =
      extend content.written (cutInner? name depth rest) := by
  induction content generalizing rest depth with
  | nil => simp [written]
  | text run next induction =>
      rcases wellFormed with ⟨-, noText, noOpening, nextWellFormed⟩
      have nextMarkup := (written_begins_markup noText).append markup
      have front : cutInner? name depth (run ++ (next.written ++ rest)) =
          extend run (cutInner? name depth (next.written ++ rest)) :=
        cut_inner_run valid.isTagName nextMarkup lacks.1 (noOpening name valid called)
      rw [written, List.append_assoc, front, induction nextWellFormed lacks.2 markup,
        extend_extend]
  | call other inner span next innerInduction nextInduction =>
      rcases wellFormed with ⟨validOther, -, -, innerWellFormed, nextWellFormed⟩
      have closing : BeginsMarkup (closingTag other ++ (next.written ++ rest)) := by
        simp [closingTag]
      have passes := innerInduction innerWellFormed lacks.1 closing
      rw [written, List.append_assoc,
        cut_inner_call valid.isTagName validOther.isTagName passes depth,
        nextInduction nextWellFormed lacks.2 markup, extend_extend]

/-- The search stops inside content in which some run holds the closing tag. -/
theorem cut_inner_stray {content : Content} (valid : IsName name)
    (called : callable name = true) (wellFormed : content.WellFormed callable)
    (stray : ¬ content.LacksClosing name) :
    ∃ inner after, content.written = inner ++ closingTag name ++ after ∧
      ∀ rest, BeginsMarkup rest →
        cutInner? name 0 (content.written ++ rest) = some (inner, after ++ rest) := by
  induction content with
  | nil => exact absurd trivial stray
  | text run next induction =>
      rcases wellFormed with ⟨-, noText, noOpening, nextWellFormed⟩
      by_cases held : closingTag name <:+: run
      · obtain ⟨front, back, rfl, absent⟩ :=
          Text.exists_first_mark valid.isTagName.closing_is_tag.ne_nil held
        refine ⟨front, back ++ next.written, by simp [written], ?_⟩
        intro rest _
        have closing : BeginsMarkup (closingTag name ++ (back ++ next.written ++ rest)) := by
          simp [closingTag]
        have unopened : ¬ openingTag name <:+: front := by
          intro found
          exact noOpening name valid called (found.trans ⟨[], closingTag name ++ back, by simp⟩)
        have walk : cutInner? name 0 (front ++ (closingTag name ++ (back ++ next.written ++ rest))) =
            extend front (cutInner? name 0 (closingTag name ++ (back ++ next.written ++ rest))) :=
          cut_inner_run valid.isTagName closing absent unopened
        rw [cut_inner_closing_zero, extend_some, List.append_nil] at walk
        simpa [written] using walk
      · have strayNext : ¬ next.LacksClosing name := fun lacks => stray ⟨held, lacks⟩
        obtain ⟨inner, after, whole, stops⟩ := induction nextWellFormed strayNext
        refine ⟨run ++ inner, after, by simp [written, whole], ?_⟩
        intro rest markup
        have nextMarkup := (written_begins_markup noText).append markup
        rw [written, List.append_assoc, cut_inner_run valid.isTagName nextMarkup held
          (noOpening name valid called), stops rest markup, extend_some]
  | call other inner span next innerInduction nextInduction =>
      rcases wellFormed with ⟨validOther, -, innerBalanced, innerWellFormed, nextWellFormed⟩
      by_cases lacks : inner.LacksClosing name
      · have strayNext : ¬ next.LacksClosing name := fun lacksNext => stray ⟨lacks, lacksNext⟩
        obtain ⟨front, after, whole, stops⟩ := nextInduction nextWellFormed strayNext
        refine ⟨Call.written other inner.written ++ front, after, by simp [written, whole], ?_⟩
        intro rest markup
        have closing : BeginsMarkup (closingTag other ++ (next.written ++ rest)) := by
          simp [closingTag]
        have passes := cut_inner_content valid called innerWellFormed lacks closing
        rw [written, List.append_assoc,
          cut_inner_call valid.isTagName validOther.isTagName passes 0, stops rest markup,
          extend_some]
      · -- No run inside a call holds the closing tag of that call, so the call has another name.
        have different : name ≠ other := by
          intro same
          subst same
          exact lacks innerBalanced
        obtain ⟨front, after, whole, stops⟩ := innerInduction innerWellFormed lacks
        refine ⟨openingTag other ++ front, after ++ (closingTag other ++ next.written),
          by simp [written, Call.written, whole], ?_⟩
        intro rest _
        have closing : BeginsMarkup (closingTag other ++ (next.written ++ rest)) := by
          simp [closingTag]
        have walk := stops _ closing
        have parts : written (.call other inner span next) ++ rest =
            openingTag other ++
              (inner.written ++ (closingTag other ++ (next.written ++ rest))) := by
          simp [written, Call.written]
        rw [parts, cut_inner_other_opening valid.isTagName validOther.isTagName different, walk]
        simp

/-- What the search cuts off as the inside of a call holds no closing tag of that call in a run. -/
theorem lacks_closing_of_cut_inner {content : Content} {after : Text} (valid : IsName name)
    (called : callable name = true) (wellFormed : content.WellFormed callable)
    (cut : cutInner? name 0 (content.written ++ (closingTag name ++ after)) =
      some (content.written, after)) :
    content.LacksClosing name := by
  apply Classical.byContradiction
  intro stray
  obtain ⟨inner, behind, whole, stops⟩ := cut_inner_stray valid called wellFormed stray
  have stopped := stops (closingTag name ++ after) (by simp [closingTag])
  rw [cut, Option.some.injEq, Prod.mk.injEq] at stopped
  have lengths := congrArg List.length whole
  rw [← stopped.1] at lengths
  simp only [closingTag, List.length_append, List.length_cons] at lengths
  omega

end Content

end PostMarkup
