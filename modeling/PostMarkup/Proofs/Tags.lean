import PostMarkup.Content

/-!
Where tags can stand in a text. A tag begins with an opening angle bracket and holds no other one, so
it never reaches from one piece of a text into a piece that begins with a tag, and text without that
bracket can be dropped from in front of it. Tags of different names never begin at the same place.
-/

namespace PostMarkup

open Text (dropMark?)

/-- A mark that begins with an opening angle bracket and holds no other one. -/
def IsTag (mark : Text) : Prop := ∃ inside, mark = '<' :: inside ∧ '<' ∉ inside

def BeginsMarkup (text : Text) : Prop := ∀ c ∈ text.head?, c = '<'

@[simp]
theorem begins_markup_nil : BeginsMarkup [] := by simp [BeginsMarkup]

@[simp]
theorem begins_markup_bracket (text : Text) : BeginsMarkup ('<' :: text) := by simp [BeginsMarkup]

theorem BeginsMarkup.append {front back : Text} (frontMarkup : BeginsMarkup front)
    (backMarkup : BeginsMarkup back) : BeginsMarkup (front ++ back) := by
  cases front with
  | nil => exact backMarkup
  | cons c front => simpa [BeginsMarkup] using frontMarkup

theorem BeginsMarkup.append_of_ne_nil {front : Text} (markup : BeginsMarkup front)
    (nonempty : front ≠ []) (back : Text) : BeginsMarkup (front ++ back) := by
  cases front with
  | nil => exact absurd rfl nonempty
  | cons c front => simpa [BeginsMarkup] using markup

/-- What the names of blocks and the names of calls have in common. -/
structure IsTagName (name : Text) : Prop where
  nonempty : name ≠ []
  noOpening : '<' ∉ name
  noClosing : '>' ∉ name
  noSlash : '/' ∉ name

namespace Text

theorem drop_mark_eq_none_iff {mark text : Text} :
    dropMark? mark text = none ↔ ¬ mark <+: text := by
  constructor
  · intro missing found
    rcases found with ⟨rest, rfl⟩
    have found := drop_mark_eq_some_iff.2 (rfl : mark ++ rest = mark ++ rest)
    rw [missing] at found
    cases found
  · intro absent
    cases found : dropMark? mark text with
    | none => rfl
    | some rest => exact absurd ⟨rest, (drop_mark_eq_some_iff.1 found).symm⟩ absent

@[simp]
theorem drop_mark_append (mark rest : Text) : dropMark? mark (mark ++ rest) = some rest :=
  drop_mark_eq_some_iff.2 rfl

/-- A run of characters of one kind ends where the first other character stands. -/
theorem take_drop_while_append {kind : Char → Bool} {run rest : Text}
    (inside : ∀ c ∈ run, kind c = true) (stops : ∀ c ∈ rest.head?, kind c = false) :
    (run ++ rest).takeWhile kind = run ∧ (run ++ rest).dropWhile kind = rest := by
  rw [List.takeWhile_append_of_pos inside, List.dropWhile_append_of_pos inside]
  cases rest with
  | nil => simp
  | cons c rest =>
      have stop : ¬ kind c = true := by simp [stops c rfl]
      rw [List.takeWhile_cons_of_neg stop, List.dropWhile_cons_of_neg stop, List.append_nil]
      exact ⟨rfl, rfl⟩

/-- The first `stop` ends a piece of text without one. -/
theorem eq_of_stop_prefix {stop : Char} {left right rest : Text} (leftFree : stop ∉ left)
    (rightFree : stop ∉ right) (found : left ++ [stop] <+: right ++ stop :: rest) :
    left = right := by
  rcases found with ⟨behind, whole⟩
  have stops : ∀ piece after : Text, stop ∉ piece →
      (piece ++ stop :: after).takeWhile (· ≠ stop) = piece := by
    intro piece after free
    have inside : ∀ c ∈ piece, decide (c ≠ stop) = true := by
      intro c member
      exact decide_eq_true fun same => free (same ▸ member)
    rw [List.takeWhile_append_of_pos inside]
    simp
  rw [List.append_assoc, List.singleton_append] at whole
  rw [← stops left behind leftFree, whole, stops right rest rightFree]

theorem exists_first_mark {mark text : Text} (nonempty : mark ≠ []) (found : mark <:+: text) :
    ∃ front back, text = front ++ mark ++ back ∧ ¬ mark <:+: front := by
  induction text with
  | nil => exact absurd (List.infix_nil.1 found) nonempty
  | cons c text induction =>
      by_cases here : mark <+: c :: text
      · rcases here with ⟨back, whole⟩
        refine ⟨[], back, whole.symm, ?_⟩
        rwa [List.infix_nil]
      · have later := (List.infix_cons_iff.1 found).resolve_left here
        obtain ⟨front, back, rfl, absent⟩ := induction later
        refine ⟨c :: front, back, rfl, ?_⟩
        intro inside
        rcases List.infix_cons_iff.1 inside with start | behind
        · refine here (start.trans ⟨mark ++ back, ?_⟩)
          simp
        · exact absent behind

end Text

namespace IsTag

variable {mark front back : Text}

theorem ne_nil (tag : IsTag mark) : mark ≠ [] := by
  rcases tag with ⟨inside, rfl, -⟩
  exact List.cons_ne_nil _ _

theorem not_prefix_cons (tag : IsTag mark) {c : Char} (other : c ≠ '<') :
    ¬ mark <+: c :: back := by
  rcases tag with ⟨inside, rfl, -⟩
  intro found
  rcases found with ⟨rest, same⟩
  simp only [List.cons_append, List.cons.injEq] at same
  exact other same.1.symm

/-- A tag that begins inside a piece of text also ends there, when a tag may begin behind it. -/
theorem prefix_within (tag : IsTag mark) (nonempty : front ≠ []) (markup : BeginsMarkup back)
    (found : mark <+: front ++ back) : mark <+: front := by
  rcases tag with ⟨inside, rfl, free⟩
  rcases found with ⟨rest, whole⟩
  rcases List.append_eq_append_iff.1 whole with ⟨within, same, -⟩ | ⟨reach, same, behind⟩
  · exact ⟨within, same.symm⟩
  · cases reach with
    | nil => exact ⟨[], by simpa using same⟩
    | cons d reach =>
        have bracket : d = '<' := markup d (by simp [behind])
        obtain ⟨c, front, rfl⟩ := List.exists_cons_of_ne_nil nonempty
        simp only [List.cons_append, List.cons.injEq] at same
        exact absurd (by simp [same.2, bracket]) free

theorem infix_append_iff_of_free (tag : IsTag mark) (free : '<' ∉ front) :
    mark <:+: front ++ back ↔ mark <:+: back := by
  induction front with
  | nil => rfl
  | cons c front induction =>
      simp only [List.mem_cons, not_or] at free
      rw [List.cons_append, List.infix_cons_iff, induction free.2]
      exact or_iff_right (tag.not_prefix_cons (Ne.symm free.1))

theorem not_infix_of_free (tag : IsTag mark) (free : '<' ∉ back) : ¬ mark <:+: back := by
  intro found
  rw [← List.append_nil back, tag.infix_append_iff_of_free free, List.infix_nil] at found
  exact tag.ne_nil found

theorem infix_tag_append_iff (tag : IsTag mark) (other : IsTag front) :
    mark <:+: front ++ back ↔ mark <+: front ++ back ∨ mark <:+: back := by
  rcases other with ⟨inside, rfl, free⟩
  rw [List.cons_append, List.infix_cons_iff, tag.infix_append_iff_of_free free]

/-- A tag never lies across the place where another tag may begin. -/
theorem infix_append_iff (tag : IsTag mark) (markup : BeginsMarkup back) :
    mark <:+: front ++ back ↔ mark <:+: front ∨ mark <:+: back := by
  constructor
  · intro found
    induction front with
    | nil => exact Or.inr found
    | cons c front induction =>
        rcases List.infix_cons_iff.1 found with here | later
        · exact Or.inl (tag.prefix_within (List.cons_ne_nil c front) markup here).isInfix
        · exact (induction later).imp_left List.infix_cons
  · intro found
    rcases found with found | found
    · exact List.infix_append_of_infix_left found
    · exact List.infix_append_of_infix_right found

end IsTag

namespace IsTagName

variable {name other rest : Text}

theorem closing_is_tag (valid : IsTagName name) : IsTag (closingTag name) :=
  ⟨'/' :: name ++ ['>'], rfl, by simp [valid.noOpening]⟩

theorem opening_is_tag (valid : IsTagName name) : IsTag (Call.openingTag name) :=
  ⟨name ++ ['>'], rfl, by simp [valid.noOpening]⟩

/-- The closing angle bracket ends a name. -/
theorem eq_of_bracket_prefix (valid : IsTagName name) (validOther : IsTagName other)
    (found : name ++ ['>'] <+: other ++ '>' :: rest) : name = other :=
  Text.eq_of_stop_prefix valid.noClosing validOther.noClosing found

theorem closing_prefix_closing_iff (valid : IsTagName name) (validOther : IsTagName other) :
    closingTag name <+: closingTag other ++ rest ↔ name = other := by
  constructor
  · intro found
    have names : name ++ ['>'] <+: other ++ '>' :: rest := by simpa [closingTag] using found
    exact valid.eq_of_bracket_prefix validOther names
  · intro same
    subst same
    exact List.prefix_append _ _

theorem opening_prefix_opening_iff (valid : IsTagName name) (validOther : IsTagName other) :
    Call.openingTag name <+: Call.openingTag other ++ rest ↔ name = other := by
  constructor
  · intro found
    have names : name ++ ['>'] <+: other ++ '>' :: rest := by simpa [Call.openingTag] using found
    exact valid.eq_of_bracket_prefix validOther names
  · intro same
    subst same
    exact List.prefix_append _ _

/-- A slash follows the bracket of closing tags only. -/
theorem closing_not_prefix_opening (validOther : IsTagName other) :
    ¬ closingTag name <+: Call.openingTag other ++ rest := by
  intro found
  rcases found with ⟨behind, whole⟩
  obtain ⟨c, other, rfl⟩ := List.exists_cons_of_ne_nil validOther.nonempty
  simp only [closingTag, Call.openingTag, List.cons_append, List.cons.injEq, true_and] at whole
  exact validOther.noSlash (by simp [← whole.1])

theorem opening_not_prefix_closing (valid : IsTagName name) :
    ¬ Call.openingTag name <+: closingTag other ++ rest := by
  intro found
  rcases found with ⟨behind, whole⟩
  obtain ⟨c, name, rfl⟩ := List.exists_cons_of_ne_nil valid.nonempty
  simp only [closingTag, Call.openingTag, List.cons_append, List.cons.injEq, true_and] at whole
  exact valid.noSlash (by simp [whole.1])

end IsTagName

end PostMarkup
