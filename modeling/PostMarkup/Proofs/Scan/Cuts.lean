import Mathlib.Data.List.TakeWhile
import PostMarkup.Proofs.Tags
import PostMarkup.Scan

/-!
What the cuts of the scanner find: opening tags with attributes, the body in front of the last closing
tag of a name, and the walk through a body that notices two blocks of one name.
-/

namespace PostMarkup

open Text (byteLength dropMark? cutFirst? cutLast?)

def IsWord (name : Text) : Prop := name ≠ [] ∧ ∀ c ∈ name, isWordChar c = true

theorem IsWord.singleton {c : Char} (word : isWordChar c = true) : IsWord [c] := by
  refine ⟨List.cons_ne_nil _ _, ?_⟩
  intro other member
  rw [List.mem_singleton.1 member]
  exact word

theorem IsWord.isTagName {name : Text} (valid : IsWord name) : IsTagName name where
  nonempty := valid.1
  noOpening member := absurd (valid.2 _ member) (by decide)
  noClosing member := absurd (valid.2 _ member) (by decide)
  noSlash member := absurd (valid.2 _ member) (by decide)

namespace Text

theorem cut_last_eq_none_iff {mark text : Text} :
    cutLast? mark text = none ↔ ¬ mark <:+: text := by
  induction text with
  | nil => rw [cutLast?, Option.map_eq_none_iff, drop_mark_eq_none_iff, List.infix_nil,
      List.prefix_nil]
  | cons c text induction =>
      rw [cutLast?, List.infix_cons_iff, not_or, ← induction, ← drop_mark_eq_none_iff]
      cases cutLast? mark text with
      | none => simp
      | some parts => simp

theorem cut_last_append {mark text before after : Text} (front : Text)
    (cut : cutLast? mark text = some (before, after)) :
    cutLast? mark (front ++ text) = some (front ++ before, after) := by
  induction front with
  | nil => exact cut
  | cons c front induction => rw [List.cons_append, cutLast?, induction, List.cons_append]

/-- The last of the tags is the one with no other behind it. -/
theorem cut_last_eq_some_iff {mark text before after : Text} (tag : IsTag mark) :
    cutLast? mark text = some (before, after) ↔
      text = before ++ mark ++ after ∧ ¬ mark <:+: after := by
  constructor
  · intro cut
    refine ⟨cut_last_sound cut, ?_⟩
    induction text generalizing before with
    | nil =>
        rw [cutLast?, Option.map_eq_some_iff] at cut
        rcases cut with ⟨rest, found, same⟩
        cases same
        have empty := drop_mark_eq_some_iff.1 found
        exact absurd (List.append_eq_nil_iff.1 empty.symm).1 tag.ne_nil
    | cons c text induction =>
        rw [cutLast?] at cut
        cases found : cutLast? mark text with
        | some parts =>
            rw [found] at cut
            cases cut
            exact induction found
        | none =>
            rw [found, Option.map_eq_some_iff] at cut
            rcases cut with ⟨rest, dropped, same⟩
            cases same
            have whole := drop_mark_eq_some_iff.1 dropped
            have absent := cut_last_eq_none_iff.1 found
            intro later
            rcases tag with ⟨inside, rfl, -⟩
            simp only [List.cons_append, List.cons.injEq] at whole
            exact absent (later.trans ⟨inside, [], by simp [whole.2]⟩)
  · intro parts
    rcases parts with ⟨rfl, absent⟩
    have cut : cutLast? mark (mark ++ after) = some ([], after) := by
      have dropped := drop_mark_append mark after
      rcases tag with ⟨inside, rfl, free⟩
      have behind : ¬ ('<' :: inside) <:+: inside ++ after := by
        rwa [IsTag.infix_append_iff_of_free ⟨inside, rfl, free⟩ free]
      rw [List.cons_append] at dropped ⊢
      rw [cutLast?, cut_last_eq_none_iff.2 behind, dropped]
      rfl
    have whole := cut_last_append before cut
    rwa [List.append_nil, ← List.append_assoc] at whole

theorem cut_first_char_eq_some_iff {c : Char} {text before after : Text} :
    cutFirst? [c] text = some (before, after) ↔ text = before ++ c :: after ∧ c ∉ before := by
  constructor
  · intro cut
    refine ⟨by simpa using cut_first_sound cut, ?_⟩
    induction text generalizing before with
    | nil => simp [cutFirst?, dropMark?] at cut
    | cons d text induction =>
        by_cases same : c = d
        · subst same
          simp only [cutFirst?, dropMark?, if_true, Option.some.injEq, Prod.mk.injEq] at cut
          simp [← cut.1]
        · simp only [cutFirst?, dropMark?, if_neg same, Option.map_eq_some_iff] at cut
          rcases cut with ⟨parts, found, split⟩
          cases split
          simpa [same] using induction found
  · intro parts
    rcases parts with ⟨rfl, absent⟩
    induction before with
    | nil => simp [cutFirst?, dropMark?]
    | cons d before induction =>
        simp only [List.mem_cons, not_or] at absent
        simp [cutFirst?, dropMark?, absent.1, induction absent.2]

end Text

namespace OpeningTag

structure Valid (tag : OpeningTag) : Prop where
  word : IsWord tag.name
  closed : '>' ∉ tag.attributes
  separate : ∀ c ∈ tag.attributes.head?, isWordChar c = false

theorem cut_eq_some_iff {text : Text} {tag : OpeningTag} :
    cut? text = some tag ↔ tag.Valid ∧ tag.after ≠ [] ∧ text = tag.written ++ tag.after := by
  constructor
  · intro cut
    have whole := cut_sound cut
    unfold cut? at cut
    split at cut
    · rename_i rest
      split at cut
      · rename_i attributes after found
        obtain ⟨shape, closed⟩ := Text.cut_first_char_eq_some_iff.1 found
        split at cut
        · cases cut
        · rename_i filled
          simp only [not_or] at filled
          cases cut
          refine ⟨⟨⟨filled.1, ?_⟩, closed, ?_⟩, filled.2, whole⟩
          · intro c member
            exact List.mem_takeWhile_imp member
          · intro c first
            have head := List.head?_dropWhile_not isWordChar rest
            rw [shape] at head
            cases attributes with
            | nil => cases first
            | cons d attributes =>
                cases first
                exact head
      · cases cut
    · cases cut
  · intro parts
    rcases parts with ⟨⟨word, closed, separate⟩, filled, rfl⟩
    rcases tag with ⟨name, attributes, after⟩
    have bracket : ∀ c ∈ (attributes ++ '>' :: after).head?, isWordChar c = false := by
      cases attributes with
      | nil =>
          simp only [List.nil_append, List.head?_cons, Option.mem_some_iff, forall_eq']
          decide
      | cons d attributes => exact separate
    obtain ⟨taken, dropped⟩ := Text.take_drop_while_append word.2 bracket
    have cut : cutFirst? ['>'] (attributes ++ '>' :: after) = some (attributes, after) :=
      Text.cut_first_char_eq_some_iff.2 ⟨rfl, closed⟩
    have shape : written ⟨name, attributes, after⟩ ++ after =
        '<' :: (name ++ (attributes ++ '>' :: after)) := by simp [written]
    rw [shape, cut?, dropped, cut, taken]
    exact if_neg (not_or.2 ⟨word.1, filled⟩)

end OpeningTag

theorem cut_body_append {name body after : Text} (valid : IsTagName name)
    (absent : ¬ closingTag name <:+: after) :
    cutBody? name (body ++ closingTag name ++ after) =
      if body = [] then none else some (body, after) := by
  rw [cutBody?, (Text.cut_last_eq_some_iff valid.closing_is_tag).2 ⟨rfl, absent⟩]

theorem cut_body_eq_some_iff {name text body after : Text} (valid : IsTagName name) :
    cutBody? name text = some (body, after) ↔
      body ≠ [] ∧ text = body ++ closingTag name ++ after ∧ ¬ closingTag name <:+: after := by
  constructor
  · intro cut
    unfold cutBody? at cut
    split at cut
    · rename_i front back found
      split at cut
      · cases cut
      · rename_i filled
        cases cut
        exact ⟨filled, (Text.cut_last_eq_some_iff valid.closing_is_tag).1 found⟩
    · cases cut
  · intro parts
    rcases parts with ⟨filled, rfl, absent⟩
    rw [cut_body_append valid absent, if_neg filled]

namespace OpeningTag

theorem cut_of_ne {c : Char} {rest : Text} (other : c ≠ '<') : cut? (c :: rest) = none := by
  cases cut : cut? (c :: rest) with
  | none => rfl
  | some tag =>
      obtain ⟨-, -, whole⟩ := cut_eq_some_iff.1 cut
      simp only [written, List.cons_append, List.cons.injEq] at whole
      exact absurd whole.1 other

/-- Nothing but the name and the attributes of an opening tag decides what it is cut into. -/
theorem eq_of_written_append {left right : OpeningTag} {leftRest rightRest : Text}
    (leftValid : left.Valid) (rightValid : right.Valid)
    (same : left.written ++ leftRest = right.written ++ rightRest) :
    left.name = right.name ∧ left.attributes = right.attributes ∧ leftRest = rightRest := by
  have leftCut : cut? (left.written ++ (leftRest ++ [' '])) =
      some ⟨left.name, left.attributes, leftRest ++ [' ']⟩ :=
    cut_eq_some_iff.2 ⟨⟨leftValid.word, leftValid.closed, leftValid.separate⟩, by simp, rfl⟩
  have rightCut : cut? (right.written ++ (rightRest ++ [' '])) =
      some ⟨right.name, right.attributes, rightRest ++ [' ']⟩ :=
    cut_eq_some_iff.2 ⟨⟨rightValid.word, rightValid.closed, rightValid.separate⟩, by simp, rfl⟩
  rw [← List.append_assoc, same, List.append_assoc, rightCut] at leftCut
  simp only [Option.some.injEq, OpeningTag.mk.injEq, List.append_cancel_right_eq] at leftCut
  exact ⟨leftCut.1.symm, leftCut.2.1.symm, leftCut.2.2.symm⟩

/-- A closing tag is not an opening tag, as a slash belongs to no word. -/
theorem cut_closing {name rest : Text} : cut? (closingTag name ++ rest) = none := by
  cases cut : cut? (closingTag name ++ rest) with
  | none => rfl
  | some tag =>
      obtain ⟨valid, -, whole⟩ := cut_eq_some_iff.1 cut
      obtain ⟨c, word, shape⟩ := List.exists_cons_of_ne_nil valid.word.1
      simp only [closingTag, written, shape, List.cons_append, List.cons.injEq, true_and] at whole
      exact absurd (valid.word.2 c (by simp [shape])) (by rw [← whole.1]; decide)

end OpeningTag

section Reopens

variable {name rest : Text} {depth : Nat} {closed : Bool}

theorem reopens_from_nil : reopensFrom name depth closed [] = false := by
  rw [reopensFrom]

theorem reopens_from_cons (c : Char) (text : Text) :
    reopensFrom name depth closed (c :: text) =
      match dropMark? (closingTag name) (c :: text) with
      | some after =>
          match depth with
          | 0 => reopensFrom name 0 true after
          | depth + 1 => reopensFrom name depth closed after
      | none =>
          match OpeningTag.cut? (c :: text) with
          | some tag =>
              if tag.name = name then closed || reopensFrom name (depth + 1) closed tag.after
              else reopensFrom name depth closed text
          | none => reopensFrom name depth closed text := by
  rw [reopensFrom]
  split
  · rename_i after found
    cases depth with
    | zero => rw [found]
    | succ depth => rw [found]
  · rename_i unclosed
    rw [unclosed]
    split
    · rename_i tag cut
      rw [cut]
    · rename_i uncut
      rw [uncut]

theorem reopens_from_of_closing {text after : Text}
    (dropped : dropMark? (closingTag name) text = some after) :
    reopensFrom name depth closed text =
      match depth with
      | 0 => reopensFrom name 0 true after
      | depth + 1 => reopensFrom name depth closed after := by
  cases text with
  | nil => cases dropped
  | cons c text => rw [reopens_from_cons, dropped]

theorem reopens_from_closing (closed : Bool) (rest : Text) :
    reopensFrom name 0 closed (closingTag name ++ rest) = reopensFrom name 0 true rest :=
  reopens_from_of_closing (Text.drop_mark_append _ _)

theorem reopens_from_closing_succ (depth : Nat) (closed : Bool) (rest : Text) :
    reopensFrom name (depth + 1) closed (closingTag name ++ rest) =
      reopensFrom name depth closed rest :=
  reopens_from_of_closing (Text.drop_mark_append _ _)

theorem reopens_from_opening {tag : OpeningTag} {text : Text}
    (unclosed : ¬ closingTag tag.name <+: text) (cut : OpeningTag.cut? text = some tag) :
    reopensFrom tag.name depth closed text =
      (closed || reopensFrom tag.name (depth + 1) closed tag.after) := by
  cases text with
  | nil => cases cut
  | cons c text =>
      rw [reopens_from_cons, Text.drop_mark_eq_none_iff.2 unclosed, cut]
      exact if_pos rfl

theorem reopens_from_plain {c : Char} (unclosed : ¬ closingTag name <+: c :: rest)
    (other : ∀ tag, OpeningTag.cut? (c :: rest) = some tag → tag.name ≠ name) :
    reopensFrom name depth closed (c :: rest) = reopensFrom name depth closed rest := by
  rw [reopens_from_cons, Text.drop_mark_eq_none_iff.2 unclosed]
  cases cut : OpeningTag.cut? (c :: rest) with
  | none => rfl
  | some tag => exact if_neg (other tag cut)

theorem reopens_from_free (valid : IsTagName name) {front : Text} (free : '<' ∉ front) :
    reopensFrom name depth closed (front ++ rest) = reopensFrom name depth closed rest := by
  induction front with
  | nil => rfl
  | cons c front induction =>
      simp only [List.mem_cons, not_or] at free
      have other := Ne.symm free.1
      rw [List.cons_append, reopens_from_plain (valid.closing_is_tag.not_prefix_cons other),
        induction free.2]
      rw [OpeningTag.cut_of_ne other]
      intro tag cut
      cases cut

theorem reopens_from_tag (valid : IsTagName name) {mark : Text} (tag : IsTag mark)
    (unclosed : ¬ closingTag name <+: mark ++ rest)
    (other : ∀ tag, OpeningTag.cut? (mark ++ rest) = some tag → tag.name ≠ name) :
    reopensFrom name depth closed (mark ++ rest) = reopensFrom name depth closed rest := by
  rcases tag with ⟨inside, rfl, free⟩
  rw [List.cons_append] at unclosed other ⊢
  rw [reopens_from_plain unclosed other, reopens_from_free valid free]

theorem reopens_from_uncut (valid : IsTagName name) {mark : Text} (tag : IsTag mark)
    (unclosed : ¬ closingTag name <+: mark ++ rest)
    (uncut : OpeningTag.cut? (mark ++ rest) = none) :
    reopensFrom name depth closed (mark ++ rest) = reopensFrom name depth closed rest := by
  apply reopens_from_tag valid tag unclosed
  intro other cut
  rw [uncut] at cut
  cases cut

end Reopens

section ScanFrom

variable {blocks : Table} {offset : Nat}

theorem scan_from_nil : scanFrom blocks offset [] = .ok blocks := by
  rw [scanFrom]

theorem scan_from_cons (c : Char) (text : Text) :
    scanFrom blocks offset (c :: text) =
      match OpeningTag.cut? (c :: text) with
      | none => scanFrom blocks (offset + c.utf8Size) text
      | some tag =>
          match cutBody? tag.name tag.after with
          | none => .error (.unclosedTag tag.name offset)
          | some (body, after) =>
              if blocks.contains tag.name || reopens tag.name body then
                .error (.repeatedTag tag.name)
              else
                scanFrom (blocks.insert tag.name body)
                  (offset + byteLength (tag.written ++ body ++ closingTag tag.name)) after := by
  rw [scanFrom]
  split
  · rename_i uncut
    rw [uncut]
  · rename_i tag cut
    rw [cut]
    split
    · rename_i unclosed
      simp only [unclosed]
    · rename_i body after closed
      simp only [closed]

theorem scan_from_plain {c : Char} {rest : Text} (uncut : OpeningTag.cut? (c :: rest) = none) :
    scanFrom blocks offset (c :: rest) = scanFrom blocks (offset + c.utf8Size) rest := by
  rw [scan_from_cons, uncut]

theorem scan_from_opening {tag : OpeningTag} {text : Text}
    (cut : OpeningTag.cut? text = some tag) :
    scanFrom blocks offset text =
      match cutBody? tag.name tag.after with
      | none => .error (.unclosedTag tag.name offset)
      | some (body, after) =>
          if blocks.contains tag.name || reopens tag.name body then .error (.repeatedTag tag.name)
          else
            scanFrom (blocks.insert tag.name body)
              (offset + byteLength (tag.written ++ body ++ closingTag tag.name)) after := by
  cases text with
  | nil => cases cut
  | cons c text => rw [scan_from_cons, cut]

theorem scan_from_free {front rest : Text} (free : '<' ∉ front) :
    scanFrom blocks offset (front ++ rest) =
      scanFrom blocks (offset + byteLength front) rest := by
  induction front generalizing offset with
  | nil => rfl
  | cons c front induction =>
      simp only [List.mem_cons, not_or] at free
      rw [List.cons_append, scan_from_plain (OpeningTag.cut_of_ne (Ne.symm free.1)),
        induction free.2, Text.byte_length_cons, Nat.add_assoc]

end ScanFrom

end PostMarkup
