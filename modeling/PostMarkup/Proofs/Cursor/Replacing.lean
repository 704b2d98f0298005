import PostMarkup.Proofs.Cursor.Calls
import PostMarkup.Proofs.Cursor.Scanning
import PostMarkup.Proofs.Expansion.OnePass
import PostMarkup.Proofs.References

/-!
References replaced in place, with a cursor in bytes. The text in front of the cursor is final, and the
number of its bytes changes with the values; the cursor goes over a value and the character behind it, and
so one byte too far where no character is left. Main statement: none of the loops over texts ever slices off
a boundary or stands still, and they end with the results of the functions on characters.
-/

namespace PostMarkup.Cursor

open Text (Ahead Mishap beginsWith begins_with_eq byteLength byte_length_append byte_length_cons byte_length_nil
  byte_length_pos charLengthAt dropMark? replaceRange replace_range_append runLength run_length_eq
  run_length_eq_zero_iff slice sliceFrom ahead_of_run)

def referenceAt : Text → Except Mishap (Option Text)
  | '$' :: rest => do
      let nameLength := runLength isWordChar rest
      if nameLength = 0 then
        .ok none
      else
        let behind ← sliceFrom rest nameLength
        if beginsWith ['$'] behind then
          let reference ← slice ('$' :: rest) 0 (nameLength + 2)
          .ok (some reference)
        else
          .ok none
  | _ => .ok none

structure ReplacingState where
  text : Text
  cursor : Nat

def replacing (bindings : Table) (unbound : Unbound) : CursorLoop ReplacingState (Except Fault Text) where
  text state := state.text
  cursor state := state.cursor
  step state rest := do
    match ← referenceAt rest with
    | none => .ok (.again ⟨state.text, state.cursor + charLengthAt state.text state.cursor⟩)
    | some reference =>
        match unbound.value? bindings reference with
        | none => .ok (.done (.error (.unboundReference reference state.cursor)))
        | some value =>
            let edited ←
              replaceRange state.text state.cursor (state.cursor + byteLength reference) value
            let behind := state.cursor + byteLength value
            .ok (.again ⟨edited, behind + charLengthAt edited behind⟩)
  finish state := .ok (.ok state.text)

theorem byte_length_written (name : Text) :
    byteLength (Reference.written name) = byteLength name + 2 := by
  have dollar : ('$' : Char).utf8Size = 1 := by decide
  simp only [Reference.written, byte_length_append, byte_length_cons, byte_length_nil, dollar]
  omega

theorem reference_at_of_ne {c : Char} {rest : Text} (other : c ≠ '$') :
    referenceAt (c :: rest) = .ok none ∧ Reference.cut? (c :: rest) = none := by
  have unmarked : ∀ behind, c :: rest ≠ '$' :: behind := by
    intro behind same
    exact other (List.cons.inj same).1
  constructor
  · rw [referenceAt]
    exact unmarked
  · rw [Reference.cut?]
    exact unmarked

theorem reference_at_eq (text : Text) :
    referenceAt text = .ok ((Reference.cut? text).map fun found => Reference.written found.1) := by
  cases text with
  | nil => rfl
  | cons c rest =>
      by_cases dollar : c = '$'
      · subst dollar
        rw [referenceAt, Reference.cut?]
        have whole := List.takeWhile_append_dropWhile (p := isWordChar) (l := rest)
        simp only [(ahead_of_run isWordChar rest).slice_from, Outcome.ok_bind, begins_with_eq]
        cases name : rest.takeWhile isWordChar with
        | nil =>
            rw [if_pos (run_length_eq_zero_iff.2 name)]
            rfl
        | cons first others =>
            have counted : ¬ runLength isWordChar rest = 0 := by
              rw [run_length_eq_zero_iff, name]
              exact List.cons_ne_nil first others
            cases back : rest.dropWhile isWordChar with
            | nil => simp [counted, dropMark?]
            | cons d after =>
                by_cases stop : d = '$'
                · subst stop
                  have ahead : Ahead ('$' :: rest) 0 (Reference.written (first :: others) ++ after) := by
                    refine ⟨[], ?_, rfl⟩
                    rw [← whole, name, back]
                    simp [Reference.written]
                  have sliced := ahead.slice
                  rw [Nat.zero_add, byte_length_written, ← name, ← run_length_eq, name] at sliced
                  simp [counted, dropMark?, sliced, Outcome.ok_bind]
                · simp only [counted, if_false, dropMark?, if_neg (Ne.symm stop), Option.isSome_none,
                    Bool.false_eq_true]
                  split
                  · rename_i same
                    exact absurd (List.cons.inj same).1 stop
                  · rfl
      · obtain ⟨unsliced, uncut⟩ := @reference_at_of_ne c rest dollar
        rw [unsliced, uncut]
        rfl

section Replacing

variable {bindings : Table} {unbound : Unbound} {writtenRev rest name after : Text} {c : Char}

theorem replace_from_plain (uncut : Reference.cut? (c :: rest) = none) :
    replaceReferencesFrom bindings unbound writtenRev (c :: rest) =
      replaceReferencesFrom bindings unbound (c :: writtenRev) rest := by
  rw [replaceReferencesFrom]
  split
  · rfl
  · rename_i cut
    rw [uncut] at cut
    cases cut

theorem replace_from_reference (cut : Reference.cut? (c :: rest) = some (name, after)) :
    replaceReferencesFrom bindings unbound writtenRev (c :: rest) =
      match unbound.value? bindings (Reference.written name) with
      | none => .error (.unboundReference (Reference.written name) (byteLength writtenRev))
      | some value =>
          replaceReferencesFrom bindings unbound (after.take 1 ++ (value.reverse ++ writtenRev))
            (after.drop 1) := by
  rw [replaceReferencesFrom]
  split
  · rename_i uncut
    rw [cut] at uncut
    cases uncut
  · rename_i again
    rw [cut] at again
    cases again
    rfl

/-- The text is edited in front of the cursor, and editing the rest ends with `answer`. -/
def Edited (bindings : Table) (unbound : Unbound) (answer : Except Fault Text)
    (state : ReplacingState) : Prop :=
  ∃ front rest, state.text = front ++ rest ∧
    (state.cursor = byteLength front ∨ rest = [] ∧ state.cursor = byteLength front + 1) ∧
    replaceReferencesFrom bindings unbound front.reverse rest = answer

variable {answer : Except Fault Text}

/-- A turn is progress if it leaves less ahead of the cursor than there was. -/
theorem edited_again {front edited : Text} {cursor : Nat}
    (moves : (replacing bindings unbound).turn ⟨front ++ c :: rest, byteLength front⟩ =
      .ok (.again ⟨edited, cursor⟩))
    (kept : Edited bindings unbound answer ⟨edited, cursor⟩) (forward : byteLength front < cursor)
    (closer : byteLength edited < cursor + byteLength (c :: rest)) :
    (replacing bindings unbound).Progress (Edited bindings unbound answer) answer
      ⟨front ++ c :: rest, byteLength front⟩ := by
  refine .again _ moves kept forward ?_
  change byteLength edited - cursor < byteLength (front ++ c :: rest) - byteLength front
  have positive := byte_length_pos (List.cons_ne_nil c rest)
  rw [byte_length_append, Nat.add_sub_cancel_left]
  omega

theorem edited_plain {front : Text} (uncut : Reference.cut? (c :: rest) = none)
    (edits : replaceReferencesFrom bindings unbound front.reverse (c :: rest) = answer) :
    (replacing bindings unbound).Progress (Edited bindings unbound answer) answer
      ⟨front ++ c :: rest, byteLength front⟩ := by
  have ahead : Ahead (front ++ c :: rest) (byteLength front) (c :: rest) := ⟨front, rfl, rfl⟩
  have here := ahead.char_length_at
  have positive := c.utf8Size_pos
  have moves : (replacing bindings unbound).turn ⟨front ++ c :: rest, byteLength front⟩ =
      .ok (.again ⟨front ++ c :: rest, byteLength front + c.utf8Size⟩) := by
    rw [CursorLoop.turn_ahead ahead]
    simp [replacing, reference_at_eq, uncut, Outcome.ok_bind, here]
  have kept : Edited bindings unbound answer
      ⟨front ++ c :: rest, byteLength front + c.utf8Size⟩ := by
    refine ⟨front ++ [c], rest, by simp, Or.inl (by simp), ?_⟩
    rw [← edits, replace_from_plain uncut, List.reverse_append]
    rfl
  apply edited_again moves kept (by omega)
  rw [byte_length_append]
  omega

/-- Behind a value the cursor goes over one character more, or over one byte where the text is over. -/
theorem edited_behind_value (front value : Text)
    (edits : replaceReferencesFrom bindings unbound
      (after.take 1 ++ (value.reverse ++ front.reverse)) (after.drop 1) = answer) :
    ∃ length, charLengthAt (front ++ value ++ after) (byteLength front + byteLength value) = length ∧
      0 < length ∧ Edited bindings unbound answer
        ⟨front ++ value ++ after, byteLength front + byteLength value + length⟩ := by
  have behind : Ahead (front ++ value ++ after) (byteLength front + byteLength value) after :=
    ⟨front ++ value, rfl, byte_length_append front value⟩
  cases after with
  | nil =>
      refine ⟨1, behind.char_length_at_end, Nat.one_pos, front ++ value, [], rfl, ?_, ?_⟩
      · exact Or.inr ⟨rfl, by simp⟩
      · rw [List.reverse_append]
        exact edits
  | cons d after =>
      refine ⟨d.utf8Size, behind.char_length_at, d.utf8Size_pos, front ++ value ++ [d], after,
        by simp, ?_, ?_⟩
      · exact Or.inl (by simp [Nat.add_assoc])
      · rw [List.reverse_append, List.reverse_append]
        exact edits

theorem edited_reference {front : Text} (cut : Reference.cut? (c :: rest) = some (name, after))
    (edits : replaceReferencesFrom bindings unbound front.reverse (c :: rest) = answer) :
    (replacing bindings unbound).Progress (Edited bindings unbound answer) answer
      ⟨front ++ c :: rest, byteLength front⟩ := by
  have ahead : Ahead (front ++ c :: rest) (byteLength front) (c :: rest) := ⟨front, rfl, rfl⟩
  have whole := Reference.cut_sound cut
  rw [replace_from_reference cut] at edits
  cases bound : unbound.value? bindings (Reference.written name) with
  | none =>
      rw [bound] at edits
      apply CursorLoop.Progress.done
      rw [CursorLoop.turn_ahead ahead, ← edits]
      simp [replacing, reference_at_eq, cut, Outcome.ok_bind, bound, Text.byte_length_reverse]
  | some value =>
      rw [bound] at edits
      obtain ⟨length, counted, positive, kept⟩ := edited_behind_value front value edits
      have replaced := replace_range_append front (Reference.written name) after value
      rw [List.append_assoc, ← whole, byte_length_append] at replaced
      have moves : (replacing bindings unbound).turn ⟨front ++ c :: rest, byteLength front⟩ =
          .ok (.again ⟨front ++ value ++ after, byteLength front + byteLength value + length⟩) := by
        rw [CursorLoop.turn_ahead ahead]
        simp only [replacing, reference_at_eq, cut, Option.map_some, Outcome.ok_bind, bound, replaced,
          counted]
      apply edited_again moves kept (by omega)
      -- The reference itself is gone, and the value is behind the cursor.
      rw [whole, byte_length_append, byte_length_append, byte_length_append]
      omega

theorem replacing_progress (state : ReplacingState) (edited : Edited bindings unbound answer state) :
    (replacing bindings unbound).Progress (Edited bindings unbound answer) answer state := by
  rcases state with ⟨text, cursor⟩
  obtain ⟨front, rest, parts, place, edits⟩ := edited
  dsimp only at parts place
  subst parts
  cases rest with
  | nil =>
      apply CursorLoop.Progress.done
      have ended : byteLength (front ++ []) ≤ cursor := by
        rw [List.append_nil]
        omega
      rw [CursorLoop.turn_end ended, ← edits, replaceReferencesFrom, List.append_nil, List.reverse_reverse]
      rfl
  | cons c rest =>
      have atFront : cursor = byteLength front := place.resolve_right fun beyond => by cases beyond.1
      subst atFront
      cases cut : Reference.cut? (c :: rest) with
      | none => exact edited_plain cut edits
      | some found => exact edited_reference cut edits

theorem placed_of_edited (state : ReplacingState) (edited : Edited bindings unbound answer state) :
    (replacing bindings unbound).Placed state ∨ (replacing bindings unbound).Over state := by
  obtain ⟨front, rest, parts, place, edits⟩ := edited
  rcases place with atFront | ⟨rfl, beyond⟩
  · left
    rw [CursorLoop.Placed]
    exact Ahead.on_boundary ⟨front, parts, atFront.symm⟩
  · right
    have beyond : (replacing bindings unbound).cursor state =
        byteLength ((replacing bindings unbound).text state) + 1 := by
      rw [List.append_nil] at parts
      exact beyond.trans (congrArg (byteLength · + 1) parts.symm)
    refine ⟨beyond, .ok state.text, ?_⟩
    rw [CursorLoop.turn_end (by omega)]
    rfl

theorem replacing_safe (bindings : Table) (unbound : Unbound) (text : Text) :
    (replacing bindings unbound).Safe
      (fun state => (replacing bindings unbound).Placed state ∨ (replacing bindings unbound).Over state)
      ⟨text, 0⟩ (replaceReferences bindings unbound text) := by
  apply CursorLoop.safe_of_progress (Edited bindings unbound (replaceReferences bindings unbound text))
  · exact ⟨[], text, rfl, Or.inl rfl, rfl⟩
  · exact placed_of_edited
  · exact replacing_progress

end Replacing

/-- No number of bytes at which a text is sliced is ever off a boundary, and no cursor ever stands still. The
tags, the bodies and the references at the start of a text are found as they are among characters, and so
are the results of all walks over texts; the one cursor that can leave its text does so at the end of its
walk. -/
theorem cursors_keep_to_boundaries :
    (∀ text, openingTag text =
      .ok ((OpeningTag.cut? text).map fun tag => (tag.name, byteLength tag.written))) ∧
    (∀ name body, (reopening name body).Safe (reopening name body).Placed ⟨0, false, 0⟩
      (reopens name body)) ∧
    (∀ document, (scanning document).Safe (scanning document).Placed ⟨.empty, 0⟩ (scan document)) ∧
    (∀ name source, (closing name source).Safe (closing name source).Placed ⟨0, 0⟩
      ((Call.cutInner? name 0 source).map fun parts => byteLength parts.1)) ∧
    (∀ callable limit depth base source,
      (readingAll callable limit depth base source).Safe
        (readingAll callable limit depth base source).Placed ⟨[], 0, 0⟩
        (Content.ofTextAt callable limit depth base source)) ∧
    ∀ bindings unbound text,
      (replacing bindings unbound).Safe
        (fun state => (replacing bindings unbound).Placed state ∨ (replacing bindings unbound).Over state)
        ⟨text, 0⟩ (replaceReferences bindings unbound text) :=
  ⟨opening_tag_eq, reopening_safe, scanning_safe, closing_safe, reading_all_safe, replacing_safe⟩

end PostMarkup.Cursor
