import PostMarkup.Proofs.Cursor.Loop
import PostMarkup.Proofs.Outcome
import PostMarkup.Proofs.Scan.Cuts

/-!
The scanner with a cursor in bytes. Tags and bodies are found by the numbers of bytes in front of them and
behind them, and the document and the bodies are sliced there. Every slice lies on boundaries, and the
loops end with the blocks that the scanner reads.
-/

namespace PostMarkup.Cursor

open Text (Ahead Mishap beginsWith begins_with_eq byteLength byte_length_append byte_length_cons byte_length_nil
  byte_length_pos charLengthAt cutFirst? cutLast? dropMark? runLength run_length_eq
  run_length_eq_zero_iff slice slice_run sliceFrom ahead_of_run)

def findFirst? (mark text : Text) : Option Nat :=
  (cutFirst? mark text).map fun parts => byteLength parts.1

def findLast? (mark text : Text) : Option Nat :=
  (cutLast? mark text).map fun parts => byteLength parts.1

def openingTag : Text → Except Mishap (Option (Text × Nat))
  | '<' :: rest => do
      let nameLength := runLength isWordChar rest
      if nameLength = 0 then
        .ok none
      else
        let behind ← sliceFrom rest nameLength
        match findFirst? ['>'] behind with
        | none => .ok none
        | some close =>
            let length := 1 + nameLength + close + 1
            if byteLength ('<' :: rest) ≤ length then
              .ok none
            else
              let name ← slice rest 0 nameLength
              .ok (some (name, length))
  | _ => .ok none

def bodyOf (name text : Text) : Except Mishap (Option Text) :=
  match findLast? (closingTag name) text with
  | none => .ok none
  | some stop => if stop = 0 then .ok none else (slice text 0 stop).map some

structure ReopeningState where
  depth : Nat
  closed : Bool
  cursor : Nat

/-- The walk through a body that looks for a second opening of the name behind a closing at level zero. -/
def reopening (name body : Text) : CursorLoop ReopeningState Bool where
  text _ := body
  cursor state := state.cursor
  step state rest := do
    if beginsWith (closingTag name) rest then
      let behind := state.cursor + byteLength (closingTag name)
      match state.depth with
      | 0 => .ok (.again ⟨0, true, behind⟩)
      | depth + 1 => .ok (.again ⟨depth, state.closed, behind⟩)
    else
      match (← openingTag rest).filter fun found => found.1 = name with
      | some (_, length) =>
          if state.closed then
            .ok (.done true)
          else
            .ok (.again ⟨state.depth + 1, state.closed, state.cursor + length⟩)
      | none =>
          .ok (.again ⟨state.depth, state.closed, state.cursor + charLengthAt body state.cursor⟩)
  finish _ := .ok false

/-- Whether a block has the name of an earlier one, or its body runs over two blocks. -/
def repeats (blocks : Table) (name body : Text) : Except Mishap Bool :=
  if blocks.contains name then .ok true else (reopening name body).run ⟨0, false, 0⟩

structure ScanningState where
  blocks : Table
  cursor : Nat

def scanning (document : Text) : CursorLoop ScanningState (Except Fault Table) where
  text _ := document
  cursor state := state.cursor
  step state rest := do
    match ← openingTag rest with
    | none => .ok (.again ⟨state.blocks, state.cursor + charLengthAt document state.cursor⟩)
    | some (name, length) =>
        match ← bodyOf name (← sliceFrom rest length) with
        | none => .ok (.done (.error (.unclosedTag name state.cursor)))
        | some body =>
            if ← repeats state.blocks name body then
              .ok (.done (.error (.repeatedTag name)))
            else
              .ok (.again ⟨state.blocks.insert name body,
                state.cursor + (length + byteLength body + byteLength (closingTag name))⟩)
  finish state := .ok (.ok state.blocks)

theorem opening_tag_of_ne {c : Char} {rest : Text} (other : c ≠ '<') :
    openingTag (c :: rest) = .ok none := by
  rw [openingTag]
  intro behind same
  exact other (List.cons.inj same).1

theorem opening_tag_eq (text : Text) :
    openingTag text =
      .ok ((OpeningTag.cut? text).map fun tag => (tag.name, byteLength tag.written)) := by
  cases text with
  | nil => rfl
  | cons c rest =>
      by_cases bracket : c = '<'
      · subst bracket
        rw [openingTag, OpeningTag.cut?]
        by_cases empty : rest.takeWhile isWordChar = []
        · simp only [run_length_eq_zero_iff.2 empty, empty, if_true, true_or]
          cases cutFirst? ['>'] (rest.dropWhile isWordChar) <;> rfl
        · have counted := mt run_length_eq_zero_iff.1 empty
          simp only [counted, empty, if_false, false_or, (ahead_of_run isWordChar rest).slice_from,
            Outcome.ok_bind, findFirst?]
          cases found : cutFirst? ['>'] (rest.dropWhile isWordChar) with
          | none => rfl
          | some parts =>
              obtain ⟨attributes, after⟩ := parts
              have size := (ahead_of_run isWordChar rest).byte_length_eq
              have bracketSize : ('<' : Char).utf8Size = 1 ∧ ('>' : Char).utf8Size = 1 := by decide
              simp only [Text.cut_first_sound found, byte_length_append, byte_length_cons,
                byte_length_nil, bracketSize] at size
              -- The tag is as long as the text exactly when nothing follows it.
              by_cases last : after = []
              · have ends : byteLength ('<' :: rest) ≤ 1 + runLength isWordChar rest +
                    byteLength attributes + 1 := by
                  rw [last, byte_length_nil] at size
                  rw [byte_length_cons, bracketSize.1]
                  omega
                simp only [Option.map_some, ends, last, if_true]
                rfl
              · have positive := byte_length_pos last
                have goesOn : ¬ byteLength ('<' :: rest) ≤ 1 + runLength isWordChar rest +
                    byteLength attributes + 1 := by
                  rw [byte_length_cons, bracketSize.1]
                  omega
                have tagSize : byteLength (OpeningTag.written
                    ⟨rest.takeWhile isWordChar, attributes, after⟩) =
                      1 + runLength isWordChar rest + byteLength attributes + 1 := by
                  simp [OpeningTag.written, run_length_eq, bracketSize, Nat.add_assoc]
                simp only [Option.map_some, goesOn, last, if_false, slice_run, Outcome.ok_bind, tagSize]
      · rw [opening_tag_of_ne bracket, OpeningTag.cut_of_ne bracket]
        rfl

theorem body_of_eq (name text : Text) :
    bodyOf name text = .ok ((cutBody? name text).map Prod.fst) := by
  unfold bodyOf cutBody? findLast?
  cases found : cutLast? (closingTag name) text with
  | none => rfl
  | some parts =>
      obtain ⟨body, after⟩ := parts
      have whole : Ahead text 0 (body ++ (closingTag name ++ after)) :=
        ⟨[], by simpa using Text.cut_last_sound found, rfl⟩
      have sliced := whole.slice
      rw [Nat.zero_add] at sliced
      by_cases empty : body = []
      · simp [empty]
      · have positive := byte_length_pos empty
        have filled : byteLength body ≠ 0 := by omega
        simp only [Option.map_some, filled, empty, if_false, sliced]
        rfl

section Reopening

variable {name body rest after : Text} {depth cursor : Nat} {closed : Bool} {c : Char}

/-- The text from here on decides as the whole body does. -/
def Decides (name body : Text) (state : ReopeningState) (rest : Text) : Prop :=
  reopensFrom name state.depth state.closed rest = reopens name body

theorem reopening_closing (dropped : dropMark? (closingTag name) (c :: rest) = some after)
    (decides : Decides name body ⟨depth, closed, cursor⟩ (c :: rest)) :
    (reopening name body).Reading (Decides name body) (reopens name body) ⟨depth, closed, cursor⟩
      (c :: rest) := by
  have parts := Text.drop_mark_eq_some_iff.1 dropped
  rw [Decides, reopens_from_of_closing dropped] at decides
  cases depth with
  | zero =>
      refine .again ⟨0, true, cursor + byteLength (closingTag name)⟩ (closingTag name) after
        ?_ rfl parts (List.cons_ne_nil _ _) rfl decides
      simp only [reopening, begins_with_eq, dropped, Option.isSome_some, if_true]
  | succ depth =>
      refine .again ⟨depth, closed, cursor + byteLength (closingTag name)⟩ (closingTag name) after
        ?_ rfl parts (List.cons_ne_nil _ _) rfl decides
      simp only [reopening, begins_with_eq, dropped, Option.isSome_some, if_true]

theorem reopening_opening {tag : OpeningTag} (unclosed : ¬ closingTag tag.name <+: c :: rest)
    (cut : OpeningTag.cut? (c :: rest) = some tag)
    (decides : Decides tag.name body ⟨depth, closed, cursor⟩ (c :: rest)) :
    (reopening tag.name body).Reading (Decides tag.name body) (reopens tag.name body)
      ⟨depth, closed, cursor⟩ (c :: rest) := by
  have undropped := Text.drop_mark_eq_none_iff.2 unclosed
  rw [Decides, reopens_from_opening unclosed cut] at decides
  cases closed with
  | true =>
      apply CursorLoop.Reading.done
      rw [← decides]
      simp [reopening, begins_with_eq, undropped, opening_tag_eq, cut, Outcome.ok_bind,
        Option.filter_some]
  | false =>
      refine .again ⟨depth + 1, false, cursor + byteLength tag.written⟩ tag.written tag.after
        ?_ rfl (OpeningTag.cut_sound cut) (List.cons_ne_nil _ _) rfl decides
      simp [reopening, begins_with_eq, undropped, opening_tag_eq, cut, Outcome.ok_bind,
        Option.filter_some]

/-- An opening tag of another name is passed like any other character. -/
theorem reopening_plain (ahead : Ahead body cursor (c :: rest))
    (unclosed : ¬ closingTag name <+: c :: rest)
    (other : ∀ tag, OpeningTag.cut? (c :: rest) = some tag → tag.name ≠ name)
    (decides : Decides name body ⟨depth, closed, cursor⟩ (c :: rest)) :
    (reopening name body).Reading (Decides name body) (reopens name body) ⟨depth, closed, cursor⟩
      (c :: rest) := by
  have undropped := Text.drop_mark_eq_none_iff.2 unclosed
  rw [Decides, reopens_from_plain unclosed other] at decides
  refine .char ⟨depth, closed, cursor + charLengthAt body cursor⟩ ahead ?_ rfl rfl decides
  cases cut : OpeningTag.cut? (c :: rest) with
  | none => simp [reopening, begins_with_eq, undropped, opening_tag_eq, cut, Outcome.ok_bind]
  | some tag =>
      simp [reopening, begins_with_eq, undropped, opening_tag_eq, cut, Outcome.ok_bind,
        Option.filter_some, other tag cut]

end Reopening

theorem reopening_safe (name body : Text) :
    (reopening name body).Safe (reopening name body).Placed ⟨0, false, 0⟩ (reopens name body) := by
  apply CursorLoop.safe_of_reading (Decides name body) rfl
  · exact rfl
  · intro state ended decides
    rw [← decides, reopens_from_nil]
    rfl
  · intro state c rest ahead decides
    cases dropped : dropMark? (closingTag name) (c :: rest) with
    | some after => exact reopening_closing dropped decides
    | none =>
        have unclosed := Text.drop_mark_eq_none_iff.1 dropped
        by_cases opened : ∃ tag, OpeningTag.cut? (c :: rest) = some tag ∧ tag.name = name
        · obtain ⟨tag, cut, rfl⟩ := opened
          exact reopening_opening unclosed cut decides
        · exact reopening_plain ahead unclosed (fun tag cut named => opened ⟨tag, cut, named⟩) decides

theorem repeats_eq (blocks : Table) (name body : Text) :
    repeats blocks name body = .ok (blocks.contains name || reopens name body) := by
  rw [repeats, (reopening_safe name body).answers]
  cases blocks.contains name <;> rfl

theorem scanning_safe (document : Text) :
    (scanning document).Safe (scanning document).Placed ⟨.empty, 0⟩ (scan document) := by
  apply CursorLoop.safe_of_reading (fun state rest =>
    scanFrom state.blocks state.cursor rest = scan document) rfl rfl
  · intro state ended reads
    rw [← reads, scan_from_nil]
    rfl
  · rintro ⟨blocks, cursor⟩ c rest ahead reads
    have here := ahead.char_length_at
    cases cut : OpeningTag.cut? (c :: rest) with
    | none =>
        rw [scan_from_plain cut] at reads
        refine .char ⟨blocks, cursor + charLengthAt document cursor⟩ ahead ?_ rfl rfl ?_
        · simp [scanning, opening_tag_eq, cut, Outcome.ok_bind]
        · exact here ▸ reads
    | some tag =>
        have whole := OpeningTag.cut_sound cut
        have behind : Ahead (c :: rest) (byteLength tag.written) tag.after := ⟨tag.written, whole, rfl⟩
        rw [scan_from_opening cut] at reads
        cases closed : cutBody? tag.name tag.after with
        | none =>
            rw [closed] at reads
            apply CursorLoop.Reading.done
            rw [← reads]
            simp [scanning, opening_tag_eq, cut, Outcome.ok_bind, behind.slice_from, body_of_eq, closed]
        | some parts =>
            obtain ⟨body, after⟩ := parts
            rw [closed] at reads
            dsimp only at reads
            cases repeated : blocks.contains tag.name || reopens tag.name body with
            | true =>
                rw [repeated, if_pos rfl] at reads
                apply CursorLoop.Reading.done
                rw [← reads]
                simp only [scanning, opening_tag_eq, cut, Option.map_some, Outcome.ok_bind,
                  behind.slice_from, body_of_eq, closed, repeats_eq, repeated, if_true]
            | false =>
                rw [repeated, if_neg Bool.false_ne_true] at reads
                refine .again ⟨blocks.insert tag.name body, _⟩
                  (tag.written ++ body ++ closingTag tag.name) after ?_ rfl ?_ ?_ ?_ reads
                · simp only [scanning, opening_tag_eq, cut, Option.map_some, Outcome.ok_bind,
                    behind.slice_from, body_of_eq, closed, repeats_eq, repeated, byte_length_append]
                  rfl
                · rw [whole, cut_body_sound closed]
                  simp
                · exact List.append_ne_nil_of_right_ne_nil _ (List.cons_ne_nil _ _)
                · rfl

end PostMarkup.Cursor
