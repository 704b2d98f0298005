import PostMarkup.Proofs.Text.Bytes

/-!
Slices of texts between two numbers of bytes, as storage in UTF-8 gives them. Such a slice is refused when
an end of it lies behind the text or inside a character. A cursor that stands between two characters is on
a boundary, and the text ahead of it is what a slice from there on gives.
-/

namespace PostMarkup.Text

/-- The offset is not behind the end of the text, and if a byte stands there, it begins a character. -/
def OnBoundary (text : Text) (offset : Nat) : Prop :=
  offset ≤ byteLength text ∧ ∀ byte ∈ (bytes text)[offset]?, byte.IsUTF8FirstByte

instance (text : Text) (offset : Nat) : Decidable (OnBoundary text offset) :=
  inferInstanceAs (Decidable (_ ∧ _))

/-- What a computation that goes by bytes must never do. -/
inductive Mishap where
  /-- To slice a text where an end is on no boundary, or the ends are in the wrong order. -/
  | badSlice (text : Text) (start stop : Nat)
  /-- To go on with a loop, or into a text inside, with no less text ahead than before. -/
  | stalled (cursor : Nat)
deriving DecidableEq

/-- The text behind a number of bytes, for a number on a boundary. -/
def dropBytes : Nat → Text → Text
  | _, [] => []
  | count, c :: rest => if count = 0 then c :: rest else dropBytes (count - c.utf8Size) rest

def takeBytes : Nat → Text → Text
  | _, [] => []
  | count, c :: rest => if count = 0 then [] else c :: takeBytes (count - c.utf8Size) rest

def Sliceable (text : Text) (start stop : Nat) : Prop :=
  start ≤ stop ∧ OnBoundary text start ∧ OnBoundary text stop

instance (text : Text) (start stop : Nat) : Decidable (Sliceable text start stop) :=
  inferInstanceAs (Decidable (_ ∧ _))

def slice (text : Text) (start stop : Nat) : Except Mishap Text :=
  if Sliceable text start stop then .ok (takeBytes (stop - start) (dropBytes start text))
  else .error (.badSlice text start stop)

def sliceFrom (text : Text) (start : Nat) : Except Mishap Text := slice text start (byteLength text)

def replaceRange (text : Text) (start stop : Nat) (value : Text) : Except Mishap Text :=
  if Sliceable text start stop then .ok (takeBytes start text ++ value ++ dropBytes stop text)
  else .error (.badSlice text start stop)

/-- The number of bytes of the character at an offset, and one where none begins. -/
def charLengthAt (text : Text) (offset : Nat) : Nat :=
  match sliceFrom text offset with
  | .ok (c :: _) => c.utf8Size
  | _ => 1

/-- The number of bytes of the characters of a kind that open the text. -/
def runLength (kind : Char → Bool) : Text → Nat
  | [] => 0
  | c :: rest => if kind c then c.utf8Size + runLength kind rest else 0

def beginsWith (mark text : Text) : Bool := (dropMark? mark text).isSome

variable {text before after piece rest : Text} {offset start : Nat} {c : Char}

theorem begins_with_eq (mark text : Text) : beginsWith mark text = (dropMark? mark text).isSome := rfl

theorem byte_length_pos (filled : text ≠ []) : 0 < byteLength text := by
  obtain ⟨c, rest, rfl⟩ := List.exists_cons_of_ne_nil filled
  have positive := c.utf8Size_pos
  rw [byte_length_cons]
  omega

theorem on_boundary_append (before after : Text) :
    OnBoundary (before ++ after) (byteLength before) := by
  constructor
  · rw [byte_length_append]
    exact Nat.le_add_right _ _
  · rw [bytes_append, List.getElem?_append_right (Nat.le_of_eq (length_bytes before)), length_bytes,
      Nat.sub_self]
    intro byte first
    cases after with
    | nil => cases first
    | cons c after =>
        have filled : 0 < (String.utf8EncodeChar c).length := by
          rw [String.length_utf8EncodeChar]
          exact c.utf8Size_pos
        rw [bytes_cons, List.getElem?_append_left filled, List.getElem?_eq_getElem filled] at first
        cases first
        exact UInt8.isUTF8FirstByte_getElem_utf8EncodeChar.2 rfl

/-- The boundaries are the places between two characters and the two ends. -/
theorem on_boundary_iff :
    OnBoundary text offset ↔ ∃ before after, text = before ++ after ∧ byteLength before = offset := by
  constructor
  · intro boundary
    induction text generalizing offset with
    | nil =>
        refine ⟨[], [], rfl, ?_⟩
        exact (Nat.le_zero.1 boundary.1).symm
    | cons c text induction =>
        by_cases start : offset = 0
        · exact ⟨[], c :: text, rfl, start.symm⟩
        · obtain ⟨within, first⟩ := boundary
          have past : c.utf8Size ≤ offset := by
            apply Classical.byContradiction
            intro short
            rw [Nat.not_le, ← String.length_utf8EncodeChar] at short
            have begins := first _ (by
              rw [bytes_cons, List.getElem?_append_left short, List.getElem?_eq_getElem short]
              rfl)
            exact start (UInt8.isUTF8FirstByte_getElem_utf8EncodeChar.1 begins)
          have later : OnBoundary text (offset - c.utf8Size) := by
            rw [byte_length_cons] at within
            refine ⟨by omega, ?_⟩
            rw [bytes_cons, List.getElem?_append_right (by simpa using past),
              String.length_utf8EncodeChar] at first
            exact first
          obtain ⟨before, after, rfl, counted⟩ := induction later
          refine ⟨c :: before, after, rfl, ?_⟩
          rw [byte_length_cons, counted]
          omega
  · rintro ⟨before, after, rfl, rfl⟩
    exact on_boundary_append before after

/-- Two ends of a slice have a part of the text between them. -/
theorem sliceable_iff {stop : Nat} :
    Sliceable text start stop ↔
      ∃ before piece after, text = before ++ piece ++ after ∧ byteLength before = start ∧
        byteLength (before ++ piece) = stop := by
  constructor
  · rintro ⟨order, first, last⟩
    obtain ⟨before, rest, whole, rfl⟩ := on_boundary_iff.1 first
    obtain ⟨front, after, same, rfl⟩ := on_boundary_iff.1 last
    rcases List.append_eq_append_iff.1 (whole.symm.trans same) with
      ⟨piece, rfl, -⟩ | ⟨piece, rfl, -⟩
    · exact ⟨before, piece, after, same, rfl, rfl⟩
    · -- The ends are in order, so nothing of the first part stands behind the second end.
      have empty : piece = [] := by
        cases piece with
        | nil => rfl
        | cons c piece =>
            have filled := c.utf8Size_pos
            rw [byte_length_append, byte_length_cons] at order
            omega
      subst empty
      exact ⟨front, [], after, by simpa using same, by simp, by simp⟩
  · rintro ⟨before, piece, after, rfl, rfl, rfl⟩
    refine ⟨?_, ?_, on_boundary_append _ after⟩
    · rw [byte_length_append]
      exact Nat.le_add_right _ _
    · rw [List.append_assoc]
      exact on_boundary_append before _

theorem drop_bytes_append (before after : Text) :
    dropBytes (byteLength before) (before ++ after) = after := by
  induction before with
  | nil => cases after <;> rfl
  | cons c before induction =>
      have filled := c.utf8Size_pos
      rw [List.cons_append, dropBytes, byte_length_cons, if_neg (by omega), Nat.add_sub_cancel_left,
        induction]

theorem take_bytes_append (before after : Text) :
    takeBytes (byteLength before) (before ++ after) = before := by
  induction before with
  | nil => cases after <;> rfl
  | cons c before induction =>
      have filled := c.utf8Size_pos
      rw [List.cons_append, takeBytes, byte_length_cons, if_neg (by omega), Nat.add_sub_cancel_left,
        induction]

/-- The text goes on with `rest` behind `offset` bytes. -/
def Ahead (text : Text) (offset : Nat) (rest : Text) : Prop :=
  ∃ before, text = before ++ rest ∧ byteLength before = offset

namespace Ahead

theorem whole (text : Text) : Ahead text 0 text := ⟨[], rfl, rfl⟩

theorem on_boundary (ahead : Ahead text offset rest) : OnBoundary text offset := by
  rcases ahead with ⟨before, rfl, rfl⟩
  exact on_boundary_append before rest

theorem past (ahead : Ahead text offset (piece ++ rest)) :
    Ahead text (offset + byteLength piece) rest := by
  rcases ahead with ⟨before, rfl, rfl⟩
  exact ⟨before ++ piece, by simp, by simp⟩

theorem byte_length_eq (ahead : Ahead text offset rest) :
    byteLength text = offset + byteLength rest := by
  rcases ahead with ⟨before, rfl, rfl⟩
  exact byte_length_append before rest

theorem lt_byte_length (ahead : Ahead text offset (c :: rest)) : offset < byteLength text := by
  have filled := c.utf8Size_pos
  rw [ahead.byte_length_eq, byte_length_cons]
  omega

theorem slice (ahead : Ahead text offset (piece ++ rest)) :
    Text.slice text offset (offset + byteLength piece) = .ok piece := by
  rcases ahead with ⟨before, rfl, rfl⟩
  have ends : Sliceable (before ++ (piece ++ rest)) (byteLength before)
      (byteLength before + byteLength piece) :=
    sliceable_iff.2 ⟨before, piece, rest, by simp, rfl, by simp⟩
  rw [Text.slice, if_pos ends, drop_bytes_append, Nat.add_sub_cancel_left, take_bytes_append]

theorem slice_from (ahead : Ahead text offset rest) : sliceFrom text offset = .ok rest := by
  have whole : Ahead text offset (rest ++ []) := by rwa [List.append_nil]
  rw [sliceFrom, ahead.byte_length_eq, whole.slice]

theorem char_length_at (ahead : Ahead text offset (c :: rest)) :
    charLengthAt text offset = c.utf8Size := by
  rw [charLengthAt, ahead.slice_from]

theorem char_length_at_end (ahead : Ahead text offset []) : charLengthAt text offset = 1 := by
  rw [charLengthAt, ahead.slice_from]

end Ahead

theorem replace_range_append (before old after value : Text) :
    replaceRange (before ++ old ++ after) (byteLength before) (byteLength (before ++ old)) value =
      .ok (before ++ value ++ after) := by
  have ends := sliceable_iff.2 ⟨before, old, after, rfl, rfl, rfl⟩
  rw [replaceRange, if_pos ends, drop_bytes_append, List.append_assoc before old, take_bytes_append]

theorem run_length_eq (kind : Char → Bool) (text : Text) :
    runLength kind text = byteLength (text.takeWhile kind) := by
  induction text with
  | nil => rfl
  | cons c text induction =>
      rw [runLength, List.takeWhile_cons, induction]
      split <;> rfl

theorem run_length_eq_zero_iff {kind : Char → Bool} :
    runLength kind text = 0 ↔ text.takeWhile kind = [] := by
  rw [run_length_eq]
  constructor
  · intro none
    apply Classical.byContradiction
    intro filled
    have positive := byte_length_pos filled
    omega
  · intro empty
    rw [empty, byte_length_nil]

theorem ahead_of_run (kind : Char → Bool) (text : Text) :
    Ahead text (runLength kind text) (text.dropWhile kind) :=
  ⟨text.takeWhile kind, List.takeWhile_append_dropWhile.symm, (run_length_eq kind text).symm⟩

theorem slice_run (kind : Char → Bool) (text : Text) :
    slice text 0 (runLength kind text) = .ok (text.takeWhile kind) := by
  have whole : Ahead text 0 (text.takeWhile kind ++ text.dropWhile kind) :=
    ⟨[], List.takeWhile_append_dropWhile.symm, rfl⟩
  rw [run_length_eq, ← whole.slice, Nat.zero_add]

end PostMarkup.Text
