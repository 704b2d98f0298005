import PostMarkup.Text

/-!
Places in texts, in bytes. No character of the UTF-8 form begins another one, and none begins inside
another one, so what stands at a number of bytes stands between two characters: the bytes from there on
begin with those of a mark exactly when the text goes on with the mark behind that many bytes.
-/

namespace PostMarkup.Text

def bytes (text : Text) : List UInt8 := text.flatMap String.utf8EncodeChar

@[simp]
theorem bytes_nil : bytes [] = [] := rfl

@[simp]
theorem bytes_cons (c : Char) (rest : Text) :
    bytes (c :: rest) = String.utf8EncodeChar c ++ bytes rest := rfl

@[simp]
theorem bytes_append (left right : Text) : bytes (left ++ right) = bytes left ++ bytes right :=
  List.flatMap_append

@[simp]
theorem length_bytes (text : Text) : (bytes text).length = byteLength text := by
  induction text with
  | nil => rfl
  | cons c rest induction =>
      rw [bytes_cons, List.length_append, String.length_utf8EncodeChar, induction, byte_length_cons]

/-- The bytes of the text from `offset` on begin with those of `mark`. -/
def HoldsAt (text : Text) (offset : Nat) (mark : Text) : Prop := bytes mark <+: (bytes text).drop offset

instance (text : Text) (offset : Nat) (mark : Text) : Decidable (HoldsAt text offset mark) :=
  inferInstanceAs (Decidable (bytes mark <+: (bytes text).drop offset))

variable {text mark before : Text} {offset : Nat}

theorem holds_at_of_prefix (ahead : before ++ mark <+: text) :
    HoldsAt text (byteLength before) mark := by
  rcases ahead with ⟨after, rfl⟩
  rw [HoldsAt, List.append_assoc, bytes_append, ← length_bytes, List.drop_left, bytes_append]
  exact List.prefix_append _ _

theorem eq_of_encoding_prefix {c d : Char} {front back : List UInt8}
    (same : String.utf8EncodeChar c ++ front = String.utf8EncodeChar d ++ back) : c = d := by
  have decoded := congrArg (fun list => list.toByteArray.utf8DecodeChar? 0) same
  simp only [List.toByteArray_append, ByteArray.utf8DecodeChar?_utf8EncodeChar_append,
    Option.some.injEq] at decoded
  exact decoded

/-- The bytes of a text begin with those of a mark only when the text begins with the mark. -/
theorem prefix_of_bytes_prefix (found : bytes mark <+: bytes text) : mark <+: text := by
  induction mark generalizing text with
  | nil => exact List.nil_prefix
  | cons m mark induction =>
      rcases found with ⟨rest, whole⟩
      cases text with
      | nil =>
          have lengths := congrArg List.length whole
          have filled := m.utf8Size_pos
          simp only [List.length_append, length_bytes, byte_length_cons, byte_length_nil] at lengths
          omega
      | cons c text =>
          rw [bytes_cons, bytes_cons, List.append_assoc] at whole
          have same := eq_of_encoding_prefix whole
          subst same
          have later := induction ⟨rest, List.append_cancel_left whole⟩
          exact (List.prefix_cons_inj m).2 later

/-- No character begins inside another one. -/
theorem size_le_of_encoding_behind {c d : Char} {front back : List UInt8} (inside : 0 < offset)
    (found : String.utf8EncodeChar d ++ back = (String.utf8EncodeChar c ++ front).drop offset) :
    c.utf8Size ≤ offset := by
  apply Classical.byContradiction
  intro short
  rw [Nat.not_le, ← String.length_utf8EncodeChar] at short
  have first := congrArg (fun list : List UInt8 => list[0]?) found
  have filled : 0 < (String.utf8EncodeChar d).length := by
    rw [String.length_utf8EncodeChar]
    exact d.utf8Size_pos
  simp only [List.getElem?_append_left filled, List.getElem?_drop, Nat.add_zero,
    List.getElem?_append_left short, List.getElem?_eq_getElem filled, List.getElem?_eq_getElem short,
    Option.some.injEq] at first
  -- A byte that begins a character is the first one of every character that holds it.
  have begins : (String.utf8EncodeChar d)[0].IsUTF8FirstByte :=
    UInt8.isUTF8FirstByte_getElem_utf8EncodeChar.2 rfl
  rw [first] at begins
  have here := UInt8.isUTF8FirstByte_getElem_utf8EncodeChar.1 begins
  omega

/-- What stands at a number of bytes stands behind characters of that many bytes. -/
theorem holds_at_iff (filled : mark ≠ []) :
    HoldsAt text offset mark ↔ ∃ before, byteLength before = offset ∧ before ++ mark <+: text := by
  constructor
  · intro found
    induction text generalizing offset with
    | nil =>
        rcases found with ⟨rest, whole⟩
        obtain ⟨m, mark, rfl⟩ := List.exists_cons_of_ne_nil filled
        have lengths := congrArg List.length whole
        have positive := m.utf8Size_pos
        simp only [List.length_append, length_bytes, byte_length_cons, bytes_nil, List.drop_nil,
          List.length_nil] at lengths
        omega
    | cons c text induction =>
        by_cases start : offset = 0
        · subst start
          exact ⟨[], rfl, prefix_of_bytes_prefix found⟩
        · have inside : 0 < offset := Nat.pos_of_ne_zero start
          obtain ⟨m, mark, rfl⟩ := List.exists_cons_of_ne_nil filled
          rcases found with ⟨rest, whole⟩
          rw [bytes_cons, bytes_cons, List.append_assoc] at whole
          have past := size_le_of_encoding_behind inside whole
          have skipped : (String.utf8EncodeChar c).drop offset = [] :=
            List.drop_of_length_le (by simpa using past)
          rw [List.drop_append, String.length_utf8EncodeChar, skipped, List.nil_append] at whole
          have later : HoldsAt text (offset - c.utf8Size) (m :: mark) :=
            ⟨rest, by rw [bytes_cons, List.append_assoc, whole]⟩
          obtain ⟨before, counted, ahead⟩ := induction later
          refine ⟨c :: before, ?_, (List.prefix_cons_inj c).2 ahead⟩
          rw [byte_length_cons, counted]
          omega
  · intro placed
    rcases placed with ⟨before, rfl, ahead⟩
    exact holds_at_of_prefix ahead

end PostMarkup.Text
