/-!
Texts are plain lists of characters, so that every cut falls between two characters. Places in a
text are reported in bytes of its UTF-8 form; `byteLength` is the only measure of them.
-/

namespace PostMarkup

abbrev Text := List Char

namespace Text

/-- Number of bytes in the UTF-8 form. -/
def byteLength : Text → Nat
  | [] => 0
  | c :: rest => c.utf8Size + byteLength rest

@[simp]
theorem byte_length_nil : byteLength [] = 0 := rfl

@[simp]
theorem byte_length_cons (c : Char) (rest : Text) :
    byteLength (c :: rest) = c.utf8Size + byteLength rest := rfl

@[simp]
theorem byte_length_append (left right : Text) :
    byteLength (left ++ right) = byteLength left + byteLength right := by
  induction left with
  | nil => simp
  | cons c rest induction => simp [induction, Nat.add_assoc]

def decimal (value : Nat) : Text := Nat.toDigits 10 value

def dropMark? : (mark text : Text) → Option Text
  | [], text => some text
  | _ :: _, [] => none
  | m :: mark, c :: text => if m = c then dropMark? mark text else none

theorem drop_mark_eq_some_iff {mark text rest : Text} :
    dropMark? mark text = some rest ↔ text = mark ++ rest := by
  induction mark generalizing text with
  | nil => simp [dropMark?]
  | cons m mark induction =>
      cases text with
      | nil => simp [dropMark?]
      | cons c text =>
          by_cases same : m = c
          · simp [dropMark?, same, induction]
          · simp [dropMark?, same, Ne.symm same]

end Text

end PostMarkup
