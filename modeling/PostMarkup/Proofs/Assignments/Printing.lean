import PostMarkup.Proofs.Placement

/-!
Assignments and their lines. A line is written with spaces around the sign, and reading it takes them
off again: the space in front of the sign keeps a name that ends in a colon from reaching into it, and a
sign in the value comes too late to count. Lists of assignments that can stand on lines are read back as
they were, and no text gives any other list.
-/

namespace PostMarkup

open Unicode (isWhiteSpace)

namespace Text

/-- White space around a tidy text is what trimming takes off. -/
theorem trim_padded {before text after : Text} (beforeWhite : ∀ c ∈ before, isWhiteSpace c = true)
    (tidy : Tidy text) (afterWhite : ∀ c ∈ after, isWhiteSpace c = true) :
    trim (before ++ text ++ after) = text := by
  have starts : ∀ c ∈ (text ++ after).head?, isWhiteSpace c = false := by
    rw [List.head?_append_of_ne_nil _ tidy.filled]
    exact tidy.start
  have stops : ∀ c ∈ text.reverse.head?, isWhiteSpace c = false := by
    rw [List.head?_reverse]
    exact tidy.stop
  have behindWhite : ∀ c ∈ after.reverse, isWhiteSpace c = true := by
    intro c member
    exact afterWhite c (List.mem_reverse.1 member)
  rw [trim, List.append_assoc, (take_drop_while_append beforeWhite starts).2, List.reverse_append,
    (take_drop_while_append behindWhite stops).2, List.reverse_reverse]

end Text

namespace Assignment

open Text (cutFirst? trim)

def line (assignment : Assignment) : Text :=
  assignment.name ++ [' '] ++ sign ++ [' '] ++ assignment.value

def written (assignments : List Assignment) : Text :=
  List.intercalate ['\n'] (assignments.map line)

variable {assignment : Assignment} {assignments : List Assignment}

theorem one_line_of_sound (sound : assignment.Sound) :
    ∀ c ∈ assignment.line, c ≠ '\n' ∧ c ≠ '\t' ∧ c ≠ '\r' := by
  have space : ∀ c ∈ [' '], c ≠ '\n' ∧ c ≠ '\t' ∧ c ≠ '\r' :=
    List.forall_mem_singleton.2 (by decide)
  have between : ∀ c ∈ sign, c ≠ '\n' ∧ c ≠ '\t' ∧ c ≠ '\r' := by simp [sign]
  simp only [line, List.forall_mem_append]
  exact ⟨⟨⟨⟨sound.name.oneLine, space⟩, between⟩, space⟩, sound.value.oneLine⟩

/-- The first sign of the line is the one between name and value. -/
theorem cut_line (unsigned : ¬ sign <:+: assignment.name) :
    cutFirst? sign assignment.line = some (assignment.name ++ [' '], [' '] ++ assignment.value) := by
  have absent : ¬ sign <:+: assignment.name ++ [' '] := by
    rw [Text.infix_append_cons_iff (by decide), List.infix_nil]
    exact not_or.2 ⟨unsigned, by decide⟩
  rw [line, List.append_assoc _ [' '] assignment.value]
  exact Text.cut_first_pair (by decide) absent

theorem of_line_line (sound : assignment.Sound) : ofLine? assignment.line = some assignment := by
  have kept : assignment.line.filter isLineChar = assignment.line := by
    rw [List.filter_eq_self]
    intro c member
    have plain := one_line_of_sound sound c member
    simp [isLineChar, plain]
  have space : ∀ c ∈ [' '], isWhiteSpace c = true := List.forall_mem_singleton.2 (by decide)
  have name : trim (assignment.name ++ [' ']) = assignment.name :=
    Text.trim_padded (List.forall_mem_nil _) sound.name space
  have value : trim ([' '] ++ assignment.value) = assignment.value := by
    have padded := Text.trim_padded space sound.value (List.forall_mem_nil _)
    rwa [List.append_nil] at padded
  rw [ofLine?, kept, cut_line sound.unsigned]
  simp only [name, value, sound.name.filled, sound.value.filled, or_self, if_false]

theorem of_text_line (sound : assignment.Sound) : ofText assignment.line = [assignment] := by
  have whole : assignment.line.splitOn '\n' = [assignment.line] := by
    apply List.splitOnP_eq_singleton
    intro c member
    exact beq_eq_false_iff_ne.2 (one_line_of_sound sound c member).1
  rw [ofText, whole, List.filterMap_cons, of_line_line sound, List.filterMap_nil]

theorem of_text_written (sound : ∀ assignment ∈ assignments, assignment.Sound) :
    ofText (written assignments) = assignments := by
  rw [written, of_text_intercalate]
  induction assignments with
  | nil => rfl
  | cons assignment assignments induction =>
      obtain ⟨here, later⟩ := List.forall_mem_cons.1 sound
      rw [List.map_cons, List.flatMap_cons, of_text_line here, induction later]
      rfl

/-- Written assignments are read back, repeats and order kept, exactly when each of them can stand on a
line. What is read from a text always can, so it is the same after writing and reading it once more. -/
theorem sound_assignments_read_back :
    (∀ assignments : List Assignment,
      ofText (written assignments) = assignments ↔ ∀ assignment ∈ assignments, assignment.Sound) ∧
      ∀ contents : Text, (∀ assignment ∈ ofText contents, assignment.Sound) ∧
        ofText (written (ofText contents)) = ofText contents := by
  have sound : ∀ contents : Text, ∀ assignment ∈ ofText contents, assignment.Sound := by
    intro contents assignment member
    exact sound_of_mem member
  constructor
  · intro assignments
    constructor
    · intro same
      rw [← same]
      exact sound _
    · exact of_text_written
  · intro contents
    exact ⟨sound contents, of_text_written (sound contents)⟩

def signedTwice : List Assignment :=
  [⟨"a:".toList, "b := c".toList⟩, ⟨"a:".toList, "=".toList⟩]

theorem sound_assignments_read_back_of_signed_twice :
    (∀ assignment ∈ signedTwice, assignment.Sound) ∧
      written signedTwice = "a: := b := c\na: := =".toList ∧
      ofText "a: := b := c\na: := =".toList = signedTwice := by
  have reached : ofText "\tb :=\na: := b := c\r\n a:\t:==".toList = signedTwice := by decide
  have sound : ∀ assignment ∈ signedTwice, assignment.Sound := by
    rw [← reached]
    exact (sound_assignments_read_back.2 _).1
  have lines : written signedTwice = "a: := b := c\na: := =".toList := by decide
  refine ⟨sound, lines, ?_⟩
  rw [← lines]
  exact (sound_assignments_read_back.1 _).2 sound

end Assignment

end PostMarkup
