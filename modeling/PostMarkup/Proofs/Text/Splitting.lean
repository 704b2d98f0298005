import PostMarkup.Text.Words

/-!
Cutting texts into pieces and joining pieces. A piece holds characters of the text only and no
separator, and what is joined comes from the pieces or from what stands between them.
-/

namespace PostMarkup.Text

open Unicode (isWhiteSpace)

variable {text piece between : Text} {c : Char}

theorem mem_split_on_p {kind : Char → Bool} (member : piece ∈ text.splitOnP kind) :
    ∀ c ∈ piece, c ∈ text ∧ kind c = false := by
  induction text generalizing piece with
  | nil =>
      rw [List.splitOnP_nil, List.mem_singleton] at member
      rw [member]
      exact List.forall_mem_nil _
  | cons first text induction =>
      obtain ⟨start, rest, pieces⟩ := List.exists_cons_of_ne_nil (List.splitOnP_ne_nil kind text)
      have within : ∀ piece ∈ start :: rest, ∀ c ∈ piece, c ∈ first :: text ∧ kind c = false := by
        intro piece listed c held
        obtain ⟨inText, kept⟩ := induction (pieces ▸ listed) c held
        exact ⟨List.mem_cons_of_mem first inText, kept⟩
      rw [List.splitOnP_cons_eq_if_modifyHead, pieces, List.modifyHead_cons] at member
      split at member
      · rcases List.mem_cons.1 member with rfl | later
        · exact List.forall_mem_nil _
        · exact within piece later
      · rename_i kept
        rcases List.mem_cons.1 member with rfl | later
        · intro c held
          rcases List.mem_cons.1 held with rfl | later
          · exact ⟨List.mem_cons_self, Bool.not_eq_true _ ▸ kept⟩
          · exact within start List.mem_cons_self c later
        · exact within piece (List.mem_cons_of_mem start later)

theorem not_mem_of_mem_split_on {stop : Char} (member : piece ∈ text.splitOn stop) :
    stop ∉ piece := by
  intro held
  have other := (mem_split_on_p member stop held).2
  rw [beq_self_eq_true] at other
  cases other

/-- A word is filled, and its characters are those of the text that are not white space. -/
theorem mem_words (member : piece ∈ words text) :
    piece ≠ [] ∧ ∀ c ∈ piece, c ∈ text ∧ isWhiteSpace c = false := by
  obtain ⟨listed, filled⟩ := List.mem_filter.1 member
  exact ⟨by simpa using filled, mem_split_on_p listed⟩

/-- A filled text without white space is one word. -/
theorem words_unbroken (filled : text ≠ []) (solid : ∀ c ∈ text, isWhiteSpace c = false) :
    words text = [text] := by
  rw [words, List.splitOnP_eq_singleton solid, List.filter_cons_of_pos (by simpa using filled),
    List.filter_nil]

theorem words_append_white (white : isWhiteSpace c = true) (left right : Text) :
    words (left ++ c :: right) = words left ++ words right := by
  rw [words, List.splitOnP_append_cons left right white, List.filter_append]
  rfl

theorem words_cons_white (white : isWhiteSpace c = true) (text : Text) :
    words (c :: text) = words text :=
  words_append_white white [] text

/-- A character that is not white space opens a word of its own in front of white space, and else it
joins the first word. -/
theorem words_cons_solid (solid : isWhiteSpace c = false) (text : Text) :
    words (c :: text) =
      if text.head?.all isWhiteSpace then [c] :: words text
      else (words text).modifyHead (c :: ·) := by
  have alone : words [c] = [[c]] :=
    words_unbroken (List.cons_ne_nil c []) fun d held => List.mem_singleton.1 held ▸ solid
  cases text with
  | nil => exact alone
  | cons d text =>
      cases white : isWhiteSpace d with
      | true =>
          have parted := words_append_white white [c] text
          rw [alone] at parted
          rw [List.head?_cons, Option.all_some, white, if_pos rfl, words_cons_white white]
          exact parted
      | false =>
          obtain ⟨first, others, pieces⟩ :=
            List.exists_cons_of_ne_nil (List.splitOnP_ne_nil isWhiteSpace text)
          simp [words, List.splitOnP_cons_eq_if_modifyHead, pieces, solid, white]

theorem words_eq_nil_iff : words text = [] ↔ ∀ c ∈ text, isWhiteSpace c = true := by
  induction text with
  | nil => simp [words]
  | cons c text induction =>
      rw [List.forall_mem_cons]
      cases white : isWhiteSpace c with
      | true =>
          rw [words_cons_white white, induction]
          exact (and_iff_right rfl).symm
      | false =>
          have filled : words (c :: text) ≠ [] := by
            rw [words_cons_solid white]
            split
            · exact List.cons_ne_nil _ _
            · rename_i joined
              rw [ne_eq, List.modifyHead_eq_nil_iff, induction]
              intro blank
              apply joined
              rw [Option.all_eq_true]
              exact fun d first => blank d (List.mem_of_mem_head? first)
          constructor
          · intro wordless
            exact absurd wordless filled
          · intro blank
            cases blank.1

theorem mem_intercalate {pieces : List Text} (member : c ∈ List.intercalate between pieces) :
    c ∈ between ∨ ∃ piece ∈ pieces, c ∈ piece := by
  induction pieces with
  | nil => exact absurd member List.not_mem_nil
  | cons piece pieces induction =>
      cases pieces with
      | nil =>
          rw [List.intercalate_singleton] at member
          exact Or.inr ⟨piece, List.mem_cons_self, member⟩
      | cons next pieces =>
          rw [List.intercalate_cons_cons, List.append_assoc] at member
          rcases List.mem_append.1 member with here | later
          · exact Or.inr ⟨piece, List.mem_cons_self, here⟩
          · rcases List.mem_append.1 later with seam | rest
            · exact Or.inl seam
            · rcases induction rest with seam | ⟨other, listed, held⟩
              · exact Or.inl seam
              · exact Or.inr ⟨other, List.mem_cons_of_mem piece listed, held⟩

end PostMarkup.Text
