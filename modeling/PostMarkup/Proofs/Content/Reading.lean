import Mathlib.Data.List.TakeWhile
import PostMarkup.Proofs.Content.Balance
import PostMarkup.Proofs.Outcome

/-!
Reading content from a text, against the written form. A text is read as content exactly when it is
the written form of well-formed content that does not go too deep, and then every call lies where its
written form lies.
-/

namespace PostMarkup

open Text (byteLength)
open Call (cutOpening? cutInner? openingTag IsName)

namespace Call

variable {callable : Text → Bool} {name after text : Text}

theorem cut_opening_eq_some_iff :
    cutOpening? callable text = some (name, after) ↔
      IsName name ∧ callable name = true ∧ text = openingTag name ++ after := by
  constructor
  · intro cut
    have whole := cut_opening_sound cut
    unfold cutOpening? at cut
    split at cut
    · rename_i rest
      split at cut
      · split at cut
        · rename_i named
          simp only [Option.some.injEq, Prod.mk.injEq] at cut
          rcases cut with ⟨rfl, rfl⟩
          refine ⟨⟨named.1, ?_⟩, named.2, whole⟩
          intro c member
          exact List.mem_takeWhile_imp member
        · cases cut
      · cases cut
    · cases cut
  · intro parts
    rcases parts with ⟨valid, called, rfl⟩
    have bracket : ∀ c ∈ ('>' :: after).head?, isNameChar c = false := by
      simp only [List.head?_cons, Option.mem_some_iff, forall_eq']
      decide
    obtain ⟨taken, dropped⟩ := Text.take_drop_while_append valid.2 bracket
    have shape : openingTag name ++ after = '<' :: (name ++ '>' :: after) := by
      simp [openingTag]
    rw [shape, cutOpening?, dropped, taken]
    exact if_pos ⟨valid.1, called⟩

theorem cut_opening_eq_none_iff :
    cutOpening? callable text = none ↔
      ∀ name, IsName name → callable name = true → ¬ openingTag name <+: text := by
  constructor
  · intro uncut name valid called found
    rcases found with ⟨after, whole⟩
    have cut := cut_opening_eq_some_iff.2 ⟨valid, called, whole.symm⟩
    rw [uncut] at cut
    cases cut
  · intro unopened
    cases cut : cutOpening? callable text with
    | none => rfl
    | some parts =>
        obtain ⟨valid, called, whole⟩ := cut_opening_eq_some_iff.1 cut
        exact absurd ⟨parts.2, whole.symm⟩ (unopened parts.1 valid called)

/-- No callable tag begins in a run of text without one, when a tag may follow the run. -/
theorem uncut_run {run rest : Text}
    (unopened : ∀ name, IsName name → callable name = true → ¬ openingTag name <:+: run)
    (markup : BeginsMarkup rest) :
    ∀ back, back <:+ run → back ≠ [] → cutOpening? callable (back ++ rest) = none := by
  intro back suffix nonempty
  rw [cut_opening_eq_none_iff]
  intro name valid called found
  have within := valid.isTagName.opening_is_tag.prefix_within nonempty markup found
  exact unopened name valid called (within.isInfix.trans suffix.isInfix)

end Call

namespace Content

variable {callable : Text → Bool} {limit depth offset : Nat}

theorem of_text_at_nil : ofTextAt callable limit depth offset [] = .ok nil := by
  rw [ofTextAt]

theorem of_text_at_plain {c : Char} {rest : Text}
    (uncut : cutOpening? callable (c :: rest) = none) :
    ofTextAt callable limit depth offset (c :: rest) =
      (ofTextAt callable limit depth (offset + c.utf8Size) rest).map (consChar c) := by
  rw [ofTextAt]
  split
  · rfl
  · rename_i found
    rw [uncut] at found
    cases found

theorem of_text_at_call {name after : Text} (valid : IsName name) (called : callable name = true) :
    ofTextAt callable limit depth offset (openingTag name ++ after) =
      if limit < depth then .error (.callTooDeep name offset limit)
      else
        match cutInner? name 0 after with
        | none => .error (.unclosedCall name offset)
        | some (inner, behind) => do
            let content ← ofTextAt callable limit (depth + 1)
              (offset + byteLength (openingTag name)) inner
            let next ← ofTextAt callable limit depth
              (offset + byteLength (Call.written name inner)) behind
            return call name content ⟨offset, offset + byteLength (Call.written name inner)⟩ next := by
  have cut : cutOpening? callable (openingTag name ++ after) = some (name, after) :=
    Call.cut_opening_eq_some_iff.2 ⟨valid, called, rfl⟩
  cases shape : openingTag name ++ after with
  | nil => cases shape
  | cons c rest =>
      rw [shape] at cut
      rw [ofTextAt]
      split
      · rename_i found
        rw [cut] at found
        cases found
      · rename_i found
        rw [cut] at found
        cases found
        split
        · rfl
        · split
          · rename_i unclosed
            simp [unclosed]
          · rename_i closed
            simp [closed, Call.written, Nat.add_assoc]

def Fits (limit depth : Nat) (content : Content) : Prop :=
  content.depth = 0 ∨ depth + content.depth ≤ limit + 1

theorem fits_nil : nil.Fits limit depth := Or.inl rfl

theorem fits_call_iff {name : Text} {inner next : Content} {span : Span} :
    (call name inner span next).Fits limit depth ↔
      depth ≤ limit ∧ inner.Fits limit (depth + 1) ∧ next.Fits limit depth := by
  simp only [Fits, Content.depth]
  omega

theorem fits_zero_iff {content : Content} : content.Fits limit 0 ↔ content.depth ≤ limit + 1 := by
  simp only [Fits]
  omega

section ConsChar

variable (c : Char) (content : Content)

theorem written_cons_char : (consChar c content).written = c :: content.written := by
  cases content <;> rfl

theorem fits_cons_char_iff : (consChar c content).Fits limit depth ↔ content.Fits limit depth := by
  cases content <;> rfl

/-- A character in front keeps content well formed when no callable tag begins there. -/
theorem well_formed_cons_char (wellFormed : content.WellFormed callable)
    (uncut : cutOpening? callable (c :: content.written) = none) :
    (consChar c content).WellFormed callable := by
  have extended : ∀ run, run <+: content.written →
      (∀ name, IsName name → callable name = true → ¬ openingTag name <:+: run) →
      ∀ name, IsName name → callable name = true → ¬ openingTag name <:+: c :: run := by
    intro run ahead absent name valid called found
    rcases List.infix_cons_iff.1 found with here | later
    · have whole := here.trans ((List.prefix_cons_inj c).2 ahead)
      exact Call.cut_opening_eq_none_iff.1 uncut name valid called whole
    · exact absent name valid called later
  have single := extended [] List.nil_prefix (by
    intro name _ _ found
    cases List.infix_nil.1 found)
  cases content with
  | nil => exact ⟨List.cons_ne_nil _ _, id, single, trivial⟩
  | text run next =>
      rcases wellFormed with ⟨-, noText, absent, nextWellFormed⟩
      have joined := extended run (List.prefix_append _ _) absent
      exact ⟨List.cons_ne_nil _ _, noText, joined, nextWellFormed⟩
  | call name inner span next => exact ⟨List.cons_ne_nil _ _, id, single, wellFormed⟩

end ConsChar

/-- What is read is well-formed content, does not go too deep and has the text as its written form. -/
theorem of_text_at_sound {text : Text} {content : Content}
    (read : ofTextAt callable limit depth offset text = .ok content) :
    content.written = text ∧ content.WellFormed callable ∧ content.Fits limit depth := by
  fun_induction ofTextAt callable limit depth offset text generalizing content with
  | case1 depth offset =>
      cases read
      exact ⟨rfl, trivial, fits_nil⟩
  | case2 depth offset c rest uncut induction =>
      obtain ⟨next, readNext, rfl⟩ := Outcome.map_ok_iff.1 read
      obtain ⟨rfl, wellFormed, fits⟩ := induction readNext
      exact ⟨written_cons_char c next, well_formed_cons_char c next wellFormed uncut,
        (fits_cons_char_iff c next).2 fits⟩
  | case3 depth offset c rest name after opened tooDeep => cases read
  | case4 depth offset c rest name after opened fits unclosed => cases read
  | case5 depth offset c rest name after opened within inner behind closed start stop
      innerInduction =>
      rename_i nextInduction
      obtain ⟨content, readInner, read⟩ := Outcome.bind_ok_iff.1 read
      obtain ⟨next, readNext, same⟩ := Outcome.bind_ok_iff.1 read
      cases same
      obtain ⟨valid, called, whole⟩ := Call.cut_opening_eq_some_iff.1 opened
      obtain ⟨rfl, innerWellFormed, innerFits⟩ := innerInduction readInner
      obtain ⟨rfl, nextWellFormed, nextFits⟩ := nextInduction readNext
      -- What was cut off is the written form of the content read from it, so the search has passed
      -- over that content, and no run in it can hold the closing tag.
      have inside := Call.cut_inner_sound closed
      rw [List.append_assoc] at inside
      have lacks := lacks_closing_of_cut_inner valid called innerWellFormed (inside ▸ closed)
      refine ⟨?_, ⟨valid, called, lacks, innerWellFormed, nextWellFormed⟩, ?_⟩
      · rw [whole, inside]
        simp [written, Call.written]
      · exact fits_call_iff.2 ⟨Nat.le_of_not_lt within, innerFits, nextFits⟩

/-- A run of text in which no callable tag begins stays a run of text. -/
theorem of_text_at_run {run rest : Text} (uncut : ∀ back, back <:+ run → back ≠ [] →
      cutOpening? callable (back ++ rest) = none) :
    ofTextAt callable limit depth offset (run ++ rest) =
      (ofTextAt callable limit depth (offset + byteLength run) rest).map
        (fun content => run.foldr consChar content) := by
  induction run generalizing offset with
  | nil =>
      simp only [List.nil_append, Text.byte_length_nil, Nat.add_zero, List.foldr_nil]
      cases ofTextAt callable limit depth offset rest <;> rfl
  | cons c run induction =>
      have here := uncut (c :: run) (List.suffix_refl _) (List.cons_ne_nil _ _)
      have later : ofTextAt callable limit depth (offset + c.utf8Size) (run ++ rest) =
          (ofTextAt callable limit depth (offset + c.utf8Size + byteLength run) rest).map
            (fun content => run.foldr consChar content) := by
        apply induction
        intro back suffix nonempty
        exact uncut back (suffix.trans (List.suffix_cons c run)) nonempty
      rw [List.cons_append] at here ⊢
      rw [of_text_at_plain here, later, Text.byte_length_cons, Nat.add_assoc]
      cases ofTextAt callable limit depth (offset + (c.utf8Size + byteLength run)) rest <;> rfl

theorem foldr_cons_char {run : Text} {next : Content} (nonempty : run ≠ [])
    (noText : ¬ next.BeginsWithText) : run.foldr consChar next = text run next := by
  induction run with
  | nil => exact absurd rfl nonempty
  | cons c run induction =>
      cases run with
      | nil =>
          cases next with
          | nil => rfl
          | text run next => exact absurd trivial noText
          | call name inner span next => rfl
      | cons d run =>
          rw [List.foldr_cons, induction (List.cons_ne_nil _ _)]
          rfl

/-- The written form of well-formed content is read as that content, if it does not go too deep. -/
theorem of_text_at_complete {content : Content} (wellFormed : content.WellFormed callable)
    (fits : content.Fits limit depth) :
    ofTextAt callable limit depth offset content.written = .ok (content.placeFrom offset) := by
  induction content generalizing depth offset with
  | nil => exact of_text_at_nil
  | text run next induction =>
      rcases wellFormed with ⟨nonempty, noText, unopened, nextWellFormed⟩
      have uncut := Call.uncut_run unopened (written_begins_markup noText)
      have noTextPlaced : ¬ (next.placeFrom (offset + byteLength run)).BeginsWithText := by
        rw [← begins_with_text_unplaced, unplaced_place_from, begins_with_text_unplaced]
        exact noText
      rw [written, of_text_at_run uncut, induction nextWellFormed fits]
      simp only [Except.map, placeFrom, foldr_cons_char nonempty noTextPlaced]
  | call name inner span next innerInduction nextInduction =>
      rcases wellFormed with ⟨valid, called, lacks, innerWellFormed, nextWellFormed⟩
      obtain ⟨within, innerFits, nextFits⟩ := fits_call_iff.1 fits
      have closing : BeginsMarkup (closingTag name ++ next.written) := by simp [closingTag]
      have closed := cut_inner_content valid called innerWellFormed lacks closing 0
      rw [Call.cut_inner_closing_zero, Call.extend_some, List.append_nil] at closed
      have parts : written (.call name inner span next) =
          openingTag name ++ (inner.written ++ (closingTag name ++ next.written)) := by
        simp [written, Call.written]
      rw [parts, of_text_at_call valid called, if_neg (Nat.not_lt.2 within), closed]
      simp only [innerInduction innerWellFormed innerFits, nextInduction nextWellFormed nextFits]
      rfl

/-- A text is read as content exactly when it is the written form of that content, well formed, not
too deep, and with the ranges that its place gives it. -/
theorem of_text_at_ok_iff {text : Text} {content : Content} :
    ofTextAt callable limit depth offset text = .ok content ↔
      content.written = text ∧ content.WellFormed callable ∧ content.Fits limit depth ∧
        content.placeFrom offset = content := by
  constructor
  · intro read
    obtain ⟨whole, wellFormed, fits⟩ := of_text_at_sound read
    have again : ofTextAt callable limit depth offset content.written =
        .ok (content.placeFrom offset) := of_text_at_complete wellFormed fits
    rw [whole, read] at again
    exact ⟨whole, wellFormed, fits, (Except.ok.inj again).symm⟩
  · intro parts
    rcases parts with ⟨rfl, wellFormed, fits, placed⟩
    rw [of_text_at_complete wellFormed fits, placed]

/-- Reading a text and writing content are inverse to one another, the ranges of the calls aside, and
reading accepts the written forms of well-formed content within the limit and nothing else. The
ranges it gives to the calls are those of their written forms in the text. -/
theorem of_text_inverts_written (templates : Table) (limit : Nat) (source : Text) :
    (∀ content : Content,
      (∃ read, ofText templates limit source = .ok read ∧ read.unplaced = content.unplaced) ↔
        content.written = source ∧ content.depth ≤ limit + 1 ∧
          content.WellFormed (Content.callable templates)) ∧
      ∀ read, ofText templates limit source = .ok read → read.Placed source [] := by
  constructor
  · intro content
    constructor
    · intro reached
      rcases reached with ⟨read, run, same⟩
      obtain ⟨whole, wellFormed, fits, -⟩ := of_text_at_ok_iff.1 run
      rw [← written_unplaced, ← depth_unplaced, ← well_formed_unplaced, ← same, written_unplaced,
        depth_unplaced, well_formed_unplaced]
      exact ⟨whole, fits_zero_iff.1 fits, wellFormed⟩
    · intro parts
      rcases parts with ⟨rfl, shallow, wellFormed⟩
      refine ⟨content.placeFrom 0, ?_, unplaced_place_from content 0⟩
      exact of_text_at_complete wellFormed (fits_zero_iff.2 shallow)
  · intro read run
    obtain ⟨whole, -, -, placed⟩ := of_text_at_ok_iff.1 run
    have located : (read.placeFrom (byteLength [])).Placed source [] :=
      place_from_placed read (by simp [whole])
    rwa [Text.byte_length_nil, placed] at located

end Content

end PostMarkup
