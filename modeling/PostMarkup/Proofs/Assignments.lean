import Mathlib.Data.List.DropRight
import PostMarkup.Assignment
import PostMarkup.Proofs.Tables
import PostMarkup.Proofs.Tags
import PostMarkup.Proofs.Text.Splitting

/-!
What assignment lines can hold and what filling a table keeps. A line has lost its line breaks and tabs
before it is cut at the first sign, and both sides have lost the white space at their ends, so a name
never holds the sign and neither side is broken over lines.
-/

namespace PostMarkup

open Unicode (isWhiteSpace)

namespace Text

variable {text before after mark : Text}

theorem cut_first_absent (filled : mark ≠ []) (cut : cutFirst? mark text = some (before, after)) :
    ¬ mark <:+: before := by
  induction text generalizing before with
  | nil =>
      rw [cutFirst?, Option.map_eq_some_iff] at cut
      rcases cut with ⟨rest, -, same⟩
      cases same
      intro found
      exact filled (List.infix_nil.1 found)
  | cons c text induction =>
      rw [cutFirst?] at cut
      cases here : dropMark? mark (c :: text) with
      | some rest =>
          rw [here] at cut
          cases cut
          intro found
          exact filled (List.infix_nil.1 found)
      | none =>
          rw [here, Option.map_eq_some_iff] at cut
          rcases cut with ⟨parts, later, same⟩
          cases same
          intro found
          rcases List.infix_cons_iff.1 found with begins | within
          · have whole := cut_first_sound later
            rw [List.append_assoc] at whole
            have reached : c :: parts.1 <+: c :: text :=
              List.cons_prefix_cons.2 ⟨rfl, ⟨_, whole.symm⟩⟩
            exact drop_mark_eq_none_iff.1 here (begins.trans reached)
          · exact induction later within

theorem head_drop_while {kind : Char → Bool} (text : Text) :
    ∀ c ∈ (text.dropWhile kind).head?, kind c = false := by
  intro c first
  have head := List.head?_dropWhile_not kind text
  rw [Option.mem_def.1 first] at head
  exact head

theorem prefix_trim (text : Text) : trim text <+: text.dropWhile isWhiteSpace :=
  List.rdropWhile_prefix isWhiteSpace _

theorem infix_trim (text : Text) : trim text <:+: text :=
  (prefix_trim text).isInfix.trans (List.dropWhile_suffix isWhiteSpace).isInfix

/-- A text of one line that has something other than white space at both of its ends. -/
structure Tidy (text : Text) : Prop where
  filled : text ≠ []
  start : ∀ c ∈ text.head?, isWhiteSpace c = false
  stop : ∀ c ∈ text.getLast?, isWhiteSpace c = false
  oneLine : ∀ c ∈ text, c ≠ '\n' ∧ c ≠ '\t' ∧ c ≠ '\r'

theorem tidy_trim (filled : trim text ≠ [])
    (oneLine : ∀ c ∈ text, c ≠ '\n' ∧ c ≠ '\t' ∧ c ≠ '\r') : Tidy (trim text) where
  filled := filled
  start := by
    intro c first
    obtain ⟨rest, whole⟩ := prefix_trim text
    obtain ⟨d, trimmed, shape⟩ := List.exists_cons_of_ne_nil filled
    rw [shape, List.head?_cons, Option.mem_some_iff] at first
    rw [shape, first] at whole
    exact head_drop_while text c (by rw [← whole]; rfl)
  stop := by
    intro c last
    rw [trim, List.getLast?_reverse] at last
    exact head_drop_while _ c last
  oneLine c member := oneLine c ((infix_trim text).subset member)

end Text

namespace Assignment

open Text (Tidy trim)

structure Sound (assignment : Assignment) : Prop where
  name : Tidy assignment.name
  value : Tidy assignment.value
  unsigned : ¬ sign <:+: assignment.name

variable {assignment : Assignment} {line contents : Text}

theorem sound_of_line (unbroken : '\n' ∉ line) (read : ofLine? line = some assignment) :
    assignment.Sound := by
  have oneLine : ∀ c ∈ line.filter isLineChar, c ≠ '\n' ∧ c ≠ '\t' ∧ c ≠ '\r' := by
    intro c member
    obtain ⟨inLine, kept⟩ := List.mem_filter.1 member
    simp only [isLineChar, Bool.and_eq_true, decide_eq_true_eq] at kept
    exact ⟨fun broken => unbroken (broken ▸ inLine), kept⟩
  unfold ofLine? at read
  split at read
  · rename_i left right cut
    split at read
    · cases read
    · rename_i filled
      rw [not_or] at filled
      cases read
      have whole := Text.cut_first_sound cut
      have leftLine : ∀ c ∈ left, c ≠ '\n' ∧ c ≠ '\t' ∧ c ≠ '\r' := by
        intro c member
        exact oneLine c (by simp [whole, member])
      have rightLine : ∀ c ∈ right, c ≠ '\n' ∧ c ≠ '\t' ∧ c ≠ '\r' := by
        intro c member
        exact oneLine c (by simp [whole, member])
      -- The name is what stands in front of the first sign, so no sign is left in it.
      have absent := Text.cut_first_absent (by decide) cut
      exact ⟨Text.tidy_trim filled.1 leftLine, Text.tidy_trim filled.2 rightLine,
        fun found => absent (found.trans (Text.infix_trim left))⟩
  · cases read

theorem sound_of_mem (member : assignment ∈ ofText contents) : assignment.Sound := by
  obtain ⟨line, listed, read⟩ := List.mem_filterMap.1 member
  exact sound_of_line (Text.not_mem_of_mem_split_on listed) read

theorem of_text_append_line (first rest : Text) :
    ofText (first ++ '\n' :: rest) = ofText first ++ ofText rest := by
  have cut : (first ++ '\n' :: rest).splitOn '\n' = first.splitOn '\n' ++ rest.splitOn '\n' :=
    List.splitOnP_append_cons first rest (beq_self_eq_true '\n')
  rw [ofText, cut, List.filterMap_append, ofText, ofText]

/-- Joining texts with line breaks joins their assignments. -/
theorem of_text_intercalate (texts : List Text) :
    ofText (List.intercalate ['\n'] texts) = texts.flatMap ofText := by
  induction texts with
  | nil => decide
  | cons text texts induction =>
      cases texts with
      | nil => rw [List.intercalate_singleton, List.flatMap_singleton]
      | cons next texts =>
          rw [List.intercalate_cons_cons, List.append_assoc, List.singleton_append,
            of_text_append_line, induction]
          exact List.flatMap_cons.symm

end Assignment

theorem Filling.table_of_result {filling : Filling} {table : Table}
    (filled : filling.result = .ok table) : filling.table = table := by
  unfold Filling.result at filled
  split at filled
  · cases filled
  · exact Except.ok.inj filled

namespace Table

variable {refuse : Table → Assignment → Option Fault} {table : Table} {assignments : List Assignment}

/-- What every accepted assignment keeps, a filling keeps up to the place where it ends. -/
theorem fill_keeps {motive : Table → Prop} (start : motive table)
    (kept : ∀ table assignment, assignment ∈ assignments → refuse table assignment = none →
      motive table → motive (table.insert assignment.name assignment.value)) :
    motive (table.fill refuse assignments).table := by
  induction assignments generalizing table with
  | nil => exact start
  | cons assignment assignments induction =>
      rw [fill]
      split
      · exact start
      · rename_i accepted
        apply induction (kept table assignment List.mem_cons_self accepted start)
        intro later other member
        exact kept later other (List.mem_cons_of_mem _ member)

structure Assigned (table : Table) : Prop where
  distinct : table.keys.Nodup
  sound : ∀ entry ∈ table.entries, (Assignment.mk entry.1 entry.2).Sound

theorem Assigned.empty : empty.Assigned := ⟨List.nodup_nil, List.forall_mem_nil _⟩

theorem Assigned.insert (assigned : table.Assigned) {assignment : Assignment}
    (sound : assignment.Sound) : (table.insert assignment.name assignment.value).Assigned where
  distinct := distinct_insert assigned.distinct
  sound entry member := by
    rcases mem_entries_insert member with rfl | kept
    · exact sound
    · exact assigned.sound entry kept

theorem Assigned.fill (assigned : table.Assigned)
    (sound : ∀ assignment ∈ assignments, assignment.Sound) :
    (table.fill refuse assignments).table.Assigned := by
  apply fill_keeps assigned
  intro between assignment listed _ betweenAssigned
  exact betweenAssigned.insert (sound assignment listed)

end Table

end PostMarkup
