import PostMarkup.Content.OfText
import PostMarkup.Proofs.Assignments

/-!
Placements in texts. No character of a placement can stand in the brackets and slashes of a tag, so a
placement that occurs in marked-up text lies between two of them. Placements do not overlap, so text
without a placement can be put in front of one without making an earlier one.
-/

namespace PostMarkup

open Text (dropMark? cutFirst? replaceFirst)

namespace Text

variable {mark front back : Text}

/-- A mark never lies across a character that it does not hold. -/
theorem infix_append_cons_iff {c : Char} (free : c ∉ mark) :
    mark <:+: front ++ c :: back ↔ mark <:+: front ∨ mark <:+: back := by
  constructor
  · intro found
    rcases found with ⟨before, after, whole⟩
    rw [List.append_assoc] at whole
    rcases List.append_eq_append_iff.1 whole with ⟨reach, rfl, behind⟩ | ⟨reach, rfl, behind⟩
    · rcases List.append_eq_append_iff.1 behind with ⟨rest, rfl, -⟩ | ⟨rest, rfl, last⟩
      · exact Or.inl ⟨before, rest, List.append_assoc _ _ _⟩
      · cases rest with
        | nil => exact Or.inl ⟨before, [], by simp⟩
        | cons d rest =>
            simp only [List.cons_append, List.cons.injEq] at last
            exact absurd (by simp [last.1]) free
    · cases reach with
      | nil =>
          cases mark with
          | nil => exact Or.inl (List.nil_infix)
          | cons m mark =>
              simp only [List.nil_append, List.cons_append, List.cons.injEq] at behind
              exact absurd (by simp [behind.1]) free
      | cons d reach =>
          simp only [List.cons_append, List.cons.injEq] at behind
          exact Or.inr ⟨reach, after, by rw [behind.2, List.append_assoc]⟩
  · intro found
    rcases found with found | found
    · exact List.infix_append_of_infix_left found
    · exact List.infix_append_of_infix_right (List.infix_cons found)

/-- A mark without the bracket of a tag never lies across a place where a tag may begin. -/
theorem infix_append_markup_iff (free : '<' ∉ mark) (markup : BeginsMarkup back) :
    mark <:+: front ++ back ↔ mark <:+: front ∨ mark <:+: back := by
  cases back with
  | nil =>
      rw [List.append_nil]
      refine ⟨Or.inl, ?_⟩
      intro found
      rcases found with found | found
      · exact found
      · exact found.trans List.nil_infix
  | cons c back =>
      have bracket : c = '<' := markup c rfl
      subst bracket
      have behind : mark <:+: [] ++ '<' :: back ↔ mark <:+: [] ∨ mark <:+: back :=
        infix_append_cons_iff free
      rw [List.nil_append] at behind
      rw [infix_append_cons_iff free, behind]
      constructor
      · intro found
        exact found.imp_right Or.inr
      · intro found
        rcases found with inFront | nowhere | later
        · exact Or.inl inFront
        · exact Or.inl (nowhere.trans List.nil_infix)
        · exact Or.inr later

theorem cut_first_eq_none_iff : cutFirst? mark back = none ↔ ¬ mark <:+: back := by
  induction back with
  | nil => rw [cutFirst?, Option.map_eq_none_iff, drop_mark_eq_none_iff, List.infix_nil,
      List.prefix_nil]
  | cons c back induction =>
      rw [cutFirst?, List.infix_cons_iff, not_or, ← induction, ← drop_mark_eq_none_iff]
      cases dropMark? mark (c :: back) with
      | none => simp
      | some after => simp

theorem occurs_iff : occurs mark back = true ↔ mark <:+: back := by
  rw [occurs, Option.isSome_iff_ne_none, Ne, cut_first_eq_none_iff, Classical.not_not]

theorem replace_first_of_infix (found : mark <:+: back) (value : Text) :
    ∃ before after, replaceFirst mark value back = before ++ value ++ after := by
  unfold replaceFirst
  cases cut : cutFirst? mark back with
  | none => exact absurd found (cut_first_eq_none_iff.1 cut)
  | some parts => exact ⟨parts.1, parts.2, rfl⟩

/-- A mark of two different characters does not overlap itself, so the one that follows text without it is
the first. -/
theorem cut_first_pair {first second : Char} (different : first ≠ second)
    (absent : ¬ [first, second] <:+: front) :
    cutFirst? [first, second] (front ++ [first, second] ++ back) = some (front, back) := by
  induction front with
  | nil => simp [cutFirst?, dropMark?]
  | cons c front induction =>
      have later := induction fun found => absent (List.infix_cons found)
      have here : dropMark? [first, second] (c :: (front ++ [first, second] ++ back)) = none := by
        rw [drop_mark_eq_none_iff]
        intro found
        cases front with
        | nil =>
            simp only [List.nil_append, List.cons_append, List.cons_prefix_cons] at found
            exact different found.2.1.symm
        | cons d front =>
            simp only [List.cons_append, List.cons_prefix_cons] at found
            apply absent
            rw [← found.1, ← found.2.1]
            exact (List.prefix_append [first, second] front).isInfix
      rw [List.cons_append, List.cons_append, cutFirst?, here, later]
      rfl

theorem cut_first_placement (absent : ¬ placement <:+: front) :
    cutFirst? placement (front ++ placement ++ back) = some (front, back) :=
  cut_first_pair (by decide) absent

theorem replace_first_placement (absent : ¬ placement <:+: front) (value : Text) :
    replaceFirst placement value (front ++ placement ++ back) = front ++ value ++ back := by
  unfold replaceFirst
  rw [cut_first_placement absent]

end Text

section Tags

variable {name inner rest : Text} (plain : ¬ placement <:+: name)

include plain

theorem placement_infix_opening_iff :
    placement <:+: Call.openingTag name ++ rest ↔ placement <:+: rest := by
  have shape : Call.openingTag name ++ rest = [] ++ '<' :: (name ++ '>' :: rest) := by
    simp [Call.openingTag]
  rw [shape, Text.infix_append_cons_iff (by decide), Text.infix_append_cons_iff (by decide)]
  have nowhere : ¬ placement <:+: [] := by decide
  simp only [nowhere, plain, false_or]

theorem placement_infix_closing_iff :
    placement <:+: closingTag name ++ rest ↔ placement <:+: rest := by
  have shape : closingTag name ++ rest = ['<'] ++ '/' :: (name ++ '>' :: rest) := by
    simp [closingTag]
  rw [shape, Text.infix_append_cons_iff (by decide), Text.infix_append_cons_iff (by decide)]
  have nowhere : ¬ placement <:+: ['<'] := by decide
  simp only [nowhere, plain, false_or]

/-- A placement in a call lies between the tags of the call, unless it lies in the name. -/
theorem placement_infix_call_iff :
    placement <:+: Call.openingTag name ++ inner ++ closingTag name ++ rest ↔
      placement <:+: inner ∨ placement <:+: rest := by
  have markup : BeginsMarkup (closingTag name ++ rest) := by simp [closingTag]
  rw [List.append_assoc, List.append_assoc, placement_infix_opening_iff plain,
    Text.infix_append_markup_iff (by decide) markup, placement_infix_closing_iff plain]

end Tags

namespace Table

variable {templates : Table}

def Placed (templates : Table) : Prop := ∀ entry ∈ templates.entries, placement <:+: entry.2

def Plain (templates : Table) : Prop := ∀ key ∈ templates.keys, ¬ placement <:+: key

instance (templates : Table) : Decidable templates.Placed :=
  inferInstanceAs (Decidable (∀ entry ∈ templates.entries, placement <:+: entry.2))

instance (templates : Table) : Decidable templates.Plain :=
  inferInstanceAs (Decidable (∀ key ∈ templates.keys, ¬ placement <:+: key))

theorem Placed.erase (placed : templates.Placed) (key : Text) : (templates.erase key).Placed := by
  intro entry member
  exact placed entry (List.mem_filter.1 member).1

theorem Plain.erase (plain : templates.Plain) (key : Text) : (templates.erase key).Plain := by
  intro other member
  obtain ⟨entry, kept, rfl⟩ := List.mem_map.1 member
  exact plain entry.1 (List.mem_map_of_mem (List.mem_filter.1 kept).1)

/-- A callable name lies inside a key. -/
theorem Plain.name_plain (plain : templates.Plain) {name : Text}
    (called : Content.callable templates name = true) : ¬ placement <:+: name := by
  intro found
  have listed : Reference.written name ∈ templates.keys := contains_iff_mem_keys.1 called
  refine plain _ listed (found.trans ⟨['$'], ['$'], ?_⟩)
  simp [Reference.written]

theorem refuse_template_eq_none {assignment : Assignment}
    (accepted : refuseTemplate templates assignment = none) : placement <:+: assignment.value := by
  unfold refuseTemplate at accepted
  split at accepted
  · cases accepted
  · rename_i held
    exact Text.occurs_iff.1 (eq_true_of_ne_false held)

/-- Filling a table of templates lets in no template without a placement. -/
theorem Placed.fill (placed : templates.Placed) (assignments : List Assignment) :
    (templates.fill refuseTemplate assignments).table.Placed := by
  apply fill_keeps placed
  intro between assignment _ accepted betweenPlaced entry member
  rcases mem_entries_insert member with rfl | kept
  · exact refuse_template_eq_none accepted
  · exact betweenPlaced entry kept

end Table

end PostMarkup
