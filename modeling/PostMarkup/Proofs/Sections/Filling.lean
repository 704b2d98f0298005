import Mathlib.Data.List.Infix
import PostMarkup.Proofs.Placement

/-!
Filling a table that has entries already. The assignments that are accepted stand behind those entries in
the order of their lines, up to the first one that is bad, and the fault names that one. What is bad is
settled by the entries at the beginning and by the lines in front.
-/

namespace PostMarkup

namespace Assignment

variable {bad : List Assignment → Assignment → Prop} {assignments : List Assignment}

/-- No assignment is bad, given those in front of it. -/
def NoneBad (bad : List Assignment → Assignment → Prop) (assignments : List Assignment) : Prop :=
  ∀ front assignment behind, assignments = front ++ assignment :: behind → ¬ bad front assignment

structure FirstBad (bad : List Assignment → Assignment → Prop) (assignments front : List Assignment)
    (first : Assignment) : Prop where
  stands : front ++ [first] <+: assignments
  before : NoneBad bad front
  isBad : bad front first

/-- The induction is on the number of assignments in front of a bad one. -/
theorem exists_first_bad (spoiled : ¬ NoneBad bad assignments) :
    ∃ front first, FirstBad bad assignments front first := by
  simp only [NoneBad, not_forall, Classical.not_not] at spoiled
  obtain ⟨front, assignment, behind, whole, isBad⟩ := spoiled
  induction count : front.length using Nat.strongRecOn generalizing front assignment behind with
  | ind size induction =>
      by_cases before : NoneBad bad front
      · exact ⟨front, assignment, ⟨behind, by simp [whole]⟩, before, isBad⟩
      · simp only [NoneBad, not_forall, Classical.not_not] at before
        obtain ⟨earlier, other, between, split, otherBad⟩ := before
        have fewer : earlier.length < size := by
          rw [← count, split, List.length_append, List.length_cons]
          omega
        have rest : assignments = earlier ++ other :: (between ++ assignment :: behind) := by
          simp [whole, split]
        exact induction _ fewer earlier other _ rest otherBad rfl

end Assignment

namespace Table

open Assignment (NoneBad FirstBad)

variable {table : Table} {front assignments : List Assignment} {name : Text}

def followedBy (table : Table) (assignments : List Assignment) : Table :=
  ⟨table.entries ++ assignments.map fun assignment => (assignment.name, assignment.value)⟩

def Taken (table : Table) (front : List Assignment) (name : Text) : Prop :=
  name ∈ table.keys ∨ ∃ earlier ∈ front, earlier.name = name

def BadTemplate (table : Table) (front : List Assignment) (assignment : Assignment) : Prop :=
  table.Taken front assignment.name ∨ ¬ placement <:+: assignment.value

def BadVariable (table : Table) (front : List Assignment) (assignment : Assignment) : Prop :=
  table.Taken front assignment.name

@[simp]
theorem followed_by_nil (table : Table) : table.followedBy [] = table := by
  rw [followedBy, List.map_nil, List.append_nil]

theorem followed_by_cons (table : Table) (assignment : Assignment) (assignments : List Assignment) :
    table.followedBy (assignment :: assignments) =
      (table.followedBy [assignment]).followedBy assignments := by
  simp [followedBy]

theorem contains_followed_by_iff :
    (table.followedBy front).contains name = true ↔ table.Taken front name := by
  rw [contains_iff_mem_keys, keys, followedBy, List.map_append, List.mem_append, List.map_map]
  exact or_congr Iff.rfl List.mem_map

theorem insert_of_fresh {assignment : Assignment} (fresh : table.contains assignment.name = false) :
    table.insert assignment.name assignment.value = table.followedBy [assignment] := by
  have absent : assignment.name ∉ table.keys := by
    intro listed
    rw [contains_iff_mem_keys.2 listed] at fresh
    cases fresh
  exact congrArg mk (insert_of_not_mem absent)

section Fill

variable {refuse : Table → Assignment → Option Fault}

/-- Assignments that are accepted one after the other go behind the entries of the table, and then the
filling goes on from there. -/
theorem fill_accepted (fresh : ∀ table assignment, refuse table assignment = none →
      table.contains assignment.name = false)
    (accepted : ∀ front assignment behind, assignments = front ++ assignment :: behind →
      refuse (table.followedBy front) assignment = none) (rest : List Assignment) :
    table.fill refuse (assignments ++ rest) = (table.followedBy assignments).fill refuse rest := by
  induction assignments generalizing table with
  | nil => rw [followed_by_nil, List.nil_append]
  | cons assignment assignments induction =>
      have here := accepted [] assignment assignments rfl
      rw [followed_by_nil] at here
      have later : (table.followedBy [assignment]).fill refuse (assignments ++ rest) =
          ((table.followedBy [assignment]).followedBy assignments).fill refuse rest := by
        apply induction
        intro front other behind whole
        rw [← followed_by_cons]
        exact accepted (assignment :: front) other behind (congrArg (assignment :: ·) whole)
      rw [List.cons_append, fill, here, followed_by_cons, ← later, insert_of_fresh (fresh _ _ here)]

variable {bad : List Assignment → Assignment → Prop} {fault : Assignment → Fault}

/-- When every refusal is of a bad assignment with its fault, a filling takes over all assignments, or
those in front of the first bad one. -/
theorem fill_outcome (table : Table) (assignments : List Assignment)
    (fresh : ∀ table assignment, refuse table assignment = none →
      table.contains assignment.name = false)
    (decides : ∀ front assignment,
      (¬ bad front assignment → refuse (table.followedBy front) assignment = none) ∧
        (bad front assignment →
          refuse (table.followedBy front) assignment = some (fault assignment))) :
    (NoneBad bad assignments → table.fill refuse assignments = ⟨table.followedBy assignments, none⟩) ∧
      (¬ NoneBad bad assignments → ∃ front first, FirstBad bad assignments front first ∧
        table.fill refuse assignments = ⟨table.followedBy front, some (fault first)⟩) := by
  have taken : ∀ {good : List Assignment}, NoneBad bad good → ∀ rest,
      table.fill refuse (good ++ rest) = (table.followedBy good).fill refuse rest := by
    intro good none rest
    apply fill_accepted fresh
    intro front assignment behind whole
    exact (decides front assignment).1 (none front assignment behind whole)
  constructor
  · intro none
    have all := taken none []
    rwa [List.append_nil] at all
  · intro spoiled
    obtain ⟨front, first, isFirst⟩ := Assignment.exists_first_bad spoiled
    refine ⟨front, first, isFirst, ?_⟩
    obtain ⟨behind, whole⟩ := isFirst.stands
    rw [List.append_assoc, List.singleton_append] at whole
    rw [← whole, taken isFirst.before, fill, (decides front first).2 isFirst.isBad]

end Fill

/-- What becomes of a bad template. The missing placement is the fault even of a name that is taken. -/
def templateFault (assignment : Assignment) : Fault :=
  if placement <:+: assignment.value then .repeatedTemplate assignment.name
  else .noPlacement assignment.name

theorem refuse_template_followed_by (table : Table) (front : List Assignment) (assignment : Assignment) :
    (¬ table.BadTemplate front assignment → refuseTemplate (table.followedBy front) assignment = none) ∧
      (table.BadTemplate front assignment →
        refuseTemplate (table.followedBy front) assignment = some (templateFault assignment)) := by
  unfold BadTemplate refuseTemplate templateFault
  rw [← contains_followed_by_iff]
  by_cases placed : placement <:+: assignment.value
  · rw [Text.occurs_iff.2 placed, if_neg Bool.noConfusion, if_pos placed]
    constructor
    · intro good
      exact if_neg fun known => good (Or.inl known)
    · intro isBad
      exact if_pos (isBad.resolve_right (Classical.not_not.2 placed))
  · have missing : Text.occurs placement assignment.value = false := by
      rw [Bool.eq_false_iff]
      exact fun found => placed (Text.occurs_iff.1 found)
    rw [missing, if_pos rfl, if_neg placed]
    exact ⟨fun good => absurd (Or.inr placed) good, fun _ => rfl⟩

theorem refuse_variable_followed_by (title : Text) (table : Table) (front : List Assignment)
    (assignment : Assignment) :
    (¬ table.BadVariable front assignment →
        refuseVariable title (table.followedBy front) assignment = none) ∧
      (table.BadVariable front assignment →
        refuseVariable title (table.followedBy front) assignment =
          some (.repeatedVariable assignment.name title)) := by
  unfold BadVariable refuseVariable
  rw [← contains_followed_by_iff]
  exact ⟨fun good => if_neg good, fun known => if_pos known⟩

theorem fresh_of_refuse_template (table : Table) (assignment : Assignment)
    (accepted : refuseTemplate table assignment = none) : table.contains assignment.name = false := by
  unfold refuseTemplate at accepted
  split at accepted
  · cases accepted
  · split at accepted
    · cases accepted
    · rename_i fresh
      exact Bool.eq_false_iff.2 fresh

theorem fresh_of_refuse_variable (title : Text) (table : Table) (assignment : Assignment)
    (accepted : refuseVariable title table assignment = none) :
    table.contains assignment.name = false := by
  unfold refuseVariable at accepted
  split at accepted
  · cases accepted
  · rename_i fresh
    exact Bool.eq_false_iff.2 fresh

/-- Filling a table from the lines of a text has one outcome. The entries of the table stay in front. If
no assignment of the text is bad, all of them are put behind, in order; else those in front of the first
bad one are, and the fault names that one. -/
theorem filling_up_to_first_bad (table : Table) (title contents : Text) :
    (NoneBad table.BadTemplate (Assignment.ofText contents) →
        table.fillTemplates contents = ⟨table.followedBy (Assignment.ofText contents), none⟩) ∧
      (¬ NoneBad table.BadTemplate (Assignment.ofText contents) → ∃ front first,
        FirstBad table.BadTemplate (Assignment.ofText contents) front first ∧
          table.fillTemplates contents =
            ⟨table.followedBy front, some (if placement <:+: first.value then
              .repeatedTemplate first.name else .noPlacement first.name)⟩) ∧
      (NoneBad table.BadVariable (Assignment.ofText contents) →
        table.fillVariables title contents = ⟨table.followedBy (Assignment.ofText contents), none⟩) ∧
      (¬ NoneBad table.BadVariable (Assignment.ofText contents) → ∃ front first,
        FirstBad table.BadVariable (Assignment.ofText contents) front first ∧
          table.fillVariables title contents =
            ⟨table.followedBy front, some (.repeatedVariable first.name title)⟩) := by
  have ofTemplates := table.fill_outcome (Assignment.ofText contents) fresh_of_refuse_template
    table.refuse_template_followed_by
  have ofVariables := table.fill_outcome (Assignment.ofText contents) (fresh_of_refuse_variable title)
    (refuse_variable_followed_by title table)
  exact ⟨ofTemplates.1, ofTemplates.2, ofVariables.1, ofVariables.2⟩

/-- The second line repeats a key and lacks a placement; the third one is not reached. -/
theorem filling_up_to_first_bad_of_three_lines :
    ∃ front first, FirstBad (BadTemplate ⟨[("$a$".toList, placement)]⟩)
        (Assignment.ofText "$b$ := (\x7b\x7d)\n$a$ := x\n$c$ := \x7b\x7d".toList) front first ∧
      Table.fillTemplates ⟨[("$a$".toList, placement)]⟩
          "$b$ := (\x7b\x7d)\n$a$ := x\n$c$ := \x7b\x7d".toList =
        ⟨Table.followedBy ⟨[("$a$".toList, placement)]⟩ front,
          some (if placement <:+: first.value then .repeatedTemplate first.name
            else .noPlacement first.name)⟩ := by
  have lines : Assignment.ofText "$b$ := (\x7b\x7d)\n$a$ := x\n$c$ := \x7b\x7d".toList =
      [⟨"$b$".toList, "(\x7b\x7d)".toList⟩, ⟨"$a$".toList, ['x']⟩, ⟨"$c$".toList, placement⟩] := by
    decide +kernel
  refine (filling_up_to_first_bad _ [] _).2.1 ?_
  intro none
  rw [lines] at none
  exact none [_] _ [_] rfl (Or.inr (by decide))

end Table

end PostMarkup
