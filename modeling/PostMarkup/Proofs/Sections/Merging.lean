import PostMarkup.Proofs.Outcome
import PostMarkup.Proofs.Tables
import PostMarkup.Sections

/-!
Adding blocks to sections. Blocks of different titles fill different tables, so a run over any blocks
comes to filling every table once, with all the assignments for it in the order of their blocks.
-/

namespace PostMarkup

namespace Table

variable {refuse : Table → Assignment → Option Fault}

theorem fill_append (refuse : Table → Assignment → Option Fault) (table : Table)
    (assignments others : List Assignment) :
    (table.fill refuse (assignments ++ others)).result =
      (table.fill refuse assignments).result >>= fun between => (between.fill refuse others).result := by
  induction assignments generalizing table with
  | nil => rfl
  | cons assignment assignments induction =>
      rw [List.cons_append, fill, fill]
      cases refuse table assignment with
      | some fault => rfl
      | none => exact induction _

end Table

namespace Sections

open Table (refuseTemplate refuseVariable)

def assignments (title : Text) (blocks : List (Text × Text)) : List Assignment :=
  (blocks.filter fun block => block.1 = title).flatMap fun block => Assignment.ofText block.2

def unreserved (blocks : List (Text × Text)) : List (Text × Text) :=
  blocks.filter fun block => !isReserved block.1

/-- Every table of `result` is the one of `start` after all that the blocks hold for it. -/
structure Adds (start : Sections) (blocks : List (Text × Text)) (result : Sections) : Prop where
  templates : (start.templates.fill refuseTemplate (assignments macrosTitle blocks)).result =
    .ok result.templates
  globals : (start.globals.fill (refuseVariable globalsTitle) (assignments globalsTitle blocks)).result =
    .ok result.globals
  bindings : (start.bindings.fill (refuseVariable variablesTitle)
    (assignments variablesTitle blocks)).result = .ok result.bindings
  bodies : start.bodies.insertAll (unreserved blocks) = result.bodies

variable {start result : Sections} {blocks others : List (Text × Text)} {title name : Text}

theorem assignments_append (title : Text) (blocks others : List (Text × Text)) :
    assignments title (blocks ++ others) = assignments title blocks ++ assignments title others := by
  rw [assignments, List.filter_append, List.flatMap_append, assignments, assignments]

theorem assignments_singleton (title name contents : Text) :
    assignments title [(name, contents)] = if name = title then Assignment.ofText contents else [] := by
  by_cases same : name = title <;> simp [assignments, same]

theorem Adds.nil (sections : Sections) : Adds sections [] sections := ⟨rfl, rfl, rfl, rfl⟩

theorem adds_nil_iff : Adds start [] result ↔ result = start := by
  constructor
  · intro adds
    rcases adds with ⟨templates, globals, bindings, bodies⟩
    cases start
    cases result
    simp only [Sections.mk.injEq]
    exact ⟨(Except.ok.inj templates).symm, (Except.ok.inj globals).symm,
      (Except.ok.inj bindings).symm, bodies.symm⟩
  · intro same
    subst same
    exact .nil result

theorem adds_append_iff :
    Adds start (blocks ++ others) result ↔
      ∃ between, Adds start blocks between ∧ Adds between others result := by
  constructor
  · intro adds
    rcases adds with ⟨templates, globals, bindings, bodies⟩
    rw [assignments_append, Table.fill_append] at templates globals bindings
    obtain ⟨templatesBetween, templatesFirst, templatesLater⟩ := Outcome.bind_ok_iff.1 templates
    obtain ⟨globalsBetween, globalsFirst, globalsLater⟩ := Outcome.bind_ok_iff.1 globals
    obtain ⟨bindingsBetween, bindingsFirst, bindingsLater⟩ := Outcome.bind_ok_iff.1 bindings
    rw [unreserved, List.filter_append, Table.insert_all_append] at bodies
    exact ⟨⟨templatesBetween, globalsBetween, bindingsBetween, _⟩,
      ⟨templatesFirst, globalsFirst, bindingsFirst, rfl⟩,
      ⟨templatesLater, globalsLater, bindingsLater, bodies⟩⟩
  · intro run
    rcases run with ⟨between, first, later⟩
    constructor
    · rw [assignments_append, Table.fill_append]
      exact Outcome.bind_ok_iff.2 ⟨_, first.templates, later.templates⟩
    · rw [assignments_append, Table.fill_append]
      exact Outcome.bind_ok_iff.2 ⟨_, first.globals, later.globals⟩
    · rw [assignments_append, Table.fill_append]
      exact Outcome.bind_ok_iff.2 ⟨_, first.bindings, later.bindings⟩
    · rw [← later.bodies, ← first.bodies, unreserved, List.filter_append, Table.insert_all_append]
      rfl

theorem adds_singleton_iff (contents : Text) :
    Adds start [(name, contents)] result ↔
      (start.templates.fill refuseTemplate
          (if name = macrosTitle then Assignment.ofText contents else [])).result =
        .ok result.templates ∧
      (start.globals.fill (refuseVariable globalsTitle)
          (if name = globalsTitle then Assignment.ofText contents else [])).result =
        .ok result.globals ∧
      (start.bindings.fill (refuseVariable variablesTitle)
          (if name = variablesTitle then Assignment.ofText contents else [])).result =
        .ok result.bindings ∧
      (if isReserved name then start.bodies else start.bodies.insert name contents) =
        result.bodies := by
  have placed : start.bodies.insertAll (unreserved [(name, contents)]) =
      if isReserved name then start.bodies else start.bodies.insert name contents := by
    by_cases reserved : isReserved name = true <;> simp [unreserved, Table.insertAll, reserved]
  rw [← assignments_singleton, ← assignments_singleton, ← assignments_singleton, ← placed]
  constructor
  · intro adds
    exact ⟨adds.templates, adds.globals, adds.bindings, adds.bodies⟩
  · intro parts
    exact ⟨parts.1, parts.2.1, parts.2.2.1, parts.2.2.2⟩

theorem add_ok_iff (contents : Text) :
    start.add name contents = .ok result ↔ Adds start [(name, contents)] result := by
  have unfilled : ∀ (refuse : Table → Assignment → Option Fault) (table : Table),
      (table.fill refuse []).result = .ok table := fun _ _ => rfl
  have globalsOther : globalsTitle ≠ macrosTitle := by decide
  have variablesOther : variablesTitle ≠ macrosTitle ∧ variablesTitle ≠ globalsTitle := by decide
  rcases result with ⟨templates, globals, bindings, bodies⟩
  rw [adds_singleton_iff, add]
  by_cases macros : name = macrosTitle
  · grind [Outcome.map_ok_iff, isReserved, Table.fillTemplates]
  · by_cases globals : name = globalsTitle
    · grind [Outcome.map_ok_iff, isReserved, Table.fillVariables]
    · by_cases bound : name = variablesTitle
      · grind [Outcome.map_ok_iff, isReserved, Table.fillVariables]
      · grind [isReserved]

theorem fold_add_ok_iff (blocks : List (Text × Text)) :
    blocks.foldlM (fun sections block => sections.add block.1 block.2) start = .ok result ↔
      Adds start blocks result := by
  induction blocks generalizing start with
  | nil =>
      rw [adds_nil_iff]
      exact ⟨fun run => (Except.ok.inj run).symm, fun same => same ▸ rfl⟩
  | cons block blocks induction =>
      have split : block :: blocks = [block] ++ blocks := rfl
      rw [List.foldlM_cons, Outcome.bind_ok_iff, split, adds_append_iff]
      simp only [induction, add_ok_iff]

theorem assignments_cons (title : Text) (block : Text × Text) (blocks : List (Text × Text)) :
    assignments title (block :: blocks) =
      (if block.1 = title then Assignment.ofText block.2 else []) ++ assignments title blocks := by
  rw [← List.singleton_append, assignments_append, assignments_singleton]

theorem assignments_of_perm {reordered : List (Text × Text)} (distinct : (blocks.map Prod.fst).Nodup)
    (perm : reordered.Perm blocks) : assignments title reordered = assignments title blocks := by
  induction perm with
  | nil => rfl
  | cons block perm induction =>
      rw [assignments_cons, assignments_cons, induction (List.nodup_cons.1 distinct).2]
  | swap first second blocks =>
      have different : first.1 ≠ second.1 := by
        intro same
        exact (List.nodup_cons.1 distinct).1 (same ▸ List.mem_cons_self)
      rw [assignments_cons, assignments_cons, assignments_cons, assignments_cons]
      -- A title is at most one of two different names, so the two blocks never meet.
      by_cases here : first.1 = title
      · rw [if_neg fun other => different (here.trans other.symm)]
        rfl
      · rw [if_neg here]
        rfl
  | trans _ second firstInduction secondInduction =>
      have betweenDistinct := (second.map Prod.fst).nodup_iff.2 distinct
      rw [firstInduction betweenDistinct, secondInduction distinct]

/-- Blocks of different names fill the tables of assignments the same way in any order, and the bodies
are those blocks that are not reserved. -/
theorem adds_of_perm {reordered : List (Text × Text)} (distinct : (blocks.map Prod.fst).Nodup)
    (perm : reordered.Perm blocks) (adds : Adds empty blocks result) :
    Adds empty reordered { result with bodies := ⟨unreserved reordered⟩ } ∧
      (unreserved reordered).Perm result.bodies.entries := by
  have placed : ∀ blocks : List (Text × Text), (blocks.map Prod.fst).Nodup →
      Table.empty.insertAll (unreserved blocks) = ⟨unreserved blocks⟩ := by
    intro blocks distinct
    have kept : ((unreserved blocks).map Prod.fst).Nodup :=
      ((List.filter_sublist).map Prod.fst).nodup distinct
    exact congrArg Table.mk (Table.insert_all_of_distinct kept)
  constructor
  · constructor
    · rw [assignments_of_perm distinct perm]
      exact adds.templates
    · rw [assignments_of_perm distinct perm]
      exact adds.globals
    · rw [assignments_of_perm distinct perm]
      exact adds.bindings
    · exact placed reordered ((perm.map Prod.fst).nodup_iff.2 distinct)
  · rw [← adds.bodies, empty, placed blocks distinct]
    exact perm.filter _

end Sections

end PostMarkup
