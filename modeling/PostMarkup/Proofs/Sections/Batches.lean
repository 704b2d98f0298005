import PostMarkup.Proofs.Assignments
import PostMarkup.Proofs.Sections.Merging

/-!
Blocks read one by one against blocks read at once. The assignments of the lines of joined texts are
those of each text in turn, so a reserved name can be read in one go from all that its blocks hold. Of
the bodies every name keeps its first place and its last text. How blocks of different names are
interleaved shows in nothing but the places of the bodies.
-/

namespace PostMarkup

namespace Table

variable {title other : Text} {table result : Table} {assignments : List Assignment}

/-- The title of a section shows in its faults alone. -/
theorem fill_variables_ok_iff_of_titles (title other : Text) :
    (table.fill (refuseVariable title) assignments).result = .ok result ↔
      (table.fill (refuseVariable other) assignments).result = .ok result := by
  induction assignments generalizing table with
  | nil => exact Iff.rfl
  | cons assignment assignments induction =>
      rw [fill, fill]
      by_cases known : table.contains assignment.name = true
      · simp only [refuseVariable, known]
        constructor
        · intro filled
          cases filled
        · intro filled
          cases filled
      · simp only [refuseVariable, known]
        exact induction

end Table

namespace Sections

open Table (refuseVariable)

variable {blocks others : List (Text × Text)} {result : Sections}

def addAll (start : Sections) (blocks : List (Text × Text)) : Except Fault Sections :=
  blocks.foldlM (fun sections block => sections.add block.1 block.2) start

def joined (title : Text) (blocks : List (Text × Text)) : Text :=
  List.intercalate ['\n'] ((blocks.filter fun block => block.1 = title).map Prod.snd)

theorem of_text_joined (title : Text) (blocks : List (Text × Text)) :
    Assignment.ofText (joined title blocks) = assignments title blocks := by
  rw [joined, Assignment.of_text_intercalate, List.flatMap_map]
  rfl

/-- Every reserved name is read at once, and the bodies are those that are not reserved. -/
theorem add_all_ok_iff :
    addAll empty blocks = .ok result ↔
      (Table.empty.fillTemplates (joined macrosTitle blocks)).result = .ok result.templates ∧
      (Table.empty.fillVariables variablesTitle (joined globalsTitle blocks)).result =
        .ok result.globals ∧
      (Table.empty.fillVariables variablesTitle (joined variablesTitle blocks)).result =
        .ok result.bindings ∧
      Table.empty.insertAll (unreserved blocks) = result.bodies := by
  simp only [Table.fillTemplates, Table.fillVariables, of_text_joined]
  rw [addAll, fold_add_ok_iff, Table.fill_variables_ok_iff_of_titles variablesTitle globalsTitle]
  constructor
  · intro adds
    exact ⟨adds.templates, adds.globals, adds.bindings, adds.bodies⟩
  · intro parts
    exact ⟨parts.1, parts.2.1, parts.2.2.1, parts.2.2.2⟩

theorem keys_bodies (blocks : List (Text × Text)) :
    (Table.empty.insertAll (unreserved blocks)).keys =
      ((unreserved blocks).map Prod.fst).eraseDups := by
  have placed := Table.keys_insert_all Table.empty (unreserved blocks)
  simpa [Table.empty, Table.keys] using placed

theorem get_bodies (blocks : List (Text × Text)) (name : Text) :
    (Table.empty.insertAll (unreserved blocks)).get? name =
      (unreserved blocks).reverse.lookup name := by
  rw [Table.get_insert_all]
  exact Option.or_none

theorem distinct_bodies (blocks : List (Text × Text)) :
    (Table.empty.insertAll (unreserved blocks)).keys.Nodup := Table.distinct_insert_all List.nodup_nil

/-- The blocks of each name are the same, in the same order. -/
def Interleaves (blocks others : List (Text × Text)) : Prop :=
  ∀ name, others.filter (fun block => block.1 = name) = blocks.filter fun block => block.1 = name

namespace Interleaves

theorem symm (interleaves : Interleaves blocks others) : Interleaves others blocks :=
  fun name => (interleaves name).symm

theorem joined (interleaves : Interleaves blocks others) (title : Text) :
    Sections.joined title others = Sections.joined title blocks := by
  rw [Sections.joined, interleaves title, Sections.joined]

theorem get_bodies (interleaves : Interleaves blocks others) (name : Text) :
    (Table.empty.insertAll (unreserved others)).get? name =
      (Table.empty.insertAll (unreserved blocks)).get? name := by
  -- The bodies of a name are its blocks, or none of them when it is reserved.
  have settled : ∀ blocks : List (Text × Text), (unreserved blocks).reverse.lookup name =
      ((blocks.filter fun block => block.1 = name).filter
        fun block => !isReserved block.1).reverse.lookup name := by
    intro blocks
    rw [← Table.lookup_filter, List.filter_reverse, unreserved, List.filter_filter,
      List.filter_filter]
    simp only [Bool.and_comm]
  rw [Sections.get_bodies, Sections.get_bodies, settled, settled, interleaves name]

/-- Interleaving blocks of different names in another way moves bodies and changes nothing else. -/
theorem add_all (interleaves : Interleaves blocks others)
    (added : addAll empty blocks = .ok result) :
    addAll empty others =
      .ok { result with bodies := Table.empty.insertAll (unreserved others) } := by
  obtain ⟨templates, globals, bindings, -⟩ := add_all_ok_iff.1 added
  rw [add_all_ok_iff, interleaves.joined, interleaves.joined, interleaves.joined]
  exact ⟨templates, globals, bindings, rfl⟩

end Interleaves

/-- Blocks can be added one by one just when all that they hold for each reserved name can be read at
once. The tables are then those that are read, and every other name has its first place and its last
text. Another interleaving of blocks of different names is accepted as well and gives the same tables
and the same bodies, in the same order if the names of the bodies come up in the same order. -/
theorem add_all_eq_batches (blocks : List (Text × Text)) :
    ((∃ result, addAll empty blocks = .ok result) ↔
      (∃ templates, (Table.empty.fillTemplates (joined macrosTitle blocks)).result =
        .ok templates) ∧
      (∃ globals, (Table.empty.fillVariables variablesTitle (joined globalsTitle blocks)).result =
        .ok globals) ∧
      ∃ bindings, (Table.empty.fillVariables variablesTitle (joined variablesTitle blocks)).result =
        .ok bindings) ∧
    (∀ result, addAll empty blocks = .ok result →
      (Table.empty.fillTemplates (joined macrosTitle blocks)).result = .ok result.templates ∧
      (Table.empty.fillVariables variablesTitle (joined globalsTitle blocks)).result =
        .ok result.globals ∧
      (Table.empty.fillVariables variablesTitle (joined variablesTitle blocks)).result =
        .ok result.bindings ∧
      result.bodies.keys = ((unreserved blocks).map Prod.fst).eraseDups ∧
      ∀ name, result.bodies.get? name = (unreserved blocks).reverse.lookup name) ∧
    ∀ others, Interleaves blocks others →
      ((∃ result, addAll empty others = .ok result) ↔ ∃ result, addAll empty blocks = .ok result) ∧
      ∀ result, addAll empty blocks = .ok result →
        ∃ bodies, addAll empty others = .ok { result with bodies := bodies } ∧
          bodies.entries.Perm result.bodies.entries ∧
          (((unreserved others).map Prod.fst).eraseDups =
              ((unreserved blocks).map Prod.fst).eraseDups → bodies = result.bodies) := by
  refine ⟨?_, ?_, ?_⟩
  · constructor
    · intro added
      rcases added with ⟨result, added⟩
      obtain ⟨templates, globals, bindings, -⟩ := add_all_ok_iff.1 added
      exact ⟨⟨_, templates⟩, ⟨_, globals⟩, ⟨_, bindings⟩⟩
    · intro read
      rcases read with ⟨⟨templates, readTemplates⟩, ⟨globals, readGlobals⟩, bindings, readBindings⟩
      let result : Sections := ⟨templates, globals, bindings, Table.empty.insertAll (unreserved blocks)⟩
      exact ⟨result, add_all_ok_iff.2 ⟨readTemplates, readGlobals, readBindings, rfl⟩⟩
  · intro result added
    obtain ⟨templates, globals, bindings, bodies⟩ := add_all_ok_iff.1 added
    refine ⟨templates, globals, bindings, ?_, ?_⟩
    · rw [← bodies, keys_bodies]
    · intro name
      rw [← bodies, get_bodies]
  · intro others interleaves
    constructor
    · constructor
      · intro added
        rcases added with ⟨result, added⟩
        exact ⟨_, interleaves.symm.add_all added⟩
      · intro added
        rcases added with ⟨result, added⟩
        exact ⟨_, interleaves.add_all added⟩
    · intro result added
      obtain ⟨-, -, -, bodies⟩ := add_all_ok_iff.1 added
      refine ⟨_, interleaves.add_all added, ?_, ?_⟩
      · rw [← bodies]
        exact Table.entries_perm_of_get (distinct_bodies blocks) (distinct_bodies others)
          interleaves.get_bodies
      · intro places
        rw [← bodies]
        apply Table.eq_of_keys_of_get (distinct_bodies blocks) _ interleaves.get_bodies
        rw [keys_bodies, keys_bodies, places]

/-- Templates in two blocks with a body between them that is replaced later, and the same blocks
interleaved so that another body comes first. -/
theorem add_all_eq_batches_of_split_tables :
    let first : Text := "$m$ := <\x7b\x7d>".toList
    let second : Text := "$n$ := \x7b\x7d".toList
    let blocks : List (Text × Text) :=
      [(macrosTitle, first), (['b'], ['1']), (['a'], ['2']), (macrosTitle, second), (['b'], ['3'])]
    let others : List (Text × Text) :=
      [(['a'], ['2']), (['b'], ['1']), (['b'], ['3']), (macrosTitle, first), (macrosTitle, second)]
    let result : Sections :=
      ⟨⟨[("$m$".toList, "<\x7b\x7d>".toList), ("$n$".toList, placement)]⟩, .empty, .empty,
        ⟨[(['b'], ['3']), (['a'], ['2'])]⟩⟩
    addAll empty blocks = .ok result ∧
      (Table.empty.fillTemplates (first ++ '\n' :: second)).result = .ok result.templates ∧
      Interleaves blocks others ∧
      ∃ bodies, addAll empty others = .ok { result with bodies := bodies } ∧
        bodies.entries.Perm result.bodies.entries := by
  intro first second blocks others result
  have added : addAll empty blocks = .ok result := Outcome.ok_of_to_option (by decide +kernel)
  have interleaves : Interleaves blocks others := by
    intro name
    by_cases body : name = ['b']
    · subst body
      decide +kernel
    · by_cases other : name = ['a']
      · subst other
        decide +kernel
      · simp [blocks, others, List.filter_cons, Ne.symm body, Ne.symm other]
  obtain ⟨templates, -⟩ := (add_all_eq_batches blocks).2.1 result added
  obtain ⟨bodies, otherAdded, perm, -⟩ :=
    ((add_all_eq_batches blocks).2.2 others interleaves).2 result added
  exact ⟨added, templates, interleaves, bodies, otherAdded, perm⟩

end Sections

end PostMarkup
