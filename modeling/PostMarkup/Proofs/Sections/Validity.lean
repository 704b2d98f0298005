import PostMarkup.Document
import PostMarkup.Proofs.Placement
import PostMarkup.Proofs.References
import PostMarkup.Proofs.Scan.Grammar
import PostMarkup.Proofs.Sections.Merging

/-!
What the later stages can rely on. Whatever blocks are added, and whichever of them are refused, the
tables hold what can be assigned, every template has a placement and no body has a reserved name. The
names of the bodies of a document are words moreover, so a page can refer to each of them.
-/

namespace PostMarkup

namespace Sections

/-- What the expansion of the bodies and the filling of a page rely on. -/
structure Valid (sections : Sections) : Prop where
  templates : sections.templates.Assigned
  globals : sections.globals.Assigned
  bindings : sections.bindings.Assigned
  placed : sections.templates.Placed
  distinct : sections.bodies.keys.Nodup
  unreserved : ∀ name ∈ sections.bodies.keys, isReserved name = false

def addOrKeep (sections : Sections) (block : Text × Text) : Sections :=
  match sections.add block.1 block.2 with
  | .ok added => added
  | .error _ => sections

variable {start result : Sections} {blocks : List (Text × Text)}

theorem sound_of_mem_assignments {title : Text} :
    ∀ assignment ∈ assignments title blocks, assignment.Sound := by
  intro assignment member
  obtain ⟨block, -, listed⟩ := List.mem_flatMap.1 member
  exact Assignment.sound_of_mem listed

theorem Valid.empty : Valid empty where
  templates := .empty
  globals := .empty
  bindings := .empty
  placed := List.forall_mem_nil _
  distinct := List.nodup_nil
  unreserved := List.forall_mem_nil _

theorem Valid.adds (valid : start.Valid) (adds : Adds start blocks result) : result.Valid where
  templates := by
    rw [← Filling.table_of_result adds.templates]
    exact valid.templates.fill sound_of_mem_assignments
  globals := by
    rw [← Filling.table_of_result adds.globals]
    exact valid.globals.fill sound_of_mem_assignments
  bindings := by
    rw [← Filling.table_of_result adds.bindings]
    exact valid.bindings.fill sound_of_mem_assignments
  placed := by
    rw [← Filling.table_of_result adds.templates]
    exact valid.placed.fill _
  distinct := by
    rw [← adds.bodies]
    exact Table.distinct_insert_all valid.distinct
  unreserved := by
    intro name listed
    obtain ⟨entry, member, rfl⟩ := List.mem_map.1 listed
    rw [← adds.bodies] at member
    rcases Table.mem_entries_insert_all member with added | kept
    · simpa using (List.mem_filter.1 added).2
    · exact valid.unreserved _ (List.mem_map_of_mem kept)

theorem Valid.addOrKeep (valid : start.Valid) (block : Text × Text) :
    (start.addOrKeep block).Valid := by
  unfold Sections.addOrKeep
  split
  · rename_i added accepted
    exact valid.adds ((add_ok_iff block.2).1 accepted)
  · exact valid

theorem Valid.run (valid : start.Valid) (blocks : List (Text × Text)) :
    (blocks.foldl Sections.addOrKeep start).Valid := by
  induction blocks generalizing start with
  | nil => exact valid
  | cons block blocks induction => exact induction (valid.addOrKeep block)

end Sections

namespace Document

variable {source : Text} {document : Document}

theorem of_text_ok_iff :
    ofText source = .ok document ↔
      ∃ blocks, scan source = .ok blocks ∧ Sections.Adds .empty blocks.entries document.sections := by
  unfold ofText Sections.ofBlocks
  simp only [Outcome.bind_ok_iff, Sections.fold_add_ok_iff]
  constructor
  · intro run
    rcases run with ⟨blocks, scanned, sections, adds, same⟩
    cases same
    exact ⟨blocks, scanned, adds⟩
  · intro parts
    rcases parts with ⟨blocks, scanned, adds⟩
    exact ⟨blocks, scanned, document.sections, adds, rfl⟩

theorem valid_of_text (read : ofText source = .ok document) : document.sections.Valid := by
  obtain ⟨blocks, -, adds⟩ := of_text_ok_iff.1 read
  exact Sections.Valid.empty.adds adds

theorem mem_bodies_of_text (read : ofText source = .ok document) :
    ∀ entry ∈ document.sections.bodies.entries, IsWord entry.1 ∧ entry.2 ≠ [] := by
  intro entry member
  obtain ⟨blocks, scanned, adds⟩ := of_text_ok_iff.1 read
  obtain ⟨gap, parts, cuts, -, whole⟩ := Blocks.cuts_of_scan_from scanned
  rw [← adds.bodies] at member
  -- Every body is one of the scanned blocks, as the sections of a document begin empty.
  have added := (Table.mem_entries_insert_all member).resolve_right List.not_mem_nil
  have listed := (List.mem_filter.1 added).1
  rw [whole] at listed
  obtain ⟨part, inParts, rfl⟩ := List.mem_map.1 listed
  obtain ⟨after, stands⟩ := Blocks.stands_of_mem cuts.stand inParts
  exact ⟨stands.valid.word, stands.filled⟩

end Document

/-- The sections are valid after any blocks, refused ones included, and every body of a document that
has been read can be referred to. -/
theorem sections_valid_and_bodies_referable :
    (∀ blocks : List (Text × Text), (blocks.foldl Sections.addOrKeep .empty).Valid) ∧
      ∀ (source : Text) (document : Document), Document.ofText source = .ok document →
        document.sections.Valid ∧ ∀ entry ∈ document.sections.bodies.entries,
          IsWord entry.1 ∧ entry.2 ≠ [] ∧
            Reference.cut? (Reference.written entry.1) = some (entry.1, []) := by
  constructor
  · exact Sections.Valid.empty.run
  · intro source document read
    refine ⟨Document.valid_of_text read, ?_⟩
    intro entry member
    obtain ⟨word, filled⟩ := Document.mem_bodies_of_text read entry member
    have referred := word.cut_written []
    rw [List.append_nil] at referred
    exact ⟨word, filled, referred⟩

/-- Globals with a stray line, and a body. -/
theorem sections_valid_and_bodies_referable_of_two_blocks :
    Document.ofText "<globals>$a$ := 1\nstray</globals> <b>2</b>".toList =
        .ok ⟨⟨.empty, ⟨[("$a$".toList, ['1'])]⟩, .empty, ⟨[(['b'], ['2'])]⟩⟩⟩ ∧
      (Sections.mk .empty ⟨[("$a$".toList, ['1'])]⟩ .empty ⟨[(['b'], ['2'])]⟩).Valid ∧
      Reference.cut? "$b$".toList = some (['b'], []) := by
  have read : Document.ofText "<globals>$a$ := 1\nstray</globals> <b>2</b>".toList =
      .ok ⟨⟨.empty, ⟨[("$a$".toList, ['1'])]⟩, .empty, ⟨[(['b'], ['2'])]⟩⟩⟩ :=
    Outcome.ok_of_to_option (by decide +kernel)
  obtain ⟨valid, bodies⟩ := sections_valid_and_bodies_referable.2 _ _ read
  exact ⟨read, valid, (bodies _ List.mem_cons_self).2.2⟩

end PostMarkup
