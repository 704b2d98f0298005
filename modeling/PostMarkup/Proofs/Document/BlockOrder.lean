import Mathlib.Data.List.Perm.Basic
import PostMarkup.Proofs.Page.References
import PostMarkup.Proofs.Scan.Printing
import PostMarkup.Proofs.Sections.Validity

/-!
Documents with their blocks in another order. The scanner finds the same blocks when no body closes any
of them. Then every table of assignments has one block at most, bodies are expanded one by one, and a
page that is clear of all keys takes them as if at once.
-/

namespace PostMarkup

section Bodies

variable {bindings templates bodies expanded : Table} {options : ExpansionOptions}

theorem expand_bodies_ok_iff :
    expandBodies bindings templates options bodies = .ok expanded ↔
      List.Forall₂ (fun entry result =>
          result.1 = entry.1 ∧ expandBody bindings templates options entry.2 = .ok result.2)
        bodies.entries expanded.entries := by
  have single : ∀ entry result : Text × Text,
      (expandBody bindings templates options entry.2).map (fun body => (entry.1, body)) = .ok result ↔
        result.1 = entry.1 ∧ expandBody bindings templates options entry.2 = .ok result.2 := by
    intro entry result
    rw [Outcome.map_ok_iff]
    constructor
    · intro run
      rcases run with ⟨body, reached, rfl⟩
      exact ⟨rfl, reached⟩
    · intro parts
      exact ⟨result.2, parts.2, Prod.ext parts.1.symm rfl⟩
  rw [expandBodies, Outcome.bind_ok_iff]
  simp only [Outcome.mapM_ok_iff, single]
  constructor
  · intro run
    rcases run with ⟨entries, every, same⟩
    cases same
    exact every
  · intro every
    exact ⟨expanded.entries, every, rfl⟩

theorem keys_expand_bodies (run : expandBodies bindings templates options bodies = .ok expanded) :
    expanded.keys = bodies.keys := by
  have every := expand_bodies_ok_iff.1 run
  have named := every.imp fun _ _ parts => parts.1.symm
  have keys : List.Forall₂ Eq bodies.keys expanded.keys :=
    List.forall₂_map_left_iff.2 (List.forall₂_map_right_iff.2 named)
  rw [List.forall₂_eq_eq_eq] at keys
  exact keys.symm

/-- Bodies do not see one another, so their order changes nothing but the order of the results. -/
theorem expand_bodies_of_perm {reordered : Table} (perm : reordered.entries.Perm bodies.entries)
    (run : expandBodies bindings templates options bodies = .ok expanded) :
    ∃ results, expandBodies bindings templates options reordered = .ok results ∧
      results.entries.Perm expanded.entries := by
  obtain ⟨results, every, same⟩ := List.perm_comp_forall₂ perm (expand_bodies_ok_iff.1 run)
  exact ⟨⟨results⟩, expand_bodies_ok_iff.2 every, same⟩

end Bodies

namespace Document

variable {document : Document} {sections : Sections} {options : ExpansionOptions}
  {source page gap other first html : Text} {parts others : Blocks} {slots : Page.Slots}

theorem expand_ok_iff :
    document.expand options = .ok sections ↔
      expandBodies document.sections.bindings document.sections.templates options
          document.sections.bodies = .ok sections.bodies ∧
        sections = { document.sections with bodies := sections.bodies } := by
  rw [expand, Outcome.bind_ok_iff]
  constructor
  · intro run
    rcases run with ⟨bodies, expanded, same⟩
    cases same
    exact ⟨expanded, rfl⟩
  · intro parts
    exact ⟨sections.bodies, parts.1, congrArg Except.ok parts.2.symm⟩

theorem compile_of_expanded (read : ofText source = .ok document)
    (expanded : document.expand options = .ok sections) (page : Text) :
    compile options source page = .ok (Page.compile sections.globals sections.bodies page) := by
  rw [compile, Outcome.bind_ok_iff]
  refine ⟨document, read, ?_⟩
  rw [render, Outcome.bind_ok_iff]
  exact ⟨sections, expanded, rfl⟩

theorem of_text_of_reordered (separate : Block.Separate (parts.map Prod.fst))
    (reordered : (others.map Prod.fst).Perm (parts.map Prod.fst))
    (gaps : '<' ∉ gap ∧ ∀ part ∈ parts, '<' ∉ part.2)
    (otherGaps : '<' ∉ other ∧ ∀ part ∈ others, '<' ∉ part.2)
    (read : ofText (gap ++ parts.written) = .ok document) :
    ∃ bodies : Table, ofText (other ++ others.written) =
        .ok ⟨{ document.sections with bodies := bodies }⟩ ∧
      bodies.entries.Perm document.sections.bodies.entries := by
  obtain ⟨blocks, scanned, adds⟩ := of_text_ok_iff.1 read
  rw [Blocks.scan_of_separate separate gaps.1 gaps.2] at scanned
  cases scanned
  have entriesPerm : others.entries.Perm parts.entries := by
    have named := reordered.map fun block => (block.name, block.body)
    rwa [List.map_map, List.map_map] at named
  have distinct : (parts.entries.map Prod.fst).Nodup := by
    have names := separate.distinct
    rw [List.map_map] at names
    rwa [Blocks.entries, List.map_map]
  obtain ⟨otherAdds, bodiesPerm⟩ := Sections.adds_of_perm distinct entriesPerm adds
  have otherScanned := Blocks.scan_of_separate (separate.perm reordered) otherGaps.1 otherGaps.2
  exact ⟨_, of_text_ok_iff.2 ⟨_, otherScanned, otherAdds⟩, bodiesPerm⟩

/-- Blocks that can be told apart can stand in any order, with any text without tags between them. -/
theorem compile_of_reordered_blocks (separate : Block.Separate (parts.map Prod.fst))
    (reordered : (others.map Prod.fst).Perm (parts.map Prod.fst))
    (gaps : '<' ∉ gap ∧ ∀ part ∈ parts, '<' ∉ part.2)
    (otherGaps : '<' ∉ other ∧ ∀ part ∈ others, '<' ∉ part.2)
    (read : ofText (gap ++ parts.written) = .ok document)
    (expanded : document.expand options = .ok sections)
    (couched : ∀ key ∈ sections.globals.keys, ∃ name, '$' ∉ name ∧ key = Reference.written name)
    (globals : ∀ entry ∈ sections.globals.entries, '$' ∉ entry.2)
    (bodies : ∀ entry ∈ sections.bodies.entries, '$' ∉ entry.2)
    (firstFree : '$' ∉ first) (clear : slots.Clear (sections.globals.keys ++ sections.bodies.keys))
    (compiled : compile options (gap ++ parts.written) (first ++ slots.written) = .ok html) :
    compile options (other ++ others.written) (first ++ slots.written) = .ok html := by
  obtain ⟨otherBodies, otherRead, bodiesPerm⟩ :=
    of_text_of_reordered separate reordered gaps otherGaps read
  obtain ⟨run, same⟩ := expand_ok_iff.1 expanded
  obtain ⟨otherResults, otherRun, resultsPerm⟩ := expand_bodies_of_perm bodiesPerm run
  have otherExpanded : expand ⟨{ document.sections with bodies := otherBodies }⟩ options =
      .ok { document.sections with bodies := otherResults } :=
    expand_ok_iff.2 ⟨otherRun, rfl⟩
  have sameGlobals : document.sections.globals = sections.globals := by rw [same]
  have keys := keys_expand_bodies run
  have valid := valid_of_text read
  -- Names of bodies are words, and a dollar sign is in no word.
  have plain : Page.Plain sections.globals sections.bodies := by
    refine ⟨couched, globals, ?_, bodies⟩
    intro name listed dollar
    rw [keys] at listed
    obtain ⟨entry, member, rfl⟩ := List.mem_map.1 listed
    exact absurd ((mem_bodies_of_text read entry member).1.2 _ dollar) (by decide)
  have pages : Page.compile sections.globals otherResults (first ++ slots.written) =
      Page.compile sections.globals sections.bodies (first ++ slots.written) :=
    Page.compile_of_perm plain firstFree clear (sameGlobals ▸ valid.globals.distinct)
      (keys ▸ valid.distinct) (.refl _) resultsPerm
  rw [compile_of_expanded read expanded, ← pages, sameGlobals.symm] at compiled
  rw [compile_of_expanded otherRead otherExpanded]
  exact compiled

/-- A body that comes before the globals, and the page it has behind them. -/
theorem compile_of_reordered_blocks_of_global_and_body :
    compile .standard "<a>x</a> <globals>$t$ := T</globals>".toList "$t$-$a$".toList =
      .ok "T-x".toList := by
  let globals : Block := ⟨"globals".toList, [], "$t$ := T".toList⟩
  let body : Block := ⟨['a'], [], ['x']⟩
  let parts : Blocks := [(globals, []), (body, [])]
  let others : Blocks := [(body, [' ']), (globals, [])]
  let slots : Page.Slots := [(['t'], ['-']), (['a'], [])]
  let document : Document := ⟨⟨.empty, ⟨[("$t$".toList, ['T'])]⟩, .empty, ⟨[(['a'], ['x'])]⟩⟩⟩
  have letters : globals.name.all isWordChar = true := by decide +kernel
  have globalsFlat : globals.Flat := .bare ⟨by decide, List.all_eq_true.1 letters⟩ (by decide)
  have bodyFlat : body.Flat := .bare (.singleton (by decide)) (by decide)
  have separate : Block.Separate (parts.map Prod.fst) := by
    refine ⟨?_, by decide, by decide, by decide +kernel⟩
    exact List.forall_mem_cons.2 ⟨globalsFlat.toTagged, List.forall_mem_singleton.2 bodyFlat.toTagged⟩
  have reordered : (others.map Prod.fst).Perm (parts.map Prod.fst) := .swap _ _ _
  have gaps : '<' ∉ ([] : Text) ∧ ∀ part ∈ parts, '<' ∉ part.2 := by decide
  have otherGaps : '<' ∉ ([] : Text) ∧ ∀ part ∈ others, '<' ∉ part.2 := by decide
  have read : ofText ([] ++ parts.written) = .ok document :=
    Outcome.ok_of_to_option (by decide +kernel)
  have expanded : document.expand .standard = .ok document.sections :=
    Outcome.ok_of_to_option (by decide +kernel)
  have couched : ∀ key ∈ document.sections.globals.keys,
      ∃ name, '$' ∉ name ∧ key = Reference.written name := by
    intro key listed
    exact ⟨['t'], by decide, List.mem_singleton.1 listed⟩
  have clear : slots.Clear (document.sections.globals.keys ++ document.sections.bodies.keys) := by
    refine ⟨by decide, by decide, ?_⟩
    intro slot member
    rw [List.mem_singleton.1 member]
    exact ⟨'-', by decide, by decide⟩
  have compiled : compile .standard ([] ++ parts.written) ([] ++ slots.written) =
      .ok "T-x".toList :=
    Outcome.ok_of_to_option (by decide +kernel)
  have source : "<a>x</a> <globals>$t$ := T</globals>".toList = [] ++ others.written := by
    decide +kernel
  have page : "$t$-$a$".toList = [] ++ slots.written := by decide +kernel
  rw [source, page]
  exact compile_of_reordered_blocks separate reordered gaps otherGaps read expanded couched (by decide)
    (by decide) (by decide) clear compiled

end Document

end PostMarkup
