import PostMarkup.Proofs.Document.BlockOrder
import PostMarkup.Proofs.Expansion.Limit
import PostMarkup.Proofs.Expansion.OnePass

/-!
Rendering with and without missing references. To refuse them brings in one kind of fault and leaves all
else as it is: the two renderings agree unless the strict one meets a reference without a binding, and it
does when the first body that it cannot expand has one among the references that are replaced.
-/

namespace PostMarkup

open Outcome (Raises SameUnless)

def Fault.MissesBinding : Fault → Prop
  | unboundReference _ _ => True
  | _ => False

theorem expand_calls_misses_no_binding (templates : Table) (limit : Nat) (text : Text) :
    Raises (fun fault => ¬ fault.MissesBinding) (expandCalls templates limit text) := by
  refine (expand_calls_raises templates limit text).weaken ?_
  intro fault possible
  cases fault with
  | unboundReference reference offset =>
      rcases possible with unclosed | deep
      · cases unclosed
      · cases deep.1
  | _ => exact id

section Body

variable {bindings templates : Table} {limit : Nat} {body : Text}

def Lacks (bindings : Table) (body : Text) : Prop :=
  ∃ reference ∈ consumed (Text.collapse body), bindings.get? reference = none

theorem replace_references_of_lacks {text : Text}
    (lacks : ∃ reference ∈ consumed text, bindings.get? reference = none) :
    ∃ fault, replaceReferences bindings .refuse text = .error fault ∧ fault.MissesBinding := by
  rcases lacks with ⟨reference, member, unbound⟩
  rw [replace_references_refuse]
  cases found : (consumed text).find? fun reference => (bindings.get? reference).isNone with
  | some first => exact ⟨_, rfl, trivial⟩
  | none =>
      have bound := List.find?_eq_none.1 found reference member
      rw [unbound] at bound
      exact absurd rfl bound

theorem replace_references_of_bound {text : Text}
    (bound : ¬ ∃ reference ∈ consumed text, bindings.get? reference = none) :
    replaceReferences bindings .refuse text = replaceReferences bindings .vanish text := by
  have every : ∀ reference ∈ consumed text,
      bindings.get? reference = some ((bindings.get? reference).getD []) := by
    intro reference member
    cases found : bindings.get? reference with
    | none => exact absurd ⟨reference, member, found⟩ bound
    | some value => rfl
  have strict : replaceReferences bindings .refuse text = .ok (onePass bindings.get? text) := by
    apply replace_references_refuse_of_bound
    intro reference member
    exact Option.isSome_iff_exists.2 ⟨_, every reference member⟩
  rw [strict, replace_references_vanish, one_pass_congr text every]

theorem expand_body_misses_binding_iff :
    (∃ fault, expandBody bindings templates ⟨.refuse, limit⟩ body = .error fault ∧
        fault.MissesBinding) ↔
      Lacks bindings body := by
  constructor
  · intro failed
    rcases failed with ⟨fault, run, misses⟩
    by_contra bound
    rw [expandBody, replace_references_of_bound bound, replace_references_vanish] at run
    exact expand_calls_misses_no_binding _ _ _ fault run misses
  · intro lacks
    obtain ⟨fault, failed, misses⟩ := replace_references_of_lacks lacks
    refine ⟨fault, ?_, misses⟩
    rw [expandBody, failed]
    rfl

theorem expand_body_same_unless (bindings templates : Table) (limit : Nat) (body : Text) :
    SameUnless Fault.MissesBinding (expandBody bindings templates ⟨.refuse, limit⟩ body)
      (expandBody bindings templates ⟨.vanish, limit⟩ body) := by
  by_cases lacks : Lacks bindings body
  · exact Or.inl (expand_body_misses_binding_iff.2 lacks)
  · right
    rw [expandBody, expandBody, replace_references_of_bound lacks]

theorem expand_body_vanish_raises (bindings templates : Table) (limit : Nat) (body : Text) :
    Raises (fun fault => ¬ fault.MissesBinding)
      (expandBody bindings templates ⟨.vanish, limit⟩ body) := by
  rw [expandBody, replace_references_vanish]
  exact expand_calls_misses_no_binding _ _ _

end Body

theorem expand_bodies_error_iff {bindings templates bodies : Table} {options : ExpansionOptions}
    {fault : Fault} :
    expandBodies bindings templates options bodies = .error fault ↔
      ∃ front entry behind, bodies.entries = front ++ entry :: behind ∧
        (∀ earlier ∈ front, ∃ text, expandBody bindings templates options earlier.2 = .ok text) ∧
        expandBody bindings templates options entry.2 = .error fault := by
  have expanded : ∀ entry : Text × Text, (∃ result, (expandBody bindings templates options entry.2).map
      (fun body => (entry.1, body)) = .ok result) ↔
        ∃ text, expandBody bindings templates options entry.2 = .ok text := by
    intro entry
    simp only [Outcome.map_ok_iff]
    constructor
    · intro run
      rcases run with ⟨-, text, reached, -⟩
      exact ⟨text, reached⟩
    · intro run
      rcases run with ⟨text, reached⟩
      exact ⟨_, text, reached, rfl⟩
  rw [expandBodies, Outcome.bind_error_iff]
  simp only [Outcome.mapM_error_iff, Outcome.map_error_iff, expanded]
  constructor
  · intro failed
    rcases failed with failed | ⟨entries, -, never⟩
    · exact failed
    · cases never
  · exact Or.inl

namespace Document

theorem render_error_iff {document : Document} {options : ExpansionOptions} {page : Text}
    {fault : Fault} :
    document.render options page = .error fault ↔
      expandBodies document.sections.bindings document.sections.templates options
        document.sections.bodies = .error fault := by
  rw [render, expand, Outcome.bind_error_iff, Outcome.bind_error_iff]
  constructor
  · intro failed
    rcases failed with (failed | ⟨bodies, -, never⟩) | ⟨sections, -, never⟩
    · exact failed
    · cases never
    · cases never
  · intro failed
    exact Or.inl (Or.inl failed)

theorem render_same_unless (document : Document) (limit : Nat) (page : Text) :
    SameUnless Fault.MissesBinding (document.render ⟨.refuse, limit⟩ page)
      (document.render ⟨.vanish, limit⟩ page) := by
  rw [render, render, expand, expand, expandBodies, expandBodies]
  refine SameUnless.bind (SameUnless.bind (SameUnless.bind ?_ ?_) ?_) ?_
  · apply SameUnless.mapM
    intro entry _
    exact (expand_body_same_unless _ _ limit entry.2).map
  · intro entries
    exact .refl _
  · intro bodies
    exact .refl _
  · intro sections
    exact .refl _

/-- To refuse references without a binding adds failures of this one kind. A rendering that refuses them
fails so or is the rendering that lets them vanish, which never does; and it fails so just when the first
body that cannot be expanded strictly has a reference without a binding among those that are replaced. -/
theorem strict_render_adds_missing_bindings (document : Document) (limit : Nat) (page : Text) :
    ((∃ fault, document.render ⟨.refuse, limit⟩ page = .error fault ∧ fault.MissesBinding) ∨
      document.render ⟨.vanish, limit⟩ page = document.render ⟨.refuse, limit⟩ page) ∧
    (¬ ∃ fault, document.render ⟨.vanish, limit⟩ page = .error fault ∧ fault.MissesBinding) ∧
    ((∃ fault, document.render ⟨.refuse, limit⟩ page = .error fault ∧ fault.MissesBinding) ↔
      ∃ front entry behind, document.sections.bodies.entries = front ++ entry :: behind ∧
        (∀ earlier ∈ front, ∃ text, expandBody document.sections.bindings
          document.sections.templates ⟨.refuse, limit⟩ earlier.2 = .ok text) ∧
        (∃ fault, expandBody document.sections.bindings document.sections.templates
          ⟨.refuse, limit⟩ entry.2 = .error fault) ∧
        ∃ reference ∈ consumed (Text.collapse entry.2),
          document.sections.bindings.get? reference = none) := by
  refine ⟨render_same_unless document limit page, ?_, ?_⟩
  · intro failed
    rcases failed with ⟨fault, run, misses⟩
    obtain ⟨front, entry, behind, -, -, failed⟩ :=
      expand_bodies_error_iff.1 (render_error_iff.1 run)
    exact expand_body_vanish_raises _ _ limit entry.2 fault failed misses
  · simp only [render_error_iff, expand_bodies_error_iff]
    constructor
    · intro failed
      rcases failed with ⟨fault, ⟨front, entry, behind, whole, before, failed⟩, misses⟩
      have lacks := expand_body_misses_binding_iff.1 ⟨fault, failed, misses⟩
      exact ⟨front, entry, behind, whole, before, ⟨fault, failed⟩, lacks⟩
    · intro failed
      rcases failed with ⟨front, entry, behind, whole, before, -, lacks⟩
      obtain ⟨fault, failed, misses⟩ := expand_body_misses_binding_iff.2 lacks
      exact ⟨fault, ⟨front, entry, behind, whole, before, failed⟩, misses⟩

end Document

end PostMarkup
