import PostMarkup.Document
import PostMarkup.Proofs.Outcome
import PostMarkup.Proofs.Page.Replacing
import PostMarkup.Proofs.Tables

/-!
What a single key does to a page. Filling in looks for the text of a key and not for references, so a
key between dollar signs and any other key are alike: each takes effect just where its text stands in the
page as the earlier keys have left it.
-/

namespace PostMarkup

namespace Table

theorem erase_of_split {front behind : List (Text × Text)} {key : Text} (value : Text)
    (notFront : key ∉ front.map Prod.fst) (notBehind : key ∉ behind.map Prod.fst) :
    erase ⟨front ++ (key, value) :: behind⟩ key = ⟨front ++ behind⟩ := by
  have kept : ∀ entries : List (Text × Text), key ∉ entries.map Prod.fst →
      entries.filter (·.1 ≠ key) = entries := by
    intro entries absent
    apply List.filter_eq_self.2
    intro entry member
    exact decide_eq_true fun same => absent (same ▸ List.mem_map_of_mem member)
  rw [erase, List.filter_append, List.filter_cons_of_neg (by simp), kept front notFront,
    kept behind notBehind]

end Table

namespace Page

open Text (replaceAll)

variable {key page : Text} {front : List (Text × Text)}

theorem inject_append (front behind : List (Text × Text)) (page : Text) :
    inject (front ++ behind) page = inject behind (inject front page) := List.foldl_append

theorem inject_cons (key value : Text) (entries : List (Text × Text)) (page : Text) :
    inject ((key, value) :: entries) page = inject entries (replaceAll key value page) := rfl

theorem compile_empty_bodies (globals : Table) (page : Text) :
    compile globals .empty page = inject globals.entries page := rfl

/-- A key can be left out, whatever comes behind it, just when it does nothing to the page it meets: it is
empty, it stands for itself, or its text does not occur. -/
theorem key_without_effect_iff (fresh : key ∉ front.map Prod.fst) (value : Text) :
    (∀ (behind : List (Text × Text)) (bodies : Table), key ∉ behind.map Prod.fst →
        compile ⟨front ++ (key, value) :: behind⟩ bodies page =
          compile (Table.erase ⟨front ++ (key, value) :: behind⟩ key) bodies page) ↔
      key = [] ∨ value = key ∨ ¬ key <:+: inject front page := by
  rw [← Text.replace_all_eq_self_iff]
  constructor
  · intro same
    -- Later entries could hide the effect, so the key is compared where nothing comes behind it.
    have last := same [] .empty List.not_mem_nil
    rw [Table.erase_of_split value fresh List.not_mem_nil, compile_empty_bodies, compile_empty_bodies,
      inject_append, inject_append] at last
    exact last
  · intro unchanged behind bodies notBehind
    have sameGlobals : inject (front ++ (key, value) :: behind) page = inject (front ++ behind) page := by
      rw [inject_append, inject_cons, unchanged, inject_append]
    rw [Table.erase_of_split value fresh notBehind, compile, compile, injectGlobals, injectGlobals,
      sameGlobals]

/-- A key without dollar signs that does not occur in the page. -/
theorem key_without_effect_of_other_text :
    compile ⟨[("$a$".toList, ['A']), ("name".toList, "value".toList)]⟩ .empty "$a$ nam".toList =
      compile ⟨[("$a$".toList, ['A'])]⟩ .empty "$a$ nam".toList := by
  have fresh : "name".toList ∉ [("$a$".toList, ['A'])].map Prod.fst := by decide
  have absent : ¬ "name".toList <:+: inject [("$a$".toList, ['A'])] "$a$ nam".toList := by
    decide +kernel
  have left := (key_without_effect_iff fresh "value".toList).2 (Or.inr (Or.inr absent))
  exact left [] .empty List.not_mem_nil

/-- A key without dollar signs is replaced in the ordinary text of a page. -/
theorem uncouched_key_changes_page :
    Document.compile .standard "<globals>name := value</globals>".toList "a name".toList =
        .ok "a value".toList ∧
    ¬ ∀ (globals bodies : Table) (key page : Text), key ∈ globals.keys → Reference.name? key = none →
        compile globals bodies page = compile (globals.erase key) bodies page := by
  refine ⟨?_, ?_⟩
  · exact Outcome.ok_of_to_option (by decide +kernel)
  · intro inert
    have same := inert ⟨[("name".toList, "value".toList)]⟩ .empty "name".toList "a name".toList
      (by decide) (by decide)
    revert same
    decide +kernel

end Page

end PostMarkup
