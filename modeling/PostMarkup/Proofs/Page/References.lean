import PostMarkup.Page
import PostMarkup.Proofs.Page.Replacing
import PostMarkup.Proofs.Tables

/-!
Page templates as references with text between them. Keys are replaced one after the other, each in the
whole page, and still every reference takes the value of its own name when no key can be read across
two references. For that the values hold no dollar sign, and between two references there is a character
that is in no key. Then the order of the keys has no effect.
-/

namespace PostMarkup

open Text (replaceAll)

namespace Reference

variable {name other tail : Text}

theorem written_ne_nil (name : Text) : written name ≠ [] := List.cons_ne_nil _ _

/-- Another reference is left alone when its closing dollar sign does not begin the name. -/
theorem replace_other_reference (nameFree : '$' ∉ name) (otherFree : '$' ∉ other)
    (different : other ≠ name) (unclosed : ¬ name ++ ['$'] <+: tail) (value : Text) :
    replaceAll (written name) value (written other ++ tail) =
      written other ++ replaceAll (written name) value tail := by
  have shape : written other ++ tail = '$' :: (other ++ '$' :: tail) := by simp [written]
  have opening : ¬ written name <+: '$' :: (other ++ '$' :: tail) := by
    intro found
    have names := (List.cons_prefix_cons.1 found).2
    exact different (Text.eq_of_stop_prefix nameFree otherFree names).symm
  have closing : ¬ written name <+: '$' :: tail := by
    intro found
    exact unclosed (List.cons_prefix_cons.1 found).2
  have between : replaceAll (written name) value (other ++ '$' :: tail) =
      other ++ replaceAll (written name) value ('$' :: tail) :=
    Text.replace_all_free_append otherFree value _
  rw [shape, Text.replace_all_cons opening, between, Text.replace_all_cons closing]
  simp [written]

end Reference

namespace Page

abbrev Slots := List (Text × Text)

namespace Slots

def written : Slots → Text
  | [] => []
  | (name, gap) :: rest => Reference.written name ++ (gap ++ written rest)

/-- The template with every reference replaced at once. A reference without a value stays. -/
def filled (known : Text → Option Text) : Slots → Text
  | [] => []
  | (name, gap) :: rest =>
      (known name).getD (Reference.written name) ++ (gap ++ filled known rest)

/-- Dollar signs stand only around the names, and between two references there is a character that is
in none of the keys. -/
structure Clear (keys : List Text) (slots : Slots) : Prop where
  names : ∀ slot ∈ slots, '$' ∉ slot.1
  gaps : ∀ slot ∈ slots, '$' ∉ slot.2
  apart : ∀ slot ∈ slots.dropLast, ∃ c ∈ slot.2, ∀ key ∈ keys, c ∉ key

variable {slots : Slots} {keys : List Text} {name gap : Text}

theorem filled_none (slots : Slots) : slots.filled (fun _ => none) = slots.written := by
  induction slots with
  | nil => rfl
  | cons slot slots induction => rw [filled, written, induction, Option.getD_none]

theorem Clear.tail {slot : Text × Text} (clear : Clear keys (slot :: slots)) : Clear keys slots where
  names other member := clear.names other (List.mem_cons_of_mem _ member)
  gaps other member := clear.gaps other (List.mem_cons_of_mem _ member)
  apart other member := by
    cases slots with
    | nil => cases member
    | cons next slots => exact clear.apart other (List.mem_cons_of_mem _ member)

theorem Clear.weaken {others : List Text} (clear : Clear keys slots)
    (covered : ∀ other ∈ others, ∃ key ∈ keys, ∀ c ∈ other, c = '$' ∨ c ∈ key) :
    Clear others slots where
  names := clear.names
  gaps := clear.gaps
  apart slot member := by
    obtain ⟨c, inGap, absent⟩ := clear.apart slot member
    refine ⟨c, inGap, ?_⟩
    intro other listed inOther
    obtain ⟨key, known, part⟩ := covered other listed
    rcases part c inOther with dollar | inKey
    · exact clear.gaps slot ((List.dropLast_subset _) member) (dollar ▸ inGap)
    · exact absent key known inKey

theorem Clear.subset {others : List Text} (clear : Clear keys slots) (part : others ⊆ keys) :
    Clear others slots := by
  apply clear.weaken
  intro other listed
  exact ⟨other, part listed, fun c inOther => Or.inr inOther⟩

/-- Whatever the later references have become, a name with its closing dollar sign never begins right
behind a reference. -/
theorem Clear.unclosed {slot : Text × Text} (clear : Clear [name] (slot :: slots))
    (known : Text → Option Text) : ¬ name ++ ['$'] <+: slot.2 ++ filled known slots := by
  have gapFree := clear.gaps slot List.mem_cons_self
  intro found
  cases slots with
  | nil =>
      rw [filled, List.append_nil] at found
      exact gapFree (found.subset (by simp))
  | cons next slots =>
      -- The name would have to reach over the whole gap, or its dollar sign would lie within it.
      obtain ⟨c, inGap, absent⟩ := clear.apart slot List.mem_cons_self
      rcases found with ⟨behind, whole⟩
      rcases List.append_eq_append_iff.1 whole with ⟨reach, within, -⟩ | ⟨reach, across, -⟩
      · exact gapFree (by simp [within])
      · have read : c ∈ name ++ ['$'] := by simp [across, inGap]
        rw [List.mem_append, List.mem_singleton] at read
        rcases read with inName | dollar
        · exact absent name (List.mem_singleton_self _) inName
        · exact gapFree (dollar ▸ inGap)

/-- Replacing one key fills the open slots of its name and changes nothing else. -/
theorem replace_filled {known : Text → Option Text} (nameFree : '$' ∉ name)
    (clear : Clear [name] slots)
    (plain : ∀ other value, known other = some value → '$' ∉ value) (value : Text) :
    replaceAll (Reference.written name) value (slots.filled known) =
      slots.filled fun other => (known other).or (if other = name then some value else none) := by
  induction slots with
  | nil => exact Text.replace_all_nil _ _
  | cons slot slots induction =>
      rcases slot with ⟨other, gap⟩
      have gapFree : '$' ∉ gap := clear.gaps _ List.mem_cons_self
      have otherFree : '$' ∉ other := clear.names _ List.mem_cons_self
      have later : replaceAll (Reference.written name) value (gap ++ filled known slots) =
          gap ++ filled (fun other => (known other).or (if other = name then some value else none))
            slots := by
        rw [← induction clear.tail]
        exact Text.replace_all_free_append gapFree value _
      rw [filled, filled, ← later]
      cases taken : known other with
      | some text =>
          rw [Option.getD_some, Option.some_or, Option.getD_some]
          exact Text.replace_all_free_append (plain other text taken) value _
      | none =>
          rw [Option.getD_none, Option.none_or]
          by_cases same : other = name
          · rw [if_pos same, Option.getD_some, same,
              Text.replace_all_mark (Reference.written_ne_nil name)]
          · rw [if_neg same, Option.getD_none]
            exact Reference.replace_other_reference nameFree otherFree same (clear.unclosed known) value

theorem inject_filled {entries : List (Text × Text)} {known : Text → Option Text}
    (couched : ∀ entry ∈ entries, ∃ name, '$' ∉ name ∧ entry.1 = Reference.written name)
    (values : ∀ entry ∈ entries, '$' ∉ entry.2) (gapFree : '$' ∉ gap)
    (clear : Clear (entries.map Prod.fst) slots)
    (plain : ∀ other value, known other = some value → '$' ∉ value) :
    inject entries (gap ++ slots.filled known) =
      gap ++ slots.filled fun name => (known name).or (entries.lookup (Reference.written name)) := by
  -- What the keys so far have filled in is `known`, so every step meets a template with filled slots.
  induction entries generalizing known with
  | nil => simp [inject]
  | cons entry entries induction =>
      rcases entry with ⟨key, value⟩
      obtain ⟨⟨name, nameFree, shape⟩, laterCouched⟩ := List.forall_mem_cons.1 couched
      obtain ⟨valueFree, laterValues⟩ := List.forall_mem_cons.1 values
      simp only at shape valueFree
      subst shape
      have laterClear : Clear (entries.map Prod.fst) slots :=
        clear.subset (List.subset_cons_self _ _)
      have nameClear : Clear [name] slots := by
        apply clear.weaken
        intro other listed
        rw [List.mem_singleton.1 listed]
        exact ⟨_, List.mem_cons_self, fun c inName => Or.inr (by simp [Reference.written, inName])⟩
      have stillPlain : ∀ other text,
          (known other).or (if other = name then some value else none) = some text → '$' ∉ text := by
        intro other text filled
        rcases Option.or_eq_some_iff.1 filled with earlier | ⟨-, now⟩
        · exact plain other text earlier
        · rw [Option.ite_none_right_eq_some] at now
          rwa [← Option.some.inj now.2]
      have step : replaceAll (Reference.written name) value (gap ++ slots.filled known) =
          gap ++ slots.filled fun other =>
            (known other).or (if other = name then some value else none) := by
        rw [← replace_filled nameFree nameClear plain]
        exact Text.replace_all_free_append gapFree value _
      rw [inject, List.foldl_cons, step]
      refine (induction laterCouched laterValues laterClear stillPlain).trans ?_
      congr 2
      funext other
      rw [Option.or_assoc, List.lookup_cons]
      by_cases same : other = name
      · simp [same]
      · have different : Reference.written other ≠ Reference.written name :=
          fun written => same (Reference.written_injective written)
        rw [if_neg same, Option.none_or, beq_eq_false_iff_ne.2 different]

end Slots

/-- The value of a name: its global if there is one, and its body otherwise. -/
def value? (globals bodies : Table) (name : Text) : Option Text :=
  (globals.get? (Reference.written name)).or (bodies.get? name)

structure Plain (globals bodies : Table) : Prop where
  couched : ∀ key ∈ globals.keys, ∃ name, '$' ∉ name ∧ key = Reference.written name
  globals : ∀ entry ∈ globals.entries, '$' ∉ entry.2
  names : ∀ name ∈ bodies.keys, '$' ∉ name
  bodies : ∀ entry ∈ bodies.entries, '$' ∉ entry.2

variable {globals bodies : Table} {gap : Text} {slots : Slots}

theorem lookup_written (entries : List (Text × Text)) (name : Text) :
    (entries.map fun entry => (Reference.written entry.1, entry.2)).lookup (Reference.written name) =
      entries.lookup name := by
  induction entries with
  | nil => rfl
  | cons entry entries induction =>
      rw [List.map_cons, List.lookup_cons, List.lookup_cons, induction]
      have keys : (Reference.written name == Reference.written entry.1) = (name == entry.1) := by
        rw [Bool.eq_iff_iff, beq_iff_eq, beq_iff_eq]
        exact ⟨Reference.written_injective, congrArg Reference.written⟩
      rw [keys]

theorem inject_globals_written (plain : Plain globals bodies) (gapFree : '$' ∉ gap)
    (clear : slots.Clear globals.keys) :
    injectGlobals globals (gap ++ slots.written) =
      gap ++ slots.filled fun name => globals.get? (Reference.written name) := by
  have couched : ∀ entry ∈ globals.entries, ∃ name, '$' ∉ name ∧ entry.1 = Reference.written name :=
    fun entry member => plain.couched entry.1 (List.mem_map_of_mem member)
  have unknown : ∀ other value, (fun _ => none : Text → Option Text) other = some value → '$' ∉ value := by
    intro other value taken
    cases taken
  have filled := Slots.inject_filled couched plain.globals gapFree clear unknown
  simp only [Option.none_or, Slots.filled_none] at filled
  exact filled

theorem inject_bodies_filled {known : Text → Option Text} (names : ∀ name ∈ bodies.keys, '$' ∉ name)
    (values : ∀ entry ∈ bodies.entries, '$' ∉ entry.2) (gapFree : '$' ∉ gap)
    (clear : slots.Clear bodies.keys)
    (plain : ∀ other value, known other = some value → '$' ∉ value) :
    injectBodies bodies (gap ++ slots.filled known) =
      gap ++ slots.filled fun name => (known name).or (bodies.get? name) := by
  have couched : ∀ entry ∈ bodies.entries.map fun entry => (Reference.written entry.1, entry.2),
      ∃ name, '$' ∉ name ∧ entry.1 = Reference.written name := by
    intro entry member
    obtain ⟨body, listed, rfl⟩ := List.mem_map.1 member
    exact ⟨body.1, names body.1 (List.mem_map_of_mem listed), rfl⟩
  have valuesFree : ∀ entry ∈ bodies.entries.map fun entry => (Reference.written entry.1, entry.2),
      '$' ∉ entry.2 := by
    intro entry member
    obtain ⟨body, listed, rfl⟩ := List.mem_map.1 member
    exact values body listed
  have writtenClear : slots.Clear
      ((bodies.entries.map fun entry => (Reference.written entry.1, entry.2)).map Prod.fst) := by
    apply clear.weaken
    intro key listed
    obtain ⟨entry, member, rfl⟩ := List.mem_map.1 listed
    obtain ⟨body, stored, rfl⟩ := List.mem_map.1 member
    refine ⟨body.1, List.mem_map_of_mem stored, ?_⟩
    intro c inKey
    simpa [Reference.written, or_comm] using inKey
  have filled := Slots.inject_filled couched valuesFree gapFree writtenClear plain
  simp only [lookup_written] at filled
  exact filled

/-- On a template that is clear of all keys, filling in the tables key by key is one replacement of all
references at once. -/
theorem compile_written (plain : Plain globals bodies) (gapFree : '$' ∉ gap)
    (clear : slots.Clear (globals.keys ++ bodies.keys)) :
    compile globals bodies (gap ++ slots.written) = gap ++ slots.filled (value? globals bodies) := by
  have globalsClear := clear.subset (List.subset_append_left _ _)
  have bodiesClear := clear.subset (List.subset_append_right _ _)
  have taken : ∀ name value, globals.get? (Reference.written name) = some value → '$' ∉ value := by
    intro name value found
    exact plain.globals _ (Table.mem_entries_of_get found)
  rw [compile, inject_globals_written plain gapFree globalsClear,
    inject_bodies_filled plain.names plain.bodies gapFree bodiesClear taken]
  rfl

theorem Plain.perm {otherGlobals otherBodies : Table} (plain : Plain globals bodies)
    (samePairs : otherGlobals.entries.Perm globals.entries)
    (sameBodies : otherBodies.entries.Perm bodies.entries) : Plain otherGlobals otherBodies where
  couched key listed := plain.couched key ((samePairs.map Prod.fst).mem_iff.1 listed)
  globals entry member := plain.globals entry (samePairs.mem_iff.1 member)
  names name listed := plain.names name ((sameBodies.map Prod.fst).mem_iff.1 listed)
  bodies entry member := plain.bodies entry (sameBodies.mem_iff.1 member)

theorem compile_of_perm {otherGlobals otherBodies : Table} (plain : Plain globals bodies)
    (gapFree : '$' ∉ gap) (clear : slots.Clear (globals.keys ++ bodies.keys))
    (globalsDistinct : globals.keys.Nodup) (bodiesDistinct : bodies.keys.Nodup)
    (samePairs : otherGlobals.entries.Perm globals.entries)
    (sameBodies : otherBodies.entries.Perm bodies.entries) :
    compile otherGlobals otherBodies (gap ++ slots.written) =
      compile globals bodies (gap ++ slots.written) := by
  have sameKeys := (samePairs.map Prod.fst).append (sameBodies.map Prod.fst)
  have otherClear : slots.Clear (otherGlobals.keys ++ otherBodies.keys) :=
    clear.subset sameKeys.subset
  have sameValues : value? otherGlobals otherBodies = value? globals bodies := by
    funext name
    rw [value?, value?, Table.get_of_perm globalsDistinct samePairs,
      Table.get_of_perm bodiesDistinct sameBodies]
  rw [compile_written plain gapFree clear,
    compile_written (plain.perm samePairs sameBodies) gapFree otherClear, sameValues]

/-- Every reference takes the value of its name, as if all were replaced at once, and the order of the
entries does not matter. -/
theorem compile_written_eq_filled (plain : Plain globals bodies) (gapFree : '$' ∉ gap)
    (clear : slots.Clear (globals.keys ++ bodies.keys)) :
    compile globals bodies (gap ++ slots.written) = gap ++ slots.filled (value? globals bodies) ∧
      ∀ otherGlobals otherBodies : Table, globals.keys.Nodup → bodies.keys.Nodup →
        otherGlobals.entries.Perm globals.entries → otherBodies.entries.Perm bodies.entries →
        compile otherGlobals otherBodies (gap ++ slots.written) =
          compile globals bodies (gap ++ slots.written) := by
  refine ⟨compile_written plain gapFree clear, ?_⟩
  intro otherGlobals otherBodies globalsDistinct bodiesDistinct samePairs sameBodies
  exact compile_of_perm plain gapFree clear globalsDistinct bodiesDistinct samePairs sameBodies

/-- A global goes before a body of its name, and an unknown name stays. -/
theorem compile_written_eq_filled_of_three_names :
    compile ⟨[("$x$".toList, ['X'])]⟩ ⟨[(['x'], ['n', 'o']), (['z'], ['Z'])]⟩
        "<$x$|$w$|$z$>".toList = "<X|$w$|Z>".toList ∧
      compile ⟨[("$x$".toList, ['X'])]⟩ ⟨[(['z'], ['Z']), (['x'], ['n', 'o'])]⟩
        "<$x$|$w$|$z$>".toList = "<X|$w$|Z>".toList := by
  have plain : Plain ⟨[("$x$".toList, ['X'])]⟩ ⟨[(['x'], ['n', 'o']), (['z'], ['Z'])]⟩ := by
    refine ⟨?_, by decide, by decide, by decide⟩
    intro key listed
    exact ⟨['x'], by decide, List.mem_singleton.1 listed⟩
  have clear : Slots.Clear (["$x$".toList] ++ [['x'], ['z']])
      [(['x'], ['|']), (['w'], ['|']), (['z'], ['>'])] := by
    refine ⟨by decide, by decide, ?_⟩
    intro slot member
    refine ⟨'|', ?_, by decide⟩
    revert slot
    decide
  have gapFree : '$' ∉ ['<'] := by decide
  have filled := compile_written_eq_filled plain gapFree clear
  refine ⟨filled.1.trans (by decide), ?_⟩
  have swapped := filled.2 ⟨[("$x$".toList, ['X'])]⟩ ⟨[(['z'], ['Z']), (['x'], ['n', 'o'])]⟩
    (by decide) (by decide) (.refl _) (.swap _ _ _)
  exact swapped.trans (filled.1.trans (by decide))

end Page

end PostMarkup
