import Mathlib.Algebra.GroupWithZero.Nat
import PostMarkup.Table

/-!
Taking keys out of tables and putting them in. What is bound to other keys stays. A table becomes
smaller when a key is taken out, and no insertion repeats a key.
-/

namespace PostMarkup.Table

def erase (table : Table) (key : Text) : Table := ⟨table.entries.filter (·.1 ≠ key)⟩

variable {table : Table} {key other : Text}

theorem get_erase_self (table : Table) (key : Text) : (table.erase key).get? key = none := by
  rw [get?, List.lookup_eq_none_iff]
  intro entry member
  have kept : entry.1 ≠ key := by simpa using (List.mem_filter.1 member).2
  exact bne_iff_ne.2 (Ne.symm kept)

theorem get_erase_of_ne (different : other ≠ key) : (table.erase key).get? other = table.get? other := by
  rcases table with ⟨entries⟩
  simp only [get?, erase]
  induction entries with
  | nil => rfl
  | cons entry entries induction =>
      rcases entry with ⟨name, value⟩
      by_cases dropped : name = key
      · subst dropped
        rw [List.filter_cons_of_neg (by simp), induction, List.lookup_cons,
          beq_eq_false_iff_ne.2 different]
      · rw [List.filter_cons_of_pos (by simpa using dropped), List.lookup_cons, List.lookup_cons,
          induction]

theorem contains_iff_get : table.contains key = true ↔ ∃ value, table.get? key = some value := by
  rw [contains, Option.isSome_iff_exists]

theorem mem_entries_of_get {value : Text} (found : table.get? key = some value) :
    (key, value) ∈ table.entries := by
  rcases table with ⟨entries⟩
  simp only [get?] at found ⊢
  induction entries with
  | nil => cases found
  | cons entry entries induction =>
      rcases entry with ⟨name, other⟩
      rw [List.lookup_cons] at found
      by_cases same : key = name
      · subst same
        simp only [beq_self_eq_true, Option.some.injEq] at found
        rw [found]
        exact List.mem_cons_self
      · rw [beq_eq_false_iff_ne.2 same] at found
        exact List.mem_cons_of_mem _ (induction found)

theorem get_eq_some_iff (distinct : table.keys.Nodup) {value : Text} :
    table.get? key = some value ↔ (key, value) ∈ table.entries := by
  refine ⟨mem_entries_of_get, ?_⟩
  rcases table with ⟨entries⟩
  simp only [get?, keys] at distinct ⊢
  intro member
  induction entries with
  | nil => cases member
  | cons entry entries induction =>
      rw [List.map_cons, List.nodup_cons] at distinct
      rw [List.lookup_cons]
      rcases List.mem_cons.1 member with rfl | later
      · rw [beq_self_eq_true]
      · have other : key ≠ entry.1 := by
          intro same
          exact distinct.1 (same ▸ List.mem_map_of_mem later)
        rw [beq_eq_false_iff_ne.2 other]
        exact induction distinct.2 later

theorem get_of_perm {reordered : Table} (distinct : table.keys.Nodup)
    (perm : reordered.entries.Perm table.entries) (key : Text) :
    reordered.get? key = table.get? key := by
  have reorderedDistinct : reordered.keys.Nodup := (perm.map Prod.fst).nodup_iff.2 distinct
  apply Option.ext
  intro value
  rw [get_eq_some_iff distinct, get_eq_some_iff reorderedDistinct, perm.mem_iff]

theorem erase_shortens {value : Text} (found : table.get? key = some value) :
    (table.erase key).entries.length < table.entries.length := by
  apply List.length_filter_lt_length_iff_exists.2
  exact ⟨(key, value), mem_entries_of_get found, by simp⟩

theorem mem_entries_insert {value : Text} {entry : Text × Text}
    (member : entry ∈ (table.insert key value).entries) :
    entry = (key, value) ∨ entry ∈ table.entries := by
  rcases table with ⟨entries⟩
  simp only [insert] at member ⊢
  induction entries with
  | nil => exact Or.inl (List.mem_singleton.1 member)
  | cons first entries induction =>
      rcases first with ⟨name, old⟩
      rw [insertEntry] at member
      split at member
      · exact (List.mem_cons.1 member).imp_right (List.mem_cons_of_mem _)
      · rcases List.mem_cons.1 member with here | later
        · exact Or.inr (List.mem_cons.2 (Or.inl here))
        · exact (induction later).imp_right (List.mem_cons_of_mem _)

theorem insert_of_not_mem {value : Text} (fresh : key ∉ table.keys) :
    (table.insert key value).entries = table.entries ++ [(key, value)] := by
  rcases table with ⟨entries⟩
  simp only [insert, keys] at fresh ⊢
  induction entries with
  | nil => rfl
  | cons entry entries induction =>
      simp only [List.map_cons, List.mem_cons, not_or] at fresh
      rw [insertEntry, if_neg (Ne.symm fresh.1), induction fresh.2]
      rfl

theorem keys_insert_of_not_mem {value : Text} (fresh : key ∉ table.keys) :
    (table.insert key value).keys = table.keys ++ [key] := by
  rw [keys, insert_of_not_mem fresh, List.map_append]
  rfl

theorem keys_insert_of_mem {value : Text} (known : key ∈ table.keys) :
    (table.insert key value).keys = table.keys := by
  rcases table with ⟨entries⟩
  simp only [insert, keys] at known ⊢
  induction entries with
  | nil => cases known
  | cons entry entries induction =>
      rcases entry with ⟨name, old⟩
      rw [insertEntry]
      split
      · rename_i same
        rw [List.map_cons, List.map_cons, same]
      · rename_i different
        have later := (List.mem_cons.1 known).resolve_left (Ne.symm different)
        rw [List.map_cons, List.map_cons, induction later]

theorem distinct_insert {value : Text} (distinct : table.keys.Nodup) :
    (table.insert key value).keys.Nodup := by
  by_cases known : key ∈ table.keys
  · rwa [keys_insert_of_mem known]
  · rw [keys_insert_of_not_mem known]
    apply List.nodup_append.2
    refine ⟨distinct, List.pairwise_singleton _ _, ?_⟩
    intro name listed other last same
    rw [List.mem_singleton] at last
    exact known (last ▸ same ▸ listed)

theorem lookup_entry (key : Text) (entry : Text × Text) (entries : List (Text × Text)) :
    (entry :: entries).lookup key = if key = entry.1 then some entry.2 else entries.lookup key := by
  by_cases same : key = entry.1
  · rw [List.lookup_cons, beq_iff_eq.2 same, if_pos same]
  · rw [List.lookup_cons, beq_eq_false_iff_ne.2 same, if_neg same]

/-- An entry for one key, wherever it lies, is not looked at for another. -/
theorem get_of_other_entry (front back : List (Text × Text)) {value : Text} (different : other ≠ key) :
    get? ⟨front ++ (key, value) :: back⟩ other = get? ⟨front ++ back⟩ other := by
  simp only [get?, List.lookup_append, lookup_entry, if_neg different]

theorem lookup_filter (key : Text) (entries : List (Text × Text)) :
    (entries.filter fun entry => entry.1 = key).lookup key = entries.lookup key := by
  induction entries with
  | nil => rfl
  | cons entry entries induction =>
      by_cases same : entry.1 = key
      · rw [List.filter_cons_of_pos (by simpa using same), lookup_entry, lookup_entry,
          if_pos same.symm, if_pos same.symm]
      · rw [List.filter_cons_of_neg (by simpa using same), induction, lookup_entry,
          if_neg (Ne.symm same)]

theorem get_insert (table : Table) (key value other : Text) :
    (table.insert key value).get? other = if other = key then some value else table.get? other := by
  rcases table with ⟨entries⟩
  simp only [insert, get?]
  induction entries with
  | nil => rw [insertEntry, lookup_entry]
  | cons entry entries induction =>
      rcases entry with ⟨name, old⟩
      rw [insertEntry]
      by_cases here : name = key
      · rw [if_pos here, lookup_entry, lookup_entry, here]
        split <;> rfl
      · rw [if_neg here, lookup_entry, lookup_entry, induction]
        by_cases first : other = name
        · have notKey : other ≠ key := first ▸ here
          rw [if_pos first, if_neg notKey, if_pos first]
        · rw [if_neg first, if_neg first]

/-- A table without repeated keys is settled by its keys, in order, and by what they are bound to. -/
theorem entries_eq_map_keys (distinct : table.keys.Nodup) :
    table.entries = table.keys.map fun key => (key, (table.get? key).getD []) := by
  have settled : ∀ entry ∈ table.entries, (entry.1, (table.get? entry.1).getD []) = entry := by
    intro entry member
    rw [(get_eq_some_iff distinct).2 member]
    rfl
  rw [keys, List.map_map]
  exact ((List.map_congr_left settled).trans (List.map_id' _)).symm

theorem eq_of_keys_of_get {other : Table} (distinct : table.keys.Nodup)
    (sameKeys : other.keys = table.keys) (same : ∀ key, other.get? key = table.get? key) :
    other = table := by
  have entries : other.entries = table.entries := by
    rw [entries_eq_map_keys distinct, entries_eq_map_keys (sameKeys ▸ distinct), sameKeys]
    simp only [same]
  exact congrArg mk entries

theorem entries_perm_of_get {other : Table} (distinct : table.keys.Nodup)
    (otherDistinct : other.keys.Nodup) (same : ∀ key, other.get? key = table.get? key) :
    other.entries.Perm table.entries := by
  have keysPerm : other.keys.Perm table.keys := by
    apply (List.perm_ext_iff_of_nodup otherDistinct distinct).2
    intro key
    rw [← contains_iff_mem_keys, ← contains_iff_mem_keys, contains, contains, same]
  rw [entries_eq_map_keys distinct, entries_eq_map_keys otherDistinct]
  simp only [same]
  exact keysPerm.map _

def insertAll (table : Table) (entries : List (Text × Text)) : Table :=
  entries.foldl (fun table entry => table.insert entry.1 entry.2) table

section InsertAll

variable {entries : List (Text × Text)}

theorem insert_all_append (table : Table) (entries others : List (Text × Text)) :
    table.insertAll (entries ++ others) = (table.insertAll entries).insertAll others :=
  List.foldl_append

theorem mem_entries_insert_all {entry : Text × Text}
    (member : entry ∈ (table.insertAll entries).entries) :
    entry ∈ entries ∨ entry ∈ table.entries := by
  induction entries generalizing table with
  | nil => exact Or.inr member
  | cons first entries induction =>
      rcases induction member with later | inserted
      · exact Or.inl (List.mem_cons_of_mem _ later)
      · rcases mem_entries_insert inserted with here | kept
        · exact Or.inl (List.mem_cons.2 (Or.inl here))
        · exact Or.inr kept

theorem distinct_insert_all (distinct : table.keys.Nodup) : (table.insertAll entries).keys.Nodup := by
  induction entries generalizing table with
  | nil => exact distinct
  | cons first entries induction => exact induction (distinct_insert distinct)

theorem insert_all_of_distinct (distinct : (table.keys ++ entries.map Prod.fst).Nodup) :
    (table.insertAll entries).entries = table.entries ++ entries := by
  induction entries generalizing table with
  | nil => exact (List.append_nil _).symm
  | cons first entries induction =>
      have fresh : first.1 ∉ table.keys := by
        intro known
        exact (List.nodup_append.1 distinct).2.2 _ known _ List.mem_cons_self rfl
      have shape : table.keys ++ (first :: entries).map Prod.fst =
          (table.insert first.1 first.2).keys ++ entries.map Prod.fst := by
        rw [keys_insert_of_not_mem fresh, List.append_assoc]
        rfl
      -- The first key is known from here on, so the later keys have to be fresh for it as well.
      have later := induction (shape ▸ distinct)
      rw [insert_of_not_mem fresh, List.append_assoc] at later
      exact later

/-- A key is bound to the value that it is given last. -/
theorem get_insert_all (table : Table) (entries : List (Text × Text)) (key : Text) :
    (table.insertAll entries).get? key = (entries.reverse.lookup key).or (table.get? key) := by
  induction entries generalizing table with
  | nil => rfl
  | cons entry entries induction =>
      have step := induction (table.insert entry.1 entry.2)
      rw [get_insert] at step
      rw [List.reverse_cons, List.lookup_append, lookup_entry, List.lookup_nil, Option.or_assoc]
      refine step.trans ?_
      by_cases same : key = entry.1
      · rw [if_pos same, if_pos same, Option.some_or]
      · rw [if_neg same, if_neg same, Option.none_or]

/-- The keys that are new stand behind the old ones, each at the place where it comes first. -/
theorem keys_insert_all (table : Table) (entries : List (Text × Text)) :
    (table.insertAll entries).keys =
      table.keys ++ ((entries.map Prod.fst).removeAll table.keys).eraseDups := by
  induction entries generalizing table with
  | nil => simp [insertAll, List.removeAll]
  | cons entry entries induction =>
      have step := induction (table.insert entry.1 entry.2)
      by_cases known : entry.1 ∈ table.keys
      · rw [keys_insert_of_mem known] at step
        rw [List.map_cons, List.cons_removeAll, if_neg (by simpa using known)]
        exact step
      · have narrowed : (entries.map Prod.fst).removeAll (table.keys ++ [entry.1]) =
            ((entries.map Prod.fst).removeAll table.keys).filter fun name => !name == entry.1 := by
          simp only [List.removeAll, List.filter_filter]
          congr 1
          funext name
          by_cases same : name = entry.1 <;> simp [same]
        rw [keys_insert_of_not_mem known, narrowed, List.append_assoc] at step
        rw [List.map_cons, List.cons_removeAll, if_pos (by simpa using known), List.eraseDups_cons]
        exact step

end InsertAll

def valueBytes (table : Table) : Nat := (table.entries.map fun entry => Text.byteLength entry.2).sum

theorem value_bytes_erase_le (table : Table) (key : Text) :
    (table.erase key).valueBytes ≤ table.valueBytes := by
  rcases table with ⟨entries⟩
  simp only [valueBytes, erase]
  induction entries with
  | nil => simp
  | cons entry entries induction =>
      by_cases dropped : entry.1 = key
      · rw [List.filter_cons_of_neg (by simpa using dropped), List.map_cons, List.sum_cons]
        omega
      · rw [List.filter_cons_of_pos (by simpa using dropped)]
        simp only [List.map_cons, List.sum_cons]
        omega

/-- A key that is taken out takes the bytes of its value with it. -/
theorem value_bytes_erase {value : Text} (found : table.get? key = some value) :
    Text.byteLength value + (table.erase key).valueBytes ≤ table.valueBytes := by
  rcases table with ⟨entries⟩
  induction entries with
  | nil => cases found
  | cons entry entries induction =>
      rcases entry with ⟨name, other⟩
      rw [get?, List.lookup_cons] at found
      by_cases same : key = name
      · subst same
        simp only [beq_self_eq_true, Option.some.injEq] at found
        subst found
        have rest := value_bytes_erase_le ⟨entries⟩ key
        simp only [valueBytes, erase] at rest ⊢
        rw [List.filter_cons_of_neg (by simp)]
        simp only [List.map_cons, List.sum_cons]
        omega
      · rw [beq_eq_false_iff_ne.2 same] at found
        have rest := induction found
        simp only [valueBytes, erase] at rest ⊢
        rw [List.filter_cons_of_pos (by simpa using Ne.symm same)]
        simp only [List.map_cons, List.sum_cons]
        omega

end PostMarkup.Table
