import PostMarkup.Text

/-!
Tables from texts to texts that remember the order in which their keys were first inserted. The
entries are public: tables built by the operations below never repeat a key, and on a table that
does, the first entry of a key is the one that is found.
-/

namespace PostMarkup

structure Table where
  entries : List (Text × Text)
deriving DecidableEq

namespace Table

def empty : Table := ⟨[]⟩

def keys (table : Table) : List Text := table.entries.map Prod.fst

def get? (table : Table) (key : Text) : Option Text := table.entries.lookup key

def contains (table : Table) (key : Text) : Bool := (table.get? key).isSome

theorem contains_iff_mem_keys {table : Table} {key : Text} :
    table.contains key = true ↔ key ∈ table.keys := by
  simp only [contains, get?, keys, List.lookup_isSome_iff, List.mem_map]
  constructor
  · rintro ⟨entry, member, same⟩
    exact ⟨entry, member, (eq_of_beq same).symm⟩
  · rintro ⟨entry, member, rfl⟩
    exact ⟨entry, member, beq_self_eq_true _⟩

def insertEntry (key value : Text) : List (Text × Text) → List (Text × Text)
  | [] => [(key, value)]
  | (other, old) :: rest =>
      if other = key then (key, value) :: rest else (other, old) :: insertEntry key value rest

/-- A known key keeps its place and takes the new value, a new key goes to the end. -/
def insert (table : Table) (key value : Text) : Table := ⟨insertEntry key value table.entries⟩

def ofEntries (entries : List (Text × Text)) : Table :=
  entries.foldl (fun table entry => table.insert entry.1 entry.2) empty

end Table

end PostMarkup
