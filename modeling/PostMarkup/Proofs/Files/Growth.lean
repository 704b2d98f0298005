import PostMarkup.Files.Tree
import PostMarkup.Proofs.Outcome

/-!
What making directories does to a tree. Files keep their bytes, directories stay, and nothing comes up
but new directories, whether the operation succeeds or not. A file that is written then is the only one
that changes. A write may break off when it has opened the file, and then the file holds a part of what
was to be written, or nothing.
-/

namespace PostMarkup.FileTree

variable {tree between later : FileTree} {location other : List Text} {path : Text}

section Put

variable (tree : FileTree) (entry : TreeEntry)

theorem entry_put_self (below : location ≠ []) :
    entry? (tree.put location entry) location = some entry := by
  unfold entry? put
  rw [if_neg below, List.lookup_cons, beq_self_eq_true]

theorem entry_put_of_ne (different : other ≠ location) :
    entry? (tree.put location entry) other = tree.entry? other := by
  have kept : (tree.entries.filter fun entry => entry.1 != location).lookup other =
      tree.entries.lookup other := by
    induction tree.entries with
    | nil => rfl
    | cons first entries induction =>
        rcases first with ⟨here, entry⟩
        by_cases dropped : here = location
        · rw [List.filter_cons_of_neg (by simpa using dropped), induction, List.lookup_cons, dropped,
            beq_eq_false_iff_ne.2 different]
        · rw [List.filter_cons_of_pos (by simpa using dropped), List.lookup_cons, List.lookup_cons,
            induction]
  unfold entry? put
  rw [List.lookup_cons, beq_eq_false_iff_ne.2 different, kept]

end Put

/-- Nothing has happened at the location, unless a directory has been made where nothing was. -/
def KeptAt (tree later : FileTree) (location : List Text) : Prop :=
  later.entry? location = tree.entry? location ∨
    tree.entry? location = none ∧ later.entry? location = some .directory

structure Grows (tree later : FileTree) : Prop where
  start : later.start = tree.start
  kept : ∀ location, KeptAt tree later location

theorem KeptAt.trans (first : KeptAt tree between location) (second : KeptAt between later location) :
    KeptAt tree later location := by
  rcases first with same | ⟨absent, made⟩
  · rcases second with again | ⟨absent, made⟩
    · exact Or.inl (again.trans same)
    · exact Or.inr ⟨same ▸ absent, made⟩
  · rcases second with again | ⟨stillAbsent, -⟩
    · exact Or.inr ⟨absent, again.trans made⟩
    · rw [made] at stillAbsent
      cases stillAbsent

def fileSize? (tree : FileTree) (location : List Text) : Option Nat :=
  match tree.entry? location with
  | some (.file bytes) => some bytes.size
  | _ => none

namespace Grows

theorem refl (tree : FileTree) : Grows tree tree := ⟨rfl, fun _ => Or.inl rfl⟩

theorem trans (first : Grows tree between) (second : Grows between later) : Grows tree later where
  start := second.start.trans first.start
  kept location := (first.kept location).trans (second.kept location)

theorem directory (absent : tree.entry? location = none) :
    Grows tree (tree.put location .directory) where
  start := rfl
  kept other := by
    by_cases here : other = location
    · subst here
      have below : other ≠ [] := by
        intro root
        subst root
        cases absent
      exact Or.inr ⟨absent, entry_put_self tree .directory below⟩
    · exact Or.inl (entry_put_of_ne tree .directory here)

theorem directory_kept (grows : Grows tree later) (there : tree.entry? location = some .directory) :
    later.entry? location = some .directory := by
  rcases grows.kept location with same | ⟨-, made⟩
  · exact same.trans there
  · exact made

theorem file_size (grows : Grows tree later) (location : List Text) :
    later.fileSize? location = tree.fileSize? location := by
  unfold fileSize?
  rcases grows.kept location with same | ⟨absent, made⟩
  · rw [same]
  · rw [absent, made]

end Grows

structure GrowsBeside (tree later : FileTree) (location : List Text) : Prop where
  start : later.start = tree.start
  kept : ∀ other, other ≠ location → KeptAt tree later other

structure Writes (tree later : FileTree) (location : List Text) (bytes : ByteArray) : Prop
    extends GrowsBeside tree later location where
  written : later.entry? location = some (.file bytes)

section Write

variable {bytes : ByteArray}

theorem with_bytes_ok_iff :
    tree.withBytes path bytes = .ok later ↔
      ∃ location, tree.locate path = .ok location ∧ tree.entry? location ≠ some .directory ∧
        later = tree.put location (.file bytes) := by
  unfold withBytes
  rw [Outcome.bind_ok_iff]
  constructor
  · intro wrote
    rcases wrote with ⟨location, located, wrote⟩
    split at wrote
    · cases wrote
    · rename_i free
      cases wrote
      exact ⟨location, located, free, rfl⟩
  · intro parts
    rcases parts with ⟨location, located, free, rfl⟩
    refine ⟨location, located, ?_⟩
    split
    · rename_i there
      exact absurd there free
    · rfl

variable (bytes) (free : tree.entry? location ≠ some .directory)

include free

theorem ne_root_of_free : location ≠ [] := by
  intro root
  subst root
  exact free rfl

theorem directory_kept_put {place : List Text} (there : tree.entry? place = some .directory) :
    entry? (tree.put location (.file bytes)) place = some .directory := by
  have apart : place ≠ location := by
    intro same
    exact free (same ▸ there)
  exact (entry_put_of_ne tree _ apart).trans there

theorem Grows.write {before : FileTree} (grows : Grows before tree) :
    Writes before (tree.put location (.file bytes)) location bytes where
  start := grows.start
  written := entry_put_self tree _ (ne_root_of_free free)
  kept other apart := (grows.kept other).trans (Or.inl (entry_put_of_ne tree _ apart))

end Write

theorem with_directory_grows (made : tree.withDirectory path = .ok later) : Grows tree later := by
  obtain ⟨first, -, made⟩ := Outcome.bind_ok_iff.1 made
  split at made
  · cases made
  · split at made
    · obtain ⟨location, -, made⟩ := Outcome.bind_ok_iff.1 made
      obtain ⟨passed, -, made⟩ := Outcome.bind_ok_iff.1 made
      cases made
    · obtain ⟨location, -, made⟩ := Outcome.bind_ok_iff.1 made
      split at made
      · cases made
      · rename_i absent
        cases made
        exact .directory absent

def OnlyGrows {Value : Type} (operation : StateM FileTree Value) : Prop :=
  ∀ tree, Grows tree (operation.run tree).2

/-- What a disk over trees may do. Reading and looking change nothing, and the text that is read is the
one of the file. Creating a directory makes directories at most. Writing replaces the bytes of the file at
the path by those of the text. Any operation may be refused, whatever the reason, and a write may also
break off behind any number of bytes when the file has been opened. -/
structure Honest (drive : Disk (StateM FileTree)) : Prop where
  unread : ∀ path tree, ((drive.read path).run tree).2 = tree
  text : ∀ path tree text, ((drive.read path).run tree).1 = .ok text → tree.textAt path = .ok text
  made : ∀ path, OnlyGrows (drive.makeDirectory path)
  looked : ∀ path tree, ((drive.isDirectory path).run tree).2 = tree
  refused : ∀ path text tree fault, ((drive.write path text).run tree).1 = .error fault →
    ((drive.write path text).run tree).2 = tree ∨
      ∃ part rest, part ++ rest = (String.ofList text).toUTF8 ∧
        tree.withBytes path part = .ok ((drive.write path text).run tree).2
  written : ∀ path text tree, ((drive.write path text).run tree).1 = .ok () →
    tree.withBytes path (String.ofList text).toUTF8 = .ok ((drive.write path text).run tree).2

def Whole (drive : Disk (StateM FileTree)) : Prop :=
  ∀ path text tree fault, ((drive.write path text).run tree).1 = .error fault →
    ((drive.write path text).run tree).2 = tree

namespace OnlyGrows

variable {Value Result : Type}

theorem pure (value : Value) : OnlyGrows (Pure.pure value : StateM FileTree Value) :=
  fun tree => .refl tree

theorem bind {first : StateM FileTree Value} {next : Value → StateM FileTree Result}
    (start : OnlyGrows first) (rest : ∀ value, OnlyGrows (next value)) :
    OnlyGrows (first >>= next) :=
  fun tree => (start tree).trans (rest _ _)

theorem make_directory (path : Text) : OnlyGrows (disk.makeDirectory path) := by
  intro tree
  change Grows tree (attempt (·.withDirectory path) tree).2
  unfold attempt
  split
  · rename_i later made
    exact with_directory_grows made
  · exact .refl tree

section Making

variable {drive : Disk (StateM FileTree)} (honest : Honest drive)

include honest

theorem settle (path : Text) (made : Except DiskFault Unit) : OnlyGrows (drive.settle path made) := by
  cases made with
  | ok made => exact .pure _
  | error fault =>
      have looks : OnlyGrows (drive.isDirectory path) := by
        intro tree
        rw [honest.looked path tree]
        exact .refl tree
      refine looks.bind ?_
      intro there
      cases there
      · exact .pure _
      · exact .pure _

theorem make_settled (path : Text) : OnlyGrows (drive.makeDirectory path >>= drive.settle path) :=
  (honest.made path).bind (settle honest path)

theorem make_below (path : Text) (parents : List Text) : OnlyGrows (drive.makeBelow path parents) := by
  induction parents generalizing path with
  | nil =>
      rw [Disk.makeBelow]
      refine (honest.made path).bind ?_
      intro made
      split
      · exact make_settled honest path
      · exact settle honest path made
  | cons parent parents induction =>
      rw [Disk.makeBelow]
      refine (honest.made path).bind ?_
      intro made
      split
      · refine (induction parent).bind ?_
        intro around
        cases around with
        | error fault => exact .pure _
        | ok around => exact make_settled honest path
      · exact settle honest path made

theorem make_directories (path : Text) : OnlyGrows (drive.makeDirectories path) :=
  make_below honest _ _

end Making

end OnlyGrows

theorem whole_disk : Whole disk := by
  intro path text tree fault failed
  change (attempt (·.withBytes path (String.ofList text).toUTF8) tree).2 = tree
  change (attempt (·.withBytes path (String.ofList text).toUTF8) tree).1 = .error fault at failed
  unfold attempt at failed ⊢
  split
  · rename_i later wrote
    rw [wrote] at failed
    cases failed
  · rfl

/-- The operations on a tree in memory are what such a disk may do, with no refusals of their own. -/
theorem honest_disk : Honest disk where
  unread path tree := rfl
  text path tree text read := read
  made := OnlyGrows.make_directory
  looked path tree := rfl
  refused path text tree fault failed := Or.inl (whole_disk path text tree fault failed)
  written path text tree done := by
    change tree.withBytes path _ = .ok (attempt (·.withBytes path (String.ofList text).toUTF8) tree).2
    change (attempt (·.withBytes path (String.ofList text).toUTF8) tree).1 = .ok () at done
    unfold attempt at done ⊢
    split
    · assumption
    · rename_i fault failed
      rw [failed] at done
      cases done

/-- Opens a file for writing, and has no room for anything in it. -/
def openOnly (path : Text) : StateM FileTree (Except DiskFault Unit) := fun tree =>
  match tree.withBytes path .empty with
  | .ok opened => (.error (.other "No space left on device (os error 28)".toList), opened)
  | .error fault => (.error fault, tree)

def fullDisk : Disk (StateM FileTree) := { disk with write := fun path _ => openOnly path }

theorem honest_full_disk : Honest fullDisk where
  unread path tree := rfl
  text path tree text read := read
  made := OnlyGrows.make_directory
  looked path tree := rfl
  refused path text tree fault failed := by
    change (openOnly path tree).2 = tree ∨
      ∃ part rest, part ++ rest = _ ∧ tree.withBytes path part = .ok (openOnly path tree).2
    unfold openOnly
    cases opened : tree.withBytes path .empty with
    | ok later => exact Or.inr ⟨.empty, _, ByteArray.empty_append, opened⟩
    | error fault => exact Or.inl rfl
  written path text tree done := by
    change (openOnly path tree).1 = .ok () at done
    unfold openOnly at done
    split at done <;> cases done

end PostMarkup.FileTree
