import PostMarkup.Command
import PostMarkup.Proofs.Files.Following
import PostMarkup.Proofs.Slug.Naming

/-!
Where a post is written. The place is found from the output directory by one step, the name of the
post, so that the post lies in a directory of its own inside the output directory unless the name is
made of dots. The check of the name does not catch these: it only asks for a character.
-/

namespace PostMarkup.Command

open FileTree (Writes stepFrom)
open PostMarkup.Path (dot dotDot)
open Text (byteLength)

section Steps

variable {Cause Value Result : Type} (tree : FileTree)

theorem run_on_disk (failure : DiskFault → Failure)
    (operation : StateM FileTree (Except DiskFault Value)) :
    (onDisk failure operation).run.run tree =
      ((operation.run tree).1.mapError failure, (operation.run tree).2) := rfl

theorem run_in_memory (failure : Cause → Failure) (value : Except Cause Value) :
    (inMemory failure value : ExceptT Failure (StateM FileTree) Value).run.run tree =
      (value.mapError failure, tree) := rfl

/-- A step hands on what it leaves behind, and a failure ends the run there. -/
theorem run_bind (first : ExceptT Failure (StateM FileTree) Value)
    (next : Value → ExceptT Failure (StateM FileTree) Result) :
    (first >>= next).run.run tree =
      match first.run.run tree with
      | (.error cause, later) => (.error cause, later)
      | (.ok value, later) => (next value).run.run later := by
  rw [ExceptT.run_bind, StateT.run_bind]
  rcases first.run.run tree with ⟨outcome, later⟩
  cases outcome with
  | error cause => rfl
  | ok value => rfl

end Steps

variable {directory name post path : Text} {tree later : FileTree} {out : List Text}

def postBytes (post : Text) : ByteArray := (String.ofList post).toUTF8

def postPath (directory name : Text) : Text := Path.join (Path.join directory name) indexFile

section Write

variable {drive : Disk (StateM FileTree)}

theorem run_write_post (directory name post : Text) (tree : FileTree) :
    (writePost drive directory name post).run.run tree =
      match (drive.makeDirectories (Path.join directory name)).run tree with
      | (.error fault, grown) => (.error (.directoryUnmade (Path.join directory name) fault), grown)
      | (.ok _, grown) =>
          match (drive.write (postPath directory name) post).run grown with
          | (.error fault, later) => (.error (.postUnwritten (postPath directory name) fault), later)
          | (.ok _, later) => (.ok (), later) := by
  unfold writePost
  rw [run_bind, run_on_disk]
  rcases (drive.makeDirectories (Path.join directory name)).run tree with ⟨made, grown⟩
  cases made with
  | error fault => rfl
  | ok made =>
      simp only [run_on_disk, Except.mapError, postPath]
      rcases (drive.write (Path.join (Path.join directory name) indexFile) post).run grown with
        ⟨wrote, later⟩
      cases wrote with
      | error fault => rfl
      | ok wrote => rfl

/-- A run that succeeds has written the post at the end of its path. One that fails has made directories at
most, unless it is the write that broke off: then a part of the post may be there. -/
theorem write_post_at_path (honest : FileTree.Honest drive) (directory name post : Text)
    (tree : FileTree) :
    match (writePost drive directory name post).run.run tree with
    | (.error cause, later) => FileTree.Grows tree later ∨
        ¬ FileTree.Whole drive ∧ ∃ fault location part rest,
          cause = .postUnwritten (postPath directory name) fault ∧ part ++ rest = postBytes post ∧
            later.locate (postPath directory name) = .ok location ∧ Writes tree later location part
    | (.ok _, later) => ∃ location,
        later.locate (postPath directory name) = .ok location ∧
          Writes tree later location (postBytes post) := by
  have grows := FileTree.OnlyGrows.make_directories honest (Path.join directory name) tree
  rw [run_write_post]
  rcases run : (drive.makeDirectories (Path.join directory name)).run tree with ⟨made, grown⟩
  rw [run] at grows
  cases made with
  | error fault => exact Or.inl grows
  | ok made =>
      dsimp only
      have refused := honest.refused (postPath directory name) post grown
      have written := honest.written (postPath directory name) post grown
      have whole := fun whole : FileTree.Whole drive => whole (postPath directory name) post grown
      rcases run : (drive.write (postPath directory name) post).run grown with ⟨wrote, later⟩
      rw [run] at refused written whole
      cases wrote with
      | ok wrote => exact FileTree.writes_of_with_bytes grows (written rfl)
      | error fault =>
          by_cases same : later = grown
          · rw [same]
            exact Or.inl grows
          · obtain ⟨part, rest, cut, opened⟩ := (refused fault rfl).resolve_left same
            obtain ⟨location, located, wrote⟩ := FileTree.writes_of_with_bytes grows opened
            refine Or.inr ⟨fun never => same (whole never fault rfl), ?_⟩
            exact ⟨fault, location, part, rest, rfl, cut, located, wrote⟩

end Write

/-- The output directory is at `out`, and the post has been written in the directory at `own`. -/
structure Posted (directory post : Text) (tree later : FileTree) (out own : List Text) : Prop where
  leads : later.LeadsTo directory out
  outer : later.entry? out = some .directory
  inner : later.entry? own = some .directory
  wrote : Writes tree later (own ++ [indexFile]) (postBytes post)

theorem step_from_index (location : List Text) :
    stepFrom location indexFile = location ++ [indexFile] := by
  have notDot : indexFile ≠ dot := by decide
  have notDots : indexFile ≠ dotDot := by decide
  rw [stepFrom, if_neg notDot, if_neg notDots]

theorem index_file_filled : indexFile ≠ [] := by decide

theorem index_file_unslashed : '/' ∉ indexFile := by decide

/-- The end of the path lies in the directory that has the name. -/
theorem write_post_spec (named : Slug.Nameable name) (directory post : Text) (tree : FileTree) :
    match (writePost FileTree.disk directory name post).run.run tree with
    | (.error _, later) => FileTree.Grows tree later
    | (.ok _, later) => ∃ out, Posted directory post tree later out (stepFrom out name) := by
  have places := write_post_at_path FileTree.honest_disk directory name post tree
  rcases run : (writePost FileTree.disk directory name post).run.run tree with ⟨outcome, later⟩
  rw [run] at places
  cases outcome with
  | error cause => exact places.resolve_right fun broken => broken.1 FileTree.whole_disk
  | ok done =>
      obtain ⟨location, located, wrote⟩ := places
      obtain ⟨-, leads⟩ :=
        (FileTree.locate_join_iff index_file_filled index_file_unslashed).1 located
      obtain ⟨own, leadsOwn, inner, -, rfl⟩ :=
        (FileTree.leads_to_join_iff index_file_filled index_file_unslashed).1 leads
      obtain ⟨out, leadsOut, outer, -, rfl⟩ :=
        (FileTree.leads_to_join_iff named.filled named.unslashed).1 leadsOwn
      rw [step_from_index] at wrote
      exact ⟨out, leadsOut, outer, inner, wrote⟩

structure Unhindered (tree : FileTree) (directory name : Text) (out : List Text) : Prop where
  short : byteLength (Path.join (Path.join directory name) indexFile) < 4096
  narrow : byteLength name ≤ 255
  leads : tree.LeadsTo directory out
  outer : tree.entry? out = some .directory
  room : tree.Room out name
  free : tree.entry? (stepFrom out name ++ [indexFile]) ≠ some .directory

theorem write_post_of_unhindered (named : Slug.Nameable name)
    (unhindered : Unhindered tree directory name out) (post : Text) :
    ∃ later, (writePost FileTree.disk directory name post).run.run tree = (.ok (), later) := by
  rcases unhindered with ⟨short, narrow, leads, outer, room, free⟩
  have shortOwn : byteLength (Path.join directory name) < 4096 :=
    Nat.lt_of_le_of_lt (Path.byte_length_le_join _ indexFile) short
  obtain ⟨grown, made, inner, same⟩ := FileTree.make_directories_join named.filled named.unslashed
    shortOwn narrow leads outer room
  have grows := FileTree.OnlyGrows.make_directories FileTree.honest_disk (Path.join directory name) tree
  rw [made] at grows
  have leadsOwn : grown.LeadsTo (Path.join directory name) (stepFrom out name) :=
    (FileTree.leads_to_join_iff named.filled named.unslashed).2
      ⟨out, grows.leads_to leads, grows.directory_kept outer, narrow, rfl⟩
  have located : grown.locate (Path.join (Path.join directory name) indexFile) =
      .ok (stepFrom out name ++ [indexFile]) := by
    rw [← step_from_index]
    exact FileTree.locate_join index_file_filled index_file_unslashed short (by decide) leadsOwn inner
  have apart : stepFrom out name ++ [indexFile] ≠ stepFrom out name := by
    intro loop
    simpa using congrArg List.length loop
  have freeLater : grown.entry? (stepFrom out name ++ [indexFile]) ≠ some .directory := by
    rw [same _ apart]
    exact free
  have wrote : grown.withBytes (postPath directory name) (postBytes post) =
      .ok (grown.put (stepFrom out name ++ [indexFile]) (.file (postBytes post))) :=
    FileTree.with_bytes_ok_iff.2 ⟨_, located, freeLater, rfl⟩
  rw [run_write_post, made]
  rw [postBytes] at wrote
  simp only [FileTree.run_write, wrote]
  exact ⟨_, rfl⟩

theorem step_from_named {stem : Text} (ofDot : name = dot ↔ Text.words stem = [dot])
    (ofDots : name = dotDot ↔ Text.words stem = [dotDot]) (out : List Text) :
    stepFrom out name =
      if Text.words stem = [dot] then out
      else if Text.words stem = [dotDot] then out.dropLast
      else out ++ [name] := by
  unfold stepFrom
  simp only [ofDot, ofDots]

/-- The name of a post is a solid text without slashes, and the post is written in the directory of
that name inside the output directory, which succeeds where nothing is in the way. The exceptions are
the stems whose only word is a dot or two: their posts are written in the output directory itself and
in the one above. -/
theorem post_place_of_named (named : Slug.ofPath path = .ok name) :
    ∃ stem, Path.stem? path = some stem ∧ Slug.Nameable name ∧
      (name = dot ↔ Text.words stem = [dot]) ∧ (name = dotDot ↔ Text.words stem = [dotDot]) ∧
      ∀ directory post tree,
        (match (writePost FileTree.disk directory name post).run.run tree with
          | (.error _, later) => FileTree.Grows tree later
          | (.ok _, later) => ∃ out, Posted directory post tree later out
              (if Text.words stem = [dot] then out
                else if Text.words stem = [dotDot] then out.dropLast
                else out ++ [name])) ∧
        ∀ out, Unhindered tree directory name out →
          ∃ later, (writePost FileTree.disk directory name post).run.run tree = (.ok (), later) := by
  obtain ⟨stem, found, same, -⟩ := Slug.exists_stem_of_named named
  have nameable := Slug.nameable_of_named named
  have isDot : ∀ c ∈ dot, c = '.' := List.forall_mem_singleton.2 rfl
  have areDots : ∀ c ∈ dotDot, c = '.' := List.forall_mem_cons.2 ⟨rfl, isDot⟩
  have ofDot : name = dot ↔ Text.words stem = [dot] := by
    rw [same]
    exact Slug.of_stem_eq_dots_iff (List.cons_ne_nil _ _) isDot
  have ofDotDot : name = dotDot ↔ Text.words stem = [dotDot] := by
    rw [same]
    exact Slug.of_stem_eq_dots_iff (List.cons_ne_nil _ _) areDots
  refine ⟨stem, found, nameable, ofDot, ofDotDot, ?_⟩
  intro directory post tree
  constructor
  · have places := write_post_spec nameable directory post tree
    simp only [step_from_named ofDot ofDotDot] at places
    exact places
  · intro out unhindered
    exact write_post_of_unhindered nameable unhindered post

theorem post_place_of_my_notes :
    Slug.ofPath "My Notes.txt".toList = .ok "my-notes".toList ∧
      ∀ directory post tree,
        match (writePost FileTree.disk directory "my-notes".toList post).run.run tree with
        | (.error _, later) => FileTree.Grows tree later
        | (.ok _, later) => ∃ out, Posted directory post tree later out
            (out ++ ["my-notes".toList]) := by
  have named : Slug.ofPath "My Notes.txt".toList = .ok "my-notes".toList := by decide
  obtain ⟨stem, found, -, ofDot, ofDotDot, places⟩ := post_place_of_named named
  have notDot : Text.words stem ≠ [dot] := fun only => absurd (ofDot.2 only) (by decide)
  have notDotDot : Text.words stem ≠ [dotDot] := fun only => absurd (ofDotDot.2 only) (by decide)
  refine ⟨named, ?_⟩
  intro directory post tree
  have place := (places directory post tree).1
  simp only [if_neg notDot, if_neg notDotDot] at place
  exact place

/-- The own directory can be the one around the output directory. -/
theorem post_above_output_directory :
    Slug.ofPath "...a".toList = .ok dotDot ∧
      ∃ later, (writePost FileTree.disk "out".toList dotDot "page".toList).run.run
          (FileTree.startingAt ["home".toList]) = (.ok (), later) ∧
        later.LeadsTo "out".toList ["home".toList, "out".toList] ∧
        later.entry? ["home".toList, indexFile] = some (.file (postBytes "page".toList)) :=
  ⟨by decide, _, rfl, rfl, rfl⟩

end PostMarkup.Command
