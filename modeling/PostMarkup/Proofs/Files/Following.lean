import PostMarkup.Proofs.Files.Growth
import PostMarkup.Proofs.Text.Splitting

/-!
Where paths lead. The steps of a name below a directory are the steps of the directory and then the
name, and they lead wherever the name leads from the place of the directory. A tree in which directories
have been made leads the same ways. A directory with such a name can be made inside one that is there
unless something else has the name.
-/

namespace PostMarkup

namespace Path

variable {directory name : Text}

theorem steps_append_slash (front back : Text) :
    steps (front ++ '/' :: back) = steps front ++ steps back := by
  have cut : (front ++ '/' :: back).splitOn '/' = front.splitOn '/' ++ back.splitOn '/' :=
    List.splitOnP_append_cons front back (beq_self_eq_true '/')
  rw [steps, cut, List.filter_append, steps, steps]

theorem steps_of_name (filled : name ≠ []) (unslashed : '/' ∉ name) : steps name = [name] := by
  have whole : name.splitOn '/' = [name] := by
    apply List.splitOnP_eq_singleton
    intro c held
    apply beq_eq_false_iff_ne.2
    intro same
    exact unslashed (same ▸ held)
  rw [steps, whole, List.filter_cons_of_pos (by simpa using filled), List.filter_nil]

theorem steps_join (directory name : Text) :
    steps (join directory name) = steps directory ++ steps name := by
  unfold join
  split
  · rename_i bare
    rcases bare with empty | slash
    · rw [empty]
      rfl
    · obtain ⟨front, rfl⟩ := List.getLast?_eq_some_iff.1 slash
      rw [List.append_assoc, List.singleton_append, steps_append_slash, steps_append_slash]
      have nothing : steps [] = [] := rfl
      rw [nothing, List.append_nil]
  · exact steps_append_slash directory name

theorem exists_before_join (directory name : Text) : ∃ before, join directory name = before ++ name := by
  unfold join
  split
  · exact ⟨directory, rfl⟩
  · exact ⟨directory ++ ['/'], (List.append_assoc directory ['/'] name).symm⟩

theorem byte_length_le_join (directory name : Text) :
    Text.byteLength directory ≤ Text.byteLength (join directory name) := by
  unfold join
  split
  · rw [Text.byte_length_append]
    exact Nat.le_add_right _ _
  · rw [Text.byte_length_append]
    exact Nat.le_add_right _ _

theorem is_absolute_join (unslashed : '/' ∉ name) :
    isAbsolute (join directory name) = isAbsolute directory := by
  cases directory with
  | nil =>
      cases name with
      | nil => rfl
      | cons c name =>
          have other : c ≠ '/' := by
            intro same
            exact unslashed (same ▸ List.mem_cons_self)
          simp [join, isAbsolute, other]
  | cons c directory =>
      unfold join isAbsolute
      split <;> rfl

end Path

namespace FileTree

open PostMarkup.Path (dot dotDot)
open Text (byteLength)

variable {tree later : FileTree} {location reached : List Text} {step path : Text}

def origin (tree : FileTree) (path : Text) : List Text :=
  if Path.isAbsolute path then [] else tree.start

def LeadsTo (tree : FileTree) (path : Text) (location : List Text) : Prop :=
  tree.follow (tree.origin path) (Path.steps path) = .ok location

def stepFrom (location : List Text) (step : Text) : List Text :=
  if step = dot then location
  else if step = dotDot then location.dropLast
  else location ++ [step]

theorem start_of_ok_iff :
    tree.startOf path = .ok location ↔
      path ≠ [] ∧ byteLength path < 4096 ∧ location = tree.origin path := by
  unfold startOf origin
  constructor
  · intro started
    split at started
    · cases started
    · rename_i filled
      split at started
      · cases started
      · rename_i short
        refine ⟨filled, Nat.lt_of_not_le short, ?_⟩
        split at started
        · rename_i absolute
          cases started
          exact (if_pos absolute).symm
        · rename_i relative
          cases started
          exact (if_neg relative).symm
  · intro parts
    rcases parts with ⟨filled, short, rfl⟩
    rw [if_neg filled, if_neg (Nat.not_le.2 short)]
    split
    · rfl
    · rfl

theorem require_directory_ok_iff {passed : Unit} :
    tree.requireDirectory location = .ok passed ↔ tree.entry? location = some .directory := by
  unfold requireDirectory
  constructor
  · intro passes
    split at passes
    · cases passes
    · cases passes
    · assumption
  · intro there
    rw [there]

/-- Dots are short, so that the length of a step can be judged before its kind. -/
theorem follow_cons (tree : FileTree) (location : List Text) (step : Text) (rest : List Text) :
    tree.follow location (step :: rest) =
      tree.requireDirectory location >>= fun _ =>
        if 255 < byteLength step then .error .nameTooLong
        else tree.follow (stepFrom location step) rest := by
  have shortDot : ¬ 255 < byteLength dot := by decide
  have shortDots : ¬ 255 < byteLength dotDot := by decide
  unfold stepFrom
  rw [follow]
  by_cases here : step = dot
  · subst here
    simp only [if_pos, if_neg shortDot]
  · by_cases above : step = dotDot
    · subst above
      simp only [if_neg here, if_pos, if_neg shortDots]
    · simp only [if_neg here, if_neg above]

theorem follow_cons_ok_iff {rest : List Text} :
    tree.follow location (step :: rest) = .ok reached ↔
      tree.entry? location = some .directory ∧ byteLength step ≤ 255 ∧
        tree.follow (stepFrom location step) rest = .ok reached := by
  rw [follow_cons, Outcome.bind_ok_iff]
  simp only [require_directory_ok_iff]
  constructor
  · intro walked
    rcases walked with ⟨-, there, walked⟩
    split at walked
    · cases walked
    · rename_i short
      exact ⟨there, Nat.le_of_not_lt short, walked⟩
  · intro walked
    rcases walked with ⟨there, short, walked⟩
    rw [← Nat.not_lt] at short
    exact ⟨(), there, (if_neg short).trans walked⟩

theorem follow_append_ok_iff {front back : List Text} :
    tree.follow location (front ++ back) = .ok reached ↔
      ∃ between, tree.follow location front = .ok between ∧
        tree.follow between back = .ok reached := by
  induction front generalizing location with
  | nil =>
      constructor
      · intro walked
        exact ⟨location, rfl, walked⟩
      · intro parts
        rcases parts with ⟨between, same, walked⟩
        cases same
        exact walked
  | cons step front induction =>
      rw [List.cons_append]
      simp only [follow_cons_ok_iff, induction]
      constructor
      · intro walked
        rcases walked with ⟨there, short, between, first, second⟩
        exact ⟨between, ⟨there, short, first⟩, second⟩
      · intro parts
        rcases parts with ⟨between, ⟨there, short, first⟩, second⟩
        exact ⟨there, short, between, first, second⟩

/-- A tree that still has all directories leads the same ways. -/
theorem follow_kept (kept : ∀ place, tree.entry? place = some .directory →
      later.entry? place = some .directory) {steps : List Text}
    (walked : tree.follow location steps = .ok reached) :
    later.follow location steps = .ok reached := by
  induction steps generalizing location with
  | nil => exact walked
  | cons step steps induction =>
      obtain ⟨there, short, rest⟩ := follow_cons_ok_iff.1 walked
      exact follow_cons_ok_iff.2 ⟨kept location there, short, induction rest⟩

theorem locate_kept (start : later.start = tree.start)
    (kept : ∀ place, tree.entry? place = some .directory → later.entry? place = some .directory)
    (located : tree.locate path = .ok location) : later.locate path = .ok location := by
  obtain ⟨first, started, walked⟩ := Outcome.bind_ok_iff.1 located
  have startedLater : later.startOf path = .ok first := by
    unfold startOf at started ⊢
    rw [start]
    exact started
  exact Outcome.bind_ok_iff.2 ⟨first, startedLater, follow_kept kept walked⟩

/-- A file takes the place of no directory, so that the path to it still leads there. -/
theorem writes_of_with_bytes {before : FileTree} {bytes : ByteArray} (grows : Grows before tree)
    (wrote : tree.withBytes path bytes = .ok later) :
    ∃ location, later.locate path = .ok location ∧ Writes before later location bytes := by
  obtain ⟨location, located, free, rfl⟩ := with_bytes_ok_iff.1 wrote
  refine ⟨location, ?_, grows.write bytes free⟩
  refine locate_kept ?_ ?_ located
  · rfl
  · exact fun place there => directory_kept_put bytes free there

theorem origin_join (directory : Text) {name : Text} (unslashed : '/' ∉ name) :
    tree.origin (Path.join directory name) = tree.origin directory := by
  unfold origin
  rw [Path.is_absolute_join unslashed]

theorem Grows.leads_to (grows : Grows tree later) (leads : tree.LeadsTo path location) :
    later.LeadsTo path location := by
  unfold LeadsTo origin
  rw [grows.start]
  exact follow_kept (fun place there => grows.directory_kept there) leads

theorem run_make_directory (path : Text) (tree : FileTree) :
    (disk.makeDirectory path).run tree =
      match tree.withDirectory path with
      | .ok changed => (.ok (), changed)
      | .error fault => (.error fault, tree) := rfl

theorem run_write (path text : Text) (tree : FileTree) :
    (disk.write path text).run tree =
      match tree.withBytes path (String.ofList text).toUTF8 with
      | .ok changed => (.ok (), changed)
      | .error fault => (.error fault, tree) := rfl

theorem is_directory_at_of_locate (located : tree.locate path = .ok location)
    (there : tree.entry? location = some .directory) : tree.isDirectoryAt path = true := by
  have passes : tree.requireDirectory location = .ok () := require_directory_ok_iff.2 there
  unfold isDirectoryAt
  simp only [located, passes]

/-- The directories around a new one are not looked at unless it lacks a place. -/
theorem run_make_directories {made : Except DiskFault Unit} {grown : FileTree}
    (run : (disk.makeDirectory path).run tree = (made, grown)) (placed : made ≠ .error .notFound) :
    (disk.makeDirectories path).run tree = (disk.settle path made).run grown := by
  unfold Disk.makeDirectories
  cases Path.parents path with
  | nil =>
      rw [Disk.makeBelow, StateT.run_bind, run]
      dsimp only [Bind.bind, Id.run]
      split
      · exact absurd rfl placed
      · rfl
  | cons parent rest =>
      rw [Disk.makeBelow, StateT.run_bind, run]
      dsimp only [Bind.bind, Id.run]
      split
      · exact absurd rfl placed
      · rfl

theorem run_settle_of_directory (there : tree.isDirectoryAt path = true) (fault : DiskFault) :
    (disk.settle path (.error fault)).run tree = (.ok (), tree) := by
  have looked : (disk.isDirectory path).run tree = (true, tree) := by
    rw [← there]
    rfl
  rw [Disk.settle, StateT.run_bind, looked]
  rfl

section Named

variable {directory name : Text} (filled : name ≠ []) (unslashed : '/' ∉ name)

include filled unslashed

theorem leads_to_join_iff :
    tree.LeadsTo (Path.join directory name) location ↔
      ∃ out, tree.LeadsTo directory out ∧ tree.entry? out = some .directory ∧
        byteLength name ≤ 255 ∧ location = stepFrom out name := by
  unfold LeadsTo
  rw [origin_join directory unslashed, Path.steps_join, Path.steps_of_name filled unslashed,
    follow_append_ok_iff]
  simp only [follow_cons_ok_iff]
  constructor
  · intro walked
    rcases walked with ⟨out, reached, there, short, last⟩
    cases last
    exact ⟨out, reached, there, short, rfl⟩
  · intro parts
    rcases parts with ⟨out, reached, there, short, last⟩
    subst last
    exact ⟨out, reached, there, short, rfl⟩

/-- A name that is no slash keeps the path from ending in one. -/
theorem open_steps_join :
    openSteps (Path.join directory name) = Path.steps (Path.join directory name) := by
  obtain ⟨before, whole⟩ := Path.exists_before_join directory name
  unfold openSteps
  rw [if_neg]
  rw [whole, List.getLast?_append_of_ne_nil before filled]
  intro slash
  exact unslashed (List.mem_of_getLast? slash)

theorem get_last_steps_join :
    (Path.steps (Path.join directory name)).getLast? = some name := by
  rw [Path.steps_join, Path.steps_of_name filled unslashed, List.getLast?_concat]

theorem locate_join_iff :
    tree.locate (Path.join directory name) = .ok location ↔
      byteLength (Path.join directory name) < 4096 ∧
        tree.LeadsTo (Path.join directory name) location := by
  have someName : Path.join directory name ≠ [] := by
    obtain ⟨before, whole⟩ := Path.exists_before_join directory name
    rw [whole]
    exact List.append_ne_nil_of_right_ne_nil before filled
  unfold locate LeadsTo
  rw [Outcome.bind_ok_iff, open_steps_join filled unslashed]
  simp only [start_of_ok_iff]
  constructor
  · intro located
    rcases located with ⟨first, ⟨-, short, rfl⟩, walked⟩
    exact ⟨short, walked⟩
  · intro parts
    rcases parts with ⟨short, walked⟩
    exact ⟨_, ⟨someName, short, rfl⟩, walked⟩

variable {out : List Text} (short : byteLength (Path.join directory name) < 4096)
  (narrow : byteLength name ≤ 255) (leads : tree.LeadsTo directory out)
  (there : tree.entry? out = some .directory)

include short narrow leads there

theorem locate_join : tree.locate (Path.join directory name) = .ok (stepFrom out name) :=
  (locate_join_iff filled unslashed).2
    ⟨short, (leads_to_join_iff filled unslashed).2 ⟨out, leads, there, narrow, rfl⟩⟩

theorem with_directory_join_of_absent (ordinary : name ≠ dot ∧ name ≠ dotDot)
    (absent : tree.entry? (stepFrom out name) = none) :
    tree.withDirectory (Path.join directory name) =
      .ok (tree.put (stepFrom out name) .directory) := by
  have located := locate_join filled unslashed short narrow leads there
  obtain ⟨first, started, walked⟩ := Outcome.bind_ok_iff.1 located
  rw [open_steps_join filled unslashed] at walked
  unfold withDirectory
  rw [started, get_last_steps_join filled unslashed]
  simp only [Outcome.ok_bind, if_neg (not_or.2 ordinary), walked, absent]

theorem with_directory_join_of_present (present : tree.entry? (stepFrom out name) = some .directory) :
    tree.withDirectory (Path.join directory name) = .error .alreadyExists := by
  have located := locate_join filled unslashed short narrow leads there
  obtain ⟨first, started, walked⟩ := Outcome.bind_ok_iff.1 located
  rw [open_steps_join filled unslashed] at walked
  unfold withDirectory
  rw [started, get_last_steps_join filled unslashed]
  simp only [Outcome.ok_bind]
  split
  · -- The last step is a dot, and the steps in front of it are those of the directory around.
    obtain ⟨-, -, rfl⟩ := start_of_ok_iff.1 started
    have around : tree.follow (tree.origin directory) (Path.steps directory) = .ok out := leads
    have passes : tree.requireDirectory out = .ok () := require_directory_ok_iff.2 there
    rw [Path.steps_join, Path.steps_of_name filled unslashed, List.dropLast_concat,
      origin_join directory unslashed, around, Outcome.ok_bind, passes, Outcome.ok_bind]
  · simp only [Outcome.ok_bind, walked, present]

/-- The own step can be made a directory, or it is one. -/
def Room (tree : FileTree) (location : List Text) (step : Text) : Prop :=
  tree.entry? (stepFrom location step) = some .directory ∨
    step ≠ dot ∧ step ≠ dotDot ∧ tree.entry? (stepFrom location step) = none

theorem make_directories_join (room : tree.Room out name) :
    ∃ grown, (disk.makeDirectories (Path.join directory name)).run tree = (.ok (), grown) ∧
      grown.entry? (stepFrom out name) = some .directory ∧
      ∀ other, other ≠ stepFrom out name → grown.entry? other = tree.entry? other := by
  rcases room with present | ⟨notDot, notDots, absent⟩
  · have refused := with_directory_join_of_present filled unslashed short narrow leads there present
    have made : (disk.makeDirectory (Path.join directory name)).run tree =
        (.error .alreadyExists, tree) := by
      rw [run_make_directory, refused]
    have settled := run_settle_of_directory (is_directory_at_of_locate
      (locate_join filled unslashed short narrow leads there) present) .alreadyExists
    refine ⟨tree, ?_, present, fun other apart => rfl⟩
    rw [run_make_directories made (by decide), settled]
  · have allowed := with_directory_join_of_absent filled unslashed short narrow leads there
      ⟨notDot, notDots⟩ absent
    have made : (disk.makeDirectory (Path.join directory name)).run tree =
        (.ok (), tree.put (stepFrom out name) .directory) := by
      rw [run_make_directory, allowed]
    refine ⟨tree.put (stepFrom out name) .directory, ?_, ?_, ?_⟩
    · rw [run_make_directories made (by decide)]
      rfl
    · apply entry_put_self
      intro root
      rw [root] at absent
      cases absent
    · intro other apart
      exact entry_put_of_ne tree .directory apart

end Named

end FileTree

end PostMarkup
