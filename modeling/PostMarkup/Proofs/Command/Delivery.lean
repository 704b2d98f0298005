import PostMarkup.Proofs.Command.Options
import PostMarkup.Proofs.Command.Posting

/-!
What a whole run leaves behind. Everything that can be refused comes before the only write, so that a
failed run has made directories at most, unless it is that write which breaks off. A run that writes a
page changes the one file, and what it writes is what the same run prints when it is asked to.
-/

namespace PostMarkup.Command

open FileTree (Grows Honest OnlyGrows Whole Writes)

section Steps

variable {Cause Value Result : Type} {first : ExceptT Failure (StateM FileTree) Value}
  {next : Value → ExceptT Failure (StateM FileTree) Result} {tree later : FileTree}

theorem run_bind_ok_iff {result : Result} :
    (first >>= next).run.run tree = (.ok result, later) ↔
      ∃ value between, first.run.run tree = (.ok value, between) ∧
        (next value).run.run between = (.ok result, later) := by
  rw [run_bind]
  rcases first.run.run tree with ⟨outcome, between⟩
  cases outcome with
  | error cause =>
      constructor
      · intro reached
        cases reached
      · intro parts
        rcases parts with ⟨value, between, same, -⟩
        cases same
  | ok value =>
      constructor
      · intro reached
        exact ⟨value, between, rfl, reached⟩
      · intro parts
        rcases parts with ⟨value, between, same, reached⟩
        cases same
        exact reached

theorem run_in_memory_ok_iff {failure : Cause → Failure} {value : Except Cause Value} {result : Value} :
    (inMemory failure value : ExceptT Failure (StateM FileTree) Value).run.run tree =
        (.ok result, later) ↔
      value = .ok result ∧ later = tree := by
  rw [run_in_memory, Prod.mk.injEq, Outcome.map_error_ok_iff, eq_comm (a := tree)]

theorem run_bind_error_iff {cause : Failure} :
    (first >>= next).run.run tree = (.error cause, later) ↔
      first.run.run tree = (.error cause, later) ∨
        ∃ value between, first.run.run tree = (.ok value, between) ∧
          (next value).run.run between = (.error cause, later) := by
  rw [run_bind]
  rcases first.run.run tree with ⟨outcome, between⟩
  cases outcome with
  | error earlier =>
      constructor
      · intro failed
        cases failed
        exact Or.inl rfl
      · intro parts
        rcases parts with failed | ⟨value, between, same, -⟩
        · cases failed
          rfl
        · cases same
  | ok value =>
      constructor
      · intro failed
        exact Or.inr ⟨value, between, rfl, failed⟩
      · intro parts
        rcases parts with failed | ⟨value, between, same, failed⟩
        · cases failed
        · cases same
          exact failed

theorem only_grows_bind (start : OnlyGrows first.run) (rest : ∀ value, OnlyGrows (next value).run) :
    OnlyGrows (first >>= next).run := by
  intro tree
  have grows := start tree
  rw [run_bind]
  rcases run : first.run.run tree with ⟨outcome, between⟩
  rw [run] at grows
  cases outcome with
  | error cause => exact grows
  | ok value => exact grows.trans (rest value between)

theorem only_grows_in_memory (failure : Cause → Failure) (value : Except Cause Value) :
    OnlyGrows (inMemory failure value : ExceptT Failure (StateM FileTree) Value).run :=
  fun tree => .refl tree

end Steps

section Honestly

variable {drive : Disk (StateM FileTree)} (honest : Honest drive) {tree later : FileTree}

include honest

theorem run_read_ok {failure : DiskFault → Failure} {path text : Text}
    (read : (onDisk failure (drive.read path)).run.run tree = (.ok text, later)) :
    tree.textAt path = .ok text ∧ later = tree := by
  rw [run_on_disk, Prod.mk.injEq, Outcome.map_error_ok_iff] at read
  rcases read with ⟨read, left⟩
  exact ⟨honest.text path tree text read, left.symm.trans (honest.unread path tree)⟩

theorem only_grows_read (failure : DiskFault → Failure) (path : Text) :
    OnlyGrows (onDisk failure (drive.read path)).run := by
  intro tree
  rw [run_on_disk]
  dsimp only
  rw [honest.unread path tree]
  exact .refl tree

theorem only_grows_render_into (order : Order) (document : Document) (template : Text) :
    OnlyGrows (renderInto drive order document template).run :=
  only_grows_bind (only_grows_read honest _ _) fun _ => only_grows_in_memory _ _

/-- Nothing but the writing of a page may change a file. -/
theorem only_grows_perform (order : Order)
    (unwritten : ∀ template directory, order.job ≠ .write template directory) :
    OnlyGrows (perform drive order).run := by
  refine only_grows_bind (only_grows_read honest _ _) ?_
  intro source
  refine only_grows_bind (only_grows_in_memory _ _) ?_
  intro document
  rcases order with ⟨file, options, job⟩
  cases job with
  | dumpSections => exact fun tree => .refl tree
  | print template => exact only_grows_render_into honest _ _ _
  | write template directory => exact absurd rfl (unwritten template directory)

end Honestly

/-- The page that an order asks for, made from the texts that its two files have. -/
def PageOf (tree : FileTree) (order : Order) (template post : Text) : Prop :=
  ∃ source document page, tree.textAt order.file = .ok source ∧
    Document.ofText source = .ok document ∧ tree.textAt template = .ok page ∧
    document.render order.options page = .ok post

section Pages

variable {drive : Disk (StateM FileTree)} {tree later : FileTree} {order : Order}
  {template directory post printed : Text}

/-- Writing a page is printing it, and then naming and writing what would have been printed. -/
theorem perform_write_eq (asked : order.job = .write template directory) :
    perform drive order = perform drive { order with job := .print template } >>= fun post =>
      inMemory .postUnnamed (Slug.ofPath order.file) >>= fun name =>
        writePost drive directory name post >>= fun _ => pure [] := by
  rcases order with ⟨file, options, job⟩
  cases asked
  simp only [perform, bind_assoc, renderInto]

theorem perform_print_ok (honest : Honest drive)
    (done : (perform drive { order with job := .print template }).run.run tree = (.ok post, later)) :
    PageOf tree order template post ∧ later = tree := by
  dsimp only [perform, renderInto] at done
  obtain ⟨source, first, readSource, fromSource⟩ := run_bind_ok_iff.1 done
  obtain ⟨sourceThere, rfl⟩ := run_read_ok honest readSource
  obtain ⟨document, second, checked, fromDocument⟩ := run_bind_ok_iff.1 fromSource
  obtain ⟨parsed, rfl⟩ := run_in_memory_ok_iff.1 checked
  obtain ⟨page, third, readPage, fromPage⟩ := run_bind_ok_iff.1 fromDocument
  obtain ⟨pageThere, rfl⟩ := run_read_ok honest readPage
  obtain ⟨rendered, rfl⟩ := run_in_memory_ok_iff.1 fromPage
  exact ⟨⟨source, document, page, sourceThere, parsed, pageThere, rendered⟩, rfl⟩

theorem perform_write_ok (honest : Honest drive) (asked : order.job = .write template directory)
    (done : (perform drive order).run.run tree = (.ok printed, later)) :
    printed = [] ∧ ∃ post name location, Slug.ofPath order.file = .ok name ∧
      PageOf tree order template post ∧
      (perform drive { order with job := .print template }).run.run tree = (.ok post, tree) ∧
      later.locate (postPath directory name) = .ok location ∧
      Writes tree later location (postBytes post) := by
  rw [perform_write_eq asked] at done
  obtain ⟨post, first, print, fromPost⟩ := run_bind_ok_iff.1 done
  obtain ⟨page, rfl⟩ := perform_print_ok honest print
  obtain ⟨name, second, checked, fromName⟩ := run_bind_ok_iff.1 fromPost
  obtain ⟨named, rfl⟩ := run_in_memory_ok_iff.1 checked
  obtain ⟨_, third, written, ended⟩ := run_bind_ok_iff.1 fromName
  cases ended
  have spec := write_post_at_path honest directory name post second
  rw [written] at spec
  obtain ⟨location, located, wrote⟩ := spec
  exact ⟨rfl, post, name, location, named, page, print, located, wrote⟩

/-- Everything that can be refused comes before the only write, so when that write does not break off, no
file has changed. -/
theorem perform_write_error (honest : Honest drive) (asked : order.job = .write template directory)
    {cause : Failure} (failed : (perform drive order).run.run tree = (.error cause, later)) :
    Grows tree later ∨ ¬ Whole drive ∧ ∃ post name location fault,
      Slug.ofPath order.file = .ok name ∧ PageOf tree order template post ∧
        cause = .postUnwritten (postPath directory name) fault ∧
        later.locate (postPath directory name) = .ok location ∧
        ∃ part rest, part ++ rest = postBytes post ∧ Writes tree later location part := by
  have printGrows := only_grows_perform honest { order with job := .print template } nofun tree
  rw [perform_write_eq asked] at failed
  rcases run_bind_error_iff.1 failed with unprinted | ⟨post, first, print, fromPost⟩
  · rw [unprinted] at printGrows
    exact Or.inl printGrows
  obtain ⟨page, rfl⟩ := perform_print_ok honest print
  rcases run_bind_error_iff.1 fromPost with unnamed | ⟨name, second, checked, fromName⟩
  · have nameGrows := only_grows_in_memory .postUnnamed (Slug.ofPath order.file) first
    rw [unnamed] at nameGrows
    exact Or.inl nameGrows
  obtain ⟨named, rfl⟩ := run_in_memory_ok_iff.1 checked
  rcases run_bind_error_iff.1 fromName with unwritten | ⟨_, third, written, ended⟩
  · have spec := write_post_at_path honest directory name post second
    rw [unwritten] at spec
    rcases spec with grows | ⟨broken, fault, location, part, rest, same, cut, located, wrote⟩
    · exact Or.inl grows
    · refine Or.inr ⟨broken, post, name, location, fault, named, page, same, located, ?_⟩
      exact ⟨part, rest, cut, wrote⟩
  · cases ended

theorem run_of_order {arguments : List Text} (tree : FileTree)
    (accepted : Request.ofArguments arguments = some (.order order)) :
    (run drive arguments).run tree =
      match (perform drive order).run.run tree with
      | (.error cause, later) => (.failure cause, later)
      | (.ok printed, later) => (.success printed, later) := by
  unfold run
  rw [accepted]
  dsimp only
  rw [StateT.run_bind]
  rcases (perform drive order).run.run tree with ⟨outcome, later⟩
  cases outcome with
  | error cause => rfl
  | ok printed => rfl

/-- A run refuses its arguments, answers a question or carries out an order, and only an order touches the
files. -/
theorem run_cases {arguments : List Text} {outcome : Outcome}
    (ran : (run drive arguments).run tree = (outcome, later)) :
    (outcome = .refusal ∧ later = tree) ∨
      ((∃ argument ∈ arguments, Argument.IsQuestion argument) ∧ later = tree ∧
        (outcome = .success release ∨ outcome = .success usage)) ∨
      ∃ order, Request.ofArguments arguments = some (.order order) ∧
        ((∃ cause, outcome = .failure cause ∧
            (perform drive order).run.run tree = (.error cause, later)) ∨
          ∃ printed, outcome = .success printed ∧
            (perform drive order).run.run tree = (.ok printed, later)) := by
  cases asked : Request.ofArguments arguments with
  | none =>
      rw [run, asked] at ran
      cases ran
      exact Or.inl ⟨rfl, rfl⟩
  | some request =>
      right
      cases request with
      | version =>
          have question := Request.exists_question asked nofun
          rw [run, asked] at ran
          cases ran
          exact Or.inl ⟨question, rfl, Or.inl rfl⟩
      | help =>
          have question := Request.exists_question asked nofun
          rw [run, asked] at ran
          cases ran
          exact Or.inl ⟨question, rfl, Or.inr rfl⟩
      | order order =>
          rw [run_of_order tree asked] at ran
          refine Or.inr ⟨order, rfl, ?_⟩
          rcases performed : (perform drive order).run.run tree with ⟨result, left⟩
          rw [performed] at ran
          cases result with
          | error cause =>
              cases ran
              exact Or.inl ⟨cause, rfl, rfl⟩
          | ok printed =>
              cases ran
              exact Or.inr ⟨printed, rfl, rfl⟩

end Pages

structure Delivery where
  order : Order
  template : Text
  directory : Text
  name : Text
  post : Text
  location : List Text

/-- The page is the one that the arguments ask for, made from the files of the tree, and its path leads to
its place in the later tree. -/
structure Delivery.Due (page : Delivery) (arguments : List Text) (tree later : FileTree) : Prop where
  accepted : Request.ofArguments arguments = some (.order page.order)
  asks : Asks arguments page.order page.template page.directory
  named : Slug.ofPath page.order.file = .ok page.name
  made : PageOf tree page.order page.template page.post
  located : later.locate (postPath page.directory page.name) = .ok page.location

/-- The writing of the page has broken off behind a beginning of it, and that is what the run reports. -/
structure Delivery.BrokenOff (page : Delivery) (outcome : Outcome) (tree later : FileTree) : Prop where
  reported : ∃ fault, outcome = .failure (.postUnwritten (postPath page.directory page.name) fault)
  begun : ∃ part rest, part ++ rest = postBytes page.post ∧ Writes tree later page.location part

theorem PageOf.unique {tree : FileTree} {order : Order} {template post other : Text}
    (first : PageOf tree order template post) (second : PageOf tree order template other) :
    post = other := by
  obtain ⟨source, document, page, sourceThere, parsed, pageThere, rendered⟩ := first
  obtain ⟨_, _, _, again, parsedAgain, pageAgain, renderedAgain⟩ := second
  cases sourceThere.symm.trans again
  cases parsed.symm.trans parsedAgain
  cases pageThere.symm.trans pageAgain
  exact Except.ok.inj (rendered.symm.trans renderedAgain)

/-- The arguments and the files that they name settle which page is due. -/
theorem Delivery.Due.unique {page other : Delivery} {arguments : List Text} {tree later last : FileTree}
    (first : page.Due arguments tree later) (second : other.Due arguments tree last) :
    page.post = other.post := by
  rcases page with ⟨order, template, directory, name, post, location⟩
  rcases other with ⟨_, _, _, _, another, _⟩
  cases first.accepted.symm.trans second.accepted
  cases first.asks.job.symm.trans second.asks.job
  exact first.made.unique second.made

section Runs

variable {drive : Disk (StateM FileTree)} (honest : Honest drive) {tree later : FileTree}
  {arguments : List Text} {outcome : Outcome}
  (ran : (run drive arguments).run tree = (outcome, later))

include honest ran

/-- Files are as they were after a run that fails, whatever its arguments and whatever the disk refuses.
The exception is the file of the page when the writing of it breaks off. -/
theorem kept_by_failed_run (failed : outcome.code ≠ 0) :
    Grows tree later ∨ ¬ Whole drive ∧
      ∃ page : Delivery, page.Due arguments tree later ∧ page.BrokenOff outcome tree later := by
  rcases run_cases ran with ⟨-, rfl⟩ | ⟨-, rfl, -⟩ | ⟨order, asked, ⟨cause, rfl, performed⟩ | succeeded⟩
  · exact Or.inl (.refl later)
  · exact Or.inl (.refl later)
  · by_cases written : ∃ template directory, order.job = .write template directory
    · obtain ⟨template, directory, job⟩ := written
      rcases perform_write_error honest job performed with
        grows | ⟨broken, post, name, location, fault, named, page, same, located, begun⟩
      · exact Or.inl grows
      · have asks := Request.asks_of_accepted asked job
        refine Or.inr ⟨broken, ⟨order, template, directory, name, post, location⟩,
          ⟨asked, asks, named, page, located⟩, ?_⟩
        exact ⟨⟨fault, congrArg Outcome.failure same⟩, begun⟩
    · have grows := only_grows_perform honest order
        (fun template directory job => written ⟨template, directory, job⟩) tree
      rw [performed] at grows
      exact Or.inl grows
  · obtain ⟨printed, rfl, -⟩ := succeeded
    exact absurd rfl failed

/-- A run that succeeds without the two switches answers a question, or it has written the page, and with
the switch for printing it would have printed it. -/
theorem page_of_succeeded_run (unprinted : Switch.stdout.argument ∉ arguments)
    (undumped : Switch.dumpSections.argument ∉ arguments) (succeeded : outcome.code = 0) :
    (∃ argument ∈ arguments, Argument.IsQuestion argument) ∧ later = tree ∧
        (outcome = .success release ∨ outcome = .success usage) ∨
      outcome = .success [] ∧ ∃ page : Delivery, page.Due arguments tree later ∧
        Writes tree later page.location (postBytes page.post) ∧
        ∀ printing, Added Switch.stdout.argument arguments printing →
          (run drive printing).run tree = (.success page.post, tree) := by
  rcases run_cases ran with ⟨rfl, -⟩ | question | ⟨order, asked, ⟨cause, rfl, -⟩ | ⟨printed, rfl, performed⟩⟩
  · have nonzero : (2 : UInt32) ≠ 0 := by decide
    exact absurd succeeded nonzero
  · exact Or.inl question
  · have nonzero : (1 : UInt32) ≠ 0 := by decide
    exact absurd succeeded nonzero
  · obtain ⟨template, directory, job, printing⟩ :=
      Request.order_printed_of_written asked unprinted undumped
    obtain ⟨rfl, post, name, location, named, page, print, located, wrote⟩ :=
      perform_write_ok honest job performed
    have asks := Request.asks_of_accepted asked job
    refine Or.inr ⟨rfl, ⟨order, template, directory, name, post, location⟩,
      ⟨asked, asks, named, page, located⟩, wrote, ?_⟩
    intro longer added
    rw [run_of_order tree (printing longer added), print]

end Runs

/-- A run that fails, whatever its arguments and whatever the disk refuses, has made directories at most:
no file has changed and none has come up. Only when the writing of the page breaks off, the file of the page
holds a beginning of it. A run that succeeds without the switches for printing and for the sections either
answers a question and leaves the files alone, or it has written one file. That file lies at the path made
of the output directory, the name of the post and the name of the index, and it holds the page that the
arguments ask for. Wherever the switch for printing is added to the arguments, the page is what is printed,
and nothing happens to the files. -/
theorem page_written_as_printed {drive : Disk (StateM FileTree)} (honest : Honest drive)
    {arguments : List Text} {tree later : FileTree} {outcome : Outcome}
    (ran : (run drive arguments).run tree = (outcome, later)) :
    (outcome.code ≠ 0 →
      Grows tree later ∨ ¬ Whole drive ∧
        ∃ page : Delivery, page.Due arguments tree later ∧ page.BrokenOff outcome tree later) ∧
    (Switch.stdout.argument ∉ arguments → Switch.dumpSections.argument ∉ arguments → outcome.code = 0 →
      (∃ argument ∈ arguments, Argument.IsQuestion argument) ∧ later = tree ∧
          (outcome = .success release ∨ outcome = .success usage) ∨
        outcome = .success [] ∧ ∃ page : Delivery, page.Due arguments tree later ∧
          Writes tree later page.location (postBytes page.post) ∧
          ∀ printing, Added Switch.stdout.argument arguments printing →
            (run drive printing).run tree = (.success page.post, tree)) :=
  ⟨kept_by_failed_run honest ran, page_of_succeeded_run honest ran⟩

/-- Three runs on one letter: its page is written, a file in the place of the output directory refuses it, and
a full disk breaks off the write. -/
theorem page_written_as_printed_of_short_letter :
    let tree := ((FileTree.startingAt ["home".toList]).addFile "a.b".toList "<c>x</c>".toUTF8).addFile
      "t".toList "$c$!".toUTF8
    let arguments :=
      ["-f".toList, "a.b".toList, "-tt".toList, "--strict".toList, "--max-macro-depth=3".toList]
    let place := ["home".toList, "a".toList, indexFile]
    let written := (run FileTree.disk arguments).run tree
    let printed := (run FileTree.disk (Switch.stdout.argument :: arguments)).run tree
    let blocked := (run FileTree.disk (arguments ++ ["-ot".toList])).run tree
    let broken := (run FileTree.fullDisk arguments).run tree
    written.1 = .success [] ∧ Writes tree written.2 place (postBytes "x!".toList) ∧
      printed = (.success "x!".toList, tree) ∧
      (∃ order template directory, Asks arguments order template directory ∧
        order.options.unbound = .refuse ∧ Numeral ['3'] order.options.depthLimit) ∧
      blocked.1.code ≠ 0 ∧ Grows tree blocked.2 ∧
      broken.1.code ≠ 0 ∧
      ∃ part rest, part ++ rest = postBytes "x!".toList ∧ Writes tree broken.2 place part := by
  intro tree arguments place written printed blocked broken
  have wroteRun : (run FileTree.disk arguments).run tree = (written.1, written.2) := rfl
  have blockedRun : (run FileTree.disk (arguments ++ ["-ot".toList])).run tree =
      (blocked.1, blocked.2) := rfl
  have brokenRun : (run FileTree.fullDisk arguments).run tree = (broken.1, broken.2) := rfl
  -- What is due has one path, so that its place can be looked up in the trees that the runs leave.
  have path : ∀ (page : Delivery) (later : FileTree), page.Due arguments tree later →
      later.locate (postPath ['.'] "a".toList) = .ok page.location := by
    intro page later due
    have read : Request.ofArguments arguments =
        some (.order ⟨"a.b".toList, ⟨.refuse, 3⟩, .write "t".toList ['.']⟩) := rfl
    have own : Slug.ofPath "a.b".toList = .ok "a".toList := by decide
    rcases page with ⟨order, template, directory, name, post, location⟩
    cases due.accepted.symm.trans read
    cases due.asks.job
    cases own.symm.trans due.named
    exact due.located
  have unasked : ¬ ∃ argument ∈ arguments, Argument.IsQuestion argument := by decide
  have succeeded : written.1.code = 0 := by decide +kernel
  obtain ⟨done, page, due, wrote, prints⟩ :=
    ((page_written_as_printed FileTree.honest_disk wroteRun).2 (by decide) (by decide) succeeded
      ).resolve_left fun question => unasked question.1
  have same : printed = (.success page.post, tree) := prints _ .here
  have shown : printed.1.stdout = "x!".toList := by decide +kernel
  have post : page.post = "x!".toList := by
    rw [← shown, same]
    rfl
  have there : (written.2.locate (postPath ['.'] "a".toList)).toOption = some place := by decide +kernel
  rw [path page written.2 due] at there
  rw [post] at same wrote
  rw [Option.some.inj there] at wrote
  have strict : page.order.options.unbound = .refuse := due.asks.unbound.trans (if_pos (by decide))
  have given : Given .depthLimit ['3'] arguments :=
    .behindValue rfl (.behind nofun nofun (.behind nofun nofun (.joined rfl)))
  have deep := due.asks.limitGiven ['3'] given
  have refused : blocked.1.code ≠ 0 := by decide +kernel
  have failed : broken.1.code ≠ 0 := by decide +kernel
  have grows := ((page_written_as_printed FileTree.honest_disk blockedRun).1 refused).resolve_right
    fun breaks => breaks.1 FileTree.whole_disk
  refine ⟨done, wrote, same, ⟨page.order, _, _, due.asks, strict, deep⟩, refused, grows, failed, ?_⟩
  have opened : broken.2.fileSize? place = some 0 := by decide +kernel
  rcases (page_written_as_printed FileTree.honest_full_disk brokenRun).1 failed with
    unchanged | ⟨-, lost, lostDue, off⟩
  · rw [unchanged.file_size place] at opened
    cases opened
  · have left : (broken.2.locate (postPath ['.'] "a".toList)).toOption = some place := by decide +kernel
    rw [path lost broken.2 lostDue] at left
    rw [← post, due.unique lostDue, ← Option.some.inj left]
    exact off.begun

/-- A failed run can lose the page of an earlier one, since a full disk breaks off the write behind the
opening of the file. A run that succeeds can leave no page, since it was asked for the version. -/
theorem page_lost_by_broken_write_and_none_for_question :
    let letter := ((FileTree.startingAt ["home".toList]).addFile "a.b".toList "<c>x</c>".toUTF8).addFile
      "t".toList "$c$!".toUTF8
    let posted := letter.addFile "a/index.html".toList "old".toUTF8
    let arguments := ["-f".toList, "a.b".toList, "-t".toList, "t".toList]
    let place := ["home".toList, "a".toList, indexFile]
    let broken := (run FileTree.fullDisk arguments).run posted
    let told := (run FileTree.disk (arguments ++ ["-V".toList])).run letter
    (Honest FileTree.fullDisk ∧ broken.1.code ≠ 0 ∧ ¬ Grows posted broken.2 ∧
      posted.fileSize? place = some 3 ∧ broken.2.fileSize? place = some 0) ∧
    Switch.stdout.argument ∉ arguments ++ ["-V".toList] ∧
      Switch.dumpSections.argument ∉ arguments ++ ["-V".toList] ∧
      told.1 = .success release ∧ told.2 = letter ∧ letter.fileSize? place = none := by
  intro letter posted arguments place broken told
  have before : posted.fileSize? place = some 3 := by decide +kernel
  have after : broken.2.fileSize? place = some 0 := by decide +kernel
  have lost : ¬ Grows posted broken.2 := by
    intro grows
    rw [grows.file_size place, before] at after
    cases after
  refine ⟨⟨FileTree.honest_full_disk, by decide +kernel, lost, before, after⟩, ?_⟩
  exact ⟨by decide, by decide, rfl, rfl, rfl⟩

end PostMarkup.Command
