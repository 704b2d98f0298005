import PostMarkup.Proofs.Outcome
import PostMarkup.Proofs.Scan.Grammar

/-!
Documents in which a name is given to more than one block. The body of a block reaches to the last
closing tag of its name, so blocks of one name run together, and a walk through the body has to notice
it. The walk overlooks one shape, two blocks of a name of which the second has no body: its opening
tag ends the body, and a tag that ends a text is no opening tag.
-/

namespace PostMarkup

open Text (byteLength)

namespace Blocks

section Reopening

variable {blocks rest : Blocks} {name : Text}

theorem reopens_from_other {block : Block} {gap text : Text} {closed : Bool} {depth : Nat}
    (flat : block.Flat) (gapFree : '<' ∉ gap) (valid : IsTagName name) (other : name ≠ block.name) :
    reopensFrom name depth closed (block.written ++ (gap ++ text)) =
      reopensFrom name depth closed text := by
  have parts : block.written ++ (gap ++ text) =
      block.opening ++ (block.body ++ (closingTag block.name ++ (gap ++ text))) := by
    simp [Block.written]
  rw [parts, reopens_from_tag valid flat.toTagged.opening_is_tag
      (Block.closing_not_prefix_opening flat.word),
    reopens_from_free valid flat.body,
    reopens_from_uncut valid flat.word.isTagName.closing_is_tag ?_ OpeningTag.cut_closing,
    reopens_from_free valid gapFree]
  · rwa [valid.closing_prefix_closing_iff flat.word.isTagName]
  · intro tag cut
    obtain ⟨tagValid, -, whole⟩ := OpeningTag.cut_eq_some_iff.1 cut
    have same := OpeningTag.eq_of_written_append (flat.toTagged.valid []) tagValid whole
    rw [← same.1]
    exact Ne.symm other

theorem reopens_from_written (flat : Flat blocks) (valid : IsTagName name)
    (absent : name ∉ names blocks) {text : Text} {closed : Bool} {depth : Nat} :
    reopensFrom name depth closed (written blocks ++ text) =
      reopensFrom name depth closed text := by
  induction blocks with
  | nil => rfl
  | cons part blocks induction =>
      rcases part with ⟨block, gap⟩
      obtain ⟨blockFlat, gapFree⟩ := flat (block, gap) List.mem_cons_self
      simp only [names, List.map_cons, List.mem_cons, not_or] at absent
      have later := induction (flat.sublist (List.sublist_cons_self _ _)) absent.2
      rw [written, List.append_assoc, List.append_assoc,
        reopens_from_other blockFlat gapFree valid absent.1, later]

/-- After the name has been closed, an opening tag of it with anything behind it is noticed. -/
theorem reopens_from_opening_closed {block : Block} (flat : block.Flat) {after : Text}
    (filled : after ≠ []) : reopensFrom block.name 0 true (block.opening ++ after) = true := by
  rw [reopens_from_opening (Block.closing_not_prefix_opening flat.word)
    (flat.toTagged.cut_opening filled), Bool.true_or]

/-- An opening tag that ends the text is not noticed. -/
theorem reopens_from_opening_last {block : Block} (flat : block.Flat) :
    reopensFrom block.name 0 true block.opening = false := by
  have uncut : OpeningTag.cut? (block.opening ++ []) = none := by
    cases cut : OpeningTag.cut? (block.opening ++ []) with
    | none => rfl
    | some tag =>
        obtain ⟨tagValid, filled, whole⟩ := OpeningTag.cut_eq_some_iff.1 cut
        have same := OpeningTag.eq_of_written_append (flat.toTagged.valid []) tagValid whole
        exact absurd same.2.2.symm filled
  have walk : reopensFrom block.name 0 true (block.opening ++ []) =
      reopensFrom block.name 0 true [] :=
    reopens_from_uncut flat.word.isTagName flat.toTagged.opening_is_tag
      (Block.closing_not_prefix_opening flat.word) uncut
  rw [List.append_nil, reopens_from_nil] at walk
  exact walk

/-- Blocks of the name between the first and the last one are always noticed. -/
theorem reopens_from_member (flat : Flat blocks) (valid : IsTagName name)
    (member : name ∈ names blocks) {text : Text} :
    reopensFrom name 0 true (written blocks ++ text) = true := by
  induction blocks with
  | nil => cases member
  | cons part blocks induction =>
      rcases part with ⟨block, gap⟩
      obtain ⟨blockFlat, gapFree⟩ := flat (block, gap) List.mem_cons_self
      by_cases same : name = block.name
      · subst same
        rw [written, Block.written, List.append_assoc, List.append_assoc, List.append_assoc]
        exact reopens_from_opening_closed blockFlat (by simp [closingTag])
      · have later : name ∈ names blocks := (List.mem_cons.1 member).resolve_left same
        rw [written, List.append_assoc, List.append_assoc,
          reopens_from_other blockFlat gapFree valid same]
        exact induction (flat.sublist (List.sublist_cons_self _ _)) later

theorem reopens_free (valid : IsTagName name) {body : Text} (free : '<' ∉ body) :
    reopens name body = false := by
  have walk : reopensFrom name 0 false (body ++ []) = reopensFrom name 0 false [] :=
    reopens_from_free valid free
  rw [List.append_nil, reopens_from_nil] at walk
  exact walk

/-- What the walk through the bodies that ran together overlooks. -/
theorem reopens_merged {first last : Block} {gap : Text} {between : Blocks} (firstFlat : first.Flat)
    (lastFlat : last.Flat) (gapFree : '<' ∉ gap) (betweenFlat : Flat between)
    (same : last.name = first.name) :
    reopens first.name (mergedBody first gap between last) = true ↔
      first.name ∈ names between ∨ last.body ≠ [] := by
  have valid := firstFlat.word.isTagName
  rw [reopens, mergedBody, reopens_from_free valid firstFlat.body, reopens_from_closing,
    reopens_from_free valid gapFree]
  by_cases again : first.name ∈ names between
  · rw [reopens_from_member betweenFlat valid again]
    simp [again]
  · rw [reopens_from_written betweenFlat valid again, ← same]
    by_cases empty : last.body = []
    · rw [empty, List.append_nil, reopens_from_opening_last lastFlat]
      simp [same, again]
    · rw [reopens_from_opening_closed lastFlat empty]
      simp [empty]

end Reopening

section Scanning

variable {blocks rest : Blocks} {table : Table} {offset : Nat}

theorem scan_from_alone {block : Block} {gap : Text} (flat : Flat ((block, gap) :: rest))
    (fresh : block.name ∉ table.keys) (single : block.name ∉ names rest) :
    scanFrom table offset (written ((block, gap) :: rest)) =
      if block.body = [] then .error (.unclosedTag block.name offset)
      else
        scanFrom (table.insert block.name block.body)
          (offset + byteLength block.written + byteLength gap) (written rest) := by
  obtain ⟨blockFlat, gapFree⟩ := flat (block, gap) List.mem_cons_self
  have restFlat := flat.sublist (List.sublist_cons_self _ _)
  have valid := blockFlat.word.isTagName
  have absent := not_closing_infix_behind gapFree restFlat valid single
  have shape : written ((block, gap) :: rest) =
      block.opening ++ (block.body ++ closingTag block.name ++ (gap ++ written rest)) := by
    simp [written, Block.written]
  rw [shape, scan_from_block (blockFlat.toTagged.valid _) fresh absent, reopens_free valid blockFlat.body,
    scan_from_free gapFree, Block.written]
  rfl

theorem scan_from_merged {first last : Block} {gap lastGap : Text} {between : Blocks}
    (flat : Flat ((first, gap) :: (between ++ (last, lastGap) :: rest)))
    (fresh : first.name ∉ table.keys) (same : last.name = first.name)
    (absent : first.name ∉ names rest) :
    ∃ next, scanFrom table offset (written ((first, gap) :: (between ++ (last, lastGap) :: rest))) =
      if first.name ∈ names between ∨ last.body ≠ [] then .error (.repeatedTag first.name)
      else
        scanFrom (table.insert first.name (mergedBody first gap between last)) next
          (written rest) := by
  obtain ⟨firstFlat, gapFree⟩ := flat (first, gap) List.mem_cons_self
  obtain ⟨lastFlat, lastFree⟩ := flat (last, lastGap) (by simp)
  have betweenFlat : Flat between := fun part member => flat part (by simp [member])
  have restFlat := flat.sublist (sublist_behind _ _ _ _)
  have valid := firstFlat.word.isTagName
  have unclosed := not_closing_infix_behind lastFree restFlat valid absent
  -- The closing tag of the first block lies in the merged body, so that body is never empty.
  have filled : mergedBody first gap between last ≠ [] := by simp [mergedBody, closingTag]
  have shape : written ((first, gap) :: (between ++ (last, lastGap) :: rest)) =
      first.opening ++ (mergedBody first gap between last ++ closingTag first.name ++
        (lastGap ++ written rest)) := by
    simp [written, written_append, Block.written, mergedBody, same]
  refine ⟨offset + byteLength (first.opening ++ mergedBody first gap between last ++
    closingTag first.name) + byteLength lastGap, ?_⟩
  rw [shape, scan_from_block (firstFlat.toTagged.valid _) fresh unclosed, if_neg filled, scan_from_free lastFree]
  by_cases noticed : first.name ∈ names between ∨ last.body ≠ []
  · rw [if_pos ((reopens_merged firstFlat lastFlat gapFree betweenFlat same).2 noticed),
      if_pos noticed]
  · rw [if_neg fun found =>
      noticed ((reopens_merged firstFlat lastFlat gapFree betweenFlat same).1 found),
      if_neg noticed]

/-- What the scanner may report about blocks. -/
inductive Complaint (blocks : Blocks) : Fault → Prop
  | repeated {name : Text} (twice : 2 ≤ (names blocks).count name) :
      Complaint blocks (.repeatedTag name)
  | bodiless {block : Block} {gap : Text} {offset : Nat} (member : (block, gap) ∈ blocks)
      (empty : block.body = []) : Complaint blocks (.unclosedTag block.name offset)

theorem Complaint.sublist {later : Blocks} {fault : Fault} (part : later.Sublist blocks)
    (complaint : Complaint later fault) : Complaint blocks fault := by
  cases complaint with
  | repeated twice =>
      have kept := (part.map fun part => part.1.name).count_le
      exact .repeated (Nat.le_trans twice (kept _))
  | bodiless member empty => exact .bodiless (part.subset member) empty

theorem scan_from_written_raises (flat : Flat blocks)
    (fresh : ∀ name ∈ names blocks, name ∉ table.keys) :
    Outcome.Raises (Complaint blocks) (scanFrom table offset (written blocks)) := by
  induction blocks using reading_induction generalizing table offset with
  | done =>
      rw [written, scan_from_nil]
      exact .ok _
  | alone block gap rest single later =>
      have first : block.name ∈ names ((block, gap) :: rest) := List.mem_cons_self
      have behind := List.sublist_cons_self (block, gap) rest
      rw [scan_from_alone flat (fresh _ first) single]
      by_cases empty : block.body = []
      · rw [if_pos empty]
        exact .error (.bodiless List.mem_cons_self empty)
      · rw [if_neg empty]
        exact (later (flat.sublist behind) (fresh_insert fresh first behind single)).weaken
          fun fault complaint => complaint.sublist behind
  | merged first last gap lastGap between rest same absent later =>
      have known : first.name ∈ names ((first, gap) :: (between ++ (last, lastGap) :: rest)) :=
        List.mem_cons_self
      have behind := sublist_behind (first, gap) (last, lastGap) between rest
      obtain ⟨next, step⟩ := scan_from_merged flat (fresh _ known) same absent
      rw [step]
      by_cases noticed : first.name ∈ names between ∨ last.body ≠ []
      · rw [if_pos noticed]
        apply Outcome.Raises.error
        apply Complaint.repeated
        simp only [names_cons, names_append, same, List.count_cons_self, List.count_append]
        omega
      · rw [if_neg noticed]
        exact (later (flat.sublist behind) (fresh_insert fresh known behind absent)).weaken
          fun fault complaint => complaint.sublist behind

theorem scan_from_written_ok_iff (flat : Flat blocks)
    (fresh : ∀ name ∈ names blocks, name ∉ table.keys) {result : Table} :
    scanFrom table offset (written blocks) = .ok result ↔
      ∃ entries, Accepted blocks entries ∧ result.entries = table.entries ++ entries := by
  induction blocks using reading_induction generalizing table offset with
  | done =>
      rw [written, scan_from_nil]
      constructor
      · intro run
        cases run
        exact ⟨[], .done, (List.append_nil _).symm⟩
      · intro read
        rcases read with ⟨entries, accepted, whole⟩
        cases accepted
        rw [List.append_nil] at whole
        have same : table = result := congrArg Table.mk whole.symm
        rw [same]
  | alone block gap rest single later =>
      have first : block.name ∈ names ((block, gap) :: rest) := List.mem_cons_self
      have behind := List.sublist_cons_self (block, gap) rest
      rw [scan_from_alone flat (fresh _ first) single]
      by_cases empty : block.body = []
      · rw [if_pos empty]
        constructor
        · intro run
          cases run
        · intro read
          rcases read with ⟨entries, accepted, -⟩
          exact absurd empty ((accepted_alone_iff single).1 accepted).1
      · rw [if_neg empty, later (flat.sublist behind) (fresh_insert fresh first behind single),
          Table.insert_of_not_mem (fresh _ first)]
        constructor
        · intro read
          rcases read with ⟨more, accepted, whole⟩
          exact ⟨_, .alone empty single accepted, whole.trans (List.append_cons _ _ _).symm⟩
        · intro read
          rcases read with ⟨entries, accepted, whole⟩
          obtain ⟨-, more, rfl, moreAccepted⟩ := (accepted_alone_iff single).1 accepted
          exact ⟨more, moreAccepted, whole.trans (List.append_cons _ _ _)⟩
  | merged first last gap lastGap between rest same absent later =>
      have known : first.name ∈ names ((first, gap) :: (between ++ (last, lastGap) :: rest)) :=
        List.mem_cons_self
      have behind := sublist_behind (first, gap) (last, lastGap) between rest
      obtain ⟨next, step⟩ := scan_from_merged flat (fresh _ known) same absent
      rw [step]
      by_cases noticed : first.name ∈ names between ∨ last.body ≠ []
      · rw [if_pos noticed]
        constructor
        · intro run
          cases run
        · intro read
          rcases read with ⟨entries, accepted, -⟩
          have overlooked := ((accepted_merged_iff same absent).1 accepted).1
          exact absurd noticed (by simp [overlooked])
      · rw [if_neg noticed, later (flat.sublist behind) (fresh_insert fresh known behind absent),
          Table.insert_of_not_mem (fresh _ known)]
        simp only [not_or, not_not] at noticed
        constructor
        · intro read
          rcases read with ⟨more, accepted, whole⟩
          exact ⟨_, .merged same noticed.2 noticed.1 absent accepted,
            whole.trans (List.append_cons _ _ _).symm⟩
        · intro read
          rcases read with ⟨entries, accepted, whole⟩
          obtain ⟨-, more, rfl, moreAccepted⟩ := (accepted_merged_iff same absent).1 accepted
          exact ⟨more, moreAccepted, whole.trans (List.append_cons _ _ _)⟩

end Scanning

end Blocks

section Scan

variable {gap : Text} {blocks : Blocks}

theorem scan_written_ok_iff (gapFree : '<' ∉ gap) (flat : blocks.Flat) {result : Table} :
    scan (gap ++ blocks.written) = .ok result ↔ blocks.Accepted result.entries := by
  rw [scan, scan_from_free gapFree, Blocks.scan_from_written_ok_iff flat (fun _ _ => List.not_mem_nil)]
  simp [Table.empty]

theorem scan_written_error_iff (gapFree : '<' ∉ gap) (flat : blocks.Flat) :
    (∃ fault, scan (gap ++ blocks.written) = .error fault ∧ blocks.Complaint fault) ↔
      ¬ ∃ entries, blocks.Accepted entries := by
  constructor
  · intro failure read
    rcases failure with ⟨fault, failed, -⟩
    rcases read with ⟨entries, accepted⟩
    have run : scan (gap ++ blocks.written) = .ok ⟨entries⟩ :=
      (scan_written_ok_iff gapFree flat).2 accepted
    rw [run] at failed
    cases failed
  · intro refused
    have failed : ∀ result, scan (gap ++ blocks.written) ≠ .ok result := by
      intro result run
      exact refused ⟨_, (scan_written_ok_iff gapFree flat).1 run⟩
    obtain ⟨fault, run⟩ := Outcome.error_of_not_ok failed
    have reported := run
    rw [scan, scan_from_free gapFree] at reported
    have complaint := Blocks.scan_from_written_raises flat (fun _ _ => List.not_mem_nil) fault reported
    exact ⟨fault, run, complaint⟩

/-- A name given twice is refused when every block has a body. -/
theorem scan_rejects_repeated_of_filled (gapFree : '<' ∉ gap) (flat : blocks.Flat)
    (filled : ∀ part ∈ blocks, part.1.body ≠ []) (repeated : ¬ blocks.names.Nodup) :
    ∃ fault, scan (gap ++ blocks.written) = .error fault ∧ blocks.Complaint fault := by
  apply (scan_written_error_iff gapFree flat).2
  intro read
  rcases read with ⟨entries, accepted⟩
  obtain ⟨front, first, firstGap, between, last, lastGap, rest, rfl, -, empty, -⟩ :=
    accepted.exists_swallowed repeated
  exact filled (last, lastGap) (by simp) empty

/-- A name given twice is refused just when the blocks cannot be read. A document that gets through
has lost a block without a body to the body of an earlier one. -/
theorem scan_repeated_names (gapFree : '<' ∉ gap) (flat : blocks.Flat)
    (repeated : ¬ blocks.names.Nodup) :
    ((∃ fault, scan (gap ++ blocks.written) = .error fault ∧ blocks.Complaint fault) ↔
      ¬ ∃ entries, blocks.Accepted entries) ∧
    ∀ result, scan (gap ++ blocks.written) = .ok result →
      ∃ front first firstGap between last lastGap rest,
        blocks = front ++ (first, firstGap) :: (between ++ (last, lastGap) :: rest) ∧
          last.name = first.name ∧ last.body = [] ∧
          (first.name, Blocks.mergedBody first firstGap between last) ∈ result.entries := by
  refine ⟨scan_written_error_iff gapFree flat, ?_⟩
  intro result run
  exact ((scan_written_ok_iff gapFree flat).1 run).exists_swallowed repeated

/-- Two blocks of one name with a body each are refused. -/
theorem scan_repeated_names_of_two_bodies :
    ∃ fault, scan "<a>x</a> <a>y</a>".toList = .error fault ∧
      Blocks.Complaint [(⟨['a'], [], ['x']⟩, [' ']), (⟨['a'], [], ['y']⟩, [])] fault := by
  have word : IsWord ['a'] := .singleton (by decide)
  have flat : Blocks.Flat [(⟨['a'], [], ['x']⟩, [' ']), (⟨['a'], [], ['y']⟩, [])] := by
    apply Blocks.Flat.cons (.bare word (by decide)) (by decide)
    exact Blocks.Flat.cons (.bare word (by decide)) (by decide) .nil
  have refused : ¬ ∃ entries,
      Blocks.Accepted [(⟨['a'], [], ['x']⟩, [' ']), (⟨['a'], [], ['y']⟩, [])] entries := by
    intro read
    rcases read with ⟨entries, accepted⟩
    have same : (⟨['a'], [], ['y']⟩ : Block).name = (⟨['a'], [], ['x']⟩ : Block).name := rfl
    have adjacent : Blocks.Accepted ((⟨['a'], [], ['x']⟩, [' ']) :: ([] ++ [(⟨['a'], [], ['y']⟩, [])]))
        entries := accepted
    have swallowed := (Blocks.accepted_merged_iff same List.not_mem_nil).1 adjacent
    cases swallowed.1.2
  have free : '<' ∉ ([] : Text) := List.not_mem_nil
  exact (scan_repeated_names free flat (by decide)).1.2 refused

/-- A block without a body gets lost in an earlier one of its name. -/
theorem scan_loses_block_without_body :
    scan "<a>x</a><a></a>".toList = .ok ⟨[(['a'], "x</a><a>".toList)]⟩ ∧
      ¬ ∀ (gap : Text) (blocks : Blocks), '<' ∉ gap → blocks.Flat →
        (∀ part ∈ blocks, part.1.attributes = []) → ¬ blocks.names.Nodup →
        ∃ fault, scan (gap ++ blocks.written) = .error fault := by
  have word : IsWord ['a'] := .singleton (by decide)
  have flat : Blocks.Flat [(⟨['a'], [], ['x']⟩, []), (⟨['a'], [], []⟩, [])] := by
    apply Blocks.Flat.cons (.bare word (by decide)) (by decide)
    exact Blocks.Flat.cons (.bare word (by decide)) (by decide) .nil
  have accepted : Blocks.Accepted ((⟨['a'], [], ['x']⟩, []) :: ([] ++ [(⟨['a'], [], []⟩, [])]))
      [(['a'], "x</a><a>".toList)] :=
    .merged rfl rfl List.not_mem_nil List.not_mem_nil .done
  have free : '<' ∉ ([] : Text) := List.not_mem_nil
  have read : scan "<a>x</a><a></a>".toList = .ok ⟨[(['a'], "x</a><a>".toList)]⟩ :=
    (scan_written_ok_iff free flat).2 accepted
  refine ⟨read, ?_⟩
  intro refused
  obtain ⟨fault, failed⟩ := refused [] _ free flat (by decide) (by decide)
  have same : ([] : Text) ++ Blocks.written [(⟨['a'], [], ['x']⟩, []), (⟨['a'], [], []⟩, [])] =
      "<a>x</a><a></a>".toList := by decide
  rw [same, read] at failed
  cases failed

end Scan

end PostMarkup
