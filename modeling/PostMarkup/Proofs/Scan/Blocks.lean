import PostMarkup.Proofs.Scan.Cuts

/-!
Documents as sequences of blocks. A name can be given to several blocks; the last of them is the one
whose closing tag ends the body that the scanner reads for the first.
-/

namespace PostMarkup

structure Block where
  name : Text
  attributes : Text
  body : Text

namespace Block

def opening (block : Block) : Text := '<' :: block.name ++ block.attributes ++ ['>']

def written (block : Block) : Text := block.opening ++ block.body ++ closingTag block.name

/-- A block whose tags hold no angle brackets but their own. -/
structure Tagged (block : Block) : Prop where
  word : IsWord block.name
  attributes : '<' ∉ block.attributes ∧ '>' ∉ block.attributes
  separate : ∀ c ∈ block.attributes.head?, isWordChar c = false

/-- A block without any angle bracket but those of its own two tags. -/
structure Flat (block : Block) : Prop extends Tagged block where
  body : '<' ∉ block.body

variable {block : Block}

theorem Flat.bare {name body : Text} (word : IsWord name) (free : '<' ∉ body) :
    Flat ⟨name, [], body⟩ where
  word := word
  attributes := by simp
  separate := by simp
  body := free

theorem Tagged.valid (tagged : block.Tagged) (after : Text) :
    OpeningTag.Valid ⟨block.name, block.attributes, after⟩ where
  word := tagged.word
  closed := tagged.attributes.2
  separate := tagged.separate

theorem Tagged.opening_is_tag (tagged : block.Tagged) : IsTag block.opening :=
  ⟨block.name ++ block.attributes ++ ['>'], by simp [opening],
    by simp [tagged.attributes.1, tagged.word.isTagName.noOpening]⟩

theorem Tagged.cut_opening (tagged : block.Tagged) {after : Text} (filled : after ≠ []) :
    OpeningTag.cut? (block.opening ++ after) = some ⟨block.name, block.attributes, after⟩ :=
  OpeningTag.cut_eq_some_iff.2 ⟨tagged.valid after, filled, rfl⟩

theorem closing_not_prefix_opening (word : IsWord block.name) {name rest : Text} :
    ¬ closingTag name <+: block.opening ++ rest := by
  intro found
  rcases found with ⟨behind, whole⟩
  obtain ⟨c, front, shape⟩ := List.exists_cons_of_ne_nil word.1
  simp only [closingTag, opening, shape, List.cons_append, List.cons.injEq, true_and] at whole
  rcases whole with ⟨rfl, -⟩
  exact word.isTagName.noSlash (by simp [shape])

end Block

abbrev Blocks := List (Block × Text)

namespace Blocks

def names (blocks : Blocks) : List Text := blocks.map fun part => part.1.name

def written : Blocks → Text
  | [] => []
  | (block, gap) :: rest => block.written ++ (gap ++ written rest)

def Tagged (blocks : Blocks) : Prop := ∀ part ∈ blocks, part.1.Tagged ∧ '<' ∉ part.2

def Flat (blocks : Blocks) : Prop := ∀ part ∈ blocks, part.1.Flat ∧ '<' ∉ part.2

variable {blocks rest : Blocks} {name : Text}

theorem Flat.nil : Flat [] := List.forall_mem_nil _

theorem Flat.cons {block : Block} {gap : Text} (blockFlat : block.Flat) (gapFree : '<' ∉ gap)
    (flat : Flat rest) : Flat ((block, gap) :: rest) :=
  List.forall_mem_cons.2 ⟨⟨blockFlat, gapFree⟩, flat⟩

theorem Flat.tagged (flat : Flat blocks) : Tagged blocks :=
  fun part member => (flat part member).imp_left Block.Flat.toTagged

theorem Tagged.sublist (tagged : Tagged blocks) (part : rest.Sublist blocks) : Tagged rest :=
  fun block member => tagged block (part.subset member)

theorem Flat.sublist (flat : Flat blocks) (part : rest.Sublist blocks) : Flat rest :=
  fun block member => flat block (part.subset member)

theorem names_append (blocks rest : Blocks) : names (blocks ++ rest) = names blocks ++ names rest :=
  List.map_append

theorem names_cons (part : Block × Text) (rest : Blocks) :
    names (part :: rest) = part.1.name :: names rest := rfl

theorem names_sublist (part : rest.Sublist blocks) : (names rest).Sublist (names blocks) :=
  part.map _

theorem sublist_behind (part last : Block × Text) (between rest : Blocks) :
    rest.Sublist (part :: (between ++ last :: rest)) := by
  have behindLast := List.sublist_cons_self last rest
  have behindBetween := behindLast.trans (List.sublist_append_right between _)
  exact behindBetween.cons part

theorem written_append (blocks rest : Blocks) :
    written (blocks ++ rest) = written blocks ++ written rest := by
  induction blocks with
  | nil => rfl
  | cons part blocks induction => simp [written, induction]

theorem closing_infix_written_iff (tagged : Tagged blocks) (valid : IsTagName name)
    (absent : name ∉ names blocks) :
    closingTag name <:+: written blocks ↔ ∃ part ∈ blocks, closingTag name <:+: part.1.body := by
  induction blocks with
  | nil => simp [written, valid.closing_is_tag.ne_nil]
  | cons part blocks induction =>
      rcases part with ⟨block, gap⟩
      have tag := valid.closing_is_tag
      obtain ⟨blockTagged, gapFree⟩ := tagged (block, gap) List.mem_cons_self
      rw [names_cons, List.mem_cons, not_or] at absent
      have restTagged := tagged.sublist (List.sublist_cons_self _ _)
      have parts : written ((block, gap) :: blocks) =
          block.opening ++ (block.body ++ (closingTag block.name ++ (gap ++ written blocks))) := by
        simp [written, Block.written]
      have markup : BeginsMarkup (closingTag block.name ++ (gap ++ written blocks)) := by
        simp [closingTag]
      have otherTag := blockTagged.word.isTagName.closing_is_tag
      rw [parts, tag.infix_tag_append_iff blockTagged.opening_is_tag,
        or_iff_right (Block.closing_not_prefix_opening blockTagged.word),
        tag.infix_append_iff markup, tag.infix_tag_append_iff otherTag,
        valid.closing_prefix_closing_iff blockTagged.word.isTagName, or_iff_right absent.1,
        tag.infix_append_iff_of_free gapFree, induction restTagged absent.2]
      simp only [List.mem_cons, exists_eq_or_imp]

/-- Of the closing tags of other names, only those in the bodies are found. -/
theorem closing_absent_behind_iff {gap : Text} (gapFree : '<' ∉ gap) (tagged : Tagged blocks)
    (valid : IsTagName name) (absent : name ∉ names blocks) :
    ¬ closingTag name <:+: gap ++ written blocks ↔
      ∀ part ∈ blocks, ¬ closingTag name <:+: part.1.body := by
  rw [valid.closing_is_tag.infix_append_iff_of_free gapFree,
    closing_infix_written_iff tagged valid absent]
  simp only [not_exists, not_and]

/-- Flat blocks hold the closing tags of their own names only. -/
theorem not_closing_infix_behind {gap : Text} (gapFree : '<' ∉ gap) (flat : Flat blocks)
    (valid : IsTagName name) (absent : name ∉ names blocks) :
    ¬ closingTag name <:+: gap ++ written blocks := by
  apply (closing_absent_behind_iff gapFree flat.tagged valid absent).2
  intro part member
  exact valid.closing_is_tag.not_infix_of_free (flat part member).1.body

theorem exists_last (member : name ∈ names blocks) :
    ∃ between last lastGap later, blocks = between ++ (last, lastGap) :: later ∧
      last.name = name ∧ name ∉ names later := by
  induction blocks with
  | nil => cases member
  | cons part blocks induction =>
      by_cases again : name ∈ names blocks
      · obtain ⟨between, last, lastGap, later, rfl, same, absent⟩ := induction again
        exact ⟨part :: between, last, lastGap, later, rfl, same, absent⟩
      · have same := (List.mem_cons.1 member).resolve_right again
        exact ⟨[], part.1, part.2, blocks, rfl, same.symm, again⟩

theorem last_unique {between other later otherLater : Blocks} {last otherLast : Block × Text}
    (same : between ++ last :: later = other ++ otherLast :: otherLater)
    (named : last.1.name = name) (otherNamed : otherLast.1.name = name)
    (absent : name ∉ names later) (otherAbsent : name ∉ names otherLater) :
    between = other ∧ last = otherLast ∧ later = otherLater := by
  induction between generalizing other with
  | nil =>
      cases other with
      | nil =>
          simp only [List.nil_append, List.cons.injEq] at same
          exact ⟨rfl, same⟩
      | cons part other =>
          simp only [List.nil_append, List.cons_append, List.cons.injEq] at same
          rw [same.2, names_append, names_cons] at absent
          exact absurd (by simp [otherNamed]) absent
  | cons part between induction =>
      cases other with
      | nil =>
          simp only [List.nil_append, List.cons_append, List.cons.injEq] at same
          rw [← same.2, names_append, names_cons] at otherAbsent
          exact absurd (by simp [named]) otherAbsent
      | cons otherPart other =>
          simp only [List.cons_append, List.cons.injEq] at same
          obtain ⟨front, rest⟩ := induction same.2
          exact ⟨by rw [same.1, front], rest⟩

/-- Blocks can be read from the left: the first one stands alone, or the last block of its name ends what
is read for it. -/
@[elab_as_elim]
theorem reading_induction {motive : Blocks → Prop} (done : motive [])
    (alone : ∀ (block : Block) (gap : Text) (rest : Blocks), block.name ∉ names rest →
      motive rest → motive ((block, gap) :: rest))
    (merged : ∀ (first last : Block) (gap lastGap : Text) (between rest : Blocks),
      last.name = first.name → first.name ∉ names rest →
      motive rest → motive ((first, gap) :: (between ++ (last, lastGap) :: rest)))
    (blocks : Blocks) : motive blocks := by
  match blocks with
  | [] => exact done
  | (block, gap) :: rest =>
      by_cases again : block.name ∈ names rest
      · obtain ⟨between, last, lastGap, later, shape, same, absent⟩ := exists_last again
        have shorter : later.length < rest.length := by
          rw [shape, List.length_append, List.length_cons]
          omega
        rw [shape]
        exact merged block last gap lastGap between later same absent
          (reading_induction done alone merged later)
      · exact alone block gap rest again (reading_induction done alone merged rest)
termination_by blocks.length
decreasing_by
  · simp only [List.length_cons]
    omega
  · simp

/-- The text between the opening tag of a block and the closing tag of a later block of its name. -/
def mergedBody (first : Block) (gap : Text) (between : Blocks) (last : Block) : Text :=
  first.body ++ (closingTag first.name ++ (gap ++ (written between ++ (last.opening ++ last.body))))

/-- What the scanner reads from blocks without complaint. A name has one block, with a body, or just
two, the second without a body; then everything between the two is swallowed by the first. -/
inductive Accepted : Blocks → List (Text × Text) → Prop
  | done : Accepted [] []
  | alone {block : Block} {gap : Text} {rest : Blocks} {entries : List (Text × Text)}
      (filled : block.body ≠ []) (single : block.name ∉ names rest) (later : Accepted rest entries) :
      Accepted ((block, gap) :: rest) ((block.name, block.body) :: entries)
  | merged {first last : Block} {gap lastGap : Text} {between rest : Blocks}
      {entries : List (Text × Text)} (same : last.name = first.name) (empty : last.body = [])
      (notBetween : first.name ∉ names between) (notLater : first.name ∉ names rest)
      (later : Accepted rest entries) :
      Accepted ((first, gap) :: (between ++ (last, lastGap) :: rest))
        ((first.name, mergedBody first gap between last) :: entries)

theorem accepted_alone_iff {block : Block} {gap : Text} {entries : List (Text × Text)}
    (single : block.name ∉ names rest) :
    Accepted ((block, gap) :: rest) entries ↔
      block.body ≠ [] ∧ ∃ more, entries = (block.name, block.body) :: more ∧
        Accepted rest more := by
  constructor
  · intro accepted
    cases accepted with
    | alone filled _ later => exact ⟨filled, _, rfl, later⟩
    | merged same => exact absurd (by simp [names_append, names_cons, same]) single
  · intro parts
    rcases parts with ⟨filled, more, rfl, later⟩
    exact .alone filled single later

theorem accepted_merged_iff {first last : Block} {gap lastGap : Text} {between later : Blocks}
    {entries : List (Text × Text)} (same : last.name = first.name)
    (absent : first.name ∉ names later) :
    Accepted ((first, gap) :: (between ++ (last, lastGap) :: later)) entries ↔
      (first.name ∉ names between ∧ last.body = []) ∧
        ∃ more, entries = (first.name, mergedBody first gap between last) :: more ∧
          Accepted later more := by
  constructor
  · intro accepted
    generalize shape : between ++ (last, lastGap) :: later = rest at accepted
    cases accepted with
    | alone _ single _ =>
        rw [← shape, names_append, names_cons] at single
        exact absurd (by simp [same]) single
    | merged otherSame empty notBetween notLater more =>
        obtain ⟨rfl, lastSame, rfl⟩ := last_unique shape same otherSame absent notLater
        cases lastSame
        exact ⟨⟨notBetween, empty⟩, _, rfl, more⟩
  · intro parts
    rcases parts with ⟨⟨notBetween, empty⟩, more, rfl, moreAccepted⟩
    exact .merged same empty notBetween absent moreAccepted

/-- Blocks with a repeated name are read only if one of them swallows the next one of its name. -/
theorem Accepted.exists_swallowed {entries : List (Text × Text)} (accepted : Accepted blocks entries)
    (repeated : ¬ (names blocks).Nodup) :
    ∃ front first gap between last lastGap rest,
      blocks = front ++ (first, gap) :: (between ++ (last, lastGap) :: rest) ∧
        last.name = first.name ∧ last.body = [] ∧
        (first.name, mergedBody first gap between last) ∈ entries := by
  induction accepted with
  | done => exact absurd List.nodup_nil repeated
  | @alone block gap rest entries filled single later induction =>
      have laterRepeated : ¬ (names rest).Nodup := by
        intro distinct
        exact repeated (List.nodup_cons.2 ⟨single, distinct⟩)
      obtain ⟨front, first, firstGap, between, last, lastGap, behind, rfl, same, empty, member⟩ :=
        induction laterRepeated
      exact ⟨(block, gap) :: front, first, firstGap, between, last, lastGap, behind, rfl, same, empty,
        List.mem_cons_of_mem _ member⟩
  | @merged first last gap lastGap between rest entries same empty notBetween notLater later induction =>
      exact ⟨[], first, gap, between, last, lastGap, rest, rfl, same, empty, List.mem_cons_self⟩

end Blocks

end PostMarkup
