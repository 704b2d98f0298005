import PostMarkup.Proofs.Scan.Blocks
import PostMarkup.Proofs.Tables

/-!
The grammar of documents. A document is read when it can be cut into blocks and the gaps around them
such that no opening tag stands in a gap and every body ends at the last closing tag of its name. A
gap is judged in front of the text that follows it, as an opening tag may reach far into that text.
-/

namespace PostMarkup

open Text (byteLength)

namespace Text

/-- No mark begins later than the one in front of `after`. -/
def LastMark (mark after : Text) : Prop :=
  ∀ later, later <:+ mark ++ after → mark <+: later → later = mark ++ after

end Text

theorem IsTag.last_mark_iff {mark after : Text} (tag : IsTag mark) :
    Text.LastMark mark after ↔ ¬ mark <:+: after := by
  constructor
  · intro last found
    obtain ⟨later, begins, behind⟩ := List.infix_iff_prefix_suffix.1 found
    have whole := last later (behind.trans (List.suffix_append mark after)) begins
    have shorter := behind.length_le
    rw [whole, List.length_append] at shorter
    have filled := List.length_pos_iff.2 tag.ne_nil
    omega
  · intro absent later behind begins
    rcases tag with ⟨inside, rfl, free⟩
    apply (List.suffix_cons_iff.1 behind).resolve_right
    intro within
    have found : ('<' :: inside) <:+: inside ++ after := begins.isInfix.trans within.isInfix
    rw [IsTag.infix_append_iff_of_free ⟨inside, rfl, free⟩ free] at found
    exact absent found

/-- The block can be read in front of `after`: its opening tag is cut off where the block begins, its
body is not empty and ends at the last closing tag of the name, and it does not open the name again
after closing it. -/
structure Block.Stands (block : Block) (after : Text) : Prop where
  opens : OpeningTag.cut? (block.written ++ after) =
    some ⟨block.name, block.attributes, block.body ++ closingTag block.name ++ after⟩
  filled : block.body ≠ []
  last : Text.LastMark (closingTag block.name) after
  single : reopens block.name block.body = false

namespace Blocks

def entries (blocks : Blocks) : List (Text × Text) :=
  blocks.map fun part => (part.1.name, part.1.body)

/-- No opening tag is cut off at any place of `gap` when `rest` follows it. -/
def Skipped (gap rest : Text) : Prop :=
  ∀ back, back <:+ gap → back ≠ [] → OpeningTag.cut? (back ++ rest) = none

def Stand : Blocks → Prop
  | [] => True
  | (block, gap) :: rest =>
      block.Stands (gap ++ written rest) ∧ Skipped gap (written rest) ∧ Stand rest

structure Cuts (document gap : Text) (blocks : Blocks) : Prop where
  whole : gap ++ written blocks = document
  skipped : Skipped gap (written blocks)
  stand : Stand blocks
  distinct : (names blocks).Nodup

variable {blocks rest : Blocks} {table : Table} {offset : Nat} {gap after : Text}

def BeginsWithTag (text : Text) : Prop := text = [] ∨ ∃ tag, OpeningTag.cut? text = some tag

/-- A skipped gap does not reach over a place where a tag is cut off. -/
theorem Skipped.reach_empty {front reach rest : Text} (skipped : Skipped (front ++ reach) rest)
    (begins : BeginsWithTag (reach ++ rest)) : reach = [] := by
  apply Classical.byContradiction
  intro filled
  rcases begins with empty | ⟨tag, cut⟩
  · exact filled (List.append_eq_nil_iff.1 empty).1
  · rw [skipped reach (List.suffix_append front reach) filled] at cut
    cases cut

theorem skipped_nil (rest : Text) : Skipped [] rest := by
  intro back suffix filled
  exact absurd (List.suffix_nil.1 suffix) filled

theorem skipped_cons_iff {c : Char} {front rest : Text} :
    Skipped (c :: front) rest ↔
      OpeningTag.cut? (c :: (front ++ rest)) = none ∧ Skipped front rest := by
  constructor
  · intro skipped
    refine ⟨skipped (c :: front) (List.suffix_refl _) (List.cons_ne_nil _ _), ?_⟩
    intro back suffix filled
    exact skipped back (suffix.trans (List.suffix_cons c front)) filled
  · intro parts back suffix filled
    rcases List.suffix_cons_iff.1 suffix with rfl | within
    · exact parts.1
    · exact parts.2 back within filled

/-- In front of text that begins with a tag, the same gap is skipped however a text is cut. -/
theorem gap_unique {other rest otherRest : Text} (skipped : Skipped gap rest)
    (otherSkipped : Skipped other otherRest) (begins : BeginsWithTag rest)
    (otherBegins : BeginsWithTag otherRest) (same : gap ++ rest = other ++ otherRest) :
    gap = other ∧ rest = otherRest := by
  rcases List.append_eq_append_iff.1 same with ⟨reach, rfl, rfl⟩ | ⟨reach, rfl, rfl⟩
  · have empty := otherSkipped.reach_empty begins
    subst empty
    exact ⟨(List.append_nil gap).symm, rfl⟩
  · have empty := skipped.reach_empty otherBegins
    subst empty
    exact ⟨List.append_nil other, rfl⟩

theorem skipped_of_free {rest : Text} (free : '<' ∉ gap) : Skipped gap rest := by
  induction gap with
  | nil => exact skipped_nil rest
  | cons c gap induction =>
      rw [List.mem_cons, not_or] at free
      exact skipped_cons_iff.2 ⟨OpeningTag.cut_of_ne (Ne.symm free.1), induction free.2⟩

end Blocks

namespace Block

variable {block : Block} {after : Text}

theorem Stands.valid (stands : block.Stands after) :
    OpeningTag.Valid ⟨block.name, block.attributes, block.body ++ closingTag block.name ++ after⟩ :=
  (OpeningTag.cut_eq_some_iff.1 stands.opens).1

theorem Stands.closing_absent (stands : block.Stands after) :
    ¬ closingTag block.name <:+: after :=
  stands.valid.word.isTagName.closing_is_tag.last_mark_iff.1 stands.last

theorem Stands.cut_last (stands : block.Stands after) :
    Text.cutLast? (closingTag block.name) (block.body ++ closingTag block.name ++ after) =
      some (block.body, after) := by
  apply (Text.cut_last_eq_some_iff stands.valid.word.isTagName.closing_is_tag).2
  exact ⟨rfl, stands.closing_absent⟩

theorem stands_of_cut {tag : OpeningTag} {text body : Text} (cut : OpeningTag.cut? text = some tag)
    (closed : cutBody? tag.name tag.after = some (body, after))
    (single : reopens tag.name body = false) :
    text = (Block.mk tag.name tag.attributes body).written ++ after ∧
      (Block.mk tag.name tag.attributes body).Stands after := by
  have valid := (OpeningTag.cut_eq_some_iff.1 cut).1.word.isTagName
  obtain ⟨filled, behind, absent⟩ := (cut_body_eq_some_iff valid).1 closed
  rcases tag with ⟨name, attributes, behindTag⟩
  have whole := OpeningTag.cut_sound cut
  simp only at behind
  have shape : text = (Block.mk name attributes body).written ++ after := by
    rw [whole, behind]
    simp [Block.written, Block.opening, OpeningTag.written]
  refine ⟨shape, ?_, filled, valid.closing_is_tag.last_mark_iff.2 absent, single⟩
  rw [← shape, cut, behind]

/-- The opening tag and the last closing tag of the name leave no choice of the block. -/
theorem Stands.unique {other : Block} {otherAfter : Text} (stands : block.Stands after)
    (otherStands : other.Stands otherAfter)
    (same : block.written ++ after = other.written ++ otherAfter) :
    block = other ∧ after = otherAfter := by
  have opens := stands.opens
  rw [same, otherStands.opens] at opens
  rcases block with ⟨name, attributes, body⟩
  rcases other with ⟨otherName, otherAttributes, otherBody⟩
  simp only [Option.some.injEq, OpeningTag.mk.injEq] at opens
  obtain ⟨rfl, rfl, behind⟩ := opens
  have otherLast := otherStands.cut_last
  rw [behind, stands.cut_last, Option.some.injEq, Prod.mk.injEq] at otherLast
  obtain ⟨rfl, rfl⟩ := otherLast
  exact ⟨rfl, rfl⟩

end Block

/-- One step of the scanner over a block whose body ends at the last closing tag of its name. -/
theorem scan_from_block {table : Table} {offset : Nat} {block : Block} {body after : Text}
    (valid : OpeningTag.Valid ⟨block.name, block.attributes, body ++ closingTag block.name ++ after⟩)
    (fresh : block.name ∉ table.keys) (absent : ¬ closingTag block.name <:+: after) :
    scanFrom table offset (block.opening ++ (body ++ closingTag block.name ++ after)) =
      if body = [] then .error (.unclosedTag block.name offset)
      else if reopens block.name body then .error (.repeatedTag block.name)
      else
        scanFrom (table.insert block.name body)
          (offset + byteLength (block.opening ++ body ++ closingTag block.name)) after := by
  have unknown : table.contains block.name = false := by
    rw [Bool.eq_false_iff, ne_eq, Table.contains_iff_mem_keys]
    exact fresh
  have filled : body ++ closingTag block.name ++ after ≠ [] := by simp [closingTag]
  have cut := OpeningTag.cut_eq_some_iff.2 ⟨valid, filled, rfl⟩
  have opened : OpeningTag.cut? (block.opening ++ (body ++ closingTag block.name ++ after)) =
      some ⟨block.name, block.attributes, body ++ closingTag block.name ++ after⟩ := cut
  rw [scan_from_opening opened, cut_body_append valid.word.isTagName absent]
  by_cases empty : body = []
  · rw [if_pos empty, if_pos empty]
  · rw [if_neg empty, if_neg empty, unknown]
    rfl

namespace Blocks

variable {blocks rest : Blocks} {table result : Table} {offset : Nat} {gap : Text}

/-- The names of later blocks stay unknown when an earlier name becomes known. -/
theorem fresh_insert {key value : Text} (fresh : ∀ name ∈ names blocks, name ∉ table.keys)
    (known : key ∈ names blocks) (part : rest.Sublist blocks) (absent : key ∉ names rest) :
    ∀ name ∈ names rest, name ∉ (table.insert key value).keys := by
  intro name member
  rw [Table.keys_insert_of_not_mem (fresh key known), List.mem_append, List.mem_singleton, not_or]
  refine ⟨fresh name ((names_sublist part).subset member), ?_⟩
  intro same
  rw [same] at member
  exact absent member

theorem scan_from_skipped {text : Text} (skipped : Skipped gap text) :
    scanFrom table offset (gap ++ text) = scanFrom table (offset + byteLength gap) text := by
  induction gap generalizing offset with
  | nil => rfl
  | cons c gap induction =>
      obtain ⟨uncut, later⟩ := skipped_cons_iff.1 skipped
      rw [List.cons_append, scan_from_plain uncut, induction later, Text.byte_length_cons,
        Nat.add_assoc]

theorem scan_from_stands {block : Block} {after : Text} (stands : block.Stands after)
    (fresh : block.name ∉ table.keys) :
    scanFrom table offset (block.written ++ after) =
      scanFrom (table.insert block.name block.body) (offset + byteLength block.written) after := by
  have shape : block.written ++ after =
      block.opening ++ (block.body ++ closingTag block.name ++ after) := by
    simp [Block.written]
  rw [shape, scan_from_block stands.valid fresh stands.closing_absent, if_neg stands.filled,
    stands.single]
  rfl

theorem scan_from_stand (stand : Stand blocks) (skipped : Skipped gap (written blocks))
    (distinct : (names blocks).Nodup) (fresh : ∀ name ∈ names blocks, name ∉ table.keys) :
    ∃ result, scanFrom table offset (gap ++ written blocks) = .ok result ∧
      result.entries = table.entries ++ entries blocks := by
  induction blocks generalizing gap table offset with
  | nil =>
      refine ⟨table, ?_, (List.append_nil _).symm⟩
      rw [scan_from_skipped skipped, written, scan_from_nil]
  | cons part blocks induction =>
      rcases part with ⟨block, next⟩
      obtain ⟨stands, nextSkipped, standLater⟩ := stand
      rw [names_cons, List.nodup_cons] at distinct
      have known : block.name ∈ names ((block, next) :: blocks) := List.mem_cons_self
      have freshLater : ∀ name ∈ names blocks,
          name ∉ (table.insert block.name block.body).keys :=
        fresh_insert fresh known (List.sublist_cons_self _ _) distinct.1
      obtain ⟨result, run, whole⟩ := induction standLater nextSkipped distinct.2 freshLater
      refine ⟨result, ?_, ?_⟩
      · rw [scan_from_skipped skipped, written, scan_from_stands stands (fresh _ known)]
        exact run
      · rw [whole, Table.insert_of_not_mem (fresh _ known), List.append_assoc]
        rfl

/-- Whatever the scanner reads without complaint has been cut into blocks that stand. -/
theorem cuts_of_scan_from {text : Text} (run : scanFrom table offset text = .ok result) :
    ∃ gap blocks, Cuts text gap blocks ∧ (∀ name ∈ names blocks, name ∉ table.keys) ∧
      result.entries = table.entries ++ entries blocks := by
  fun_induction scanFrom table offset text with
  | case1 table offset =>
      cases run
      exact ⟨[], [], ⟨rfl, skipped_nil _, trivial, List.nodup_nil⟩,
        fun _ member => absurd member List.not_mem_nil, (List.append_nil _).symm⟩
  | case2 table offset c rest uncut induction =>
      obtain ⟨gap, blocks, cuts, fresh, whole⟩ := induction run
      refine ⟨c :: gap, blocks, ⟨?_, ?_, cuts.stand, cuts.distinct⟩, fresh, whole⟩
      · rw [List.cons_append, cuts.whole]
      · apply skipped_cons_iff.2
        rw [cuts.whole]
        exact ⟨uncut, cuts.skipped⟩
  | case3 table offset c rest tag cut unclosed => cases run
  | case4 table offset c rest tag cut body after closed repeated => cases run
  | case5 table offset c rest tag cut body after closed accepted induction =>
      simp only [Bool.or_eq_true, not_or, Bool.not_eq_true] at accepted
      have unknown : tag.name ∉ table.keys := by
        rw [← Table.contains_iff_mem_keys, accepted.1]
        exact Bool.false_ne_true
      obtain ⟨shape, stands⟩ := Block.stands_of_cut cut closed accepted.2
      obtain ⟨gap, blocks, cuts, fresh, whole⟩ := induction run
      rw [Table.keys_insert_of_not_mem unknown] at fresh
      simp only [List.mem_append, List.mem_singleton, not_or] at fresh
      have absent : tag.name ∉ names blocks := by
        intro member
        exact (fresh _ member).2 rfl
      refine ⟨[], (⟨tag.name, tag.attributes, body⟩, gap) :: blocks, ⟨?_, skipped_nil _, ?_, ?_⟩, ?_, ?_⟩
      · rw [shape, ← cuts.whole]
        rfl
      · rw [← cuts.whole] at stands
        exact ⟨stands, cuts.skipped, cuts.stand⟩
      · exact List.nodup_cons.2 ⟨absent, cuts.distinct⟩
      · intro name member
        rcases List.mem_cons.1 member with rfl | later
        · exact unknown
        · exact (fresh name later).1
      · rw [whole, Table.insert_of_not_mem unknown, List.append_assoc]
        rfl

theorem stands_of_mem {part : Block × Text} (stand : Stand blocks) (member : part ∈ blocks) :
    ∃ after, part.1.Stands after := by
  induction blocks with
  | nil => cases member
  | cons first blocks induction =>
      rcases List.mem_cons.1 member with rfl | later
      · exact ⟨_, stand.1⟩
      · exact induction stand.2.2 later

theorem begins_with_tag_of_stand (stand : Stand blocks) : BeginsWithTag (written blocks) := by
  cases blocks with
  | nil => exact Or.inl rfl
  | cons part blocks => exact Or.inr ⟨_, stand.1.opens⟩

theorem stand_unique {other : Text} {otherBlocks : Blocks} (stand : Stand blocks)
    (skipped : Skipped gap (written blocks)) (otherStand : Stand otherBlocks)
    (otherSkipped : Skipped other (written otherBlocks))
    (same : gap ++ written blocks = other ++ written otherBlocks) :
    gap = other ∧ blocks = otherBlocks := by
  induction blocks generalizing gap other otherBlocks with
  | nil =>
      obtain ⟨gaps, rests⟩ := gap_unique skipped otherSkipped (begins_with_tag_of_stand stand)
        (begins_with_tag_of_stand otherStand) same
      refine ⟨gaps, ?_⟩
      cases otherBlocks with
      | nil => rfl
      | cons part otherBlocks => simp [written, Block.written, Block.opening] at rests
  | cons part blocks induction =>
      obtain ⟨gaps, rests⟩ := gap_unique skipped otherSkipped (begins_with_tag_of_stand stand)
        (begins_with_tag_of_stand otherStand) same
      refine ⟨gaps, ?_⟩
      cases otherBlocks with
      | nil => simp [written, Block.written, Block.opening] at rests
      | cons otherPart otherBlocks =>
          obtain ⟨stands, nextSkipped, standLater⟩ := stand
          obtain ⟨otherStands, otherNextSkipped, otherLater⟩ := otherStand
          obtain ⟨firsts, behind⟩ := stands.unique otherStands rests
          obtain ⟨nexts, later⟩ :=
            induction standLater nextSkipped otherLater otherNextSkipped behind
          rw [Prod.ext firsts nexts, later]

theorem Cuts.scan {document : Text} (cuts : Cuts document gap blocks) :
    scan document = .ok ⟨entries blocks⟩ := by
  have fresh : ∀ name ∈ names blocks, name ∉ Table.empty.keys := fun _ _ => List.not_mem_nil
  obtain ⟨result, run, read⟩ := scan_from_stand cuts.stand cuts.skipped cuts.distinct fresh
  have same : result = ⟨entries blocks⟩ := congrArg Table.mk read
  rw [PostMarkup.scan, ← cuts.whole, run, same]

end Blocks

/-- The scanner reads a document just when the document can be cut into blocks that stand and have
different names, and then reads the bodies of these blocks in their order. No document can be cut in
two ways. -/
theorem scan_ok_iff_cuts (document : Text) (table : Table) :
    (scan document = .ok table ↔
      ∃ gap blocks, Blocks.Cuts document gap blocks ∧ table.entries = blocks.entries) ∧
    ∀ gap blocks other otherBlocks, Blocks.Cuts document gap blocks →
      Blocks.Cuts document other otherBlocks → gap = other ∧ blocks = otherBlocks := by
  constructor
  · constructor
    · intro run
      obtain ⟨gap, blocks, cuts, -, whole⟩ := Blocks.cuts_of_scan_from run
      exact ⟨gap, blocks, cuts, whole⟩
    · intro cut
      rcases cut with ⟨gap, blocks, cuts, whole⟩
      have same : table = ⟨blocks.entries⟩ := congrArg Table.mk whole
      rw [same]
      exact cuts.scan
  · intro gap blocks other otherBlocks cuts otherCuts
    have same := cuts.whole.trans otherCuts.whole.symm
    exact Blocks.stand_unique cuts.stand cuts.skipped otherCuts.stand otherCuts.skipped same

end PostMarkup
