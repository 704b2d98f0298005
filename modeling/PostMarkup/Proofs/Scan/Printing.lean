import PostMarkup.Proofs.Scan.Grammar

/-!
Reading blocks back from their written form. Every block in which its own tags are balanced can be
read back, whatever else its body holds, as long as no later body closes it. Bodies of earlier blocks
are free to hold the tags of later ones.
-/

namespace PostMarkup

/-- A walk through a text counts the opening tags of the name up and its closing tags down, from
`depth`, and meets no closing tag at zero. -/
inductive StaysOpen (name : Text) : Nat → Text → Prop
  | done {depth : Nat} : StaysOpen name depth []
  | closing {depth : Nat} {after : Text} (later : StaysOpen name depth after) :
      StaysOpen name (depth + 1) (closingTag name ++ after)
  | opening {depth : Nat} {text : Text} {tag : OpeningTag} (unclosed : ¬ closingTag name <+: text)
      (cut : OpeningTag.cut? text = some tag) (same : tag.name = name)
      (later : StaysOpen name (depth + 1) tag.after) : StaysOpen name depth text
  | plain {depth : Nat} {c : Char} {rest : Text} (unclosed : ¬ closingTag name <+: c :: rest)
      (other : ∀ tag, OpeningTag.cut? (c :: rest) = some tag → tag.name ≠ name)
      (later : StaysOpen name depth rest) : StaysOpen name depth (c :: rest)

namespace StaysOpen

variable {name text rest : Text} {depth : Nat}

/-- A text that is never closed cannot be opened again after it was closed. -/
theorem reopens_from_eq_false (stays : StaysOpen name depth text) :
    reopensFrom name depth false text = false := by
  induction stays with
  | done => exact reopens_from_nil
  | closing later induction => rw [reopens_from_closing_succ, induction]
  | opening unclosed cut same later induction =>
      subst same
      rw [reopens_from_opening unclosed cut, Bool.false_or, induction]
  | plain unclosed other later induction => rw [reopens_from_plain unclosed other, induction]

theorem of_absent (depth : Nat) (text : Text) (absent : ¬ closingTag name <:+: text) :
    StaysOpen name depth text := by
  match text with
  | [] => exact .done
  | c :: rest =>
      have unclosed : ¬ closingTag name <+: c :: rest := fun found => absent found.isInfix
      -- The walk goes on behind an opening tag of the name, so the recursion is not on the characters.
      by_cases opened : ∃ tag, OpeningTag.cut? (c :: rest) = some tag ∧ tag.name = name
      · rcases opened with ⟨tag, cut, same⟩
        have behind : tag.after <:+ c :: rest := ⟨tag.written, (OpeningTag.cut_sound cut).symm⟩
        have shorter := OpeningTag.cut_shortens cut
        apply StaysOpen.opening unclosed cut same
        exact of_absent (depth + 1) tag.after fun found => absent (found.trans behind.isInfix)
      · apply StaysOpen.plain unclosed
        · intro tag cut same
          exact opened ⟨tag, cut, same⟩
        · exact of_absent depth rest fun found => absent (List.infix_cons found)
termination_by text.length
decreasing_by
  · exact shorter
  · simp

theorem free_append (valid : IsTagName name) {front : Text} (free : '<' ∉ front)
    (stays : StaysOpen name depth rest) : StaysOpen name depth (front ++ rest) := by
  induction front with
  | nil => exact stays
  | cons c front induction =>
      rw [List.mem_cons, not_or] at free
      have other := Ne.symm free.1
      apply StaysOpen.plain (valid.closing_is_tag.not_prefix_cons other)
      · intro tag cut
        rw [OpeningTag.cut_of_ne other] at cut
        cases cut
      · exact induction free.2

theorem other_closing (valid : IsTagName name) {other : Text} (validOther : IsTagName other)
    (different : name ≠ other) (stays : StaysOpen name depth rest) :
    StaysOpen name depth (closingTag other ++ rest) := by
  obtain ⟨inside, shape, free⟩ := validOther.closing_is_tag
  have unclosed : ¬ closingTag name <+: closingTag other ++ rest := by
    rwa [valid.closing_prefix_closing_iff validOther]
  have uncut : OpeningTag.cut? (closingTag other ++ rest) = none := OpeningTag.cut_closing
  rw [shape, List.cons_append] at unclosed uncut ⊢
  apply StaysOpen.plain unclosed
  · intro tag cut
    rw [uncut] at cut
    cases cut
  · exact stays.free_append valid free

end StaysOpen

/-- A block in which the tags of its own name are balanced as the scanner counts them. -/
structure Block.Balanced (block : Block) : Prop where
  tagged : block.Tagged
  filled : block.body ≠ []
  stays : StaysOpen block.name 0 block.body

theorem Block.Balanced.opens {block : Block} (balanced : block.Balanced) (after : Text) :
    OpeningTag.cut? (block.written ++ after) =
      some ⟨block.name, block.attributes, block.body ++ closingTag block.name ++ after⟩ := by
  have filled : block.body ++ closingTag block.name ++ after ≠ [] := by simp [closingTag]
  have shape : block.written ++ after =
      block.opening ++ (block.body ++ closingTag block.name ++ after) := by
    simp [Block.written]
  rw [shape]
  exact balanced.tagged.cut_opening filled

theorem Block.Balanced.stands {block : Block} {after : Text} (balanced : block.Balanced)
    (absent : ¬ closingTag block.name <:+: after) : block.Stands after where
  opens := balanced.opens after
  filled := balanced.filled
  last := balanced.tagged.word.isTagName.closing_is_tag.last_mark_iff.2 absent
  single := balanced.stays.reopens_from_eq_false

namespace Blocks

def Balanced (blocks : Blocks) : Prop := ∀ part ∈ blocks, part.1.Balanced ∧ '<' ∉ part.2

def LeavesEarlierOpen (blocks : Blocks) : Prop :=
  blocks.Pairwise fun earlier later => ¬ closingTag earlier.1.name <:+: later.1.body

variable {blocks rest others : Blocks} {gap other : Text}

theorem Balanced.tagged (balanced : Balanced blocks) : Tagged blocks :=
  fun part member => (balanced part member).imp_left Block.Balanced.tagged

theorem Balanced.begins_with_tag (balanced : Balanced blocks) : BeginsWithTag (written blocks) := by
  cases blocks with
  | nil => exact Or.inl rfl
  | cons part rest => exact Or.inr ⟨_, (balanced part List.mem_cons_self).1.opens _⟩

theorem stand_of_balanced (balanced : Balanced blocks) (distinct : (names blocks).Nodup)
    (apart : LeavesEarlierOpen blocks) : Stand blocks := by
  induction blocks with
  | nil => trivial
  | cons part rest induction =>
      rcases part with ⟨block, next⟩
      obtain ⟨blockBalanced, nextFree⟩ := balanced (block, next) List.mem_cons_self
      have restBalanced : Balanced rest :=
        fun part member => balanced part (List.mem_cons_of_mem _ member)
      rw [names_cons, List.nodup_cons] at distinct
      obtain ⟨apartHere, apartLater⟩ := List.pairwise_cons.1 apart
      have valid := blockBalanced.tagged.word.isTagName
      have absent :=
        (closing_absent_behind_iff nextFree restBalanced.tagged valid distinct.1).2 apartHere
      exact ⟨blockBalanced.stands absent, skipped_of_free nextFree,
        induction restBalanced distinct.2 apartLater⟩

/-- Whenever the blocks are read back from their written form, each of them ends at the last closing
tag of its name, and that tag is not in a later body. -/
theorem leaves_earlier_open_of_stand (balanced : Balanced blocks) (distinct : (names blocks).Nodup)
    (gapFree : '<' ∉ gap) (stand : Stand others) (skipped : Skipped other (written others))
    (same : gap ++ written blocks = other ++ written others)
    (read : entries blocks = entries others) : LeavesEarlierOpen blocks := by
  induction blocks generalizing gap other others with
  | nil => exact List.Pairwise.nil
  | cons part rest induction =>
      rcases part with ⟨block, next⟩
      obtain ⟨blockBalanced, nextFree⟩ := balanced (block, next) List.mem_cons_self
      have restBalanced : Balanced rest :=
        fun part member => balanced part (List.mem_cons_of_mem _ member)
      obtain ⟨-, rests⟩ := gap_unique (skipped_of_free gapFree) skipped balanced.begins_with_tag
        (begins_with_tag_of_stand stand) same
      cases others with
      | nil => cases read
      | cons otherPart others =>
          rcases otherPart with ⟨otherBlock, otherNext⟩
          obtain ⟨stands, nextSkipped, standLater⟩ := stand
          simp only [entries, List.map_cons, List.cons.injEq, Prod.mk.injEq] at read
          obtain ⟨⟨sameName, sameBody⟩, readLater⟩ := read
          have opens := blockBalanced.opens (next ++ written rest)
          have shape : block.written ++ (next ++ written rest) =
              otherBlock.written ++ (otherNext ++ written others) := rests
          rw [shape, stands.opens] at opens
          simp only [Option.some.injEq, OpeningTag.mk.injEq, sameName, sameBody, true_and,
            List.append_cancel_left_eq] at opens
          have absent := stands.closing_absent
          rw [opens.2, ← sameName] at absent
          rw [names_cons, List.nodup_cons] at distinct
          have valid := blockBalanced.tagged.word.isTagName
          apply List.pairwise_cons.2
          constructor
          · exact (closing_absent_behind_iff nextFree restBalanced.tagged valid distinct.1).1 absent
          · exact induction restBalanced distinct.2 nextFree standLater nextSkipped opens.2.symm
              readLater

end Blocks

structure Block.Separate (blocks : List Block) : Prop where
  tagged : ∀ block ∈ blocks, block.Tagged
  filled : ∀ block ∈ blocks, block.body ≠ []
  distinct : (blocks.map Block.name).Nodup
  unclosed : ∀ block ∈ blocks, ∀ other ∈ blocks, ¬ closingTag other.name <:+: block.body

theorem Block.Separate.perm {blocks others : List Block} (separate : Separate blocks)
    (perm : others.Perm blocks) : Separate others where
  tagged block member := separate.tagged block (perm.mem_iff.1 member)
  filled block member := separate.filled block (perm.mem_iff.1 member)
  distinct := (perm.map _).nodup_iff.2 separate.distinct
  unclosed block member other listed :=
    separate.unclosed block (perm.mem_iff.1 member) other (perm.mem_iff.1 listed)

theorem Blocks.scan_of_separate {gap : Text} {blocks : Blocks}
    (separate : Block.Separate (blocks.map Prod.fst)) (gapFree : '<' ∉ gap)
    (gapsFree : ∀ part ∈ blocks, '<' ∉ part.2) :
    scan (gap ++ blocks.written) = .ok ⟨blocks.entries⟩ := by
  have distinct : (names blocks).Nodup := by
    have listed := separate.distinct
    rwa [List.map_map] at listed
  have balanced : Balanced blocks := by
    intro part member
    have listed : part.1 ∈ blocks.map Prod.fst := List.mem_map_of_mem member
    have stays := StaysOpen.of_absent 0 _ (separate.unclosed _ listed _ listed)
    exact ⟨⟨separate.tagged _ listed, separate.filled _ listed, stays⟩, gapsFree part member⟩
  have apart : LeavesEarlierOpen blocks := by
    apply List.pairwise_iff_forall_sublist.2
    intro earlier later ordered
    have earlierListed := ordered.subset List.mem_cons_self
    have laterListed := ordered.subset (List.mem_cons_of_mem _ List.mem_cons_self)
    exact separate.unclosed _ (List.mem_map_of_mem laterListed) _ (List.mem_map_of_mem earlierListed)
  have stand := stand_of_balanced balanced distinct apart
  exact Cuts.scan ⟨rfl, skipped_of_free gapFree, stand, distinct⟩

/-- Blocks are read back from their written form, in their order, just when no body holds the closing
tag of an earlier block. -/
theorem scan_written_eq_entries_iff {gap : Text} {blocks : Blocks} (gapFree : '<' ∉ gap)
    (balanced : blocks.Balanced) (distinct : blocks.names.Nodup) :
    scan (gap ++ blocks.written) = .ok ⟨blocks.entries⟩ ↔ blocks.LeavesEarlierOpen := by
  constructor
  · intro run
    obtain ⟨other, others, cuts, -, read⟩ := Blocks.cuts_of_scan_from run
    exact Blocks.leaves_earlier_open_of_stand balanced distinct gapFree cuts.stand cuts.skipped
      cuts.whole.symm read
  · intro apart
    have stand := Blocks.stand_of_balanced balanced distinct apart
    exact Blocks.Cuts.scan ⟨rfl, Blocks.skipped_of_free gapFree, stand, distinct⟩

/-- A block may hold tags of its own name that are balanced, and half a block of a later name. -/
theorem scan_written_eq_entries_of_nested_tags :
    scan "x <a k><a>1</a></b></a> <b>2</b>".toList =
      .ok ⟨[(['a'], "<a>1</a></b>".toList), (['b'], ['2'])]⟩ := by
  have wordA : IsWord ['a'] := .singleton (by decide)
  have wordB : IsWord ['b'] := .singleton (by decide)
  have nested : Block.Tagged ⟨['a'], [], ['1']⟩ := ⟨wordA, by decide, by simp⟩
  have firstStays : StaysOpen ['a'] 0 ((Block.mk ['a'] [] ['1']).written ++ closingTag ['b']) := by
    have filled : ['1'] ++ (closingTag ['a'] ++ (closingTag ['b'] ++ [])) ≠ [] := by decide
    apply StaysOpen.opening (Block.closing_not_prefix_opening nested.word)
      (nested.cut_opening filled) rfl
    apply StaysOpen.free_append wordA.isTagName (by decide)
    apply StaysOpen.closing
    exact StaysOpen.other_closing wordA.isTagName wordB.isTagName (by decide) .done
  have secondStays : StaysOpen ['b'] 0 (['2'] ++ []) :=
    StaysOpen.free_append wordB.isTagName (by decide) .done
  have spaced : ∀ c ∈ [' ', 'k'].head?, isWordChar c = false := by
    intro c member
    cases member
    decide
  have first : Block.Balanced
      ⟨['a'], [' ', 'k'], (Block.mk ['a'] [] ['1']).written ++ closingTag ['b']⟩ :=
    ⟨⟨wordA, by decide, spaced⟩, by decide, firstStays⟩
  have second : Block.Balanced ⟨['b'], [], ['2']⟩ :=
    ⟨⟨wordB, by decide, by simp⟩, by decide, secondStays⟩
  have balanced : Blocks.Balanced [(_, [' ']), (_, [])] :=
    List.forall_mem_cons.2 ⟨⟨first, by decide⟩, List.forall_mem_singleton.2 ⟨second, by decide⟩⟩
  have gapFree : '<' ∉ ['x', ' '] := by decide
  apply (scan_written_eq_entries_iff gapFree balanced (by decide)).2
  unfold Blocks.LeavesEarlierOpen
  decide

end PostMarkup
