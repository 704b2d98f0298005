import Mathlib.Algebra.GroupWithZero.Nat
import PostMarkup.Proofs.Expansion.OnePass
import PostMarkup.Proofs.References
import PostMarkup.Proofs.Text.Bytes

/-!
Where a reference without a binding stands. The pass stops in front of it with everything before it
rewritten, and the fault counts the bytes of what has been written. That is the place of the reference in
the text that was given only as far as the values in front of it take up the room of their references.
-/

namespace PostMarkup

open Text (byteLength)

/-- The references that are replaced before one without a value ends the pass. -/
def replaced (value : Text → Option Text) (text : Text) : List Text :=
  (consumed text).takeWhile fun reference => (value reference).isSome

def replacedBytes (value : Text → Option Text) (text : Text) : Nat :=
  ((replaced value text).map byteLength).sum

def insertedBytes (value : Text → Option Text) (text : Text) : Nat :=
  ((replaced value text).map fun reference => byteLength ((value reference).getD [])).sum

variable {value : Text → Option Text} {text reference : Text}

/-- What is replaced is a reference that stands in the text. -/
theorem exists_name_of_mem_consumed (member : reference ∈ consumed text) :
    ∃ name, IsWord name ∧ reference = Reference.written name ∧ Reference.written name <:+: text := by
  fun_induction consumed text with
  | case1 => cases member
  | case2 c rest uncut induction =>
      obtain ⟨name, word, same, found⟩ := induction member
      exact ⟨name, word, same, List.infix_cons found⟩
  | case3 c rest name after cut induction =>
      obtain ⟨word, whole⟩ := Reference.cut_eq_some_iff.1 cut
      rcases List.mem_cons.1 member with same | later
      · exact ⟨name, word, same, ⟨[], after, whole.symm⟩⟩
      · obtain ⟨other, otherWord, same, found⟩ := induction later
        have behind : after.drop 1 <:+: c :: rest := by
          rw [whole]
          exact ((List.drop_suffix 1 after).trans (List.suffix_append _ after)).isInfix
        exact ⟨other, otherWord, same, found.trans behind⟩

theorem ne_nil_of_mem_consumed (member : reference ∈ consumed text) : reference ≠ [] := by
  obtain ⟨name, -, rfl, -⟩ := exists_name_of_mem_consumed member
  exact List.cons_ne_nil _ _

theorem value_of_mem_replaced {other : Text} (member : other ∈ replaced value text) :
    (value other).isSome = true := by
  unfold replaced at member
  exact List.mem_takeWhile_imp (p := fun reference => (value reference).isSome) member

/-- A pass that meets a reference without a value has read the text in front of it, and nothing else is
written than for that text alone. -/
theorem exists_missing
    (missing : (consumed text).find? (fun other => (value other).isNone) = some reference) :
    ∃ before after, text = before ++ reference ++ after ∧ consumed before = replaced value text ∧
      onePass value before = onePass value text := by
  unfold replaced
  fun_induction consumed text with
  | case1 => cases missing
  | case2 c rest uncut induction =>
      obtain ⟨before, after, whole, references, written⟩ := induction missing
      have ahead : c :: before <+: c :: rest := ⟨reference ++ after, by simp [whole]⟩
      have uncutBefore := Reference.uncut_of_prefix uncut ahead
      refine ⟨c :: before, after, by simp [whole], ?_, ?_⟩
      · rw [consumed_plain uncutBefore, references]
      · rw [one_pass_plain uncutBefore, one_pass_plain uncut, written]
  | case3 c rest name after cut induction =>
      obtain ⟨word, cutWhole⟩ := Reference.cut_eq_some_iff.1 cut
      cases given : value (Reference.written name) with
      | none =>
          rw [List.find?_cons_of_pos (by simp [given])] at missing
          cases missing
          refine ⟨[], after, cutWhole, ?_, ?_⟩
          · rw [consumed_nil, List.takeWhile_cons_of_neg (by simp [given])]
          · rw [one_pass_nil, one_pass_reference cut, given]
      | some inserted =>
          rw [List.find?_cons_of_neg (by simp [given])] at missing
          obtain ⟨before, behind, whole, references, written⟩ := induction missing
          cases after with
          | nil =>
              rw [List.drop_nil, consumed_nil] at missing
              cases missing
          | cons d after =>
              -- The character behind the reference is skipped in the shorter text as well.
              have cutBefore : Reference.cut? ('$' :: (name ++ '$' :: d :: before)) =
                  some (name, d :: before) := by
                have again := word.cut_written (d :: before)
                simpa [Reference.written] using again
              refine ⟨'$' :: (name ++ '$' :: d :: before), behind, ?_, ?_, ?_⟩
              · simp only [List.drop_succ_cons, List.drop_zero] at whole
                simp [cutWhole, Reference.written, whole]
              · rw [consumed_reference cutBefore, List.takeWhile_cons_of_pos (by simp [given])]
                exact congrArg (Reference.written name :: ·) references
              · rw [one_pass_reference cutBefore, one_pass_reference cut, given]
                exact congrArg (fun rest => inserted ++ ([d] ++ rest)) written

/-- A pass that is not stopped takes out the bytes of the references and puts in those of the values. -/
theorem byte_length_one_pass (bound : ∀ other ∈ consumed text, (value other).isSome = true) :
    byteLength (onePass value text) + ((consumed text).map byteLength).sum =
      byteLength text +
        ((consumed text).map fun other => byteLength ((value other).getD [])).sum := by
  fun_induction consumed text with
  | case1 => rw [one_pass_nil]; rfl
  | case2 c rest uncut induction =>
      have later := induction bound
      rw [one_pass_plain uncut, Text.byte_length_cons, Text.byte_length_cons]
      omega
  | case3 c rest name after cut induction =>
      obtain ⟨here, others⟩ := List.forall_mem_cons.1 bound
      obtain ⟨inserted, given⟩ := Option.isSome_iff_exists.1 here
      have later := induction others
      have cutBytes := congrArg byteLength (Reference.cut_sound cut)
      have split := congrArg byteLength (List.take_append_drop 1 after)
      simp only [Text.byte_length_append] at cutBytes split
      rw [one_pass_reference cut, given]
      simp only [Text.byte_length_append, List.map_cons, List.sum_cons, given, Option.getD_some]
      omega

/-- The reference of the fault has no binding and stands in the text that was given. What is in front of
it there can be rewritten, and the offset of the fault counts the bytes of that rewritten text. So the
given text goes on with the reference at the offset exactly when the values in front take as many bytes
as the references that they replace, or when it holds the same reference a second time just there. -/
theorem missing_binding_place {bindings : Table} {offset : Nat}
    (refused : replaceReferences bindings .refuse text =
      .error (.unboundReference reference offset)) :
    bindings.get? reference = none ∧
      ∃ before after written, text = before ++ reference ++ after ∧
        consumed before = replaced bindings.get? text ∧
        replaceReferences bindings .refuse before = .ok written ∧ byteLength written = offset ∧
        offset + replacedBytes bindings.get? text =
          byteLength before + insertedBytes bindings.get? text ∧
        (text.HoldsAt offset reference ↔
          insertedBytes bindings.get? text = replacedBytes bindings.get? text ∨
            ∃ other, other ≠ before ∧ other ++ reference <+: text ∧ byteLength other = offset) := by
  rw [replace_references_refuse] at refused
  cases missing : (consumed text).find? fun other => (bindings.get? other).isNone with
  | none =>
      rw [missing] at refused
      cases refused
  | some first =>
      rw [missing] at refused
      cases refused
      have unbound : bindings.get? reference = none := by simpa using List.find?_some missing
      have filled : reference ≠ [] := ne_nil_of_mem_consumed (List.mem_of_find?_eq_some missing)
      obtain ⟨before, after, whole, references, written⟩ := exists_missing missing
      have bound : ∀ other ∈ consumed before, (bindings.get? other).isSome = true := by
        intro other member
        exact value_of_mem_replaced (references ▸ member)
      have rewritten : replaceReferences bindings .refuse before =
          .ok (onePass bindings.get? text) := by
        rw [replace_references_refuse_of_bound bound, written]
      have balance := byte_length_one_pass bound
      rw [references, written] at balance
      refine ⟨unbound, before, after, _, whole, references, rewritten, rfl, balance, ?_⟩
      rw [Text.holds_at_iff filled]
      unfold insertedBytes replacedBytes
      constructor
      · intro placed
        rcases placed with ⟨other, counted, ahead⟩
        by_cases same : other = before
        · subst same
          exact Or.inl (by omega)
        · exact Or.inr ⟨other, same, ahead, counted⟩
      · intro places
        rcases places with even | ⟨other, -, ahead, counted⟩
        · exact ⟨before, by omega, ⟨after, whole.symm⟩⟩
        · exact ⟨other, counted, ahead⟩

/-- Behind a value that is as long as its reference, in bytes. -/
theorem missing_binding_place_of_even_value :
    replaceReferences ⟨[("$a$".toList, "\u00e4!".toList)]⟩ .refuse "$a$ $x$".toList =
        .error (.unboundReference "$x$".toList 4) ∧
      Text.HoldsAt "$a$ $x$".toList 4 "$x$".toList := by
  have refused : replaceReferences ⟨[("$a$".toList, "\u00e4!".toList)]⟩ .refuse "$a$ $x$".toList =
      .error (.unboundReference "$x$".toList 4) := by
    rw [replace_references_refuse]
    decide +kernel
  obtain ⟨-, before, after, written, -, -, -, -, -, places⟩ := missing_binding_place refused
  exact ⟨refused, places.2 (Or.inl (by decide +kernel))⟩

/-- A value longer than its reference moves the offset past the reference that has no binding. -/
theorem missing_binding_behind_longer_value :
    replaceReferences ⟨[("$a$".toList, "long".toList)]⟩ .refuse "$a$ $x$".toList =
        .error (.unboundReference "$x$".toList 5) ∧
      ¬ Text.HoldsAt "$a$ $x$".toList 5 "$x$".toList := by
  constructor
  · rw [replace_references_refuse]
    decide +kernel
  · decide +kernel

end PostMarkup
