import PostMarkup.Expansion.References

/-!
Replacing references as a single pass over the text that was given. The program edits its text in place,
so it reads a text that changes under it; all the same it takes out the references that the unchanged
text has for it, whatever their values are, and an inserted value is never read.
-/

namespace PostMarkup

open Text (byteLength)

theorem Text.byte_length_reverse (text : Text) : byteLength text.reverse = byteLength text := by
  induction text with
  | nil => rfl
  | cons c text induction =>
      rw [List.reverse_cons, byte_length_append, induction, byte_length_cons, byte_length_cons,
        byte_length_nil]
      omega

/-- The references that a pass replaces, in order. The character behind a reference is not read, and so
never begins one. -/
def consumed : Text → List Text
  | [] => []
  | c :: rest =>
      match _ : Reference.cut? (c :: rest) with
      | none => consumed rest
      | some (name, after) => Reference.written name :: consumed (after.drop 1)
termination_by text => text.length
decreasing_by
  · simp
  · have shorter := Reference.cut_shortens ‹_›
    simp only [List.length_cons, List.length_drop] at shorter ⊢
    omega

/-- The text with a value in the place of each of these references. The pass ends at the first one that
has no value. -/
def onePass (value : Text → Option Text) : Text → Text
  | [] => []
  | c :: rest =>
      match _ : Reference.cut? (c :: rest) with
      | none => c :: onePass value rest
      | some (name, after) =>
          match value (Reference.written name) with
          | none => []
          | some inserted => inserted ++ (after.take 1 ++ onePass value (after.drop 1))
termination_by text => text.length
decreasing_by
  · simp
  · have shorter := Reference.cut_shortens ‹_›
    simp only [List.length_cons, List.length_drop] at shorter ⊢
    omega

variable {value other : Text → Option Text} {c : Char} {rest name after : Text}

theorem consumed_nil : consumed [] = [] := by rw [consumed]

theorem one_pass_nil (value : Text → Option Text) : onePass value [] = [] := by rw [onePass]

section Steps

theorem consumed_plain (uncut : Reference.cut? (c :: rest) = none) :
    consumed (c :: rest) = consumed rest := by
  rw [consumed]
  split
  · rfl
  · rename_i cut
    rw [uncut] at cut
    cases cut

theorem consumed_reference (cut : Reference.cut? (c :: rest) = some (name, after)) :
    consumed (c :: rest) = Reference.written name :: consumed (after.drop 1) := by
  rw [consumed]
  split
  · rename_i uncut
    rw [cut] at uncut
    cases uncut
  · rename_i again
    rw [cut] at again
    cases again
    rfl

theorem one_pass_plain (uncut : Reference.cut? (c :: rest) = none) :
    onePass value (c :: rest) = c :: onePass value rest := by
  rw [onePass]
  split
  · rfl
  · rename_i cut
    rw [uncut] at cut
    cases cut

theorem one_pass_reference (cut : Reference.cut? (c :: rest) = some (name, after)) :
    onePass value (c :: rest) =
      match value (Reference.written name) with
      | none => []
      | some inserted => inserted ++ (after.take 1 ++ onePass value (after.drop 1)) := by
  rw [onePass]
  split
  · rename_i uncut
    rw [cut] at uncut
    cases uncut
  · rename_i again
    rw [cut] at again
    cases again
    rfl

end Steps

/-- A pass depends on the values of the references that it replaces and on nothing else. -/
theorem one_pass_congr (text : Text) (same : ∀ reference ∈ consumed text, value reference = other reference) :
    onePass value text = onePass other text := by
  fun_induction consumed text with
  | case1 => rw [one_pass_nil, one_pass_nil]
  | case2 c rest uncut induction =>
      rw [one_pass_plain uncut, one_pass_plain uncut, induction same]
  | case3 c rest name after cut induction =>
      have later := induction fun reference member => same reference (List.mem_cons_of_mem _ member)
      rw [one_pass_reference cut, one_pass_reference cut, same _ List.mem_cons_self, later]

/-- A text is made of the references that are replaced and of runs that are copied; a pass puts values
in the places of the references, whatever the values are. -/
theorem exists_runs (text : Text) :
    ∃ (first : Text) (slots : List (Text × Text)), consumed text = slots.map Prod.fst ∧
      text = first ++ slots.flatMap (fun slot => slot.1 ++ slot.2) ∧
      ∀ value : Text → Text, onePass (fun reference => some (value reference)) text =
        first ++ slots.flatMap fun slot => value slot.1 ++ slot.2 := by
  fun_induction consumed text with
  | case1 => exact ⟨[], [], rfl, rfl, fun value => one_pass_nil _⟩
  | case2 c rest uncut induction =>
      obtain ⟨first, slots, references, whole, filled⟩ := induction
      refine ⟨c :: first, slots, references, congrArg (c :: ·) whole, ?_⟩
      intro value
      rw [one_pass_plain uncut, filled]
      rfl
  | case3 c rest name after cut induction =>
      obtain ⟨first, slots, references, whole, filled⟩ := induction
      -- The character that is not read opens the run behind the reference.
      refine ⟨[], (Reference.written name, after.take 1 ++ first) :: slots, ?_, ?_, ?_⟩
      · rw [references]
        rfl
      · have cutWhole := Reference.cut_sound cut
        rw [← List.take_append_drop 1 after, whole] at cutWhole
        rw [cutWhole, List.flatMap_cons]
        simp only [List.nil_append, List.append_assoc]
      · intro value
        rw [one_pass_reference cut, filled, List.flatMap_cons]
        simp only [List.nil_append, List.append_assoc]

theorem reverse_take_one (text : Text) : (text.take 1).reverse = text.take 1 := by
  cases text <;> rfl

/-- The edited text is final in front of the cursor and given behind it, so what remains to be written
is one pass over the text behind the cursor. -/
theorem replace_references_from_eq (bindings : Table) (unbound : Unbound) (writtenRev text : Text) :
    replaceReferencesFrom bindings unbound writtenRev text =
      match (consumed text).find? fun reference => (unbound.value? bindings reference).isNone with
      | none => .ok (writtenRev.reverse ++ onePass (unbound.value? bindings) text)
      | some reference => .error (.unboundReference reference
          (byteLength writtenRev + byteLength (onePass (unbound.value? bindings) text))) := by
  fun_induction replaceReferencesFrom bindings unbound writtenRev text with
  | case1 writtenRev =>
      rw [consumed_nil, one_pass_nil, List.append_nil]
      rfl
  | case2 writtenRev c rest uncut induction =>
      rw [induction, consumed_plain uncut, one_pass_plain uncut]
      simp only [List.reverse_cons, List.append_assoc, List.singleton_append, Text.byte_length_cons]
      split
      · rfl
      · congr 2
        omega
  | case3 writtenRev c rest name after cut missing =>
      rw [consumed_reference cut, one_pass_reference cut, missing, List.find?_cons_of_pos (by simp [missing])]
      rfl
  | case4 writtenRev c rest name after cut value found induction =>
      rw [induction, consumed_reference cut, one_pass_reference cut, found,
        List.find?_cons_of_neg (by simp [found])]
      simp only [List.reverse_append, List.reverse_reverse, reverse_take_one, List.append_assoc,
        Text.byte_length_append, Text.byte_length_reverse]
      split
      · rfl
      · congr 2
        omega

theorem value_vanish (bindings : Table) :
    Unbound.vanish.value? bindings = fun reference => some ((bindings.get? reference).getD []) := by
  funext reference
  cases found : bindings.get? reference <;> simp only [Unbound.value?, found, Option.getD]

theorem value_refuse (bindings : Table) : Unbound.refuse.value? bindings = bindings.get? := by
  funext reference
  cases found : bindings.get? reference <;> simp only [Unbound.value?, found]

theorem replace_references_vanish (bindings : Table) (text : Text) :
    replaceReferences bindings .vanish text =
      .ok (onePass (fun reference => some ((bindings.get? reference).getD [])) text) := by
  have bound : ((consumed text).find? fun reference =>
      (Unbound.vanish.value? bindings reference).isNone) = none := by
    rw [List.find?_eq_none, value_vanish]
    intro reference _
    exact Bool.false_ne_true
  rw [replaceReferences, replace_references_from_eq, bound, value_vanish]
  rfl

theorem replace_references_refuse (bindings : Table) (text : Text) :
    replaceReferences bindings .refuse text =
      match (consumed text).find? fun reference => (bindings.get? reference).isNone with
      | none => .ok (onePass bindings.get? text)
      | some reference =>
          .error (.unboundReference reference (byteLength (onePass bindings.get? text))) := by
  rw [replaceReferences, replace_references_from_eq, value_refuse]
  simp only [Text.byte_length_nil, Nat.zero_add, List.reverse_nil, List.nil_append]

theorem replace_references_refuse_of_bound {bindings : Table} {text : Text}
    (bound : ∀ reference ∈ consumed text, (bindings.get? reference).isSome = true) :
    replaceReferences bindings .refuse text = .ok (onePass bindings.get? text) := by
  have passed : ((consumed text).find? fun reference => (bindings.get? reference).isNone) = none := by
    rw [List.find?_eq_none]
    intro reference member
    simp [Option.isSome_iff_ne_none.1 (bound reference member)]
  rw [replace_references_refuse, passed]

/-- Editing the text in place is a pass over the text as it was given. References without a binding
leave nothing behind, or else the first of them is the fault. The text settles beforehand which parts of
it are replaced and which are copied, so no value is ever read, alone or with what follows it. -/
theorem replace_references_eq_one_pass (text : Text) :
    (∀ bindings, replaceReferences bindings .vanish text =
      .ok (onePass (fun reference => some ((bindings.get? reference).getD [])) text)) ∧
    (∀ bindings, replaceReferences bindings .refuse text =
      match (consumed text).find? fun reference => (bindings.get? reference).isNone with
      | none => .ok (onePass bindings.get? text)
      | some reference =>
          .error (.unboundReference reference (byteLength (onePass bindings.get? text)))) ∧
    ∃ (first : Text) (slots : List (Text × Text)), consumed text = slots.map Prod.fst ∧
      text = first ++ slots.flatMap (fun slot => slot.1 ++ slot.2) ∧
      ∀ bindings : Table, replaceReferences bindings .vanish text =
        .ok (first ++ slots.flatMap fun slot => (bindings.get? slot.1).getD [] ++ slot.2) := by
  refine ⟨?_, ?_, ?_⟩
  · intro bindings
    exact replace_references_vanish bindings text
  · intro bindings
    exact replace_references_refuse bindings text
  · obtain ⟨first, slots, references, whole, filled⟩ := exists_runs text
    refine ⟨first, slots, references, whole, ?_⟩
    intro bindings
    rw [replace_references_vanish, filled fun reference => (bindings.get? reference).getD []]

/-- The value and the character behind the reference make up a reference, and it stays. -/
example : replaceReferences ⟨[("$a$".toList, "x$b".toList), ("$b$".toList, ['B'])]⟩ .vanish
    "$a$$b$".toList = .ok "x$b$b$".toList := by
  rw [replace_references_vanish]
  exact congrArg Except.ok (by decide +kernel)

end PostMarkup
