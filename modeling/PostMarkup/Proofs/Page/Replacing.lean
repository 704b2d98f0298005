import PostMarkup.Proofs.Tags

/-!
Replacing a mark throughout a text. The text is read from the left: where the whole mark stands it is
replaced, and everywhere else one character is kept. Inserted text is not read again.
-/

namespace PostMarkup.Text

variable {mark value front rest after text : Text}

theorem replace_nonempty_cons (m : Char) (mark value : Text) (c : Char) (rest : Text) :
    replaceNonempty m mark value (c :: rest) =
      match dropMark? (m :: mark) (c :: rest) with
      | some after => value ++ replaceNonempty m mark value after
      | none => c :: replaceNonempty m mark value rest := by
  rw [replaceNonempty]
  split
  · rename_i after found
    rw [found]
  · rename_i missing
    rw [missing]

@[simp]
theorem replace_all_nil (mark value : Text) : replaceAll mark value [] = [] := by
  cases mark with
  | nil => rfl
  | cons m mark => rw [replaceAll, replaceNonempty]

theorem replace_all_mark (filled : mark ≠ []) (value after : Text) :
    replaceAll mark value (mark ++ after) = value ++ replaceAll mark value after := by
  obtain ⟨m, mark, rfl⟩ := List.exists_cons_of_ne_nil filled
  rw [replaceAll, List.cons_append, replace_nonempty_cons, ← List.cons_append, drop_mark_append]
  rfl

theorem replace_all_cons {c : Char} (absent : ¬ mark <+: c :: rest) (value : Text) :
    replaceAll mark value (c :: rest) = c :: replaceAll mark value rest := by
  cases mark with
  | nil => exact absurd List.nil_prefix absent
  | cons m mark =>
      rw [replaceAll, replace_nonempty_cons, drop_mark_eq_none_iff.2 absent]
      rfl

/-- Follows the way in which a text is read when a mark is replaced. -/
@[elab_as_elim]
theorem replacing_induction {motive : Text → Prop} (filled : mark ≠ []) (done : motive [])
    (found : ∀ after, motive after → motive (mark ++ after))
    (kept : ∀ c rest, ¬ mark <+: c :: rest → motive rest → motive (c :: rest))
    (text : Text) : motive text := by
  match text with
  | [] => exact done
  | c :: rest =>
      by_cases here : mark <+: c :: rest
      · obtain ⟨after, whole⟩ := here
        have shorter : after.length < (c :: rest).length := by
          have positive := List.length_pos_iff.2 filled
          rw [← whole, List.length_append]
          omega
        rw [← whole]
        exact found after (replacing_induction filled done found kept after)
      · exact kept c rest here (replacing_induction filled done found kept rest)
termination_by text.length
decreasing_by
  · exact shorter
  · simp

theorem replace_all_free_append {m : Char} (free : m ∉ front) (value rest : Text) :
    replaceAll (m :: mark) value (front ++ rest) =
      front ++ replaceAll (m :: mark) value rest := by
  induction front with
  | nil => rfl
  | cons c front induction =>
      rw [List.mem_cons, not_or] at free
      have absent : ¬ m :: mark <+: c :: (front ++ rest) := by
        intro found
        exact free.1 (List.cons_prefix_cons.1 found).1
      rw [List.cons_append, replace_all_cons absent, induction free.2, List.cons_append]

theorem replace_all_absent (absent : ¬ mark <:+: text) (value : Text) :
    replaceAll mark value text = text := by
  induction text with
  | nil => exact replace_all_nil mark value
  | cons c text induction =>
      rw [List.infix_cons_iff, not_or] at absent
      rw [replace_all_cons absent.1, induction absent.2]

theorem replace_all_self (mark text : Text) : replaceAll mark mark text = text := by
  by_cases filled : mark = []
  · subst filled
    rfl
  · induction text using replacing_induction filled with
    | done => exact replace_all_nil mark mark
    | found after later => rw [replace_all_mark filled, later]
    | kept c rest absent later => rw [replace_all_cons absent, later]

theorem length_replace_all (mark value text : Text) :
    ∃ count, (replaceAll mark value text).length + count * mark.length =
      text.length + count * value.length := by
  by_cases filled : mark = []
  · subst filled
    exact ⟨0, by simp [replaceAll]⟩
  · induction text using replacing_induction filled with
    | done => exact ⟨0, by simp⟩
    | found after later =>
        obtain ⟨count, lengths⟩ := later
        refine ⟨count + 1, ?_⟩
        rw [replace_all_mark filled, List.length_append, List.length_append, Nat.succ_mul, Nat.succ_mul]
        omega
    | kept c rest absent later =>
        obtain ⟨count, lengths⟩ := later
        refine ⟨count, ?_⟩
        rw [replace_all_cons absent, List.length_cons, List.length_cons]
        omega

theorem eq_of_replace_all_eq_self (filled : mark ≠ []) (found : mark <:+: text)
    (same : replaceAll mark value text = text) : value = mark := by
  induction text using replacing_induction filled with
  | done => exact absurd (List.infix_nil.1 found) filled
  | found after later =>
      rw [replace_all_mark filled] at same
      -- Marks further on may make up for the first one in the text, but not in its length: each of them
      -- changes it in the same direction, so value and mark have one length and stand in the same place.
      have whole := congrArg List.length same
      obtain ⟨count, lengths⟩ := length_replace_all mark value after
      rw [List.length_append, List.length_append] at whole
      have equal : (count + 1) * value.length = (count + 1) * mark.length := by
        rw [Nat.succ_mul, Nat.succ_mul]
        omega
      exact (List.append_inj same (Nat.eq_of_mul_eq_mul_left count.succ_pos equal)).1
  | kept c rest absent later =>
      rw [replace_all_cons absent, List.cons.injEq] at same
      exact later ((List.infix_cons_iff.1 found).resolve_left absent) same.2

theorem replace_all_eq_self_iff :
    replaceAll mark value text = text ↔ mark = [] ∨ value = mark ∨ ¬ mark <:+: text := by
  constructor
  · intro same
    by_cases filled : mark = []
    · exact Or.inl filled
    · by_cases found : mark <:+: text
      · exact Or.inr (Or.inl (eq_of_replace_all_eq_self filled found same))
      · exact Or.inr (Or.inr found)
  · intro unchanged
    rcases unchanged with rfl | rfl | absent
    · rfl
    · exact replace_all_self value text
    · exact replace_all_absent absent value

end PostMarkup.Text
