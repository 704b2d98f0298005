import Mathlib.Data.List.DropRight
import PostMarkup.Proofs.Expansion.Placing

/-!
Texts that are expanded piece by piece. A call that is closed in the first of two texts stays closed
where it was, and stray closing tags of the second one close nothing, so both texts together expand to
their expansions, as long as no opening tag is cut in two between them.
-/

namespace PostMarkup

open Call (openingTag isNameChar)

namespace Call

/-- Behind the last opening bracket, if there is one, stands a character that ends the name of a call. -/
def Settled (text : Text) : Prop :=
  '<' ∈ text → ∃ c ∈ text.rtakeWhile (· ≠ '<'), Unicode.isWhiteSpace c = true ∨ c = '>' ∨ c = '/'

variable {callable : Text → Bool} {front back : Text}

theorem rtake_while_of_last {before inside : Text} (free : '<' ∉ inside) :
    (before ++ '<' :: inside).rtakeWhile (· ≠ '<') = inside := by
  have others : ∀ c ∈ inside.reverse, decide (c ≠ '<') = true := by
    intro c member
    exact decide_eq_true fun same => free (same ▸ List.mem_reverse.1 member)
  have bracket : ∀ c ∈ ('<' :: before.reverse).head?, decide (c ≠ '<') = false := by
    simp
  have taken := (Text.take_drop_while_append others bracket).1
  simp only [List.rtakeWhile, List.reverse_append, List.reverse_cons, List.append_assoc,
    List.singleton_append, taken, List.reverse_reverse]

/-- An opening tag that is cut in two ends the first text with a part of its name. -/
theorem Settled.apart (settled : Settled front) : Apart callable front back := by
  intro name valid _ start rest started ended inFront _ same
  obtain ⟨c, inside, rfl⟩ := List.exists_cons_of_ne_nil started
  simp only [openingTag, List.cons_append, List.cons.injEq] at same
  rcases same with ⟨rfl, same⟩
  have within : inside <+: name := by
    have shorter : inside.length ≤ name.length := by
      have lengths := congrArg List.length same
      have filled := List.length_pos_iff.2 ended
      simp only [List.length_append, List.length_singleton] at lengths
      omega
    exact List.prefix_of_prefix_length_le ⟨rest, same.symm⟩ (List.prefix_append name ['>']) shorter
  obtain ⟨before, rfl⟩ := inFront
  have free : '<' ∉ inside := fun member => valid.isTagName.noOpening (within.subset member)
  obtain ⟨d, held, stops⟩ := settled (List.mem_append_right before List.mem_cons_self)
  rw [rtake_while_of_last free] at held
  have inName := valid.2 d (within.subset held)
  rcases stops with white | rfl | rfl
  · simp [isNameChar, white] at inName
  · exact valid.isTagName.noClosing (within.subset held)
  · exact valid.isTagName.noSlash (within.subset held)

end Call

/-- Expansions stand one after the other when their texts do. -/
theorem expand_calls_append_of_settled {templates : Table} {limit : Nat} {front back before behind : Text}
    (settled : Call.Settled front) (frontRun : expandCalls templates limit front = .ok before)
    (backRun : expandCalls templates limit back = .ok behind) :
    expandCalls templates limit (front ++ back) = .ok (before ++ behind) := by
  rw [expand_calls_eq_interpret] at frontRun backRun
  obtain ⟨frontContent, frontRead, frontWrites⟩ := Outcome.bind_ok_iff.1 frontRun
  obtain ⟨backContent, backRead, backWrites⟩ := Outcome.bind_ok_iff.1 backRun
  obtain ⟨rfl, frontWellFormed, frontFits⟩ := Content.of_text_at_sound frontRead
  obtain ⟨rfl, backWellFormed, backFits⟩ := Content.of_text_at_sound backRead
  have wellFormed := Content.well_formed_append frontWellFormed backWellFormed settled.apart
  have fits := Content.fits_append_iff.2 ⟨frontFits, backFits⟩
  have writes := Content.interpret_append_ok_iff.2 ⟨before, behind, frontWrites, backWrites, rfl⟩
  have expands := Content.expand_calls_of_interpret wellFormed fits writes
  rwa [Content.written_append] at expands

/-- Closing tags of both names stand astray in front and behind, and the first text ends behind a bracket. -/
theorem expand_calls_append_of_stray_closing :
    Call.Settled "<b>z</b></a>< ".toList ∧
      expandCalls tidyTemplates 50 "<b>z</b></a>< ".toList = .ok "[z]</a>< ".toList ∧
      expandCalls tidyTemplates 50 "</b><a>y</a>".toList = .ok "</b>[x]y!".toList ∧
      expandCalls tidyTemplates 50 "<b>z</b></a>< </b><a>y</a>".toList =
        .ok "[z]</a>< </b>[x]y!".toList := by
  have settled : Call.Settled "<b>z</b></a>< ".toList := fun _ => ⟨' ', by decide, Or.inl (by decide)⟩
  have frontRun : expandCalls tidyTemplates 50 "<b>z</b></a>< ".toList = .ok "[z]</a>< ".toList :=
    Outcome.ok_of_to_option (by decide +kernel)
  have backRun : expandCalls tidyTemplates 50 "</b><a>y</a>".toList = .ok "</b>[x]y!".toList :=
    Outcome.ok_of_to_option (by decide +kernel)
  exact ⟨settled, frontRun, backRun, expand_calls_append_of_settled settled frontRun backRun⟩

end PostMarkup
