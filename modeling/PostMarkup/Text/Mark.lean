import PostMarkup.Text

/-!
Fixed marks inside a text: where the first and the last one lie, and what the text becomes when one
or all of them are replaced. The empty mark is found before the first character of every text, but
replacing all marks leaves the text alone when the mark is empty.
-/

namespace PostMarkup.Text

def cutFirst? (mark : Text) : Text → Option (Text × Text)
  | [] => (dropMark? mark []).map fun after => ([], after)
  | c :: rest =>
      match dropMark? mark (c :: rest) with
      | some after => some ([], after)
      | none => (cutFirst? mark rest).map fun (before, after) => (c :: before, after)

/-- The text before and after the last `mark`. Marks may overlap, and the one that begins last
counts. -/
def cutLast? (mark : Text) : Text → Option (Text × Text)
  | [] => (dropMark? mark []).map fun after => ([], after)
  | c :: rest =>
      match cutLast? mark rest with
      | some (before, after) => some (c :: before, after)
      | none => (dropMark? mark (c :: rest)).map fun after => ([], after)

def occurs (mark text : Text) : Bool := (cutFirst? mark text).isSome

def replaceFirst (mark value text : Text) : Text :=
  match cutFirst? mark text with
  | some (before, after) => before ++ value ++ after
  | none => text

theorem nonempty_mark_shortens {m : Char} {mark text after : Text}
    (dropped : dropMark? (m :: mark) text = some after) : after.length < text.length := by
  simp only [drop_mark_eq_some_iff.1 dropped, List.length_append, List.length_cons]
  omega

/-- The text with every mark of a first character and others replaced by `value`. -/
def replaceNonempty (m : Char) (mark value : Text) : Text → Text
  | [] => []
  | c :: rest =>
      match _ : dropMark? (m :: mark) (c :: rest) with
      | some after => value ++ replaceNonempty m mark value after
      | none => c :: replaceNonempty m mark value rest
termination_by text => text.length
decreasing_by
  · exact nonempty_mark_shortens ‹_›
  · simp

/-- The text with every `mark` replaced by `value`, from left to right and without looking at
inserted text again. An empty `mark` is never replaced. -/
def replaceAll (mark value text : Text) : Text :=
  match mark with
  | [] => text
  | m :: mark => replaceNonempty m mark value text

theorem cut_first_sound {mark text before after : Text}
    (cut : cutFirst? mark text = some (before, after)) : text = before ++ mark ++ after := by
  induction text generalizing before with
  | nil =>
      simp only [cutFirst?, Option.map_eq_some_iff, Prod.mk.injEq] at cut
      obtain ⟨rest, found, rfl, rfl⟩ := cut
      simpa using drop_mark_eq_some_iff.1 found
  | cons c text induction =>
      simp only [cutFirst?] at cut
      split at cut
      · rename_i rest found
        simp only [Option.some.injEq, Prod.mk.injEq] at cut
        obtain ⟨rfl, rfl⟩ := cut
        simpa using drop_mark_eq_some_iff.1 found
      · simp only [Option.map_eq_some_iff, Prod.mk.injEq, Prod.exists] at cut
        obtain ⟨front, back, found, rfl, rfl⟩ := cut
        simpa using induction found

theorem cut_last_sound {mark text before after : Text}
    (cut : cutLast? mark text = some (before, after)) : text = before ++ mark ++ after := by
  induction text generalizing before with
  | nil =>
      simp only [cutLast?, Option.map_eq_some_iff, Prod.mk.injEq] at cut
      obtain ⟨rest, found, rfl, rfl⟩ := cut
      simpa using drop_mark_eq_some_iff.1 found
  | cons c text induction =>
      simp only [cutLast?] at cut
      split at cut
      · rename_i front back found
        simp only [Option.some.injEq, Prod.mk.injEq] at cut
        obtain ⟨rfl, rfl⟩ := cut
        simpa using induction found
      · simp only [Option.map_eq_some_iff, Prod.mk.injEq] at cut
        obtain ⟨rest, found, rfl, rfl⟩ := cut
        simpa using drop_mark_eq_some_iff.1 found

end PostMarkup.Text
