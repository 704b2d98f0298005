import PostMarkup.Proofs.Expansion.FaultPlaces

/-!
Which call is refused for its depth. A text that can be read at all is read alike under a lower limit,
or else the first call that lies inside one more call than the limit allows is refused, with the place it
has in the text. Templates are read after the body, and what is too deep in them is a fault of another
kind.
-/

namespace PostMarkup

open Text (byteLength)

namespace Content

def callsInside : Nat → Content → List (Text × Span)
  | _, nil => []
  | count, text _ next => next.callsInside count
  | 0, call name _ span next => (name, span) :: next.callsInside 0
  | count + 1, call _ inner _ next => inner.callsInside count ++ next.callsInside (count + 1)

/-- What reading a content comes to when the given calls of it are too deep. -/
def refuse (limit : Nat) (content : Content) : List (Text × Span) → Except Fault Content
  | [] => .ok content
  | (name, span) :: _ => .error (.callTooDeep name span.start limit)

theorem calls_inside_cons_char (count : Nat) (c : Char) (content : Content) :
    (consChar c content).callsInside count = content.callsInside count := by
  cases content with
  | nil => simp [consChar, callsInside]
  | text run next => rw [consChar, callsInside, callsInside]
  | call name inner span next => simp [consChar, callsInside]

theorem calls_inside_eq_nil_iff {count : Nat} {content : Content} :
    content.callsInside count = [] ↔ content.depth ≤ count := by
  induction content generalizing count with
  | nil => simp [callsInside, depth]
  | text run next induction => rw [callsInside, induction, depth]
  | call name inner span next innerInduction nextInduction =>
      cases count with
      | zero => simp [callsInside, depth]
      | succ count =>
          rw [callsInside, List.append_eq_nil_iff, innerInduction, nextInduction, depth]
          omega

section Places

variable {count offset : Nat}

/-- Calls lie within the bytes of the content that holds them. -/
theorem calls_inside_within {content : Content} :
    ∀ entry ∈ (content.placeFrom offset).callsInside count,
      offset ≤ entry.2.start ∧ entry.2.stop ≤ offset + byteLength content.written := by
  induction content generalizing count offset with
  | nil => simp [placeFrom, callsInside]
  | text run next induction =>
      intro entry member
      rw [placeFrom, callsInside] at member
      have place := induction entry member
      rw [written, Text.byte_length_append]
      omega
  | call name inner span next innerInduction nextInduction =>
      intro entry member
      have wholeBytes : byteLength (Call.written name inner.written) =
          byteLength (Call.openingTag name) + byteLength inner.written +
            byteLength (closingTag name) := by
        simp [Call.written, Nat.add_assoc]
      rw [placeFrom] at member
      rw [written, Text.byte_length_append]
      cases count with
      | zero =>
          rw [callsInside] at member
          rcases List.mem_cons.1 member with rfl | later
          · exact ⟨le_rfl, by simp only; omega⟩
          · have place := nextInduction entry later
            omega
      | succ count =>
          rw [callsInside] at member
          rcases List.mem_append.1 member with inside | later
          · have place := innerInduction entry inside
            omega
          · have place := nextInduction entry later
            omega

/-- Of two calls inside equally many others, the one listed first ends before the other begins. -/
theorem calls_inside_in_order (content : Content) :
    ((content.placeFrom offset).callsInside count).Pairwise
      fun earlier later => earlier.2.stop ≤ later.2.start := by
  induction content generalizing count offset with
  | nil => simp [placeFrom, callsInside]
  | text run next induction =>
      rw [placeFrom, callsInside]
      exact induction
  | call name inner span next innerInduction nextInduction =>
      rw [placeFrom]
      cases count with
      | zero =>
          rw [callsInside, List.pairwise_cons]
          refine ⟨?_, nextInduction⟩
          intro entry later
          exact (calls_inside_within entry later).1
      | succ count =>
          rw [callsInside, List.pairwise_append]
          refine ⟨innerInduction, nextInduction, ?_⟩
          intro entry inside other later
          have ends := (calls_inside_within entry inside).2
          have begins := (calls_inside_within other later).1
          have innerBytes : byteLength (Call.openingTag name) + byteLength inner.written ≤
              byteLength (Call.written name inner.written) := by
            simp only [Call.written, Text.byte_length_append]
            omega
          omega

/-- In content that was read from a text and goes deeper than `count`, one call inside so many others
comes first. -/
theorem exists_first_inside {callable : Text → Bool} {limit : Nat} {source : Text} {content : Content}
    (read : ofTextAt callable limit 0 0 source = .ok content) (deep : count < content.depth) :
    ∃ name span later, content.callsInside count = (name, span) :: later ∧
      ∀ entry ∈ later, span.stop ≤ entry.2.start := by
  have found : content.callsInside count ≠ [] := by
    intro none
    exact absurd (calls_inside_eq_nil_iff.1 none) (Nat.not_le.2 deep)
  obtain ⟨first, later, calls⟩ := List.exists_cons_of_ne_nil found
  obtain ⟨-, -, -, placed⟩ := of_text_at_ok_iff.1 read
  have ordered : ((content.placeFrom 0).callsInside count).Pairwise
      fun earlier later => earlier.2.stop ≤ later.2.start :=
    calls_inside_in_order content
  rw [placed, calls, List.pairwise_cons] at ordered
  exact ⟨first.1, first.2, later, calls, ordered.1⟩

end Places

theorem refuse_cons_char (limit : Nat) (c : Char) (content : Content) (calls : List (Text × Span)) :
    (refuse limit content calls).map (consChar c) = refuse limit (consChar c content) calls := by
  cases calls <;> rfl

/-- A call is refused for what is too deep inside it before what is too deep behind it. -/
theorem refuse_call (limit : Nat) (name : Text) (inner next : Content) (span : Span)
    (innerCalls nextCalls : List (Text × Span)) :
    (do
      let content ← refuse limit inner innerCalls
      let behind ← refuse limit next nextCalls
      return call name content span behind) =
      refuse limit (call name inner span next) (innerCalls ++ nextCalls) := by
  cases innerCalls with
  | nil => cases nextCalls <;> rfl
  | cons first others => rfl

/-- Under a lower limit the same text is read in the same order, up to the first call too deep. The
induction follows the reading under the higher limit. -/
theorem of_text_at_lower {callable : Text → Bool} {limit higher depth offset : Nat} {text : Text}
    {content : Content} (read : ofTextAt callable higher depth offset text = .ok content)
    (shallow : depth ≤ limit + 1) :
    ofTextAt callable limit depth offset text =
      refuse limit content (content.callsInside (limit + 1 - depth)) := by
  fun_induction ofTextAt callable higher depth offset text generalizing content with
  | case1 depth offset =>
      cases read
      rw [of_text_at_nil, callsInside, refuse]
  | case2 depth offset c rest uncut induction =>
      obtain ⟨next, nextRead, rfl⟩ := Outcome.map_ok_iff.1 read
      rw [of_text_at_plain uncut, induction nextRead shallow, refuse_cons_char,
        calls_inside_cons_char]
  | case3 depth offset c rest name after opened tooDeep => cases read
  | case4 depth offset c rest name after opened within unclosed => cases read
  | case5 depth offset c rest name after opened within inner behind closed start stop
      innerInduction =>
      rename_i nextInduction
      obtain ⟨content, innerRead, read⟩ := Outcome.bind_ok_iff.1 read
      obtain ⟨next, nextRead, same⟩ := Outcome.bind_ok_iff.1 read
      cases same
      obtain ⟨valid, called, whole⟩ := Call.cut_opening_eq_some_iff.1 opened
      rw [whole, of_text_at_call valid called]
      by_cases beyond : limit < depth
      · have none : limit + 1 - depth = 0 := by omega
        rw [if_pos beyond, none, callsInside, refuse]
      · have room : limit + 1 - depth = limit + 1 - (depth + 1) + 1 := by omega
        have stops : stop = offset + byteLength (Call.written name inner) := by
          simp only [stop, start, Call.written, Text.byte_length_append]
          omega
        have innerLower := innerInduction innerRead (by omega)
        have nextLower := nextInduction nextRead shallow
        rw [room] at nextLower ⊢
        rw [if_neg beyond, closed, callsInside, ← refuse_call, ← innerLower, ← nextLower]
        simp only [← stops]
        rfl

end Content

/-- The limit on the depth is exact. A text that is read under some limit is read alike under every other
one that leaves room for its depth. Else the first of the calls inside one call too many is refused with
its name and its place, and all others of them come later in the text. An expansion refuses a call of the
body as too deep exactly when the reading of the body does, so that what is too deep in a template is
reported as a fault of templates. -/
theorem depth_limit_exact (templates : Table) (limit : Nat) (source : Text) :
    (∀ higher content, Content.ofText templates higher source = .ok content →
      (content.depth ≤ limit + 1 → Content.ofText templates limit source = .ok content) ∧
      (limit + 1 < content.depth → ∃ name span later,
        content.callsInside (limit + 1) = (name, span) :: later ∧
        (∀ entry ∈ later, span.stop ≤ entry.2.start) ∧
        Content.ofText templates limit source = .error (.callTooDeep name span.start limit))) ∧
      (∀ name offset deepest,
        expandCalls templates limit source = .error (.callTooDeep name offset deepest) ↔
          Content.ofText templates limit source = .error (.callTooDeep name offset deepest)) ∧
      ∀ content fault, Content.ofText templates limit source = .ok content →
        expandCalls templates limit source = .error fault → fault.AboutDepth →
          ∃ name, fault = .templateTooDeep name limit := by
  refine ⟨?_, ?_, ?_⟩
  · intro higher content read
    have lower : Content.ofText templates limit source =
        content.refuse limit (content.callsInside (limit + 1)) :=
      Content.of_text_at_lower read (Nat.zero_le _)
    constructor
    · intro shallow
      rw [lower, Content.calls_inside_eq_nil_iff.2 shallow, Content.refuse]
    · intro deep
      obtain ⟨name, span, later, calls, ordered⟩ := Content.exists_first_inside read deep
      rw [calls] at lower
      exact ⟨name, span, later, calls, ordered, lower⟩
  · intro name offset deepest
    constructor
    · intro failed
      rcases expand_calls_error failed with ⟨refused, -⟩ | ⟨content, -, fromTemplate⟩
      · exact refused
      · obtain ⟨other, tooDeep⟩ := fromTemplate.of_about_depth trivial
        cases tooDeep
    · intro refused
      exact Outcome.bind_error_iff.2 (Or.inl refused)
  · intro content fault read failed deep
    rcases expand_calls_error failed with ⟨refused, -⟩ | ⟨other, -, fromTemplate⟩
    · rw [read] at refused
      cases refused
    · exact fromTemplate.of_about_depth deep

/-- Two calls lie inside another one, and the first of them is refused. -/
theorem depth_limit_exact_of_two_inner_calls :
    ∃ content, Content.ofText plainTemplates 50 "\u00e9<c><d>x</d></c><d><c></c></d>".toList =
        .ok content ∧ 0 + 1 < content.depth ∧
      Content.ofText plainTemplates 0 "\u00e9<c><d>x</d></c><d><c></c></d>".toList =
        .error (.callTooDeep ['d'] 5 0) := by
  have read : Content.ofText plainTemplates 50 "\u00e9<c><d>x</d></c><d><c></c></d>".toList =
      .ok (.text ['\u00e9'] (.call ['c'] (.call ['d'] (.text ['x'] .nil) ⟨5, 13⟩ .nil) ⟨2, 17⟩
        (.call ['d'] (.call ['c'] .nil ⟨20, 27⟩ .nil) ⟨17, 31⟩ .nil))) := by decide +kernel
  refine ⟨_, read, by decide, ?_⟩
  obtain ⟨name, span, later, calls, -, refused⟩ :=
    ((depth_limit_exact plainTemplates 0 _).1 50 _ read).2 (by decide)
  cases calls
  exact refused

end PostMarkup
