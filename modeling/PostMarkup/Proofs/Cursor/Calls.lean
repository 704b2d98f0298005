import PostMarkup.Proofs.Content.Reading
import PostMarkup.Proofs.Cursor.Loop

/-!
The reader of content with a cursor in bytes. A call is found by the numbers of bytes of its tags and of the
text between them; that text and the run in front of the call are sliced out of the source, and the text
between the tags is read as a source of its own. Every slice lies on boundaries, at every depth.
-/

namespace PostMarkup.Cursor

open Text (Ahead Mishap beginsWith begins_with_eq byteLength byte_length_append byte_length_cons
  byte_length_nil byte_length_pos charLengthAt dropMark?
  runLength run_length_eq run_length_eq_zero_iff slice slice_run sliceFrom ahead_of_run)
open Call (cutInner? cut_inner_cons cutOpening? extend isNameChar openingTag)
open Content (consChar ofTextAt)

def openingCall (callable : Text → Bool) : Text → Except Mishap (Option (Text × Nat))
  | '<' :: rest => do
      let nameLength := runLength isNameChar rest
      if nameLength = 0 then
        .ok none
      else
        let behind ← sliceFrom rest nameLength
        if beginsWith ['>'] behind then
          let name ← slice rest 0 nameLength
          if callable name then .ok (some (name, nameLength + 2)) else .ok none
        else
          .ok none
  | _ => .ok none

structure ClosingState where
  depth : Nat
  cursor : Nat

/-- The walk to the closing tag of a call that is open in front of the source. It ends with the number of
bytes in front of that tag. -/
def closing (name source : Text) : CursorLoop ClosingState (Option Nat) where
  text _ := source
  cursor state := state.cursor
  step state rest :=
    if beginsWith (closingTag name) rest then
      match state.depth with
      | 0 => .ok (.done (some state.cursor))
      | depth + 1 => .ok (.again ⟨depth, state.cursor + byteLength (closingTag name)⟩)
    else if beginsWith (openingTag name) rest then
      .ok (.again ⟨state.depth + 1, state.cursor + byteLength (openingTag name)⟩)
    else
      .ok (.again ⟨state.depth, state.cursor + charLengthAt source state.cursor⟩)
  finish _ := .ok none

inductive Node where
  | run (text : Text)
  | call (name : Text) (inner : Content) (span : Span)

def Node.before : Node → Content → Content
  | run text, next => .text text next
  | call name inner span, next => .call name inner span next

def runBetween (source : Text) (start stop : Nat) : Except Mishap (List Node) := do
  if start < stop then
    let text ← slice source start stop
    .ok [.run text]
  else
    .ok []

structure ReadingState where
  nodes : List Node
  textStart : Nat
  cursor : Nat

/-- The walk through a source that lies `base` bytes into another one, inside `depth` calls. `inside` reads
the text between the tags of a call. -/
def reading (callable : Text → Bool) (limit depth base : Nat) (source : Text)
    (inside : Nat → Nat → Text → Except Mishap (Except Fault Content)) :
    CursorLoop ReadingState (Except Fault Content) where
  text _ := source
  cursor state := state.cursor
  step state rest := do
    match ← openingCall callable rest with
    | none =>
        .ok (.again ⟨state.nodes, state.textStart, state.cursor + charLengthAt source state.cursor⟩)
    | some (name, tagLength) =>
        if limit < depth then
          .ok (.done (.error (.callTooDeep name (base + state.cursor) limit)))
        else
          let innerStart := state.cursor + tagLength
          match ← (closing name (← sliceFrom source innerStart)).run ⟨0, 0⟩ with
          | none => .ok (.done (.error (.unclosedCall name (base + state.cursor))))
          | some innerLength =>
              let innerStop := innerStart + innerLength
              let stop := innerStop + byteLength (closingTag name)
              let run ← runBetween source state.textStart state.cursor
              match ← inside (depth + 1) (base + innerStart) (← slice source innerStart innerStop) with
              | .error fault => .ok (.done (.error fault))
              | .ok inner =>
                  let node := .call name inner ⟨base + state.cursor, base + stop⟩
                  .ok (.again ⟨state.nodes ++ run ++ [node], stop, stop⟩)
  finish state := do
    let run ← runBetween source state.textStart (byteLength source)
    .ok (.ok ((state.nodes ++ run).foldr Node.before .nil))

/-- Reads the content of a source, and that of the calls inside it in the same way. -/
def contentAt (callable : Text → Bool) (limit depth base : Nat) (source : Text) :
    Except Mishap (Except Fault Content) :=
  (reading callable limit depth base source fun depth base inner =>
    if inner.length < source.length then contentAt callable limit depth base inner
    else .error (.stalled base)).run ⟨[], 0, 0⟩
termination_by source.length

def readingAll (callable : Text → Bool) (limit depth base : Nat) (source : Text) :
    CursorLoop ReadingState (Except Fault Content) :=
  reading callable limit depth base source fun depth base inner =>
    if inner.length < source.length then contentAt callable limit depth base inner
    else .error (.stalled base)

theorem byte_length_opening_tag (name : Text) : byteLength (openingTag name) = byteLength name + 2 := by
  have brackets : ('<' : Char).utf8Size = 1 ∧ ('>' : Char).utf8Size = 1 := by decide
  simp only [openingTag, byte_length_append, byte_length_cons, byte_length_nil, brackets]
  omega

theorem opening_call_of_ne {callable : Text → Bool} {c : Char} {rest : Text} (other : c ≠ '<') :
    openingCall callable (c :: rest) = .ok none ∧ cutOpening? callable (c :: rest) = none := by
  have unopened : ∀ behind, c :: rest ≠ '<' :: behind := by
    intro behind same
    exact other (List.cons.inj same).1
  constructor
  · rw [openingCall]
    exact unopened
  · rw [cutOpening?]
    exact unopened

theorem opening_call_eq (callable : Text → Bool) (text : Text) :
    openingCall callable text =
      .ok ((cutOpening? callable text).map fun found => (found.1, byteLength (openingTag found.1))) := by
  cases text with
  | nil => rfl
  | cons c rest =>
      by_cases bracket : c = '<'
      · subst bracket
        rw [openingCall, cutOpening?]
        simp only [(ahead_of_run isNameChar rest).slice_from, slice_run, Outcome.ok_bind, begins_with_eq]
        by_cases empty : rest.takeWhile isNameChar = []
        · simp only [run_length_eq_zero_iff.2 empty, empty, if_true, ne_eq, not_true_eq_false,
            false_and, if_false]
          split <;> rfl
        · have counted := mt run_length_eq_zero_iff.1 empty
          cases back : rest.dropWhile isNameChar with
          | nil => simp [counted, dropMark?]
          | cons d after =>
              by_cases stop : d = '>'
              · subst stop
                simp only [counted, empty, dropMark?, if_true, if_false, ne_eq, not_false_eq_true,
                  true_and, Option.isSome_some]
                split
                · rw [Option.map_some, byte_length_opening_tag, run_length_eq]
                · rfl
              · simp only [counted, if_false, dropMark?, if_neg (Ne.symm stop), Option.isSome_none,
                  Bool.false_eq_true]
                split
                · rename_i same
                  exact absurd (List.cons.inj same).1 stop
                · rfl
      · obtain ⟨unsliced, uncut⟩ := @opening_call_of_ne callable c rest bracket
        rw [unsliced, uncut]
        rfl

theorem map_extend (front : Text) (cut : Option (Text × Text)) (cursor : Nat) :
    (extend front cut).map (fun parts => cursor + byteLength parts.1) =
      cut.map fun parts => cursor + byteLength front + byteLength parts.1 := by
  cases cut with
  | none => rfl
  | some parts => simp [extend, Nat.add_assoc]

theorem closing_safe (name source : Text) :
    (closing name source).Safe (closing name source).Placed ⟨0, 0⟩
      ((cutInner? name 0 source).map fun parts => byteLength parts.1) := by
  apply CursorLoop.safe_of_reading (fun state rest =>
    (cutInner? name state.depth rest).map (fun parts => state.cursor + byteLength parts.1) =
      (cutInner? name 0 source).map fun parts => byteLength parts.1) rfl
  · simp only [Nat.zero_add]
    rfl
  · intro state ended reads
    rw [← reads, cutInner?]
    rfl
  · rintro ⟨depth, cursor⟩ c rest ahead reads
    have here : charLengthAt source cursor = c.utf8Size := ahead.char_length_at
    rw [cut_inner_cons] at reads
    cases dropped : dropMark? (closingTag name) (c :: rest) with
    | some after =>
        have parts := Text.drop_mark_eq_some_iff.1 dropped
        rw [dropped] at reads
        cases depth with
        | zero =>
            apply CursorLoop.Reading.done
            rw [← reads]
            simp [closing, begins_with_eq, dropped]
        | succ depth =>
            refine .again ⟨depth, cursor + byteLength (closingTag name)⟩ (closingTag name) after
              ?_ rfl parts (List.cons_ne_nil _ _) rfl ?_
            · simp [closing, begins_with_eq, dropped]
            · rw [← reads]
              exact (map_extend _ _ cursor).symm
    | none =>
        rw [dropped] at reads
        cases opened : dropMark? (openingTag name) (c :: rest) with
        | some after =>
            have parts := Text.drop_mark_eq_some_iff.1 opened
            rw [opened] at reads
            refine .again ⟨depth + 1, cursor + byteLength (openingTag name)⟩ (openingTag name) after
              ?_ rfl parts (List.cons_ne_nil _ _) rfl ?_
            · simp [closing, begins_with_eq, dropped, opened]
            · rw [← reads]
              exact (map_extend _ _ cursor).symm
        | none =>
            rw [opened] at reads
            refine .char ⟨depth, cursor + charLengthAt source cursor⟩ ahead ?_ rfl rfl ?_
            · simp [closing, begins_with_eq, dropped, opened]
            · rw [here, ← reads]
              exact (map_extend [c] _ cursor).symm

def runNodes (run : Text) : List Node := if run = [] then [] else [.run run]

theorem run_between_eq {source run rest : Text} {start : Nat} (ahead : Ahead source start (run ++ rest)) :
    runBetween source start (start + byteLength run) = .ok (runNodes run) := by
  rw [runBetween, runNodes]
  by_cases empty : run = []
  · simp [empty]
  · have positive := byte_length_pos empty
    rw [if_pos (by omega), if_neg empty, ahead.slice]
    rfl

theorem run_nodes_before (run : Text) {next : Content} (noText : ¬ next.BeginsWithText) :
    (runNodes run).foldr Node.before next = run.foldr consChar next := by
  rw [runNodes]
  by_cases empty : run = []
  · rw [if_pos empty, empty]
    rfl
  · rw [if_neg empty, Content.foldr_cons_char empty noText]
    rfl

section Reading

variable {callable : Text → Bool} {limit depth base : Nat} {source : Text}

/-- What has been read and what is read from here on make up the content of the source. -/
def Reads (callable : Text → Bool) (limit depth base : Nat) (source : Text) (state : ReadingState)
    (rest : Text) : Prop :=
  ∃ run, Ahead source state.textStart (run ++ rest) ∧ state.textStart + byteLength run = state.cursor ∧
    (ofTextAt callable limit depth (base + state.cursor) rest).map
        (fun content => state.nodes.foldr Node.before (run.foldr consChar content)) =
      ofTextAt callable limit depth base source

theorem reading_all_finish {nodes : List Node} {textStart cursor : Nat}
    (reads : Reads callable limit depth base source ⟨nodes, textStart, cursor⟩ []) :
    (readingAll callable limit depth base source).finish ⟨nodes, textStart, cursor⟩ =
      .ok (ofTextAt callable limit depth base source) := by
  obtain ⟨run, ahead, counted, whole⟩ := reads
  have size : byteLength source = textStart + byteLength run := by
    rw [ahead.byte_length_eq, List.append_nil]
  have between : runBetween source textStart (byteLength source) = .ok (runNodes run) := by
    rw [size, run_between_eq ahead]
  have noText : ¬ Content.nil.BeginsWithText := not_false
  rw [← whole, Content.of_text_at_nil]
  simp only [readingAll, reading, between, Outcome.ok_bind, List.foldr_append, run_nodes_before run noText]
  rfl

variable {nodes : List Node} {textStart cursor : Nat} {c : Char} {rest name after inner behind : Text}

theorem reading_all_char (uncut : cutOpening? callable (c :: rest) = none)
    (ahead : Ahead source cursor (c :: rest))
    (reads : Reads callable limit depth base source ⟨nodes, textStart, cursor⟩ (c :: rest)) :
    (readingAll callable limit depth base source).Reading (Reads callable limit depth base source)
      (ofTextAt callable limit depth base source) ⟨nodes, textStart, cursor⟩ (c :: rest) := by
  obtain ⟨run, fromStart, counted, whole⟩ := reads
  have here : charLengthAt source cursor = c.utf8Size := ahead.char_length_at
  refine .char ⟨nodes, textStart, cursor + charLengthAt source cursor⟩ ahead ?_ rfl rfl ?_
  · simp [readingAll, reading, opening_call_eq, uncut, Outcome.ok_bind]
  · rw [here]
    refine ⟨run ++ [c], by simpa using fromStart, ?_, ?_⟩
    · dsimp only at counted ⊢
      rw [byte_length_append, ← Nat.add_assoc, counted]
      rfl
    · rw [← whole, Content.of_text_at_plain uncut]
      dsimp only
      rw [← Nat.add_assoc]
      cases ofTextAt callable limit depth (base + cursor + c.utf8Size) rest with
      | error fault => rfl
      | ok content =>
          dsimp only [Except.map]
          rw [List.foldr_append]
          rfl

/-- The text behind an opening tag, as a step slices it and searches it. -/
theorem reading_all_opened (cut : cutOpening? callable (c :: rest) = some (name, after))
    (ahead : Ahead source cursor (c :: rest)) :
    Ahead source (cursor + byteLength (openingTag name)) after ∧
      (closing name after).run ⟨0, 0⟩ =
        .ok ((cutInner? name 0 after).map fun parts => byteLength parts.1) := by
  obtain ⟨-, -, parts⟩ := Call.cut_opening_eq_some_iff.1 cut
  rw [parts] at ahead
  exact ⟨ahead.past, (closing_safe name after).answers⟩

theorem reading_all_unclosed (cut : cutOpening? callable (c :: rest) = some (name, after))
    (allowed : ¬ limit < depth) (ahead : Ahead source cursor (c :: rest))
    (unclosed : cutInner? name 0 after = none) :
    (readingAll callable limit depth base source).step ⟨nodes, textStart, cursor⟩ (c :: rest) =
      .ok (.done (.error (.unclosedCall name (base + cursor)))) := by
  obtain ⟨behindTag, searched⟩ := reading_all_opened cut ahead
  simp only [readingAll, reading, opening_call_eq, cut, Option.map_some, Option.map_none, Outcome.ok_bind,
    allowed, if_false, behindTag.slice_from, searched, unclosed]

theorem inner_shorter (cut : cutOpening? callable (c :: rest) = some (name, after))
    (ahead : Ahead source cursor (c :: rest)) (closed : cutInner? name 0 after = some (inner, behind)) :
    inner.length < source.length := by
  obtain ⟨before, whole, -⟩ := ahead
  have within := (Content.inner_shortens cut closed).1
  rw [whole, List.length_append]
  omega

theorem reading_all_inside (base : Nat) (nodes : List Node) {run : Text}
    (cut : cutOpening? callable (c :: rest) = some (name, after))
    (allowed : ¬ limit < depth) (ahead : Ahead source cursor (c :: rest))
    (fromStart : Ahead source textStart (run ++ c :: rest))
    (counted : textStart + byteLength run = cursor)
    (closed : cutInner? name 0 after = some (inner, behind)) :
    (readingAll callable limit depth base source).step ⟨nodes, textStart, cursor⟩ (c :: rest) = (do
      let stop := cursor + byteLength (Call.written name inner)
      match ← contentAt callable limit (depth + 1)
          (base + (cursor + byteLength (openingTag name))) inner with
      | .error fault => .ok (.done (.error fault))
      | .ok content =>
          .ok (.again ⟨nodes ++ runNodes run ++ [.call name content ⟨base + cursor, base + stop⟩],
            stop, stop⟩)) := by
  obtain ⟨behindTag, searched⟩ := reading_all_opened cut ahead
  have between := run_between_eq fromStart
  rw [counted] at between
  have sliced : Ahead source (cursor + byteLength (openingTag name))
      (inner ++ (closingTag name ++ behind)) := by
    rwa [← List.append_assoc, ← Call.cut_inner_sound closed]
  have shorter := inner_shorter cut ahead closed
  simp only [readingAll, reading, opening_call_eq, cut, Option.map_some, Outcome.ok_bind,
    allowed, if_false, behindTag.slice_from, searched, closed, between, sliced.slice, if_pos shorter]
  simp only [Call.written, byte_length_append, Nat.add_assoc]

/-- Behind a call the nodes end with the run in front of the call and the call, and no run is open. -/
theorem reads_behind_call {run : Text} {content : Content} {span : Span} {stop : Nat}
    (ahead : Ahead source stop behind)
    (whole : (ofTextAt callable limit depth (base + stop) behind).map
        (fun next => nodes.foldr Node.before (run.foldr consChar (.call name content span next))) =
      ofTextAt callable limit depth base source) :
    Reads callable limit depth base source
      ⟨nodes ++ runNodes run ++ [.call name content span], stop, stop⟩ behind := by
  refine ⟨[], ahead, rfl, ?_⟩
  rw [← whole]
  cases ofTextAt callable limit depth (base + stop) behind with
  | error fault => rfl
  | ok next =>
      have noText : ¬ (Content.call name content span next).BeginsWithText := not_false
      simp only [Except.map, List.foldr_append, List.foldr_cons, List.foldr_nil, Node.before,
        ← run_nodes_before run noText]

/-- A step at a call reads the call with all that is inside it. -/
theorem reading_all_call
    (inside : ∀ depth base inner, inner.length < source.length →
      contentAt callable limit depth base inner = .ok (ofTextAt callable limit depth base inner))
    (cut : cutOpening? callable (c :: rest) = some (name, after))
    (ahead : Ahead source cursor (c :: rest))
    (reads : Reads callable limit depth base source ⟨nodes, textStart, cursor⟩ (c :: rest)) :
    (readingAll callable limit depth base source).Reading (Reads callable limit depth base source)
      (ofTextAt callable limit depth base source) ⟨nodes, textStart, cursor⟩ (c :: rest) := by
  obtain ⟨run, fromStart, counted, whole⟩ := reads
  obtain ⟨valid, called, parts⟩ := Call.cut_opening_eq_some_iff.1 cut
  rw [parts, Content.of_text_at_call valid called] at whole
  by_cases deep : limit < depth
  · rw [if_pos deep] at whole
    apply CursorLoop.Reading.done
    rw [← whole]
    simp only [readingAll, reading, opening_call_eq, cut, Option.map_some, Outcome.ok_bind, deep, if_true]
    rfl
  · rw [if_neg deep] at whole
    cases closed : cutInner? name 0 after with
    | none =>
        rw [closed] at whole
        apply CursorLoop.Reading.done
        rw [← whole, reading_all_unclosed cut deep ahead closed]
        rfl
    | some found =>
        obtain ⟨inner, behind⟩ := found
        have step := reading_all_inside base nodes cut deep ahead fromStart counted closed
        rw [inside _ _ _ (inner_shorter cut ahead closed), Outcome.ok_bind, ← Nat.add_assoc] at step
        rw [closed] at whole
        dsimp only at whole
        cases result : ofTextAt callable limit (depth + 1)
            (base + cursor + byteLength (openingTag name)) inner with
        | error fault =>
            rw [result] at step whole
            apply CursorLoop.Reading.done
            rw [step, ← whole]
            rfl
        | ok content =>
            rw [result] at step whole
            have here : c :: rest = Call.written name inner ++ behind := by
              rw [parts, Call.cut_inner_sound closed, Call.written]
              simp
            refine .again _ (Call.written name inner) behind step rfl here (List.cons_ne_nil _ _) rfl ?_
            rw [here] at ahead
            apply reads_behind_call ahead.past
            rw [← whole, ← Nat.add_assoc]
            cases ofTextAt callable limit depth
              (base + cursor + byteLength (Call.written name inner)) behind <;> rfl

theorem reading_all_safe_of_inside (depth base : Nat)
    (inside : ∀ depth base inner, inner.length < source.length →
      contentAt callable limit depth base inner = .ok (ofTextAt callable limit depth base inner)) :
    (readingAll callable limit depth base source).Safe (readingAll callable limit depth base source).Placed
      ⟨[], 0, 0⟩ (ofTextAt callable limit depth base source) := by
  apply CursorLoop.safe_of_reading (Reads callable limit depth base source) rfl
  · refine ⟨[], Ahead.whole source, rfl, ?_⟩
    exact congrFun Except.map_id (ofTextAt callable limit depth base source)
  · intro state ended reads
    exact reading_all_finish reads
  · intro state c rest ahead reads
    cases cut : cutOpening? callable (c :: rest) with
    | none => exact reading_all_char cut ahead reads
    | some found => exact reading_all_call inside cut ahead reads

/-- The content of a source is what the reader of texts reads. -/
theorem content_at_eq (callable : Text → Bool) (limit depth base : Nat) (source : Text) :
    contentAt callable limit depth base source = .ok (ofTextAt callable limit depth base source) := by
  induction size : source.length using Nat.strongRecOn generalizing depth base source with
  | ind size induction =>
      have safe := reading_all_safe_of_inside depth base
        fun depth base inner shorter => induction _ (size ▸ shorter) depth base inner rfl
      rw [contentAt]
      exact safe.answers

theorem reading_all_safe (callable : Text → Bool) (limit depth base : Nat) (source : Text) :
    (readingAll callable limit depth base source).Safe (readingAll callable limit depth base source).Placed
      ⟨[], 0, 0⟩ (ofTextAt callable limit depth base source) :=
  reading_all_safe_of_inside depth base fun depth base inner _ =>
    content_at_eq callable limit depth base inner

end Reading

end PostMarkup.Cursor
