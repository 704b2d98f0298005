import Mathlib.Logic.Relation
import PostMarkup.Proofs.Text.Slices

/-!
Loops that walk over a text with a cursor in bytes. Whatever a turn of such a loop slices is checked, and so
is that each turn leaves less of the text ahead; a run that ends with a result has met no slice off a
boundary, and its cursor never stood still. An invariant with one step lemma gives the result of the
run and what holds in every state that it passes through.
-/

namespace PostMarkup

open Text (Ahead Mishap OnBoundary byteLength byte_length_pos charLengthAt sliceFrom)

inductive Turn (State Result : Type) where
  | again (state : State)
  | done (result : Result)

/-- A loop with a cursor in a text. As long as the cursor is in front of the end, a turn looks at the text from
the cursor on; it may edit the text. -/
structure CursorLoop (State Result : Type) where
  text : State → Text
  cursor : State → Nat
  /-- A turn, given the text from the cursor on. -/
  step : State → Text → Except Mishap (Turn State Result)
  /-- The last turn. -/
  finish : State → Except Mishap Result

namespace CursorLoop

variable {State Result : Type} {loop : CursorLoop State Result} {start state next : State}
  {answer : Result} {c : Char} {rest : Text}

def turn (loop : CursorLoop State Result) (state : State) : Except Mishap (Turn State Result) :=
  if loop.cursor state < byteLength (loop.text state) then do
    let rest ← sliceFrom (loop.text state) (loop.cursor state)
    loop.step state rest
  else (loop.finish state).map .done

theorem turn_ahead (ahead : Ahead (loop.text state) (loop.cursor state) (c :: rest)) :
    loop.turn state = loop.step state (c :: rest) := by
  rw [turn, if_pos ahead.lt_byte_length, ahead.slice_from]
  rfl

theorem turn_end (ended : byteLength (loop.text state) ≤ loop.cursor state) :
    loop.turn state = (loop.finish state).map .done := by
  rw [turn, if_neg (Nat.not_lt.2 ended)]

def left (loop : CursorLoop State Result) (state : State) : Nat :=
  byteLength (loop.text state) - loop.cursor state

def run (loop : CursorLoop State Result) (state : State) : Except Mishap Result :=
  match loop.turn state with
  | .error mishap => .error mishap
  | .ok (.done result) => .ok result
  | .ok (.again next) =>
      if loop.left next < loop.left state then loop.run next
      else .error (.stalled (loop.cursor state))
termination_by loop.left state

def Moves (loop : CursorLoop State Result) (state next : State) : Prop :=
  loop.turn state = .ok (.again next)

def Passes (loop : CursorLoop State Result) : State → State → Prop :=
  Relation.ReflTransGen loop.Moves

/-- The cursor stands between two characters or at an end of the text. -/
def Placed (loop : CursorLoop State Result) (state : State) : Prop :=
  OnBoundary (loop.text state) (loop.cursor state)

/-- The cursor stands one byte behind the end of the text, and the loop is over. -/
def Over (loop : CursorLoop State Result) (state : State) : Prop :=
  loop.cursor state = byteLength (loop.text state) + 1 ∧ ∃ result, loop.turn state = .ok (.done result)

/-- The run from `start` on ends with `answer`. In each state that it passes through the cursor is where it
should be and the next turn slices on boundaries only, and no turn leaves the cursor where it is. -/
structure Safe (loop : CursorLoop State Result) (Place : State → Prop) (start : State)
    (answer : Result) : Prop where
  answers : loop.run start = .ok answer
  placed : ∀ state, loop.Passes start state → Place state
  sliced : ∀ state, loop.Passes start state → ∃ turn, loop.turn state = .ok turn
  advances : ∀ state next, loop.Passes start state → loop.Moves state next →
    loop.cursor state < loop.cursor next

/-- What a turn does that keeps an invariant of a loop which ends with `answer`. -/
inductive Progress (loop : CursorLoop State Result) (Inv : State → Prop) (answer : Result)
    (state : State) : Prop where
  | done (ends : loop.turn state = .ok (.done answer))
  | again (next : State) (moves : loop.turn state = .ok (.again next)) (kept : Inv next)
      (forward : loop.cursor state < loop.cursor next) (closer : loop.left next < loop.left state)

variable {Inv : State → Prop}

theorem run_of_progress (step : ∀ state, Inv state → loop.Progress Inv answer state)
    (holds : Inv state) : loop.run state = .ok answer := by
  induction size : loop.left state using Nat.strongRecOn generalizing state with
  | ind size induction =>
      rw [run]
      cases step state holds with
      | done ends => rw [ends]
      | again next moves kept forward closer =>
          rw [moves]
          exact (if_pos closer).trans (induction _ (size ▸ closer) kept rfl)

theorem Progress.of_moves (progress : loop.Progress Inv answer state) (moves : loop.Moves state next) :
    Inv next ∧ loop.cursor state < loop.cursor next := by
  cases progress with
  | done ends =>
      rw [Moves, ends] at moves
      cases moves
  | again other same kept forward _ =>
      rw [Moves, same] at moves
      cases moves
      exact ⟨kept, forward⟩

theorem invariant_of_passes (step : ∀ state, Inv state → loop.Progress Inv answer state)
    (initial : Inv start) (passes : loop.Passes start state) : Inv state := by
  induction passes with
  | refl => exact initial
  | tail _ moves holds => exact ((step _ holds).of_moves moves).1

/-- An invariant that each turn keeps makes a loop safe. -/
theorem safe_of_progress {Place : State → Prop} (Inv : State → Prop) (initial : Inv start)
    (placed : ∀ state, Inv state → Place state)
    (step : ∀ state, Inv state → loop.Progress Inv answer state) : loop.Safe Place start answer where
  answers := run_of_progress step initial
  placed state passes := placed state (invariant_of_passes step initial passes)
  sliced state passes := by
    cases step state (invariant_of_passes step initial passes) with
    | done ends => exact ⟨_, ends⟩
    | again next moves _ _ _ => exact ⟨_, moves⟩
  advances state next passes moves :=
    ((step state (invariant_of_passes step initial passes)).of_moves moves).2

/-- What a step does that reads a piece of the text and leaves the text alone. `Reads` tells what the state has
to do with the text that is not read yet. -/
inductive Reading (loop : CursorLoop State Result) (Reads : State → Text → Prop) (answer : Result)
    (state : State) (rest : Text) : Prop where
  | done (ends : loop.step state rest = .ok (.done answer))
  | again (next : State) (piece after : Text) (moves : loop.step state rest = .ok (.again next))
      (unedited : loop.text next = loop.text state) (parts : rest = piece ++ after) (filled : piece ≠ [])
      (counted : loop.cursor next = loop.cursor state + byteLength piece) (kept : Reads next after)

/-- A step over one character. -/
theorem Reading.char {Reads : State → Text → Prop} (next : State)
    (ahead : Ahead (loop.text state) (loop.cursor state) (c :: rest))
    (moves : loop.step state (c :: rest) = .ok (.again next)) (unedited : loop.text next = loop.text state)
    (counted : loop.cursor next =
      loop.cursor state + charLengthAt (loop.text state) (loop.cursor state))
    (kept : Reads next rest) : loop.Reading Reads answer state (c :: rest) := by
  rw [ahead.char_length_at] at counted
  exact Reading.again next [c] rest moves unedited rfl (List.cons_ne_nil c []) counted kept

theorem Reading.progress {Reads : State → Text → Prop}
    (ahead : Ahead (loop.text state) (loop.cursor state) (c :: rest))
    (reading : loop.Reading Reads answer state (c :: rest)) :
    loop.Progress (fun state => ∃ rest, Ahead (loop.text state) (loop.cursor state) rest ∧
      Reads state rest) answer state := by
  have here := turn_ahead ahead
  cases reading with
  | done ends => exact Progress.done (here.trans ends)
  | again next piece after moves unedited parts filled counted kept =>
      have within := ahead.lt_byte_length
      have positive := byte_length_pos filled
      rw [parts] at ahead
      have behind := ahead.past
      rw [← unedited, ← counted] at behind
      refine Progress.again next (here.trans moves) ⟨after, behind, kept⟩ (by omega) ?_
      rw [left, left, unedited]
      omega

/-- A loop is safe if each step reads a piece of the text. -/
theorem safe_of_reading (Reads : State → Text → Prop) (opening : loop.cursor start = 0)
    (initial : Reads start (loop.text start))
    (finish : ∀ state, Ahead (loop.text state) (loop.cursor state) [] → Reads state [] →
      loop.finish state = .ok answer)
    (step : ∀ state c rest, Ahead (loop.text state) (loop.cursor state) (c :: rest) →
      Reads state (c :: rest) → loop.Reading Reads answer state (c :: rest)) :
    loop.Safe loop.Placed start answer := by
  apply safe_of_progress (fun state => ∃ rest,
    Ahead (loop.text state) (loop.cursor state) rest ∧ Reads state rest)
  · exact ⟨loop.text start, opening ▸ Ahead.whole _, initial⟩
  · rintro state ⟨rest, ahead, -⟩
    exact ahead.on_boundary
  · rintro state ⟨rest, ahead, reads⟩
    cases rest with
    | nil =>
        apply Progress.done
        rw [turn_end (Nat.le_of_eq ahead.byte_length_eq), finish state ahead reads]
        rfl
    | cons c rest => exact (step state c rest ahead reads).progress ahead

end CursorLoop

end PostMarkup
