import Mathlib.Data.List.Forall2
import PostMarkup.Fault

/-!
How the steps of a computation that may fail fit together: it succeeds when every step does, and its
fault is the fault of the first step that fails.
-/

namespace PostMarkup.Outcome

variable {Failure Other Value Result : Type} {first : Except Failure Value}

theorem ok_bind (value : Value) (next : Value → Except Failure Result) :
    (.ok value >>= next) = next value := rfl

theorem bind_ok_iff {next : Value → Except Failure Result} {result : Result} :
    first >>= next = .ok result ↔ ∃ value, first = .ok value ∧ next value = .ok result := by
  cases first with
  | error failure =>
      constructor
      · intro run
        cases run
      · intro reached
        rcases reached with ⟨value, same, -⟩
        cases same
  | ok value =>
      constructor
      · intro run
        exact ⟨value, rfl, run⟩
      · intro reached
        rcases reached with ⟨value, same, run⟩
        cases same
        exact run

theorem bind_error_iff {next : Value → Except Failure Result} {failure : Failure} :
    first >>= next = .error failure ↔
      first = .error failure ∨ ∃ value, first = .ok value ∧ next value = .error failure := by
  cases first with
  | error earlier =>
      constructor
      · intro run
        cases run
        exact Or.inl rfl
      · intro failed
        rcases failed with same | ⟨value, same, -⟩
        · cases same
          rfl
        · cases same
  | ok value =>
      constructor
      · intro run
        exact Or.inr ⟨value, rfl, run⟩
      · intro failed
        rcases failed with same | ⟨value, same, run⟩
        · cases same
        · cases same
          exact run

theorem map_ok_iff {change : Value → Result} {result : Result} :
    first.map change = .ok result ↔ ∃ value, first = .ok value ∧ change value = result := by
  constructor
  · intro run
    cases first with
    | error failure => cases run
    | ok value => exact ⟨value, rfl, Except.ok.inj run⟩
  · intro reached
    rcases reached with ⟨value, rfl, rfl⟩
    rfl

theorem map_error_iff {change : Value → Result} {failure : Failure} :
    first.map change = .error failure ↔ first = .error failure := by
  constructor
  · intro run
    cases first with
    | error earlier =>
        cases run
        rfl
    | ok value => cases run
  · intro failed
    subst failed
    rfl

theorem map_error_ok_iff {change : Failure → Other} {value : Value} :
    first.mapError change = .ok value ↔ first = .ok value := by
  constructor
  · intro run
    cases first with
    | error failure => cases run
    | ok value =>
        cases run
        rfl
  · intro reached
    subst reached
    rfl

theorem map_error_error_iff {change : Failure → Other} {failure : Other} :
    first.mapError change = .error failure ↔
      ∃ earlier, first = .error earlier ∧ change earlier = failure := by
  constructor
  · intro run
    cases first with
    | error earlier => exact ⟨earlier, rfl, Except.error.inj run⟩
    | ok value => cases run
  · intro failed
    rcases failed with ⟨earlier, rfl, rfl⟩
    rfl

theorem ok_of_to_option {value : Value} (reached : first.toOption = some value) :
    first = .ok value := by
  cases first with
  | error failure => cases reached
  | ok other =>
      cases reached
      rfl

theorem error_of_not_ok (failed : ∀ value, first ≠ .ok value) : ∃ failure, first = .error failure := by
  cases first with
  | error failure => exact ⟨failure, rfl⟩
  | ok value => exact absurd rfl (failed value)

theorem mapM_ok_iff {step : Value → Except Failure Result} {values : List Value}
    {results : List Result} :
    values.mapM step = .ok results ↔
      List.Forall₂ (fun value result => step value = .ok result) values results := by
  induction values generalizing results with
  | nil =>
      rw [List.mapM_nil, List.forall₂_nil_left_iff]
      exact ⟨fun run => (Except.ok.inj run).symm, fun same => same ▸ rfl⟩
  | cons value values induction =>
      rw [List.mapM_cons, bind_ok_iff, List.forall₂_cons_left_iff]
      simp only [bind_ok_iff, induction]
      constructor
      · intro run
        rcases run with ⟨result, here, later, rest, same⟩
        cases same
        exact ⟨result, later, here, rest, rfl⟩
      · intro parts
        rcases parts with ⟨result, later, here, rest, same⟩
        subst same
        exact ⟨result, here, later, rest, rfl⟩

/-- The failure of a list of steps is that of the first one that fails. -/
theorem mapM_error_iff {step : Value → Except Failure Result} {values : List Value}
    {failure : Failure} :
    values.mapM step = .error failure ↔
      ∃ front value behind, values = front ++ value :: behind ∧
        (∀ earlier ∈ front, ∃ result, step earlier = .ok result) ∧ step value = .error failure := by
  induction values with
  | nil =>
      rw [List.mapM_nil]
      constructor
      · intro run
        cases run
      · intro failed
        rcases failed with ⟨front, value, behind, whole, -⟩
        exact absurd whole.symm (List.append_ne_nil_of_right_ne_nil front (List.cons_ne_nil _ _))
  | cons first values induction =>
      rw [List.mapM_cons, bind_error_iff]
      simp only [bind_error_iff, induction]
      constructor
      · intro run
        rcases run with here | ⟨result, done, later | ⟨rest, -, never⟩⟩
        · exact ⟨[], first, values, rfl, List.forall_mem_nil _, here⟩
        · rcases later with ⟨front, value, behind, rfl, before, failed⟩
          refine ⟨first :: front, value, behind, rfl, ?_, failed⟩
          exact List.forall_mem_cons.2 ⟨⟨result, done⟩, before⟩
        · cases never
      · intro failed
        rcases failed with ⟨front, value, behind, whole, before, failed⟩
        cases front with
        | nil =>
            cases whole
            exact Or.inl failed
        | cons earlier front =>
            cases whole
            obtain ⟨⟨result, done⟩, before⟩ := List.forall_mem_cons.1 before
            exact Or.inr ⟨result, done, Or.inl ⟨front, value, behind, rfl, before, failed⟩⟩

/-- The second outcome is the first one, unless that is a failure of the excused kind. -/
def SameUnless (excused : Failure → Prop) (outcome other : Except Failure Value) : Prop :=
  (∃ failure, outcome = .error failure ∧ excused failure) ∨ other = outcome

namespace SameUnless

variable {excused : Failure → Prop} {outcome other : Except Failure Value}

theorem refl (outcome : Except Failure Value) : SameUnless excused outcome outcome := Or.inr rfl

theorem bind {next nextOther : Value → Except Failure Result}
    (start : SameUnless excused outcome other)
    (later : ∀ value, SameUnless excused (next value) (nextOther value)) :
    SameUnless excused (outcome >>= next) (other >>= nextOther) := by
  rcases start with ⟨failure, rfl, kind⟩ | rfl
  · exact Or.inl ⟨failure, rfl, kind⟩
  · cases other with
    | error failure => exact refl _
    | ok value => exact later value

theorem map {change : Value → Result} (start : SameUnless excused outcome other) :
    SameUnless excused (outcome.map change) (other.map change) := by
  rcases start with ⟨failure, rfl, kind⟩ | rfl
  · exact Or.inl ⟨failure, rfl, kind⟩
  · exact refl _

theorem mapM {step stepOther : Value → Except Failure Result} (values : List Value)
    (every : ∀ value ∈ values, SameUnless excused (step value) (stepOther value)) :
    SameUnless excused (values.mapM step) (values.mapM stepOther) := by
  induction values with
  | nil => exact refl _
  | cons value values induction =>
      obtain ⟨here, rest⟩ := List.forall_mem_cons.1 every
      rw [List.mapM_cons, List.mapM_cons]
      exact here.bind fun result => (induction rest).bind fun results => refl _

end SameUnless

def Raises (allowed : Failure → Prop) (outcome : Except Failure Value) : Prop :=
  ∀ failure, outcome = .error failure → allowed failure

namespace Raises

variable {allowed : Failure → Prop}

theorem ok (value : Value) : Raises allowed (.ok value : Except Failure Value) := by
  intro failure same
  cases same

theorem error {failure : Failure} (holds : allowed failure) :
    Raises allowed (.error failure : Except Failure Value) := by
  intro other same
  cases same
  exact holds

theorem bind {next : Value → Except Failure Result} (start : Raises allowed first)
    (later : ∀ value, first = .ok value → Raises allowed (next value)) :
    Raises allowed (first >>= next) := by
  intro failure run
  rcases bind_error_iff.1 run with failed | ⟨value, reached, failed⟩
  · exact start failure failed
  · exact later value reached failure failed

theorem weaken {permitted : Failure → Prop} (start : Raises allowed first)
    (kept : ∀ failure, allowed failure → permitted failure) : Raises permitted first := by
  intro failure run
  exact kept failure (start failure run)

theorem map {change : Value → Result} (start : Raises allowed first) :
    Raises allowed (first.map change) := by
  intro failure run
  exact start failure (map_error_iff.1 run)

theorem mapError {permitted : Other → Prop} {change : Failure → Other}
    (start : Raises allowed first) (kept : ∀ failure, allowed failure → permitted (change failure)) :
    Raises permitted (first.mapError change) := by
  intro failure run
  obtain ⟨earlier, failed, rfl⟩ := map_error_error_iff.1 run
  exact kept earlier (start earlier failed)

end Raises

end PostMarkup.Outcome
