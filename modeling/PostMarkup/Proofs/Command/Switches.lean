import Mathlib.Tactic.SplitIfs
import PostMarkup.Command.Arguments

/-!
Switches on the command line. Each is one fixed argument, and it is on in the end exactly when that
argument is given. It can be given wherever an option may stand: the rest of the line is read as before,
so adding the switch that prints a page turns an order to write it into an order to print it and changes
nothing else.
-/

namespace PostMarkup.Command

def Switch.argument : Switch → Text
  | stdout => "--stdout".toList
  | strict => "--strict".toList
  | dumpSections => "--dump-sections".toList
  | debug => "--debug".toList

namespace Argument

variable {switch : Switch} {text name : Text}

theorem of_text_switch (switch : Switch) : ofText switch.argument = .switch switch := by
  cases switch <;> rfl

theorem argument_of_long_switch (known : longSwitch? name = some switch) :
    '-' :: '-' :: name = switch.argument := by
  unfold longSwitch? at known
  split_ifs at known with same same same same
  all_goals
    cases known
    rw [same]
    rfl

theorem of_short_ne_switch (letter : Char) (value : Text) : ofShort letter value ≠ .switch switch := by
  intro read
  unfold ofShort at read
  split at read
  · cases read
  · split at read
    · cases read
    · split at read <;> cases read

theorem argument_of_of_long (read : ofLong name = .switch switch) :
    '-' :: '-' :: name = switch.argument := by
  unfold ofLong at read
  split at read
  · split at read <;> cases read
  · split at read
    · cases read
    · rename_i known
      cases read
      exact argument_of_long_switch known
    · split at read
      · cases read
      · split at read <;> cases read

/-- A switch has one spelling. -/
theorem of_text_eq_switch_iff : ofText text = .switch switch ↔ text = switch.argument := by
  constructor
  · intro read
    unfold ofText at read
    split at read
    · cases read
    · exact argument_of_of_long read
    · exact absurd read (of_short_ne_switch _ _)
    · cases read
  · intro same
    rw [same, of_text_switch]

end Argument

namespace Draft

variable {draft later final : Draft} {switch found : Switch}

def isOn (draft : Draft) : Switch → Bool
  | .stdout => draft.stdout
  | .strict => draft.strict
  | .dumpSections => draft.dumpSections
  | .debug => draft.debug

def turnOn (draft : Draft) : Switch → Draft
  | .stdout => { draft with stdout := true }
  | .strict => { draft with strict := true }
  | .dumpSections => { draft with dumpSections := true }
  | .debug => { draft with debug := true }

theorem set_switch_eq (draft : Draft) (switch : Switch) :
    draft.setSwitch switch = if draft.isOn switch then none else some (draft.turnOn switch) := by
  cases switch <;> rfl

theorem set_switch_eq_some_iff :
    draft.setSwitch switch = some later ↔ draft.isOn switch = false ∧ later = draft.turnOn switch := by
  rw [set_switch_eq]
  cases draft.isOn switch <;> simp [eq_comm]

theorem is_on_turn_on (draft : Draft) (found switch : Switch) :
    (draft.turnOn found).isOn switch = true ↔ draft.isOn switch = true ∨ switch = found := by
  cases found <;> cases switch <;> simp [isOn, turnOn]

theorem turn_on_comm (draft : Draft) (found switch : Switch) :
    (draft.turnOn found).turnOn switch = (draft.turnOn switch).turnOn found := by
  cases found <;> cases switch <;> rfl

/-- Options and switches do not touch one another. -/
theorem set_option_turn_on {target : ValueOption} {value : Text}
    (set : draft.setOption target value = some later) (switch : Switch) :
    (draft.turnOn switch).setOption target value = some (later.turnOn switch) ∧
      later.isOn switch = draft.isOn switch := by
  cases target
  case depthLimit =>
    rw [setOption] at set
    split at set
    · rename_i limit absent known
      cases set
      cases switch <;> simp [setOption, turnOn, isOn, absent, known]
    · cases set
  all_goals
    rw [setOption] at set
    split at set
    · cases set
    · rename_i free
      cases set
      cases switch <;> exact ⟨if_neg free, rfl⟩

/-- The arguments turn the first draft into the second one. -/
inductive Fills : Draft → List Text → Draft → Prop
  | done {draft : Draft} : Fills draft [] draft
  | separated {draft : Draft} {argument : Text} (separates : Argument.ofText argument = .separator) :
      Fills draft [argument] draft
  | switch {draft final : Draft} {argument : Text} {rest : List Text} {switch : Switch}
      (found : Argument.ofText argument = .switch switch) (fresh : draft.isOn switch = false)
      (later : Fills (draft.turnOn switch) rest final) : Fills draft (argument :: rest) final
  | option {draft between final : Draft} {argument value : Text} {rest : List Text}
      {target : ValueOption} (found : Argument.ofText argument = .option target value)
      (set : draft.setOption target value = some between) (later : Fills between rest final) :
      Fills draft (argument :: rest) final
  | openOption {draft between final : Draft} {argument value : Text} {rest : List Text}
      {target : ValueOption} (found : Argument.ofText argument = .openOption target)
      (plain : Argument.isValue value = true) (set : draft.setOption target value = some between)
      (later : Fills between rest final) : Fills draft (argument :: value :: rest) final

end Draft

open Draft (Fills)

theorem Request.of_arguments_from_order_iff {draft : Draft} {arguments : List Text} {order : Order} :
    ofArgumentsFrom draft arguments = some (.order order) ↔
      ∃ final, Fills draft arguments final ∧ final.order? = some order := by
  constructor
  · intro read
    fun_induction ofArgumentsFrom draft arguments with
    | case1 draft =>
        obtain ⟨same, ordered, made⟩ := Option.map_eq_some_iff.1 read
        cases made
        exact ⟨draft, .done, ordered⟩
    | case2 => cases read
    | case3 => cases read
    | case4 draft argument rest switch found induction =>
        obtain ⟨between, set, read⟩ := Option.bind_eq_some_iff.1 read
        obtain ⟨fresh, rfl⟩ := Draft.set_switch_eq_some_iff.1 set
        obtain ⟨final, later, ordered⟩ := induction _ read
        exact ⟨final, .switch found fresh later, ordered⟩
    | case5 draft argument rest target value found induction =>
        obtain ⟨between, set, read⟩ := Option.bind_eq_some_iff.1 read
        obtain ⟨final, later, ordered⟩ := induction _ read
        exact ⟨final, .option found set later, ordered⟩
    | case6 => cases read
    | case7 draft argument target found value rest plain induction =>
        obtain ⟨between, set, read⟩ := Option.bind_eq_some_iff.1 read
        obtain ⟨final, later, ordered⟩ := induction _ read
        exact ⟨final, .openOption found plain set later, ordered⟩
    | case8 => cases read
    | case9 draft argument separates =>
        obtain ⟨same, ordered, made⟩ := Option.map_eq_some_iff.1 read
        cases made
        exact ⟨draft, .separated separates, ordered⟩
    | case10 => cases read
    | case11 => cases read
  · intro reached
    rcases reached with ⟨final, fills, ordered⟩
    have ended : (final.order?.map Request.order) = some (.order order) := by
      rw [ordered]
      rfl
    induction fills with
    | done => exact ended
    | separated separates => simp only [ofArgumentsFrom, separates, if_true, ended]
    | switch found fresh later induction =>
        simp only [ofArgumentsFrom, found, Draft.set_switch_eq_some_iff.2 ⟨fresh, rfl⟩, Option.bind_some]
        exact induction ordered ended
    | option found set later induction =>
        simp only [ofArgumentsFrom, found, set, Option.bind_some]
        exact induction ordered ended
    | openOption found plain set later induction =>
        simp only [ofArgumentsFrom, found, if_pos plain, set, Option.bind_some]
        exact induction ordered ended

/-- A switch is put in at a place where an option may stand: neither behind the separator nor between
an option and its value. -/
inductive Added (extra : Text) : List Text → List Text → Prop
  | here {arguments : List Text} : Added extra arguments (extra :: arguments)
  | behind {argument : Text} {rest longer : List Text}
      (whole : ∀ target, Argument.ofText argument ≠ .openOption target)
      (inFront : Argument.ofText argument ≠ .separator) (later : Added extra rest longer) :
      Added extra (argument :: rest) (argument :: longer)
  | behindValue {argument value : Text} {rest longer : List Text} {target : ValueOption}
      (found : Argument.ofText argument = .openOption target) (later : Added extra rest longer) :
      Added extra (argument :: value :: rest) (argument :: value :: longer)

namespace Argument

variable {argument : Argument} {text : Text}

theorem is_value_switch (switch : Switch) : isValue switch.argument = false := by
  cases switch <;> rfl

theorem ne_switch_of_value (plain : isValue text = true) (switch : Switch) :
    switch.argument ≠ text := by
  intro same
  rw [← same, is_value_switch] at plain
  cases plain

theorem ne_switch_of_read (read : ofText text = argument) (other : ∀ switch, argument ≠ .switch switch)
    (switch : Switch) : switch.argument ≠ text := by
  intro same
  rw [← same, of_text_switch] at read
  exact other switch read.symm

end Argument

namespace Draft

variable {draft final : Draft} {arguments longer : List Text} {switch found : Switch}

/-- A switch is on in the end exactly when it was on at first or is given. -/
theorem Fills.is_on_iff (fills : Fills draft arguments final) (switch : Switch) :
    final.isOn switch = true ↔ draft.isOn switch = true ∨ switch.argument ∈ arguments := by
  induction fills with
  | done => rw [List.mem_nil_iff, or_false]
  | separated separates =>
      have apart := Argument.ne_switch_of_read separates (fun _ => nofun) switch
      rw [List.mem_singleton, or_iff_left apart]
  | switch found fresh later induction =>
      have spelled := Argument.of_text_eq_switch_iff.1 found
      have one : ∀ other : Switch, switch.argument = other.argument ↔ switch = other := by
        intro other
        rw [← Argument.of_text_eq_switch_iff, Argument.of_text_switch, Argument.switch.injEq]
      rw [induction, is_on_turn_on, List.mem_cons, spelled, one, or_assoc]
  | option found set later induction =>
      have apart := Argument.ne_switch_of_read found (fun _ => nofun) switch
      rw [induction, (set_option_turn_on set switch).2, List.mem_cons, or_iff_right apart]
  | openOption found plain set later induction =>
      have apart := Argument.ne_switch_of_read found (fun _ => nofun) switch
      have apartValue := Argument.ne_switch_of_value plain switch
      rw [induction, (set_option_turn_on set switch).2, List.mem_cons, or_iff_right apart, List.mem_cons,
        or_iff_right apartValue]

theorem is_on_turn_on_of_ne (different : switch ≠ found) (draft : Draft) :
    (draft.turnOn found).isOn switch = draft.isOn switch := by
  rw [Bool.eq_iff_iff, is_on_turn_on, or_iff_left different]

theorem ne_of_absent {argument : Text} {rest : List Text}
    (absent : switch.argument ∉ argument :: rest) (read : Argument.ofText argument = .switch found) :
    switch ≠ found := by
  intro same
  subst same
  rw [Argument.of_text_eq_switch_iff.1 read] at absent
  exact absent List.mem_cons_self

/-- The same arguments fill a draft in which another switch is already on. -/
theorem Fills.turn_on (fills : Fills draft arguments final) (absent : switch.argument ∉ arguments) :
    Fills (draft.turnOn switch) arguments (final.turnOn switch) := by
  induction fills with
  | done => exact .done
  | separated separates => exact .separated separates
  | switch read fresh later induction =>
      have rest := induction fun given => absent (List.mem_cons_of_mem _ given)
      rw [turn_on_comm] at rest
      refine .switch read ?_ rest
      rw [is_on_turn_on_of_ne (ne_of_absent absent read).symm]
      exact fresh
  | option read set later induction =>
      have rest := induction fun given => absent (List.mem_cons_of_mem _ given)
      exact .option read (set_option_turn_on set switch).1 rest
  | openOption read plain set later induction =>
      have rest := induction fun given => absent (List.mem_cons_of_mem _ (List.mem_cons_of_mem _ given))
      exact .openOption read plain (set_option_turn_on set switch).1 rest

/-- An added switch is on in the end, and all else is as it was. -/
theorem Fills.added (fills : Fills draft arguments final) (off : draft.isOn switch = false)
    (absent : switch.argument ∉ arguments) (added : Added switch.argument arguments longer) :
    Fills draft longer (final.turnOn switch) := by
  induction added generalizing draft with
  | here => exact .switch (Argument.of_text_switch switch) off (fills.turn_on absent)
  | behind whole inFront added induction =>
      have absentLater := fun given => absent (List.mem_cons_of_mem _ given)
      cases fills with
      | separated separates => exact absurd separates inFront
      | switch read fresh later =>
          refine .switch read fresh (induction later ?_ absentLater)
          rw [is_on_turn_on_of_ne (ne_of_absent absent read)]
          exact off
      | option read set later =>
          refine .option read set (induction later ?_ absentLater)
          rw [(set_option_turn_on set switch).2]
          exact off
      | openOption read plain set later => exact absurd read (whole _)
  | behindValue opened added induction =>
      have absentLater :=
        fun given => absent (List.mem_cons_of_mem _ (List.mem_cons_of_mem _ given))
      cases fills with
      | switch read fresh later => exact absurd (opened.symm.trans read) nofun
      | option read set later => exact absurd (opened.symm.trans read) nofun
      | openOption read plain set later =>
          refine .openOption read plain set (induction later ?_ absentLater)
          rw [(set_option_turn_on set switch).2]
          exact off

/-- A draft that is to write a page is to print it once that switch is turned on. -/
theorem job_turn_on_stdout {job : Job} (complete : final.job? = some job)
    (unprinted : final.isOn .stdout = false) (undumped : final.isOn .dumpSections = false) :
    ∃ template directory, job = .write template directory ∧
      (final.turnOn .stdout).job? = some (.print template) := by
  change final.stdout = false at unprinted
  change final.dumpSections = false at undumped
  unfold job? at complete ⊢
  rw [undumped, if_neg Bool.false_ne_true] at complete
  cases templated : final.template with
  | none =>
      rw [templated] at complete
      cases complete
  | some template =>
      rw [templated, unprinted] at complete
      cases complete
      refine ⟨template, _, rfl, ?_⟩
      simp only [turnOn, undumped, templated, if_neg Bool.false_ne_true, if_true]

theorem order_eq_some_iff {order : Order} :
    final.order? = some order ↔
      final.file = some order.file ∧ final.options = order.options ∧ final.job? = some order.job := by
  unfold order?
  constructor
  · intro ordered
    obtain ⟨file, given, ordered⟩ := Option.bind_eq_some_iff.1 ordered
    obtain ⟨job, complete, made⟩ := Option.bind_eq_some_iff.1 ordered
    cases made
    exact ⟨given, rfl, complete⟩
  · intro parts
    rcases parts with ⟨given, same, complete⟩
    rw [given, complete, same]
    rfl

end Draft

/-- The line without the two switches asks for a page to be written. Wherever the switch for printing is
added, it asks for the same page to be printed. -/
theorem Request.order_printed_of_written {arguments : List Text} {order : Order}
    (accepted : ofArguments arguments = some (.order order))
    (unprinted : Switch.stdout.argument ∉ arguments)
    (undumped : Switch.dumpSections.argument ∉ arguments) :
    ∃ template directory, order.job = .write template directory ∧
      ∀ longer, Added Switch.stdout.argument arguments longer →
        ofArguments longer = some (.order { order with job := .print template }) := by
  obtain ⟨final, fills, ordered⟩ := of_arguments_from_order_iff.1 accepted
  obtain ⟨given, same, complete⟩ := Draft.order_eq_some_iff.1 ordered
  have off : ∀ switch : Switch, switch.argument ∉ arguments → final.isOn switch = false := by
    intro switch absent
    rw [← Bool.not_eq_true, fills.is_on_iff]
    have offAtFirst : Draft.empty.isOn switch = false := by cases switch <;> rfl
    simp [offAtFirst, absent]
  obtain ⟨template, directory, job, printing⟩ :=
    Draft.job_turn_on_stdout complete (off _ unprinted) (off _ undumped)
  refine ⟨template, directory, job, ?_⟩
  intro longer added
  have longFills := fills.added rfl unprinted added
  exact of_arguments_from_order_iff.2 ⟨_, longFills, Draft.order_eq_some_iff.2 ⟨given, same, printing⟩⟩

end PostMarkup.Command
