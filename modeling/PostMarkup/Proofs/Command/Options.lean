import Mathlib.Data.List.Basic
import PostMarkup.Proofs.Command.Switches

/-!
Options on the command line. A value that is given to one of them, in whichever spelling and wherever an
option may stand, is the value that the draft has in the end, and an option that is not given is left
without one. So a line that asks for a page names its file and its template, and it settles the directory
and how the document is expanded; what it does not name is the standard. A line that is accepted and asks
for nothing of the kind holds a question for the version or for help.
-/

namespace PostMarkup.Command

/-- The option is given the value at a place where an option may stand. -/
inductive Given (target : ValueOption) (value : Text) : List Text → Prop
  | joined {argument : Text} {rest : List Text}
      (found : Argument.ofText argument = .option target value) : Given target value (argument :: rest)
  | parted {argument : Text} {rest : List Text}
      (found : Argument.ofText argument = .openOption target) :
      Given target value (argument :: value :: rest)
  | behind {argument : Text} {rest : List Text}
      (whole : ∀ other, Argument.ofText argument ≠ .openOption other)
      (inFront : Argument.ofText argument ≠ .separator) (later : Given target value rest) :
      Given target value (argument :: rest)
  | behindValue {argument other : Text} {rest : List Text} {another : ValueOption}
      (found : Argument.ofText argument = .openOption another) (later : Given target value rest) :
      Given target value (argument :: other :: rest)

section Given

variable {argument text value : Text} {rest : List Text} {target named : ValueOption} {switch : Switch}

theorem not_given_separator (found : Argument.ofText argument = .separator) :
    ¬ Given target value (argument :: rest) := by
  intro given
  cases given with
  | joined read => exact absurd (found.symm.trans read) nofun
  | parted read => exact absurd (found.symm.trans read) nofun
  | behind whole inFront later => exact inFront found
  | behindValue read later => exact absurd (found.symm.trans read) nofun

theorem given_switch_iff (found : Argument.ofText argument = .switch switch) :
    Given target value (argument :: rest) ↔ Given target value rest := by
  constructor
  · intro given
    cases given with
    | joined read => exact absurd (found.symm.trans read) nofun
    | parted read => exact absurd (found.symm.trans read) nofun
    | behind whole inFront later => exact later
    | behindValue read later => exact absurd (found.symm.trans read) nofun
  · intro later
    refine .behind ?_ ?_ later
    · exact fun other read => absurd (found.symm.trans read) nofun
    · exact fun read => absurd (found.symm.trans read) nofun

theorem given_option_iff (found : Argument.ofText argument = .option named text) :
    Given target value (argument :: rest) ↔
      named = target ∧ text = value ∨ Given target value rest := by
  constructor
  · intro given
    cases given with
    | joined read =>
        cases found.symm.trans read
        exact Or.inl ⟨rfl, rfl⟩
    | parted read => exact absurd (found.symm.trans read) nofun
    | behind whole inFront later => exact Or.inr later
    | behindValue read later => exact absurd (found.symm.trans read) nofun
  · intro parts
    rcases parts with ⟨rfl, rfl⟩ | later
    · exact .joined found
    · refine .behind ?_ ?_ later
      · exact fun other read => absurd (found.symm.trans read) nofun
      · exact fun read => absurd (found.symm.trans read) nofun

theorem given_open_option_iff (found : Argument.ofText argument = .openOption named) :
    Given target value (argument :: text :: rest) ↔
      named = target ∧ text = value ∨ Given target value rest := by
  constructor
  · intro given
    cases given with
    | joined read => exact absurd (found.symm.trans read) nofun
    | parted read =>
        cases found.symm.trans read
        exact Or.inl ⟨rfl, rfl⟩
    | behind whole inFront later => exact absurd found (whole named)
    | behindValue read later => exact Or.inr later
  · intro parts
    rcases parts with ⟨rfl, rfl⟩ | later
    · exact .parted found
    · exact .behindValue found later

end Given

/-- The text writes the number in decimal digits; a plus sign may stand in front. -/
def Numeral (text : Text) (number : Nat) : Prop :=
  ∃ digits, (text = digits ∨ text = '+' :: digits) ∧ digits ≠ [] ∧ (∀ c ∈ digits, c.isDigit = true) ∧
    Nat.ofDigitChars 10 digits 0 = number

namespace Draft

variable {draft later final : Draft} {target other : ValueOption} {arguments : List Text}
  {text value digits : Text} {number : Nat}

theorem digits_value_eq_some_iff :
    digitsValue? digits = some number ↔
      digits ≠ [] ∧ (∀ c ∈ digits, c.isDigit = true) ∧ Nat.ofDigitChars 10 digits 0 = number := by
  unfold digitsValue?
  rw [Nat.ofDigitChars_eq_foldl]
  split
  · rename_i bad
    constructor
    · intro read
      cases read
    · rintro ⟨filled, every, -⟩
      rcases bad with empty | other
      · exact absurd empty filled
      · obtain ⟨c, member, odd⟩ := List.any_eq_true.1 other
        rw [every c member] at odd
        cases odd
  · rename_i good
    simp only [not_or, Bool.not_eq_true, List.any_eq_false, Bool.not_eq_false'] at good
    rw [Option.some.injEq]
    exact ⟨fun same => ⟨good.1, good.2, same⟩, fun parts => parts.2.2⟩

/-- A limit is read as the number it writes, as long as it is small enough. -/
theorem limit_eq_some_iff : limit? text = some number ↔ Numeral text number ∧ number < UInt64.size := by
  have notPlus : ∀ digits : Text, (∀ c ∈ digits, c.isDigit = true) → digits.head? ≠ some '+' := by
    intro digits every plus
    exact absurd (every '+' (List.mem_of_mem_head? plus)) (by decide)
  unfold limit?
  simp only [Option.filter_eq_some_iff, decide_eq_true_eq]
  refine and_congr_left fun _ => ?_
  rw [digits_value_eq_some_iff]
  constructor
  · rintro ⟨filled, every, same⟩
    split at filled
    · rename_i plus
      rw [if_pos plus] at every same
      obtain ⟨rest, rfl⟩ := List.head?_eq_some_iff.1 plus
      exact ⟨rest, Or.inr rfl, filled, every, same⟩
    · rename_i plain
      rw [if_neg plain] at every same
      exact ⟨text, Or.inl rfl, filled, every, same⟩
  · rintro ⟨digits, rfl | rfl, filled, every, same⟩
    · rw [if_neg (notPlus _ every)]
      exact ⟨filled, every, same⟩
    · exact ⟨filled, every, same⟩

def Holds (draft : Draft) : ValueOption → Text → Prop
  | .file, value => draft.file = some value
  | .template, value => draft.template = some value
  | .outputDirectory, value => draft.outputDirectory = some value
  | .depthLimit, value => ∃ limit, draft.depthLimit = some limit ∧ limit? value = some limit

def IsOpen (draft : Draft) : ValueOption → Prop
  | .file => draft.file = none
  | .template => draft.template = none
  | .outputDirectory => draft.outputDirectory = none
  | .depthLimit => draft.depthLimit = none

theorem not_open_of_holds (holds : draft.Holds target value) : ¬ draft.IsOpen target := by
  intro isOpen
  cases target
  case depthLimit =>
    obtain ⟨limit, set, -⟩ := holds
    exact absurd (isOpen.symm.trans set) nofun
  all_goals exact absurd (isOpen.symm.trans holds) nofun

theorem holds_turn_on (switch : Switch) :
    (draft.turnOn switch).Holds target value ↔ draft.Holds target value := by
  cases switch <;> cases target <;> rfl

theorem is_open_turn_on (switch : Switch) :
    (draft.turnOn switch).IsOpen target ↔ draft.IsOpen target := by
  cases switch <;> cases target <;> rfl

theorem set_option_holds (set : draft.setOption target value = some later) :
    draft.IsOpen target ∧ later.Holds target value := by
  cases target
  case depthLimit =>
    rw [setOption] at set
    split at set
    · rename_i limit absent known
      cases set
      exact ⟨absent, limit, rfl, known⟩
    · cases set
  all_goals
    rw [setOption] at set
    split at set
    · cases set
    · rename_i free
      cases set
      simp only [not_or, Bool.not_eq_true, Option.isSome_eq_false_iff, Option.isNone_iff_eq_none] at free
      exact ⟨free.1, rfl⟩

/-- Two options do not touch one another. -/
theorem set_option_of_ne (set : draft.setOption target value = some later) (different : other ≠ target) :
    (∀ text, later.Holds other text ↔ draft.Holds other text) ∧
      (later.IsOpen other ↔ draft.IsOpen other) := by
  cases target
  case depthLimit =>
    rw [setOption] at set
    split at set
    · cases set
      cases other
      case depthLimit => exact absurd rfl different
      all_goals exact ⟨fun text => Iff.rfl, Iff.rfl⟩
    · cases set
  all_goals
    rw [setOption] at set
    split at set
    · cases set
    · cases set
      cases other
      all_goals first
        | exact absurd rfl different
        | exact ⟨fun text => Iff.rfl, Iff.rfl⟩

/-- A value stays, since an option is given one once. -/
theorem set_option_keeps (set : draft.setOption target value = some later)
    (holds : draft.Holds other text) : later.Holds other text := by
  have different : other ≠ target := by
    rintro rfl
    exact not_open_of_holds holds (set_option_holds set).1
  exact ((set_option_of_ne set different).1 text).2 holds

theorem Fills.keeps (fills : Fills draft arguments final) (holds : draft.Holds target value) :
    final.Holds target value := by
  induction fills with
  | done => exact holds
  | separated => exact holds
  | switch found fresh later induction => exact induction ((holds_turn_on _).2 holds)
  | option found set later induction => exact induction (set_option_keeps set holds)
  | openOption found plain set later induction => exact induction (set_option_keeps set holds)

theorem Fills.holds_of_given (fills : Fills draft arguments final)
    (given : Given target value arguments) : final.Holds target value := by
  induction fills with
  | done => cases given
  | separated separates => exact absurd given (not_given_separator separates)
  | switch found fresh later induction => exact induction ((given_switch_iff found).1 given)
  | option found set later induction =>
      rcases (given_option_iff found).1 given with ⟨rfl, rfl⟩ | given
      · exact later.keeps (set_option_holds set).2
      · exact induction given
  | openOption found plain set later induction =>
      rcases (given_open_option_iff found).1 given with ⟨rfl, rfl⟩ | given
      · exact later.keeps (set_option_holds set).2
      · exact induction given

theorem Fills.open_of_not_given (fills : Fills draft arguments final) (isOpen : draft.IsOpen target)
    (absent : ∀ value, ¬ Given target value arguments) : final.IsOpen target := by
  induction fills with
  | done => exact isOpen
  | separated => exact isOpen
  | switch found fresh later induction =>
      refine induction ((is_open_turn_on _).2 isOpen) ?_
      exact fun value given => absent value ((given_switch_iff found).2 given)
  | option found set later induction =>
      have different := fun same => absent _ ((given_option_iff found).2 (Or.inl ⟨same, rfl⟩))
      refine induction ((set_option_of_ne set (Ne.symm different)).2.2 isOpen) ?_
      exact fun value given => absent value ((given_option_iff found).2 (Or.inr given))
  | openOption found plain set later induction =>
      have different := fun same => absent _ ((given_open_option_iff found).2 (Or.inl ⟨same, rfl⟩))
      refine induction ((set_option_of_ne set (Ne.symm different)).2.2 isOpen) ?_
      exact fun value given => absent value ((given_open_option_iff found).2 (Or.inr given))

theorem empty_is_open (target : ValueOption) : empty.IsOpen target := by
  cases target <;> rfl

/-- What a draft has in the end was given. -/
theorem Fills.given_of_holds (fills : Fills empty arguments final) (holds : final.Holds target value)
    (single : ∀ text, final.Holds target text → text = value) : Given target value arguments := by
  apply Classical.byContradiction
  intro unnamed
  have absent : ∀ text, ¬ Given target text arguments := by
    intro text given
    rw [single text (fills.holds_of_given given)] at given
    exact unnamed given
  exact not_open_of_holds holds (fills.open_of_not_given (empty_is_open target) absent)

theorem job_eq_write {template directory : Text} (complete : final.job? = some (.write template directory)) :
    final.template = some template ∧ directory = final.outputDirectory.getD ['.'] := by
  unfold job? at complete
  split at complete
  · cases complete
  · split at complete
    · cases complete
    · rename_i named known
      split at complete
      · cases complete
      · cases complete
        exact ⟨known, rfl⟩

end Draft

structure Asks (arguments : List Text) (order : Order) (template directory : Text) : Prop where
  job : order.job = .write template directory
  file : Given .file order.file arguments
  page : Given .template template arguments
  directoryGiven : ∀ value, Given .outputDirectory value arguments → directory = value
  directoryStandard : (∀ value, ¬ Given .outputDirectory value arguments) → directory = ['.']
  unbound : order.options.unbound =
    if Switch.strict.argument ∈ arguments then .refuse else .vanish
  limitGiven : ∀ value, Given .depthLimit value arguments → Numeral value order.options.depthLimit
  limitStandard : (∀ value, ¬ Given .depthLimit value arguments) → order.options.depthLimit = 50

namespace Draft

variable {final : Draft} {arguments : List Text} {order : Order} {template directory : Text}

theorem Fills.unbound (fills : Fills empty arguments final) :
    final.options.unbound = if Switch.strict.argument ∈ arguments then .refuse else .vanish := by
  have given := fills.is_on_iff .strict
  have off : ¬ empty.isOn .strict = true := Bool.false_ne_true
  rw [or_iff_right off] at given
  change (if final.isOn .strict = true then _ else _) = _
  simp only [given]
  rfl

theorem Fills.limit_given {value : Text} (fills : Fills empty arguments final)
    (given : Given .depthLimit value arguments) : Numeral value final.options.depthLimit := by
  obtain ⟨limit, set, read⟩ := fills.holds_of_given given
  rw [options, set]
  exact (limit_eq_some_iff.1 read).1

theorem Fills.limit_standard (fills : Fills empty arguments final)
    (absent : ∀ value, ¬ Given .depthLimit value arguments) : final.options.depthLimit = 50 := by
  have unset : final.depthLimit = none := fills.open_of_not_given (empty_is_open .depthLimit) absent
  rw [options, unset]
  rfl

theorem Fills.asks (fills : Fills empty arguments final) (ordered : final.order? = some order)
    (job : order.job = .write template directory) : Asks arguments order template directory := by
  obtain ⟨named, same, complete⟩ := order_eq_some_iff.1 ordered
  rw [job] at complete
  obtain ⟨templated, around⟩ := job_eq_write complete
  refine ⟨job, ?_, ?_, ?_, ?_, ?_, ?_, ?_⟩
  · exact fills.given_of_holds named fun text holds => Option.some.inj (holds.symm.trans named)
  · exact fills.given_of_holds templated fun text holds => Option.some.inj (holds.symm.trans templated)
  · intro value given
    have set : final.outputDirectory = some value := fills.holds_of_given given
    rw [around, set, Option.getD_some]
  · intro absent
    have unset : final.outputDirectory = none :=
      fills.open_of_not_given (empty_is_open .outputDirectory) absent
    rw [around, unset, Option.getD_none]
  · rw [← same, fills.unbound]
  · intro value given
    rw [← same]
    exact fills.limit_given given
  · intro absent
    rw [← same, fills.limit_standard absent]

end Draft

/-- A line that is accepted asks for the page that is made. -/
theorem Request.asks_of_accepted {arguments : List Text} {order : Order} {template directory : Text}
    (accepted : ofArguments arguments = some (.order order))
    (job : order.job = .write template directory) : Asks arguments order template directory := by
  obtain ⟨final, fills, ordered⟩ := of_arguments_from_order_iff.1 accepted
  exact fills.asks ordered job

def Argument.IsQuestion (text : Text) : Prop :=
  text ∈ ["--version".toList, "--help".toList] ∨ text.take 2 ∈ ["-V".toList, "-h".toList]

instance (text : Text) : Decidable (Argument.IsQuestion text) := inferInstanceAs (Decidable (_ ∨ _))

theorem Argument.of_long_question {name : Text} (read : ofLong name = .version ∨ ofLong name = .help) :
    name ∈ ["version".toList, "help".toList] := by
  unfold ofLong at read
  split at read
  · split at read <;> rcases read with read | read <;> cases read
  · split at read
    · rcases read with read | read <;> cases read
    · rcases read with read | read <;> cases read
    · split at read
      · rename_i same
        rw [same]
        exact List.mem_cons_self
      · split at read
        · rename_i same
          rw [same]
          exact List.mem_cons_of_mem _ List.mem_cons_self
        · rcases read with read | read <;> cases read

theorem Argument.of_short_question {letter : Char} {value : Text}
    (read : ofShort letter value = .version ∨ ofShort letter value = .help) : letter ∈ ['V', 'h'] := by
  unfold ofShort at read
  split at read
  · rename_i same
    rw [same]
    exact List.mem_cons_self
  · split at read
    · rename_i same
      rw [same]
      exact List.mem_cons_of_mem _ List.mem_cons_self
    · split at read <;> rcases read with read | read <;> cases read

theorem Argument.is_question_iff {text : Text} :
    IsQuestion text ↔ ofText text = .version ∨ ofText text = .help := by
  constructor
  · rintro (long | short)
    · rcases List.mem_cons.1 long with rfl | help
      · exact Or.inl rfl
      · rw [List.mem_singleton.1 help]
        exact Or.inr rfl
    · rcases text with - | ⟨mark, - | ⟨letter, value⟩⟩
      · simp at short
      · simp at short
      · simp only [List.take_succ_cons, List.take_zero, List.mem_cons, List.not_mem_nil, or_false] at short
        rcases short with version | help
        · cases version
          exact Or.inl rfl
        · cases help
          exact Or.inr rfl
  · intro read
    unfold ofText at read
    split at read
    · rcases read with read | read <;> cases read
    · left
      rename_i name _
      exact List.mem_map_of_mem (f := fun name => '-' :: '-' :: name) (of_long_question read)
    · right
      exact List.mem_map_of_mem (f := fun letter => ['-', letter]) (of_short_question read)
    · rcases read with read | read <;> cases read

theorem Draft.map_order_ne {draft : Draft} {request : Request} (other : ∀ order, request ≠ .order order) :
    draft.order?.map Request.order ≠ some request := by
  intro made
  obtain ⟨order, -, same⟩ := Option.map_eq_some_iff.1 made
  exact other order same.symm

/-- What is answered without an order was a question. -/
theorem Request.exists_question {draft : Draft} {arguments : List Text} {request : Request}
    (read : ofArgumentsFrom draft arguments = some request) (other : ∀ order, request ≠ .order order) :
    ∃ argument ∈ arguments, Argument.IsQuestion argument := by
  fun_induction ofArgumentsFrom draft arguments with
  | case1 => exact absurd read (Draft.map_order_ne other)
  | case2 draft argument rest found =>
      exact ⟨argument, List.mem_cons_self, Argument.is_question_iff.2 (Or.inl found)⟩
  | case3 draft argument rest found =>
      exact ⟨argument, List.mem_cons_self, Argument.is_question_iff.2 (Or.inr found)⟩
  | case4 draft argument rest switch found induction =>
      obtain ⟨between, -, read⟩ := Option.bind_eq_some_iff.1 read
      exact List.exists_mem_cons_of_exists (induction _ read)
  | case5 draft argument rest target value found induction =>
      obtain ⟨between, -, read⟩ := Option.bind_eq_some_iff.1 read
      exact List.exists_mem_cons_of_exists (induction _ read)
  | case6 => cases read
  | case7 draft argument target found value rest plain induction =>
      obtain ⟨between, -, read⟩ := Option.bind_eq_some_iff.1 read
      exact List.exists_mem_cons_of_exists (List.exists_mem_cons_of_exists (induction _ read))
  | case8 => cases read
  | case9 => exact absurd read (Draft.map_order_ne other)
  | case10 => cases read
  | case11 => cases read

end PostMarkup.Command
