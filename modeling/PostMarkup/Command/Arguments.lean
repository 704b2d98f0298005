import PostMarkup.Expansion

/-!
Arguments of the command line. They are read from left to right, and the first one that cannot be
accepted refuses the whole line; a request for the version or for help in front of it is still
answered. Options may be given once. There are no positional arguments.
-/

namespace PostMarkup.Command

open Text (cutFirst?)

inductive ValueOption where
  | file
  | template
  | outputDirectory
  | depthLimit

inductive Switch where
  | stdout
  | strict
  | dumpSections
  | debug

/-- What one argument is, apart from the arguments around it. -/
inductive Argument where
  | version
  | help
  | switch (switch : Switch)
  | option (option : ValueOption) (value : Text)
  /-- An option whose value is the next argument. -/
  | openOption (option : ValueOption)
  /-- The mark behind which only positional arguments stand. -/
  | separator
  | unknown

namespace Argument

def longOption? (name : Text) : Option ValueOption :=
  if name = "file".toList then some .file
  else if name = "template".toList then some .template
  else if name = "output-dir".toList then some .outputDirectory
  else if name = "max-macro-depth".toList then some .depthLimit
  else none

def longSwitch? (name : Text) : Option Switch :=
  if name = "stdout".toList then some .stdout
  else if name = "strict".toList then some .strict
  else if name = "dump-sections".toList then some .dumpSections
  else if name = "debug".toList then some .debug
  else none

def shortOption? : Char → Option ValueOption
  | 'f' => some .file
  | 't' => some .template
  | 'o' => some .outputDirectory
  | _ => none

/-- An argument after its two hyphens. Only options take a value behind an equals sign. -/
def ofLong (body : Text) : Argument :=
  match cutFirst? ['='] body with
  | some (name, value) =>
      match longOption? name with
      | some target => option target value
      | none => unknown
  | none =>
      match longOption? body, longSwitch? body with
      | some target, _ => openOption target
      | none, some found => switch found
      | none, none =>
          if body = "version".toList then version
          else if body = "help".toList then help
          else unknown

/-- An argument after its single hyphen. A value may follow the letter at once or behind an equals
sign. -/
def ofShort (letter : Char) (value : Text) : Argument :=
  if letter = 'V' then version
  else if letter = 'h' then help
  else
    match shortOption? letter, value with
    | some target, [] => openOption target
    | some target, '=' :: value => option target value
    | some target, value => option target value
    | none, _ => unknown

def ofText : Text → Argument
  | ['-', '-'] => separator
  | '-' :: '-' :: body => ofLong body
  | '-' :: letter :: value => ofShort letter value
  | _ => unknown

/-- Whether a text may stand behind an open option. A lone hyphen may. -/
def isValue (text : Text) : Bool := text = ['-'] || text.head? ≠ some '-'

end Argument

/-- What has been read of the arguments so far. -/
structure Draft where
  file : Option Text
  template : Option Text
  outputDirectory : Option Text
  depthLimit : Option Nat
  stdout : Bool
  strict : Bool
  dumpSections : Bool
  debug : Bool

namespace Draft

def empty : Draft := ⟨none, none, none, none, false, false, false, false⟩

/-- The value of decimal digits; none for the empty text and for other characters. -/
def digitsValue? (digits : Text) : Option Nat :=
  if digits = [] ∨ digits.any (fun c => !c.isDigit) then none
  else some (digits.foldl (fun value c => 10 * value + (c.toNat - '0'.toNat)) 0)

/-- A number below 2 ^ 64 in decimal digits, with an optional plus sign. -/
def limit? (text : Text) : Option Nat :=
  let digits := if text.head? = some '+' then text.drop 1 else text
  (digitsValue? digits).filter (· < UInt64.size)

/-- Gives an option its value. A second value, the empty path and a limit that is no number are
refused. -/
def setOption (draft : Draft) : ValueOption → Text → Option Draft
  | .file, value =>
      if draft.file.isSome ∨ value = [] then none else some { draft with file := value }
  | .template, value =>
      if draft.template.isSome ∨ value = [] then none else some { draft with template := value }
  | .outputDirectory, value =>
      if draft.outputDirectory.isSome ∨ value = [] then none
      else some { draft with outputDirectory := value }
  | .depthLimit, value =>
      match draft.depthLimit, limit? value with
      | none, some limit => some { draft with depthLimit := limit }
      | _, _ => none

def setSwitch (draft : Draft) : Switch → Option Draft
  | .stdout => if draft.stdout then none else some { draft with stdout := true }
  | .strict => if draft.strict then none else some { draft with strict := true }
  | .dumpSections => if draft.dumpSections then none else some { draft with dumpSections := true }
  | .debug => if draft.debug then none else some { draft with debug := true }

end Draft

inductive Job where
  | dumpSections
  | print (template : Text)
  | write (template directory : Text)

structure Order where
  file : Text
  options : ExpansionOptions
  job : Job

inductive Request where
  | version
  | help
  | order (order : Order)

namespace Draft

/-- The job of a complete draft. A template is needed for everything but the sections. -/
def job? (draft : Draft) : Option Job :=
  if draft.dumpSections then some .dumpSections
  else
    match draft.template with
    | none => none
    | some template =>
        if draft.stdout then some (.print template)
        else some (.write template (draft.outputDirectory.getD ['.']))

def options (draft : Draft) : ExpansionOptions :=
  ⟨if draft.strict then .refuse else ExpansionOptions.standard.unbound,
    draft.depthLimit.getD ExpansionOptions.standard.depthLimit⟩

def order? (draft : Draft) : Option Order := do
  let file ← draft.file
  let job ← draft.job?
  return ⟨file, draft.options, job⟩

end Draft

namespace Request

def ofArgumentsFrom (draft : Draft) : List Text → Option Request
  | [] => draft.order?.map order
  | argument :: rest =>
      match Argument.ofText argument with
      | .version => some version
      | .help => some help
      | .switch found => (draft.setSwitch found).bind (ofArgumentsFrom · rest)
      | .option target value => (draft.setOption target value).bind (ofArgumentsFrom · rest)
      | .openOption target =>
          match rest with
          | [] => none
          | value :: rest =>
              if Argument.isValue value then
                (draft.setOption target value).bind (ofArgumentsFrom · rest)
              else none
      | .separator => if rest = [] then draft.order?.map order else none
      | .unknown => none

def ofArguments (arguments : List Text) : Option Request := ofArgumentsFrom .empty arguments

end Request

end PostMarkup.Command
