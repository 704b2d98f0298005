import PostMarkup.Sections

/-!
Sections as a JSON text with an indentation of two spaces. Only quotes, backslashes and control
characters below the space are escaped; everything else stands as it is.
-/

namespace PostMarkup

namespace Json

/-- A hexadecimal escape of four digits, for characters below 256. -/
def escapeCode (c : Char) : Text :=
  ['\\', 'u', '0', '0', Nat.digitChar (c.toNat / 16), Nat.digitChar (c.toNat % 16)]

def escape (c : Char) : Text :=
  match c with
  | '\x22' => ['\\', '\x22']
  | '\\' => ['\\', '\\']
  | '\x08' => ['\\', 'b']
  | '\x0c' => ['\\', 'f']
  | '\n' => ['\\', 'n']
  | '\r' => ['\\', 'r']
  | '\t' => ['\\', 't']
  | c => if c.toNat < 32 then escapeCode c else [c]

def string (text : Text) : Text := '\x22' :: text.flatMap escape ++ ['\x22']

/-- An object of members that are already written, at an indentation. -/
def object (indentation : Nat) (members : List (Text × Text)) : Text :=
  if members = [] then ['\x7b', '\x7d']
  else
    let margin := List.replicate indentation ' '
    let lines := members.map fun (key, value) =>
      margin ++ [' ', ' '] ++ string key ++ [':', ' '] ++ value
    ['\x7b', '\n'] ++ List.intercalate [',', '\n'] lines ++ ['\n'] ++ margin ++ ['\x7d']

end Json

def Table.toJson (indentation : Nat) (table : Table) : Text :=
  Json.object indentation (table.entries.map fun (key, value) => (key, Json.string value))

def Sections.toJson (sections : Sections) : Text :=
  Json.object 0
    [("macros".toList, sections.templates.toJson 2),
     ("globals".toList, sections.globals.toJson 2),
     ("variables".toList, sections.bindings.toJson 2),
     ("custom_tags".toList, sections.bodies.toJson 2)]

end PostMarkup
