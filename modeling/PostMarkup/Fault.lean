import PostMarkup.Text

/-!
The ways in which a document can be refused, and their wording. Names stand in a message exactly as
they were written, without escapes; offsets count bytes.
-/

namespace PostMarkup

inductive Fault where
  /-- The block that opens at `offset` has no closing tag, or no body before it. -/
  | unclosedTag (name : Text) (offset : Nat)
  /-- A second top-level block has the name of an earlier one. -/
  | repeatedTag (name : Text)
  /-- A variable has a second assignment in the section `table`. -/
  | repeatedVariable (name table : Text)
  /-- A second template is given to one name. -/
  | repeatedTemplate (name : Text)
  /-- The template of a name has no place for the inner content of a call. -/
  | noPlacement (name : Text)
  /-- The call that opens at `offset` is not closed in the text it stands in. -/
  | unclosedCall (name : Text) (offset : Nat)
  /-- A call inside a template lies more than `limit` levels deep. -/
  | templateTooDeep (name : Text) (limit : Nat)
  /-- A call inside a body lies more than `limit` levels deep. -/
  | callTooDeep (name : Text) (offset limit : Nat)
  /-- A reference has no binding, and none may be missing. The offset counts the bytes that have
  been written before it. -/
  | unboundReference (reference : Text) (offset : Nat)
deriving DecidableEq

namespace Fault

open Text (decimal)

def message : Fault → Text
  | unclosedTag name offset =>
      "Improperly closed tag \"".toList ++ name ++ "\" at offset ".toList ++ decimal offset
  | repeatedTag name => "Tag \"".toList ++ name ++ "\" already exists".toList
  | repeatedVariable name table =>
      "Variable \"".toList ++ name ++ "\" already defined in <".toList ++ table ++ ['>']
  | repeatedTemplate name => "Macro \"".toList ++ name ++ "\" already defined".toList
  | noPlacement name =>
      "Macro \"".toList ++ name ++
        "\" needs a data placement point represented by braces".toList
  | unclosedCall name offset =>
      "Expected closure of macro \"".toList ++ name ++ "\" opened at offset ".toList ++
        decimal offset
  | templateTooDeep name limit =>
      "Recursive macro expansion detected (depth > ".toList ++ decimal limit ++ "): ".toList ++
        name
  | callTooDeep name offset limit =>
      "Macro \"".toList ++ name ++ "\" at offset ".toList ++ decimal offset ++
        " is nested more than ".toList ++ decimal limit ++ " levels deep".toList
  | unboundReference reference offset =>
      "Unknown variable \"".toList ++ reference ++ "\" at offset ".toList ++ decimal offset

end Fault

end PostMarkup
