import PostMarkup.Text
import PostMarkup.Unicode.CaseIgnorable
import PostMarkup.Unicode.Cased
import PostMarkup.Unicode.Lowercase

/-!
Lowercase form of a text. Two characters need more than the table of simple mappings: the capital I
with dot above becomes two characters, and the capital sigma takes its final form at the end of a
word. No language is taken into account.
-/

namespace PostMarkup.Text

open Unicode (isCaseIgnorable isCased lowercaseChar)

/-- Whether the first character that is not case-ignorable exists and is cased. -/
def reachesCased : Text → Bool
  | [] => false
  | c :: rest => if isCaseIgnorable c then reachesCased rest else isCased c

/-- A sigma ends a word when a cased character lies before it and none after it. The text before it
is given from its last character backwards. -/
def isFinal (beforeRev after : Text) : Bool := reachesCased beforeRev && !reachesCased after

/-- The lowercase form of a character between two texts, the first of them reversed. -/
def lowercaseBetween (beforeRev : Text) (c : Char) (after : Text) : Text :=
  if c = '\u0130' then ['i', '\u0307']
  else if c = 'Σ' ∧ isFinal beforeRev after then ['ς']
  else [lowercaseChar c]

def lowercaseFrom (beforeRev : Text) : Text → Text
  | [] => []
  | c :: rest => lowercaseBetween beforeRev c rest ++ lowercaseFrom (c :: beforeRev) rest

def lowercase (text : Text) : Text := lowercaseFrom [] text

end PostMarkup.Text
