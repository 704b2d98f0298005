import PostMarkup.Text
import PostMarkup.Unicode.GraphemeExtend
import PostMarkup.Unicode.Unprintable

/-!
Quoted form of a text in diagnostics: between double quotes, with double quotes, backslashes and
everything that would not be seen on its own escaped. Single quotes stand as they are.
-/

namespace PostMarkup.Text

open Unicode (isGraphemeExtend isUnprintable)

def escapeCode (c : Char) : Text :=
  ['\\', 'u', '\x7b'] ++ Nat.toDigits 16 c.toNat ++ ['\x7d']

/-- The two voicing marks of halfwidth katakana. They extend the letter before them and have a width
of their own all the same. -/
def isHalfwidthVoicing (c : Char) : Bool := c = '\uff9e' || c = '\uff9f'

/-- Whether the character needs another one to be seen, or is never seen. -/
def isUnseen (c : Char) : Bool := isUnprintable c || (isGraphemeExtend c && !isHalfwidthVoicing c)

def escape (c : Char) : Text :=
  match c with
  | '\x00' => ['\\', '0']
  | '\t' => ['\\', 't']
  | '\n' => ['\\', 'n']
  | '\r' => ['\\', 'r']
  | '\x22' => ['\\', '\x22']
  | '\\' => ['\\', '\\']
  | c => if isUnseen c then escapeCode c else [c]

def quoted (text : Text) : Text := '\x22' :: text.flatMap escape ++ ['\x22']

end PostMarkup.Text
