import PostMarkup.Text
import PostMarkup.Unicode.WhiteSpace

/-!
White space in texts: trimming the ends, splitting into words and collapsing runs. White space is
the Unicode property, not the ASCII blanks alone.
-/

namespace PostMarkup.Text

open Unicode (isWhiteSpace)

def trim (text : Text) : Text :=
  ((text.dropWhile isWhiteSpace).reverse.dropWhile isWhiteSpace).reverse

/-- The maximal runs of characters that are not white space, in order. -/
def words (text : Text) : List Text :=
  (text.splitOnP isWhiteSpace).filter (· ≠ [])

/-- Writes one space for every run of white space. `within` tells whether a run is already under way
in front of the text. -/
def collapseFrom (within : Bool) : Text → Text
  | [] => []
  | c :: rest =>
      if isWhiteSpace c then
        if within then collapseFrom true rest else ' ' :: collapseFrom true rest
      else c :: collapseFrom false rest

def collapse (text : Text) : Text := collapseFrom false text

end PostMarkup.Text
