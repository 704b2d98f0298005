import PostMarkup.Unicode.Ranges

/-!
Characters with the property White_Space of Unicode 17.0. The zero-width space and the byte order
mark are not among them, the no-break spaces are.
-/

namespace PostMarkup.Unicode

def whiteSpaceRanges : Ranges :=
  [(0x9, 0xD), (0x20, 0x20), (0x85, 0x85), (0xA0, 0xA0), (0x1680, 0x1680), (0x2000, 0x200A),
   (0x2028, 0x2029), (0x202F, 0x202F), (0x205F, 0x205F), (0x3000, 0x3000)]

def isWhiteSpace (c : Char) : Bool := whiteSpaceRanges.holds c.toNat

end PostMarkup.Unicode
