/-!
Sets of code points, kept as closed ranges in ascending order. The order is not checked: it lets
membership stop at the first range above the code point, so a range out of order could be missed.
-/

namespace PostMarkup.Unicode

/-- Closed ranges of code points, ascending and disjoint. -/
abbrev Ranges := List (Nat × Nat)

def Ranges.holds (code : Nat) : Ranges → Bool
  | [] => false
  | (first, last) :: rest =>
      if code < first then false else code ≤ last || Ranges.holds code rest

end PostMarkup.Unicode
