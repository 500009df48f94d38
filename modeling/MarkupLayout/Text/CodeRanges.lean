/-!
# Ranges of code points

Character classes are listed as closed ranges, ascending and apart, and looked up from the front.
Since the ranges ascend, the search stops at the first one that begins beyond the code point.
-/

namespace MarkupLayout

/-- Closed ranges of code points, ascending and apart. -/
abbrev CodeRanges := List (Nat × Nat)

namespace CodeRanges

/-- Whether one of the ranges covers the code point. -/
def covers : CodeRanges → Nat → Bool
  | [], _ => false
  | (first, last) :: rest, n => if n < first then false else n ≤ last || covers rest n

end CodeRanges
end MarkupLayout
