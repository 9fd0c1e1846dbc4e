/-!
# Ranges of code points

A character class is kept as closed ranges of code points, ascending and apart. Looking a code
point up stops at the first range that begins behind it.
-/
namespace TextClassifier.Text

/-- Closed ranges of code points, ascending and apart. -/
abbrev Ranges := List (Nat × Nat)

namespace Ranges

/-- Whether a code point lies in one of the ranges. -/
def contains : Ranges → Nat → Bool
  | [], _ => false
  | (first, last) :: later, n => if n < first then false else n ≤ last || contains later n

/-- Ranges that are ascending and do not touch. -/
def apart : Ranges → Bool
  | [] => true
  | [(first, last)] => first ≤ last
  | (first, last) :: (next, after) :: later =>
    first ≤ last && last + 1 < next && apart ((next, after) :: later)

/-- The first code point of the range that holds `n`. -/
def startOf? : Ranges → Nat → Option Nat
  | [], _ => none
  | (first, last) :: later, n =>
    if n < first then none else if n ≤ last then some first else startOf? later n

end Ranges
end TextClassifier.Text
