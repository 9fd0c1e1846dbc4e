import TextClassifier.Text.Ranges

/-!
# Blank characters

The characters that separate words: white space of every width, line and paragraph separators, and
the four separators of the control block (Unicode 14).
-/
namespace TextClassifier.Text

namespace Blank

def ranges : Ranges :=
  [(0x9, 0xD), (0x1C, 0x20), (0x85, 0x85), (0xA0, 0xA0), (0x1680, 0x1680), (0x2000, 0x200A),
   (0x2028, 0x2029), (0x202F, 0x202F), (0x205F, 0x205F), (0x3000, 0x3000)]

end Blank

def isBlank (c : Char) : Bool := Blank.ranges.contains c.toNat

/-- A text without its blank characters at either end. -/
def trim (s : List Char) : List Char :=
  ((s.dropWhile isBlank).reverse.dropWhile isBlank).reverse

/-- The number of maximal runs of characters that are not blank, after a blank (`inWord` false) or
inside a run. -/
def countWords (inWord : Bool) : List Char → Nat
  | [] => 0
  | c :: rest =>
    if isBlank c then countWords false rest
    else (if inWord then 0 else 1) + countWords true rest

end TextClassifier.Text
