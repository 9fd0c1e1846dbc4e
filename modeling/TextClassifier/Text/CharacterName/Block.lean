import TextClassifier.Text.Hex
import TextClassifier.Text.Lines

/-!
# Blocks of names

Names of consecutive characters mostly begin alike, so a block writes down what is new in each. A
digit of base sixteen says how many words a name has in common with the beginning of the name
before, and its other words follow.
-/
namespace TextClassifier.Text.CharacterName

/-- The words of a name. -/
abbrev Words := List (List Char)

/-- The names of the characters from `first` on. Bars keep those in one line apart, and a character
without a name has an empty one. -/
structure Block where
  first : Nat
  lines : List String

namespace Block

/-- The words of a name that is written behind another one. -/
def spell (before : Words) : List Char → Words
  | [] => []
  | [shared] => before.take ((hexValue? shared).getD 0)
  | shared :: new => before.take ((hexValue? shared).getD 0) ++ pieces (· == ' ') new

/-- The first code point, counted from `code` on, whose name is the one that is looked for. -/
def search? (name before : Words) (code : Nat) : List (List Char) → Option Nat
  | [] => none
  | [] :: rest => search? name before (code + 1) rest
  | entry :: rest =>
    let words := spell before entry
    if words = name then some code else search? name words (code + 1) rest

/-- The character with a name in a block. -/
def find? (b : Block) (name : Words) : Option Nat :=
  search? name [] b.first (b.lines.flatMap fun line => pieces (· == '|') line.toList)

end Block
end TextClassifier.Text.CharacterName
