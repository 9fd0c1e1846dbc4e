import TextClassifier.Text.Alphanumeric
import TextClassifier.Text.Blank
import TextClassifier.Text.DecimalDigit
import TextClassifier.Text.LetterCase

/-!
# Patterns

The syntax of delimiter patterns: sets of characters, sequences, alternatives, groups that capture,
references back to them, repetition in three manners, assertions and atomic groups. The settings in
force where a part was written, such as whether case matters, are kept in the parts they concern.
-/
namespace TextClassifier.Pattern
open TextClassifier

/-- How a character of the pattern compares with one of the text. -/
inductive Folding where
  /-- They must be the same. -/
  | exact
  /-- The case of ASCII letters does not matter. -/
  | ascii
  /-- The case of letters does not matter. -/
  | unicode
  deriving DecidableEq, Repr

namespace Folding

/-- The lower case of a code point, as far as case does not matter. -/
def lower : Folding → Nat → Nat
  | .exact, n => n
  | .ascii, n => if 0x41 ≤ n ∧ n ≤ 0x5A then n + 32 else n
  | .unicode, n => Text.LetterCase.lower n

/-- The code points that count as the same character. -/
def alike : Folding → Nat → List Nat
  | .exact, n => [n]
  | .ascii, n =>
    let small := Folding.ascii.lower n
    if 0x61 ≤ small ∧ small ≤ 0x7A then [small, small - 32] else [n]
  | .unicode, n =>
    (Text.LetterCase.sameLower (Text.LetterCase.lower n)).flatMap fun small =>
      small :: Text.LetterCase.uppers small

end Folding

/-- The classes of characters that have a name. -/
inductive CharClass where
  | digit
  | blank
  | word
  deriving DecidableEq, Repr

/-- Whether a character belongs to a class, of ASCII only or of all scripts. -/
def CharClass.contains (ascii : Bool) : CharClass → Char → Bool
  | .digit, c => if ascii then c.isDigit else Text.isDecimalDigit c
  | .blank, c =>
    if ascii then [0x09, 0x0A, 0x0B, 0x0C, 0x0D, 0x20].contains c.toNat else Text.isBlank c
  | .word, c => if ascii then c.isAlphanum || c == '_' else Text.isWordChar c

/-- A part of a set of characters. Code points that are no characters may bound a range. -/
inductive SetItem where
  | range (first last : Nat)
  | named (kind : CharClass) (negated ascii : Bool)
  deriving DecidableEq, Repr

/-- A set of characters. -/
structure CharSet where
  items : List SetItem
  negated : Bool
  folding : Folding
  deriving DecidableEq, Repr

namespace CharSet

/-- Whether an item covers a character, given the code points that count as the same. -/
def covers (alike : List Nat) (c : Char) : SetItem → Bool
  | .range first last => alike.any fun n => first ≤ n && n ≤ last
  | .named kind negated ascii => kind.contains ascii c != negated

/-- Whether a set holds a character. -/
def contains (s : CharSet) (c : Char) : Bool :=
  let alike := s.folding.alike c.toNat
  s.items.any (covers alike c) != s.negated

end CharSet

/-- Places in a text. -/
inductive Anchor where
  /-- The beginning of the text. -/
  | textStart
  /-- The beginning of a line. -/
  | lineStart
  /-- The end of the text. -/
  | textEnd
  /-- The end of a line. -/
  | lineEnd
  /-- The end of the text, or before the line feed that ends it. -/
  | lastLineEnd
  /-- Between a word and what is none. -/
  | wordEdge (ascii : Bool)
  /-- Inside a word or outside all words, in a text that is not empty. -/
  | noWordEdge (ascii : Bool)
  deriving DecidableEq, Repr

/-- The order in which a repetition tries its counts. -/
inductive Manner where
  /-- As many as possible first. -/
  | greedy
  /-- As few as possible first. -/
  | reluctant
  /-- As many as possible and no other count. -/
  | possessive
  deriving DecidableEq, Repr

/-- The least and the greatest number of characters that a part can match. -/
structure Width where
  least : Nat
  most : Nat
  deriving DecidableEq, Repr

/-- A part of a pattern. -/
inductive Node where
  | empty
  | set (s : CharSet)
  | seq (a b : Node)
  | alt (a b : Node)
  /-- A group that captures, by its number. -/
  | group (index : Nat) (body : Node)
  /-- A part under settings of its own. -/
  | scoped (body : Node)
  /-- What a group captured, once more. -/
  | backref (index : Nat) (folding : Folding)
  /-- One of two parts, by whether a group has captured. -/
  | given (index : Nat) (captured other : Node)
  | anchor (place : Anchor)
  /-- An assertion about what follows. -/
  | ahead (negated : Bool) (body : Node)
  /-- An assertion about what comes before, with the width of what is asserted. -/
  | behind (negated : Bool) (width : Width) (body : Node)
  /-- A part that keeps to its first match. -/
  | atomic (body : Node)
  /-- A repetition, at most `most` times if there is a limit. -/
  | repeated (manner : Manner) (least : Nat) (most : Option Nat) (body : Node)
  deriving DecidableEq, Repr

namespace Width

/-- Widths from here on count as unlimited. -/
def limit : Nat := 0x10000000000000000

/-- The width of a part whose bounds have been added up. -/
def capped (least most : Nat) : Width := ⟨min least limit, min most limit⟩

end Width

namespace Node

/-- The width of a part; `groups` gives the widths of the groups that are closed. -/
def width (groups : Nat → Option Width) : Node → Width
  | .empty => ⟨0, 0⟩
  | .set _ => ⟨1, 1⟩
  | .seq a b =>
    let v := a.width groups
    let w := b.width groups
    .capped (v.least + w.least) (v.most + w.most)
  | .alt a b =>
    let v := a.width groups
    let w := b.width groups
    ⟨min v.least w.least, max v.most w.most⟩
  | .group _ body => body.width groups
  | .scoped body => body.width groups
  | .backref index _ => (groups index).getD ⟨0, 0⟩
  | .given _ a b =>
    let v := a.width groups
    let w := b.width groups
    ⟨min v.least w.least, max v.most w.most⟩
  | .anchor _ => ⟨0, 0⟩
  | .ahead .. => ⟨0, 0⟩
  | .behind .. => ⟨0, 0⟩
  | .atomic body => body.width groups
  | .repeated _ least most body =>
    let v := body.width groups
    match most with
    | some most => .capped (v.least * least) (v.most * most)
    | none => .capped (v.least * least) (if v.most = 0 then 0 else Width.limit)

/-- Whether every assertion about what comes before has one width, and not too large a one. -/
def fixedBehind : Node → Bool
  | .seq a b => a.fixedBehind && b.fixedBehind
  | .alt a b => a.fixedBehind && b.fixedBehind
  | .group _ body => body.fixedBehind
  | .scoped body => body.fixedBehind
  | .given _ a b => a.fixedBehind && b.fixedBehind
  | .ahead _ body => body.fixedBehind
  | .behind _ width body => width.least == width.most && width.least < 0x100000000 && body.fixedBehind
  | .atomic body => body.fixedBehind
  | .repeated _ _ _ body => body.fixedBehind
  | _ => true

/-- Whether something is repeated in a part. -/
def hasRepetition : Node → Bool
  | .seq a b => a.hasRepetition || b.hasRepetition
  | .alt a b => a.hasRepetition || b.hasRepetition
  | .group _ body => body.hasRepetition
  | .scoped body => body.hasRepetition
  | .given _ a b => a.hasRepetition || b.hasRepetition
  | .ahead _ body => body.hasRepetition
  | .behind _ _ body => body.hasRepetition
  | .atomic body => body.hasRepetition
  | .repeated .. => true
  | _ => false

end Node
end TextClassifier.Pattern
