import TextClassifier.Pattern.Matcher
import TextClassifier.Pattern.Opening

/-!
# Searching

All matches of a pattern in a text, from left to right and apart. A match that is empty is followed
by a second try at the same place for one that is not, and an empty match may directly follow
another match. Where a pattern shows the set of characters that a match begins with, other places
are passed over.
-/
namespace TextClassifier

/-- A pattern that has been read. -/
structure Pattern where
  node : Pattern.Node
  /-- The number of groups that capture. -/
  groups : Nat
  /-- Whether it is over ASCII as a whole. -/
  ascii : Bool
  deriving DecidableEq, Repr

namespace Pattern

/-- A match: from its first character to behind its last. -/
structure Span where
  first : Nat
  last : Nat
  deriving DecidableEq, Repr

variable (p : Pattern) (text : Subject)

/-- The end of the first match at a place among those that `accept` takes by their end. -/
def endWhere? (pos : Nat) (accept : Nat → Bool) : Option Nat :=
  (p.node.run text (.start p.groups pos) fun s => if accept s.pos then some s else none).map (·.pos)

/-- Whether a match may begin at a place, by the character that stands there. -/
def mayBegin (pos : Nat) : Bool :=
  match p.node.opening? p.ascii with
  | some s => text[pos]?.any s.contains
  | none => true

/-- The end of the first match at a place. -/
def end? (pos : Nat) : Option Nat :=
  if p.mayBegin text pos then p.endWhere? text pos fun _ => true else none

/-- The end of the first match at a place that is not empty. -/
def nonemptyEnd? (pos : Nat) : Option Nat := p.endWhere? text pos fun last => last != pos

/-- The matches from a place on. -/
def spansFrom (pos : Nat) : List Span :=
  if text.size < pos then []
  else match p.end? text pos with
    | none => spansFrom (pos + 1)
    | some last =>
      if pos < last then ⟨pos, last⟩ :: spansFrom last
      else ⟨pos, pos⟩ :: match p.nonemptyEnd? text pos with
        | some last => if pos < last then ⟨pos, last⟩ :: spansFrom last else spansFrom (pos + 1)
        | none => spansFrom (pos + 1)
termination_by text.size + 1 - pos

/-- All matches. -/
def spans : List Span := p.spansFrom text 0

end Pattern
end TextClassifier
