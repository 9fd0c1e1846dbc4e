import TextClassifier.Pattern.Syntax

/-!
# What a match begins with

Many patterns show at once the set of characters that each of their matches begins with: a set that
stands first, perhaps inside groups, or alternatives that are sets or begin with the same one. A
search looks for the set before it tries a match. The classes in it are over ASCII or over all scripts as
the pattern is as a whole, also where a part has settings of its own.
-/
namespace TextClassifier.Pattern

/-- An item whose class is that of ASCII or that of all scripts. -/
def SetItem.restrict (ascii : Bool) : SetItem → SetItem
  | .named kind negated _ => .named kind negated ascii
  | item => item

/-- Whether an item is surely without letters that have a case. -/
def SetItem.caseless : SetItem → Bool
  | .named .. => true
  | .range first last =>
    (first == last || last < 0x10000) && !(first ≤ 0x5A && 0x41 ≤ last) && !(first ≤ 0x7A && 0x61 ≤ last)

/-- A set by which places can be sorted out: one in which case plays no part. -/
def CharSet.sieve? (ascii : Bool) (s : CharSet) : Option CharSet :=
  if s.folding = .exact ∨ s.items.all SetItem.caseless then
    some { s with items := s.items.map (SetItem.restrict ascii) }
  else none

namespace Node

/-- Whether nothing is written here. -/
def isBlank : Node → Bool
  | .empty => true
  | .seq a b => a.isBlank && b.isBlank
  | _ => false

/-- A part that amounts to one set: a set, or alternatives that are sets. -/
def merged? : Node → Option CharSet
  | .set s => if s.negated then none else some s
  | .seq a b => if a.isBlank then b.merged? else if b.isBlank then a.merged? else none
  | .alt a b =>
    match a.merged?, b.merged? with
    | some s, some t => some { s with items := s.items ++ t.items }
    | _, _ => none
  | _ => none

/-- The set that stands first outside of groups. Alternatives have one if they amount to one set or
begin with the same one. -/
def first? : Node → Option CharSet
  | .set s => some s
  | .seq a b => if a.isBlank then b.first? else a.first?
  | .alt a b =>
    match (Node.alt a b).merged? with
    | some s => some s
    | none => if a.first? = b.first? then a.first? else none
  | _ => none

/-- The set that stands first, perhaps inside groups. -/
def beginning? : Node → Option CharSet
  | .group _ body => body.beginning?
  | .scoped body => body.beginning?
  | .seq a b => if a.isBlank then b.beginning? else a.beginning?
  | node => node.first?

/-- The set that a search looks for, in a pattern that is over ASCII as a whole or not. -/
def opening? (ascii : Bool) (node : Node) : Option CharSet := node.beginning?.bind (CharSet.sieve? ascii)

end Node
end TextClassifier.Pattern
