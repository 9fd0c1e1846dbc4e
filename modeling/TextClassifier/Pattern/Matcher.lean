import TextClassifier.Pattern.Syntax

/-!
# Matching

A part of a pattern is run at a place in the text together with what must match behind it. Choices
are tried in order and the first that lets the rest match is kept, so a match is the first of all
ways to match in that order. A repetition goes on only while its rounds make progress: once it has
its least count, a round that matched nothing is its last.
-/
namespace TextClassifier.Pattern
open TextClassifier

/-- The text that a pattern is matched against. -/
abbrev Subject := Array Char

/-- A place in the text, with where each group last began and last ended. -/
structure State where
  pos : Nat
  starts : Array (Option Nat)
  ends : Array (Option Nat)
  deriving DecidableEq, Repr

namespace State

/-- A place with nothing captured by `groups` groups. -/
def start (groups pos : Nat) : State :=
  ⟨pos, Array.replicate (groups + 1) none, Array.replicate (groups + 1) none⟩

/-- A group begins here. -/
def openGroup (s : State) (index : Nat) : State :=
  { s with starts := s.starts.setIfInBounds index (some s.pos) }

/-- A group ends here. -/
def closeGroup (s : State) (index : Nat) : State :=
  { s with ends := s.ends.setIfInBounds index (some s.pos) }

/-- The bounds of what a group has captured. -/
def captured? (s : State) (index : Nat) : Option (Nat × Nat) :=
  match s.starts[index]?, s.ends[index]? with
  | some (some first), some (some last) => if first ≤ last then some (first, last) else none
  | _, _ => none

/-- The place `n` characters further on. -/
def advance (s : State) (n : Nat) : State := { s with pos := s.pos + n }

end State

/-- What must match behind a part of a pattern: the place where all has matched, if it does. -/
abbrev Rest := State → Option State

/-- A part of a pattern, run at a place with what must match behind it. -/
abbrev Run := State → Rest → Option State

/-- Whether a word character stands at an index of the text. -/
def wordAt (text : Subject) (ascii : Bool) (i : Nat) : Bool :=
  match text[i]? with
  | some c => CharClass.word.contains ascii c
  | none => false

/-- Whether a word character stands before a place. -/
def wordBefore (text : Subject) (ascii : Bool) (pos : Nat) : Bool :=
  pos != 0 && wordAt text ascii (pos - 1)

/-- Whether a place is one of the kind. -/
def Anchor.holds (text : Subject) (pos : Nat) : Anchor → Bool
  | .textStart => pos == 0
  | .lineStart => pos == 0 || text[pos - 1]? == some '\n'
  | .textEnd => pos == text.size
  | .lineEnd => pos == text.size || text[pos]? == some '\n'
  | .lastLineEnd => pos == text.size || (pos + 1 == text.size && text[pos]? == some '\n')
  | .wordEdge ascii => wordBefore text ascii pos != wordAt text ascii pos
  | .noWordEdge ascii => text.size != 0 && wordBefore text ascii pos == wordAt text ascii pos

/-- Whether the text from `i` on and from `j` on agrees for `n` characters. -/
def agrees (text : Subject) (folding : Folding) (i j : Nat) : Nat → Bool
  | 0 => true
  | n + 1 =>
    match text[i]?, text[j]? with
    | some c, some d =>
      folding.lower c.toNat == folding.lower d.toNat && agrees text folding (i + 1) (j + 1) n
    | _, _ => false

/-- A body `n` times. -/
def times (body : Run) : Nat → Run
  | 0, s, k => k s
  | n + 1, s, k => body s fun s' => times body n s' k

/-- As many rounds as possible, at most `n` of them; `last` is where the round before began. -/
def greedy (body : Run) : Nat → Option Nat → Run
  | 0, _, s, k => k s
  | n + 1, last, s, k =>
    if last = some s.pos then k s
    else match body s fun s' => greedy body n (some s.pos) s' k with
      | some result => some result
      | none => k s

/-- As few rounds as possible, at most `n` of them; `last` is where the round before began. -/
def reluctant (body : Run) : Nat → Option Nat → Run
  | 0, _, s, k => k s
  | n + 1, last, s, k =>
    match k s with
    | some result => some result
    | none =>
      if last = some s.pos then none
      else body s fun s' => reluctant body n (some s.pos) s' k

/-- Rounds that each keep to their first match, at most `n` of them, until one fails or matches
nothing. -/
def possessive (body : Run) : Nat → State → State
  | 0, s => s
  | n + 1, s =>
    match body s some with
    | some s' => if s'.pos = s.pos then s' else possessive body n s'
    | none => s

/-- A body `n` times, each time keeping to its first match. -/
def timesAtomic (body : Run) : Nat → State → Option State
  | 0, s => some s
  | n + 1, s => (body s some).bind (timesAtomic body n)

/-- The rounds that a repetition may make behind its least count: a limit, and in any case one more
than there are characters left, since each round but the last makes progress. -/
def rounds (text : Subject) (least : Nat) (most : Option Nat) (pos : Nat) : Nat :=
  let enough := text.size - pos + 1
  match most with
  | some most => min (most - least) enough
  | none => enough

namespace Node

/-- Runs a part of a pattern. -/
def run (text : Subject) : Node → Run
  | .empty, s, k => k s
  | .set chars, s, k =>
    match text[s.pos]? with
    | some c => if chars.contains c then k (s.advance 1) else none
    | none => none
  | .seq a b, s, k => a.run text s fun s' => b.run text s' k
  | .alt a b, s, k =>
    match a.run text s k with
    | some result => some result
    | none => b.run text s k
  | .group index body, s, k =>
    body.run text (s.openGroup index) fun s' => k (s'.closeGroup index)
  | .scoped body, s, k => body.run text s k
  | .backref index folding, s, k =>
    match s.captured? index with
    | some (first, last) =>
      if agrees text folding first s.pos (last - first) then k (s.advance (last - first)) else none
    | none => none
  | .given index a b, s, k =>
    if (s.captured? index).isSome then a.run text s k else b.run text s k
  | .anchor place, s, k => if place.holds text s.pos then k s else none
  | .ahead negated body, s, k =>
    match body.run text s some with
    | some s' => if negated then none else k { s' with pos := s.pos }
    | none => if negated then k s else none
  | .behind negated width body, s, k =>
    if s.pos < width.least then (if negated then k s else none)
    else match body.run text { s with pos := s.pos - width.least } some with
      | some s' => if negated then none else k { s' with pos := s.pos }
      | none => if negated then k s else none
  | .atomic body, s, k =>
    match body.run text s some with
    | some s' => k s'
    | none => none
  | .repeated .greedy least most body, s, k =>
    times (fun s k => body.run text s k) least s fun s' =>
      greedy (fun s k => body.run text s k) (rounds text least most s'.pos) none s' k
  | .repeated .reluctant least most body, s, k =>
    times (fun s k => body.run text s k) least s fun s' =>
      reluctant (fun s k => body.run text s k) (rounds text least most s'.pos) none s' k
  | .repeated .possessive least most body, s, k =>
    match timesAtomic (fun s k => body.run text s k) least s with
    | some s' => k (possessive (fun s k => body.run text s k) (rounds text least most s'.pos) s')
    | none => none

end Node
end TextClassifier.Pattern
