import TextClassifier.Attempt
import TextClassifier.Tensor.Grid
import TextClassifier.Tokenizer

/-!
# Input sequences

A text becomes three arrays of one length: the ids of its tokens, a mask that tells tokens from
padding, and segment ids, which are all zero.

    ids           classification  s1 .. sn  separator  pad .. pad
    mask                1          1 .. 1       1       0  ..  0
    segment ids         0          0 .. 0       0       0  ..  0

With a fixed length the last subwords are dropped until the rest fits between the markers. With a
dynamic length the arrays are as long as there are tokens.
-/
namespace TextClassifier
open Json Tensor

/-- Whether all sequences have one length or each has its own. -/
inductive ShapeMode where
  | fixed
  | dynamic
  deriving DecidableEq, Repr

namespace ShapeMode

def name : ShapeMode → String
  | .fixed => "static"
  | .dynamic => "dynamic"

def ofName? (name : String) : Option ShapeMode :=
  [.fixed, .dynamic].find? fun m => m.name == name

end ShapeMode

/-- A text in which A to Z are lower case and all other characters stay. -/
def asciiLower (text : List Char) : List Char := text.map Text.asciiLower

/-- The lengths that sequences may have. -/
inductive Length where
  /-- One length for all sequences. -/
  | fixed (n : Nat)
  /-- As long as the text needs. -/
  | dynamic
  deriving DecidableEq, Repr

namespace Length

/-- The fewest places of a sequence: one for each marker. -/
def least : Nat := 2

/-- The number of tokens of a text with `n` subwords, markers included. -/
def budget (n : Nat) : Length → Nat
  | .fixed length => min length (n + 2)
  | .dynamic => n + 2

/-- The number of places of a sequence for a text with `n` subwords. -/
def places (n : Nat) : Length → Nat
  | .fixed length => length
  | .dynamic => n + 2

/-- The least number of places that no array can have. -/
def tooMany : Nat := 0x2000000000000000

/-- The length that a mode and a number give. A fixed length must leave room for the markers. -/
def ofMode (mode : ShapeMode) (number : Option Int) : Except Fault Length :=
  match mode, number with
  | .dynamic, _ => .ok .dynamic
  | .fixed, some n =>
    if n < least then .error (tooShort (Number.intText n))
    else if (tooMany : Int) ≤ n then .error .unusable
    else .ok (.fixed n.toNat)
  | .fixed, none => .error (tooShort "None")
where
  /-- The fault of a length that leaves no room. -/
  tooShort (got : String) : Fault :=
    .stated ("Static sequences need max_seq_len >= 2, got " ++ got)

/-- The smaller of a limit of any kind and a number of tokens, as a value. -/
def capped (limit : Value) (count : Int) : Except Fault Value :=
  match limit with
  | .bool b => .ok (if count < (if b then 1 else 0) then .int count else limit)
  | .int n => .ok (.int (min n count))
  | .float x => .ok (if exceeds x then .int count else limit)
  | _ => .error .mistyped
where
  /-- Whether a number is greater than the number of tokens. -/
  exceeds (x : Float) : Bool :=
    match Number.Dyadic.ofFloat? x with
    | some d => count < d.truncate || (count == d.truncate && !d.equalsInt count && !d.negative)
    | none => !x.isNaN && 0 < x

/-- The number of tokens of a text, where neither the limit nor the number of subwords is
checked. -/
def tokenBudget (mode : ShapeMode) (limit : Value) (subwords : Int) : Except Fault Value :=
  match mode with
  | .fixed => capped limit (subwords + 2)
  | .dynamic => .ok (.int (subwords + 2))

end Length

/-- Integers of 32 bits. -/
def isInt32 (n : Int) : Bool := Number.fitsSigned 32 n

/-- The ids, the mask and the segment ids of a text. -/
structure Sequence where
  ids : Grid Int
  mask : Grid Int
  segmentIds : Grid Int

namespace Sequence

/-- What surrounds and fills a sequence. -/
structure Markers where
  classification : String
  separator : String
  padId : Int
  deriving DecidableEq, Repr

/-- The tokens of a sequence: as many subwords as fit between the markers. -/
def tokens (m : Markers) (length : Length) (subwords : List String) : List String :=
  m.classification :: subwords.take (length.budget subwords.length - 2) ++ [m.separator]

/-- The id that a token takes in a sequence; one that is unknown takes the id of padding. -/
def idOf (t : Tokenizer) (m : Markers) (token : String) : Int := (t.id? token).getD m.padId

/-- Values in front of as many others as are missing. -/
def padded (places : Nat) (fill : Int) (values : List Int) : List Int :=
  values ++ List.replicate (places - values.length) fill

/-- The sequence of subwords. -/
def ofSubwords (t : Tokenizer) (m : Markers) (length : Length) (subwords : List String) :
    Sequence :=
  let tokens := tokens m length subwords
  let places := length.places subwords.length
  ⟨.ofList (padded places m.padId (tokens.map (idOf t m))),
    .ofList (padded places 0 (tokens.map fun _ => 1)),
    .ofList (List.replicate places 0)⟩

/-- The subwords of a text, all in lower case as far as ASCII goes. -/
def subwords (t : Tokenizer) (text : String) : List String := t.tokenize (asciiLower text.toList)

/-- The sequence of a text. Its ids must be integers of 32 bits. -/
def encode (t : Tokenizer) (m : Markers) (length : Length) (text : String) :
    Except Fault Sequence :=
  let s := ofSubwords t m length (subwords t text)
  if isInt32 m.padId && s.ids.cells.all isInt32 then .ok s else .error .tooLarge

/-- What is reported when subwords are dropped. -/
def remark (length : Length) (count : Nat) : List Record :=
  let kept := length.budget count - 2
  if kept < count then
    [⟨.debug, "Truncating " ++ toString count ++ " subwords to " ++ toString kept ++ " to fit " ++
      toString (length.places count)⟩]
  else []

/-- Builds the sequence of a text and reports when subwords are dropped. -/
def build (t : Tokenizer) (m : Markers) (length : Length) (text : String) :
    Attempt Fault Sequence :=
  ⟨encode t m length text, remark length (subwords t text).length⟩

/-- The sequence of a text under a mode and the number that may be given as its length. -/
def ofText (t : Tokenizer) (m : Markers) (mode : ShapeMode) (number : Option Int) (text : String) :
    Except Fault Sequence := do
  encode t m (← Length.ofMode mode number) text

/-- The number of tokens, markers included. -/
def tokenCount (s : Sequence) : Int := s.mask.cells.foldl (· + ·) 0

/-- The integer of 32 bits that an untyped value becomes. Integers must be in range; numbers and
texts are read as integers of 64 bits and wrapped. -/
def readInt32 (v : Value) : Except Fault Int := do
  let n ← v.toInt
  match v with
  | .float _ => wrapped n
  | .str _ => wrapped n
  | _ => if isInt32 n then .ok n else .error .tooLarge
where
  /-- An integer of 64 bits cut to 32. -/
  wrapped (n : Int) : Except Fault Int :=
    if Number.fitsSigned 64 n then .ok (Number.wrap 32 true n) else .error .tooLarge

/-- The grid of integers that an untyped value becomes. -/
def readGrid (v : Value) : Except Fault (Grid Int) := do (← Grid.ofValue v).mapM readInt32

def lengthOf (g : Grid Int) : Except Fault Nat :=
  match g.length? with
  | some n => .ok n
  | none => .error .mistyped

/-- The sequence of three arrays, which must share one length. -/
def ofValues (ids mask segmentIds : Value) : Except Fault Sequence := do
  let s : Sequence := ⟨← readGrid ids, ← readGrid mask, ← readGrid segmentIds⟩
  let i ← lengthOf s.ids
  let m ← lengthOf s.mask
  let g ← lengthOf s.segmentIds
  if i = m ∧ m = g then return s
  else .error (.stated ("ids, mask and segment_ids must share one length, got ids (" ++ toString i ++
    "), mask (" ++ toString m ++ "), segment_ids (" ++ toString g ++ ")"))

end Sequence
end TextClassifier
