import TextClassifier.Attempt
import TextClassifier.Fault
import TextClassifier.Number.Word
import TextClassifier.Text.Blank
import TextClassifier.Text.Lines
import TextClassifier.Text.Utf8

/-!
# Vocabularies

A vocabulary gives tokens their ids. It is read from a file with one token on each line, the id
being the number of the line from zero on. An empty line leaves its id unused. A token that is
repeated keeps its first place in the order of tokens and takes its last id; the ids that it had
before have no token then.
-/
namespace TextClassifier
open Text

/-- Tokens with their ids, each token once. -/
structure Vocabulary where
  entries : List (String × Int)
  deriving DecidableEq, Repr

namespace Vocabulary

/-- Entries with the id of a token replaced where it stands, or added at the end. -/
def insert (token : String) (id : Int) : List (String × Int) → List (String × Int)
  | [] => [(token, id)]
  | (t, i) :: rest => if t = token then (token, id) :: rest else (t, i) :: insert token id rest

/-- The vocabulary of a table in which tokens may be repeated. -/
def ofTable (table : List (String × Int)) : Vocabulary :=
  ⟨table.foldl (fun entries (token, id) => insert token id entries) []⟩

/-- Lines with their numbers, empty lines left out. -/
def numbered (lines : List (List Char)) : List (String × Int) :=
  (lines.zipIdx.filter fun (line, _) => !line.isEmpty).map fun (line, i) => (String.ofList line, i)

/-- The vocabulary with a token on each line. -/
def ofLines (lines : List (List Char)) : Vocabulary := ofTable (numbered lines)

/-- The vocabulary that a file holds. -/
def ofBytes (bytes : Bytes) : Except Malformed Vocabulary :=
  (Utf8.decode bytes).map fun text => ofLines (lines text)

def id? (v : Vocabulary) (token : String) : Option Int := v.entries.lookup token

/-- The token of an id, the last one if several share it. -/
def token? (v : Vocabulary) (id : Int) : Option String :=
  (v.entries.reverse.find? fun (_, i) => i == id).map (·.1)

def contains (v : Vocabulary) (token : String) : Bool := (v.id? token).isSome

def size (v : Vocabulary) : Nat := v.entries.length

/-- The lines of a file that hold several words. A second column is no id: such a line is one
token. -/
def severalWords (lines : List (List Char)) : Nat :=
  (lines.filter fun line => 1 < countWords false line).length

/-- What is reported about the lines of a vocabulary. -/
def remark (lines : List (List Char)) : List Record :=
  let n := severalWords lines
  if n = 0 then []
  else [⟨.debug, toString n ++ " vocabulary lines contain whitespace and are kept as whole " ++
    "tokens; ids come from line numbers, not from a second column"⟩]

/-- Reads a vocabulary file and reports lines that hold several words. -/
def read (bytes : Bytes) : Attempt Malformed Vocabulary :=
  match Utf8.decode bytes with
  | .ok text => ⟨.ok (ofLines (lines text)), remark (lines text)⟩
  | .error e => .of (.error e)

/-- The number of lines of a file that has a line for every id. -/
def lineCount (v : Vocabulary) : Nat :=
  match (v.entries.map (·.2)).max? with
  | none => 0
  | some greatest => (greatest + 1).toNat

/-- Lines with a token in the line of its id. A negative id counts from the end. -/
def place (lines : Array String) (token : String) (id : Int) : Except Fault (Array String) :=
  let i := if id < 0 then id + lines.size else id
  if 0 ≤ i ∧ i < lines.size then .ok (lines.setIfInBounds i.toNat token) else .error .outOfBounds

/-- The lines of a file that gives back each id its token. Their number must be a word of 64 bits,
and each takes eight bytes of memory. -/
def toLines (memory : Option Nat) (v : Vocabulary) : Except Fault (List String) :=
  if !Number.fitsSigned 64 v.lineCount then .error .tooLarge
  else if !Number.fitsSigned 64 (8 * v.lineCount) || memory.any (· ≤ 8 * v.lineCount) then
    .error .outOfMemory
  else
    (v.entries.foldlM (fun lines (token, id) => place lines token id)
      (Array.replicate v.lineCount "")).map Array.toList

/-- Reading a file is reading its vocabulary. -/
@[simp] theorem result_read (bytes : Bytes) : (read bytes).result = ofBytes bytes := by
  unfold read ofBytes
  cases Utf8.decode bytes <;> rfl

end Vocabulary
end TextClassifier
