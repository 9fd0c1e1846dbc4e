import TextClassifier.Attempt
import TextClassifier.Number.Reading

/-!
# Arguments

Options begin with two hyphens, with underscores or with hyphens between their words. An option may
be shortened as long as only one spelling begins like it, and its value may follow behind an equals
sign or as the next word. A word that begins with a hyphen is no value, unless it is a negative number
or holds a blank. Words are sorted first, and then the options are read in order.
-/
namespace TextClassifier.CommandLine

/-- What a run is asked for. -/
structure Arguments where
  modelPath : String
  length : Option Int
  text : Option String
  inputFile : Option String
  outputFile : Option String
  interactive : Bool
  level : Level
  deriving DecidableEq, Repr

/-- Why there are no arguments to go by. -/
inductive Refusal where
  /-- The help is asked for. -/
  | help
  /-- The words break a rule. -/
  | usage
  /-- Words are left over. -/
  | leftOver
  deriving DecidableEq, Repr

inductive Flag where
  | modelPath
  | length
  | text
  | inputFile
  | outputFile
  | interactive
  | level
  | help
  deriving DecidableEq, Repr

namespace Flag

def spellings : List (String × Flag) :=
  [("-h", .help), ("--help", .help), ("--model_path", .modelPath), ("--model-path", .modelPath),
    ("--max_seq_len", .length), ("--max-seq-len", .length), ("--text", .text),
    ("--input_file", .inputFile), ("--input-file", .inputFile), ("--output_file", .outputFile),
    ("--output-file", .outputFile), ("--interactive", .interactive), ("--log_level", .level),
    ("--log-level", .level)]

/-- An option by its full spelling. -/
def ofSpelling? (s : String) : Option Flag := spellings.lookup s

/-- The options whose spellings begin like this, once for each spelling. -/
def beginningLike (s : String) : List Flag :=
  (spellings.filter fun (spelling, _) => s.toList.isPrefixOf spelling.toList).map (·.2)

end Flag

/-- A word of a command line. -/
inductive Word where
  /-- An option, perhaps with a value attached to it. -/
  | flag (f : Flag) (attached : Option String)
  /-- Anything else that begins with a hyphen. -/
  | unknown
  /-- A value, or a word out of place. -/
  | plain (s : String)
  /-- Two hyphens, behind which all words are plain. -/
  | divider
  deriving DecidableEq, Repr

namespace Word

/-- A word cut at its first equals sign, if it has one. -/
def cut? : List Char → Option (List Char × List Char)
  | [] => none
  | '=' :: rest => some ([], rest)
  | c :: rest => (cut? rest).map fun (name, value) => (c :: name, value)

/-- Whether a word is a negative number: digits, perhaps with a point before the last of them. A line
feed may end it. -/
def isNegative : List Char → Bool
  | '-' :: size =>
    let size := if size.getLast? = some '\n' then size.dropLast else size
    let whole := size.takeWhile Text.isDecimalDigit
    match size.dropWhile Text.isDecimalDigit with
    | [] => !whole.isEmpty
    | '.' :: places => !places.isEmpty && places.all Text.isDecimalDigit
    | _ => false
  | _ => false

/-- The short option for help with letters behind it. The help is given before they are looked at,
unless there are none. -/
def helpWith (letters : List Char) : Word :=
  .flag .help (if letters.isEmpty then some "" else none)

/-- The options that a word may be short for, with the value attached to it. -/
def shortFor (s : List Char) : List Word :=
  match s with
  | '-' :: '-' :: _ =>
    let (name, value) := match cut? s with
      | some (name, value) => (name, some (String.ofList value))
      | none => (s, none)
    (Flag.beginningLike (String.ofList name)).map fun f => .flag f value
  | '-' :: 'h' :: letters => [helpWith letters]
  | _ => []

/-- What a word is, unless it may be short for several options. -/
def sort (s : String) : Except Refusal Word :=
  match s.toList with
  | '-' :: c :: rest =>
    let chars := '-' :: c :: rest
    match Flag.ofSpelling? s with
    | some f => .ok (.flag f none)
    | none =>
      let exact := (cut? chars).bind fun (name, value) =>
        if name = ['-', 'h'] then some (helpWith value)
        else (Flag.ofSpelling? (String.ofList name)).map fun f =>
          .flag f (some (String.ofList value))
      match exact with
      | some w => .ok w
      | none =>
        match shortFor chars with
        | [w] => .ok w
        | _ :: _ => .error .usage
        | [] => .ok (if isNegative chars || chars.contains ' ' then .plain s else .unknown)
  | _ => .ok (.plain s)

/-- What words are. -/
def sortAll : List String → Except Refusal (List Word)
  | [] => .ok []
  | s :: rest =>
    if s = "--" then .ok (.divider :: rest.map .plain)
    else do return (← sort s) :: (← sortAll rest)

end Word

namespace Arguments

/-- What has been read so far. -/
structure Progress where
  modelPath : Option String := none
  length : Option Int := none
  text : Option String := none
  inputFile : Option String := none
  outputFile : Option String := none
  interactive : Bool := false
  level : Level := .info
  leftOver : Bool := false

/-- A word that stands for yes or no, in any case. -/
def truth? (s : String) : Option Bool :=
  let word := String.ofList (s.toList.map Text.asciiLower)
  if ["yes", "true", "t", "y", "1"].contains word then some true
  else if ["no", "false", "f", "n", "0"].contains word then some false
  else none

/-- An option with its value. -/
def Progress.set (p : Progress) (value : String) : Flag → Except Refusal Progress
  | .modelPath => .ok { p with modelPath := some value }
  | .text => .ok { p with text := some value }
  | .inputFile => .ok { p with inputFile := some value }
  | .outputFile => .ok { p with outputFile := some value }
  | .length =>
    match Number.readInt? value.toList with
    | some n => .ok { p with length := some n }
    | none => .error .usage
  | .interactive =>
    match truth? value with
    | some b => .ok { p with interactive := b }
    | none => .error .usage
  | .level =>
    match Level.ofName? value with
    | some level => .ok { p with level }
    | none => .error .usage
  | .help => .error .usage

def readWords (p : Progress) : List Word → Except Refusal Progress
  | [] => .ok p
  | .flag f (some value) :: rest => do readWords (← p.set value f) rest
  | .flag .help none :: _ => .error .help
  | .flag f none :: .plain value :: rest => do readWords (← p.set value f) rest
  | .flag .interactive none :: rest => readWords { p with interactive := true } rest
  | .flag _ none :: _ => .error .usage
  | _ :: rest => readWords { p with leftOver := true } rest

/-- The arguments that have been read: a model is required, and no word may be left over. -/
def Progress.finish (p : Progress) : Except Refusal Arguments :=
  match p.modelPath with
  | none => .error .usage
  | some modelPath =>
    if p.leftOver then .error .leftOver
    else .ok ⟨modelPath, p.length, p.text, p.inputFile, p.outputFile, p.interactive, p.level⟩

/-- The arguments that words spell. -/
def read (words : List String) : Except Refusal Arguments := do
  (← readWords {} (← Word.sortAll words)).finish

end Arguments
end TextClassifier.CommandLine
