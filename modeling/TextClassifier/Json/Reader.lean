import TextClassifier.Json.Value
import TextClassifier.Number.Reading
import TextClassifier.Text.Hex

/-!
# Reading JSON

One value with blanks around it. Beside the standard, the words NaN and Infinity are numbers, and of
several members with one key the last counts. A number without point and exponent is an integer of
any size up to a limit on its digits. Values may be nested to any depth.
-/
namespace TextClassifier.Json.Reader
open TextClassifier

/-- Why a text is no JSON value. -/
inductive Defect where
  /-- The text breaks the grammar. -/
  | malformed
  /-- An integer has more digits than are read. -/
  | tooManyDigits
  deriving DecidableEq, Repr

def isBlank (c : Char) : Bool := c == ' ' || c == '\t' || c == '\n' || c == '\r'

def skipBlanks (s : List Char) : List Char := s.dropWhile isBlank

/-- Whether a character is one of the ten digits of JSON. -/
def isDigit (c : Char) : Bool := '0' ≤ c && c ≤ '9'

/-- The number that four hexadecimal digits spell. -/
def hexUnit? (a b c d : Char) : Option Nat :=
  match Text.hexValue? a, Text.hexValue? b, Text.hexValue? c, Text.hexValue? d with
  | some a, some b, some c, some d => some (((a * 16 + b) * 16 + c) * 16 + d)
  | _, _, _, _ => none

/-- The character that a letter behind a backslash stands for. -/
def unescape? : Char → Option Nat
  | '"' => some 0x22
  | '\\' => some 0x5C
  | '/' => some 0x2F
  | 'b' => some 0x08
  | 'f' => some 0x0C
  | 'n' => some 0x0A
  | 'r' => some 0x0D
  | 't' => some 0x09
  | _ => none

/-- The code units of a string up to its closing quote, and the text behind it. -/
def units? : List Char → Option (List Nat × List Char)
  | [] => none
  | '"' :: rest => some ([], rest)
  | '\\' :: 'u' :: a :: b :: c :: d :: rest =>
    match hexUnit? a b c d, units? rest with
    | some unit, some (more, behind) => some (unit :: more, behind)
    | _, _ => none
  | '\\' :: c :: rest =>
    match unescape? c, units? rest with
    | some unit, some (more, behind) => some (unit :: more, behind)
    | _, _ => none
  | c :: rest =>
    if c.toNat < 0x20 then none
    else (units? rest).map fun (more, behind) => (c.toNat :: more, behind)

/-- Code units to characters: a high and a low surrogate together are one character, and one alone
is none and shows as a replacement character. -/
def joinUnits : List Nat → List Char
  | [] => []
  | high :: low :: rest =>
    if 0xD800 ≤ high ∧ high < 0xDC00 ∧ 0xDC00 ≤ low ∧ low < 0xE000 then
      Char.ofNat (0x10000 + (high - 0xD800) * 0x400 + (low - 0xDC00)) :: joinUnits rest
    else single high :: joinUnits (low :: rest)
  | [unit] => [single unit]
where
  /-- The character of one code unit. -/
  single (unit : Nat) : Char :=
    if 0xD800 ≤ unit ∧ unit < 0xE000 then Char.ofNat 0xFFFD else Char.ofNat unit

/-- A string behind its opening quote. -/
def string? (s : List Char) : Option (String × List Char) :=
  (units? s).map fun (units, rest) => (String.ofList (joinUnits units), rest)

/-- The digits behind a point, if there are any. -/
def fraction (s : List Char) : List Char × List Char :=
  match s with
  | '.' :: c :: rest => if isDigit c then (c :: rest).span isDigit else ([], s)
  | _ => ([], s)

/-- The sign and digits of an exponent, if there is a whole one. -/
def exponent? (s : List Char) : Option (Int × List Char) :=
  match s with
  | mark :: rest =>
    if mark == 'e' || mark == 'E' then
      let (negative, digits) := Number.splitSign rest
      match digits.span isDigit with
      | ([], _) => none
      | (digits, behind) =>
        let size : Nat := (Number.digitsValue 0 digits).getD 0
        some (if negative then -size else size, behind)
    else none
  | [] => none

/-- A number behind its sign: a zero or digits that begin with none, then the parts that make it
other than an integer. -/
def number (negative : Bool) (s : List Char) : Except Defect (Value × List Char) :=
  let (whole, rest) := match s with
    | '0' :: rest => (['0'], rest)
    | _ => s.span isDigit
  if whole.isEmpty then .error .malformed
  else
    let (part, rest) := fraction rest
    match part, exponent? rest with
    | [], none =>
      if Number.mostDigits < whole.length then .error .tooManyDigits
      else
        let size : Nat := (Number.digitsValue 0 whole).getD 0
        .ok (.int (if negative then -size else size), rest)
    | part, exponent =>
      let (power, rest) := exponent.getD (0, rest)
      let digits := (Number.digitsValue 0 (whole ++ part)).getD 0
      let x := Number.ofDecimal digits (power - part.length)
      .ok (.float (if negative then -x else x), rest)

def words : List (List Char × Value) :=
  [("null".toList, .null), ("true".toList, .bool true), ("false".toList, .bool false),
    ("NaN".toList, .float (0 / 0)), ("Infinity".toList, .float (Number.infinity false)),
    ("-Infinity".toList, .float (Number.infinity true))]

/-- The rest of a text behind a word that it begins with. -/
def afterWord? : List Char → List Char → Option (List Char)
  | [], s => some s
  | c :: word, d :: s => if c = d then afterWord? word s else none
  | _ :: _, [] => none

/-- A word or a number. -/
def scalar (s : List Char) : Except Defect (Value × List Char) :=
  match words.findSome? fun (word, v) => (afterWord? word s).map fun rest => (v, rest) with
  | some result => .ok result
  | none =>
    match s with
    | '-' :: rest => number true rest
    | _ => number false s

mutual

/-- A value at the beginning of a text without blanks in front, and the text behind it. -/
def value : Nat → List Char → Except Defect (Value × List Char)
  | 0, _ => .error .malformed
  | fuel + 1, s =>
    match s with
    | '"' :: rest =>
      match string? rest with
      | some (text, rest) => .ok (.str text, rest)
      | none => .error .malformed
    | '[' :: rest =>
      match skipBlanks rest with
      | ']' :: rest => .ok (.array [], rest)
      | rest => (items fuel rest).map fun (vs, rest) => (.array vs, rest)
    | '\x7b' :: rest =>
      match skipBlanks rest with
      | '\x7d' :: rest => .ok (.object [], rest)
      | rest => (members fuel rest).map fun (ms, rest) => (.object (Value.ofMembers ms), rest)
    | s => scalar s

/-- The items of an array up to its closing bracket. -/
def items : Nat → List Char → Except Defect (List Value × List Char)
  | 0, _ => .error .malformed
  | fuel + 1, s =>
    match value fuel s with
    | .error e => .error e
    | .ok (v, rest) =>
      match skipBlanks rest with
      | ']' :: rest => .ok ([v], rest)
      | ',' :: rest => (items fuel (skipBlanks rest)).map fun (vs, rest) => (v :: vs, rest)
      | _ => .error .malformed

/-- The members of an object up to its closing brace. -/
def members : Nat → List Char → Except Defect (List (String × Value) × List Char)
  | 0, _ => .error .malformed
  | fuel + 1, s =>
    match s with
    | '"' :: rest =>
      match string? rest with
      | none => .error .malformed
      | some (key, rest) =>
        match skipBlanks rest with
        | ':' :: rest =>
          match value fuel (skipBlanks rest) with
          | .error e => .error e
          | .ok (v, rest) =>
            match skipBlanks rest with
            | '\x7d' :: rest => .ok ([(key, v)], rest)
            | ',' :: rest =>
              (members fuel (skipBlanks rest)).map fun (ms, rest) => ((key, v) :: ms, rest)
            | _ => .error .malformed
        | _ => .error .malformed
    | _ => .error .malformed

end

/-- The value that a text spells. -/
def read (s : List Char) : Except Defect Value :=
  match value (2 * s.length + 2) (skipBlanks s) with
  | .error e => .error e
  | .ok (v, rest) => if (skipBlanks rest).isEmpty then .ok v else .error .malformed

end TextClassifier.Json.Reader
