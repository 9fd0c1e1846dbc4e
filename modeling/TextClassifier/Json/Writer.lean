import TextClassifier.Json.Value

/-!
# Writing JSON

Values are written over several lines, two blanks deeper for each array or object around them, and
in ASCII: all other characters are escaped by their 16-bit code units. Numbers take the fewest
digits that identify them, and NaN and Infinity are written as such.
-/
namespace TextClassifier.Json.Writer
open TextClassifier

def escapeUnit (unit : Nat) : List Char := '\\' :: 'u' :: Text.hexDigits 4 unit

/-- One character of a string. -/
def escape (c : Char) : List Char :=
  if c == '"' then ['\\', '"']
  else if c == '\\' then ['\\', '\\']
  else if c == '\n' then ['\\', 'n']
  else if c == '\r' then ['\\', 'r']
  else if c == '\t' then ['\\', 't']
  else if c.toNat == 0x08 then ['\\', 'b']
  else if c.toNat == 0x0C then ['\\', 'f']
  else if 0x20 ≤ c.toNat ∧ c.toNat < 0x7F then [c]
  else if c.toNat < 0x10000 then escapeUnit c.toNat
  else
    let n := c.toNat - 0x10000
    escapeUnit (0xD800 + n / 0x400) ++ escapeUnit (0xDC00 + n % 0x400)

def string (s : String) : List Char := '"' :: s.toList.flatMap escape ++ ['"']

def number (x : Float) : String := Number.render "Infinity" "NaN" x

def newline (depth : Nat) : List Char := '\n' :: List.replicate (2 * depth) ' '

mutual

/-- A value inside `depth` arrays and objects. -/
def value (depth : Nat) : Value → List Char
  | .null => "null".toList
  | .bool true => "true".toList
  | .bool false => "false".toList
  | .int n => (Number.intText n).toList
  | .float x => (number x).toList
  | .str s => string s
  | .array [] => ['[', ']']
  | .array (v :: vs) =>
    '[' :: newline (depth + 1) ++ value (depth + 1) v ++ items (depth + 1) vs ++
      newline depth ++ [']']
  | .object [] => ['\x7b', '\x7d']
  | .object ((k, v) :: ms) =>
    '\x7b' :: newline (depth + 1) ++ string k ++ [':', ' '] ++ value (depth + 1) v ++
      members (depth + 1) ms ++ newline depth ++ ['\x7d']

/-- The items behind the first, each on its line. -/
def items (depth : Nat) : List Value → List Char
  | [] => []
  | v :: vs => ',' :: newline depth ++ value depth v ++ items depth vs

/-- The members behind the first, each on its line. -/
def members (depth : Nat) : List (String × Value) → List Char
  | [] => []
  | (k, v) :: ms => ',' :: newline depth ++ string k ++ [':', ' '] ++ value depth v ++ members depth ms

end

def write (v : Value) : List Char := value 0 v

end TextClassifier.Json.Writer
