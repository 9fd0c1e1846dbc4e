import TextClassifier.Number.Notation
import TextClassifier.Text.Quoted

/-!
# Untyped values

The values of the JSON files in a model package. Integers of any size and floating-point numbers are
kept apart, and an object keeps its members in the order of their first appearance. Two values may
be the same, or only equal: equality looks through the kinds of numbers and the order of members.
-/
namespace TextClassifier.Json

/-- An untyped value. -/
inductive Value where
  | null
  | bool (b : Bool)
  | int (n : Int)
  | float (x : Float)
  | str (s : String)
  | array (items : List Value)
  | object (members : List (String × Value))
  deriving Repr, Inhabited

namespace Value

def lookup (key : String) : List (String × Value) → Option Value
  | [] => none
  | (k, v) :: rest => if k = key then some v else lookup key rest

/-- Members with the value under a key replaced where the key stands, or added at the end. -/
def insert (key : String) (value : Value) : List (String × Value) → List (String × Value)
  | [] => [(key, value)]
  | (k, v) :: rest => if k = key then (k, value) :: rest else (k, v) :: insert key value rest

/-- Members in the order of their keys' first appearance, each with the last value of its key. -/
def ofMembers (members : List (String × Value)) : List (String × Value) :=
  members.foldl (fun table (k, v) => insert k v table) []

/-- Whether a value is a number: truth values count as zero and one. -/
def asInt? : Value → Option Int
  | .bool b => some (if b then 1 else 0)
  | .int n => some n
  | _ => none

mutual

/-- Equality, given the equality of two numbers with a fraction: integers by their value, objects by
their members in any order. -/
def equalBy (same : Float → Float → Bool) : Value → Value → Bool
  | .null, .null => true
  | .bool a, .bool b => a == b
  | .bool a, .int n => n == (if a then 1 else 0)
  | .int n, .bool a => n == (if a then 1 else 0)
  | .bool a, .float x => Number.equalsInt x (if a then 1 else 0)
  | .float x, .bool a => Number.equalsInt x (if a then 1 else 0)
  | .int m, .int n => m == n
  | .int n, .float x => Number.equalsInt x n
  | .float x, .int n => Number.equalsInt x n
  | .float x, .float y => same x y
  | .str s, .str t => s == t
  | .array items, .array others => equalItems same items others
  | .object members, .object others =>
    members.length == others.length && equalMembers same members others
  | _, _ => false

def equalItems (same : Float → Float → Bool) : List Value → List Value → Bool
  | [], [] => true
  | v :: vs, w :: ws => equalBy same v w && equalItems same vs ws
  | _, _ => false

/-- Whether each member has an equal one under its key. -/
def equalMembers (same : Float → Float → Bool) :
    List (String × Value) → List (String × Value) → Bool
  | [], _ => true
  | (k, v) :: rest, others =>
    (match lookup k others with
      | some w => equalBy same v w
      | none => false) && equalMembers same rest others

end

/-- Equality: numbers by their value, so that what is no number equals nothing. -/
def equal (v w : Value) : Bool := equalBy (· == ·) v w

/-- Equality that takes all that is no number for the same. -/
def alike (v w : Value) : Bool := equalBy (fun x y => x == y || (x.isNaN && y.isNaN)) v w

/-- Whether a value counts as present: not null, false, zero or empty. -/
def isPresent : Value → Bool
  | .null => false
  | .bool b => b
  | .int n => n != 0
  | .float x => x != 0
  | .str s => s != ""
  | .array items => !items.isEmpty
  | .object members => !members.isEmpty

/-- Whether a value can be the key of a table: all but arrays and objects. -/
def isScalar : Value → Bool
  | .array _ => false
  | .object _ => false
  | _ => true

mutual

/-- A value as messages show it inside other values: text is quoted. -/
def literal : Value → String
  | .null => "None"
  | .bool b => if b then "True" else "False"
  | .int n => Number.intText n
  | .float x => Number.text x
  | .str s => Text.Quoted.quote s
  | .array items => "[" ++ literalItems items ++ "]"
  | .object members => "\x7b" ++ literalMembers members ++ "\x7d"

def literalItems : List Value → String
  | [] => ""
  | [v] => literal v
  | v :: rest => literal v ++ ", " ++ literalItems rest

def literalMembers : List (String × Value) → String
  | [] => ""
  | [(k, v)] => Text.Quoted.quote k ++ ": " ++ literal v
  | (k, v) :: rest => Text.Quoted.quote k ++ ": " ++ literal v ++ ", " ++ literalMembers rest

end

/-- A value as messages show it by itself: text stands as it is. -/
def display : Value → String
  | .str s => s
  | v => literal v

end Value
end TextClassifier.Json
