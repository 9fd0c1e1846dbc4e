import TextClassifier.Fault
import TextClassifier.Json.Value
import TextClassifier.Number.Reading

/-!
# Using untyped values

What an untyped value is good for where a member, an item, an integer or a number is wanted, and the
fault where it is not. Texts spell numbers, numbers lose their fraction where an integer is wanted,
and a text or an object can be iterated like an array, by its characters or its keys.
-/
namespace TextClassifier.Json.Value
open TextClassifier

/-- The member under a key that must be there. -/
def required (key : String) : Value → Except Fault Value
  | .object members =>
    match lookup key members with
    | some v => .ok v
    | none => .error (.missingKey key)
  | _ => .error .mistyped

/-- The members of an object, where anything else has none. -/
def membersOf : Value → Except Fault (List (String × Value))
  | .object members => .ok members
  | _ => .error .memberless

/-- The items of an array, the characters of a text or the keys of an object. -/
def iterate : Value → Except Fault (List Value)
  | .array items => .ok items
  | .str s => .ok (s.toList.map fun c => .str (String.singleton c))
  | .object members => .ok (members.map fun (k, _) => .str k)
  | _ => .error .mistyped

/-- The integer that a value stands for: numbers lose their fraction, texts are read. -/
def toInt : Value → Except Fault Int
  | .bool b => .ok (if b then 1 else 0)
  | .int n => .ok n
  | .float x =>
    match Number.Dyadic.ofFloat? x with
    | some d => .ok d.truncate
    | none => .error (if x.isNaN then .unusable else .tooLarge)
  | .str s =>
    match Number.readInt? s.toList with
    | some n => .ok n
    | none => .error .unusable
  | _ => .error .mistyped

/-- The number nearest to an integer, unless that is out of range. -/
def floatOfInt (n : Int) : Except Fault Float :=
  let x := Number.ofInt .binary64 n
  if x.isInf then .error .tooLarge else .ok x

/-- The number that a value stands for: integers are rounded, texts are read. -/
def toFloat : Value → Except Fault Float
  | .bool b => .ok (if b then 1 else 0)
  | .int n => floatOfInt n
  | .float x => .ok x
  | .str s =>
    match Number.readFloat? s.toList with
    | some x => .ok x
    | none => .error .unusable
  | _ => .error .mistyped

end TextClassifier.Json.Value
