import TextClassifier.Json.Untyped

/-!
# Tables

Untyped values under keys that are scalars of any kind. A table is made from an object, or from
pairs of a key and a value, each of them an array, a text or an object of two. Written into a file,
a table becomes an object whose keys are spelled out as text.
-/
namespace TextClassifier.Json
open TextClassifier

/-- Values under keys, in the order of the keys' first appearance. -/
abbrev Table := List (Value × Value)

namespace Table

def find? (key : Value) : Table → Option Value
  | [] => none
  | (k, v) :: rest => if k.equal key then some v else find? key rest

/-- The value under a key that is text. -/
def get? (t : Table) (key : String) : Option Value := t.find? (.str key)

/-- A table with the value under a key replaced where the key stands, or added at the end. -/
def insert (key value : Value) : Table → Table
  | [] => [(key, value)]
  | (k, v) :: rest => if k.equal key then (k, value) :: rest else (k, v) :: insert key value rest

def ofMembers (members : List (String × Value)) : Table := members.map fun (k, v) => (.str k, v)

/-- A pair of a key, which must be a scalar, and a value. -/
def pair (v : Value) : Except Fault (Value × Value) := do
  match ← v.iterate with
  | [key, value] => if key.isScalar then .ok (key, value) else .error .mistyped
  | _ => .error .unusable

/-- A table from pairs; the last value of a key counts. -/
def ofPairs (table : Table) : List Value → Except Fault Table
  | [] => .ok table
  | v :: rest => do
    let (key, value) ← pair v
    ofPairs (table.insert key value) rest

/-- The table that a value stands for. -/
def ofValue : Value → Except Fault Table
  | .object members => .ok (ofMembers members)
  | v => do ofPairs [] (← v.iterate)

/-- A key spelled out as text. -/
def keyText : Value → String
  | .str s => s
  | .null => "null"
  | .bool b => if b then "true" else "false"
  | .int n => Number.intText n
  | .float x => Number.render "Infinity" "NaN" x
  | v => v.literal

/-- A table as the object that a file holds. -/
def toObject (t : Table) : Value := .object (Value.ofMembers (t.map fun (k, v) => (keyText k, v)))

/-- A table as pairs, which keep the kinds of the keys. -/
def toPairs (t : Table) : Value := .array (t.map fun (k, v) => .array [k, v])

/-- Whether two tables have the same keys with values that `same` relates. -/
def agrees (same : Value → Value → Bool) (t u : Table) : Bool :=
  t.length == u.length && t.all fun (k, v) =>
    match u.find? k with
    | some w => same v w
    | none => false

end Table
end TextClassifier.Json
