import TextClassifier.Tensor.Buffer
import TextClassifier.Tensor.Spec

/-!
# Tensors of an engine

An engine owns a buffer for each tensor that is declared. The shape of a tensor can be changed ahead
of its buffer, which follows when it is allocated. Filling a tensor asks for as many values as the
buffer holds and puts them under the shape.
-/
namespace TextClassifier.Tensor
open Json

/-- A tensor with its buffer. -/
structure Slot where
  name : Value
  type : DeclaredType
  shape : List Int
  signature : List Int
  quantization : Option Quantization
  buffer : Buffer

namespace Slot

/-- A tensor as it is declared, filled with zeros. -/
def ofSpec (memory : Option Nat) (s : Spec) : Except Fault Slot := do
  return ⟨s.name, s.type, s.shape, s.signature, s.quantization,
    ← Buffer.allocate memory s.type.element s.shape⟩

def rank (s : Slot) : Nat := s.shape.length

/-- A tensor with a new buffer of zeros. -/
def allocate (memory : Option Nat) (s : Slot) : Except Fault Slot := do
  return { s with buffer := ← Buffer.allocate memory s.type.element s.shape }

/-- Values under the shape of a tensor: there must be as many as its buffer holds. -/
def fit {α : Type} (s : Slot) (values : Grid α) : Except Error (Grid α) :=
  if values.size ≠ s.buffer.grid.size then
    .error (.resource (.populateSize s.name s.shape values.size))
  else match values.reshape? s.shape with
    | some g => .ok g
    | none => .error (.fault .unusable)

/-- A tensor with elements, converted to its type, in its buffer. -/
def store (s : Slot) (values : Grid Element) : Slot :=
  { s with buffer := .ofGrid s.type.element values }

/-- A tensor filled with values. -/
def populate (s : Slot) (values : Grid Element) : Except Error Slot := do
  return s.store (← s.fit values)

def populateValue (s : Slot) (v : Value) : Except Error Slot := do
  let values ← s.fit (← (Grid.ofValue v).mapError .fault)
  return s.store (← (elementsOf values).mapError .fault)

/-- A tensor that holds a result, whatever its type and shape. -/
def setResult (s : Slot) (b : Buffer) : Slot :=
  { s with buffer := b, shape := b.shape.map Int.ofNat }

def summary (s : Slot) : String :=
  "EngineTensor(name=" ++ s.name.literal ++ ", dtype=" ++ s.type.name ++ ", shape=" ++
    bracketed s.shape ++ ", shape_signature=" ++ bracketed s.signature ++ ")"

end Slot
end TextClassifier.Tensor
