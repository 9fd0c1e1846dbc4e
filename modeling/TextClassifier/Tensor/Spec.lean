import TextClassifier.Error
import TextClassifier.Tensor.Grid

/-!
# Declarations of tensors

What the description of a graph declares for a tensor: its name, the type of its elements, its shape,
a signature in which a dimension of minus one may change, and how integers are quantized. A
declaration is read from an untyped value whose numbers may be spelled in many ways, and is written
in one way.
-/
namespace TextClassifier.Tensor
open Json

/-- How the integers of a tensor stand for numbers. -/
structure Quantization where
  scale : Float
  zeroPoint : Int
  deriving Repr

/-- The declaration of a tensor. -/
structure Spec where
  name : Value
  type : DeclaredType
  shape : List Int
  signature : List Int
  quantization : Option Quantization
  length_signature : signature.length = shape.length

namespace Spec

/-- The type that a value names; a value that cannot be a key of a table is of the wrong kind. -/
def readType (name type : Value) : Except Fault DeclaredType :=
  if !type.isScalar then .error .mistyped
  else match type with
    | .str s =>
      match DeclaredType.ofName? s with
      | some t => .ok t
      | none => .error (unsupported type)
    | _ => .error (unsupported type)
where
  /-- The fault of a type that cannot be declared. -/
  unsupported (type : Value) : Fault :=
    .stated ("Unsupported tensor dtype '" ++ type.display ++ "' for " ++ name.display)

/-- The dimensions that a value lists. -/
def readShape (v : Value) : Except Fault (List Int) := do
  (← v.iterate).mapM Value.toInt

/-- The scale and the zero point that a value lists. -/
def readQuantization (v : Value) : Except Fault Quantization := do
  match ← v.iterate with
  | [scale, zeroPoint] => return ⟨← scale.toFloat, ← zeroPoint.toInt⟩
  | _ => .error .unusable

/-- A value that is null counts as absent. -/
def present? : Option Value → Option Value
  | some .null => none
  | v => v

/-- The declaration with these parts; without a signature the shape is fixed. -/
def make (name type shape : Value) (signature quantization : Option Value) :
    Except Fault Spec := do
  let type ← readType name type
  let shape ← readShape shape
  let signature ← match signature with
    | some v => readShape v
    | none => .ok shape
  if h : signature.length = shape.length then
    let quantization ← match quantization with
      | some v => some <$> readQuantization v
      | none => .ok none
    return ⟨name, type, shape, signature, quantization, h⟩
  else .error (.stated ("Tensor " ++ name.display ++ " has shape " ++ bracketed shape ++
    " but signature " ++ bracketed signature))

/-- Reads a declaration. -/
def ofValue (v : Value) : Except Fault Spec := do
  let name ← v.required "name"
  let type ← v.required "dtype"
  let shape ← v.required "shape"
  let members ← v.membersOf
  make name type shape (present? (Value.lookup "shape_signature" members))
    (present? (Value.lookup "quantization" members))

/-- A list of integers as an untyped value. -/
def intsValue (ns : List Int) : Value := .array (ns.map .int)

def Quantization.toValue (q : Quantization) : Value := .array [.float q.scale, .int q.zeroPoint]

def toValue (s : Spec) : Value :=
  .object ([("name", s.name), ("dtype", .str s.type.name), ("shape", intsValue s.shape),
    ("shape_signature", intsValue s.signature)] ++
    match s.quantization with
    | some q => [("quantization", Quantization.toValue q)]
    | none => [])

/-- Whether two declarations have the same members; a scale that is no number counts as the
same. -/
def agrees (s t : Spec) : Bool := s.toValue.alike t.toValue

end Spec
end TextClassifier.Tensor
