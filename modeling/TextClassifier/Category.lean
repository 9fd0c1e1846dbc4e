import TextClassifier.InputLayout

/-!
# Categories

The scores of a classification, each with the name of its class. A model has one output; its
elements are the scores, in row-major order. Integers of eight bits stand for numbers if the tensor
is quantized. Class names come from the lines of a label file, and a class without one is named by
its index.
-/
namespace TextClassifier
open Json Tensor Package

/-- A class with its score. -/
structure Category where
  name : String
  score : Float
  deriving Repr

namespace Category

/-- The output tensor with the scores, by its name if the metadata names it. -/
def scoreTensor (outputs : List Slot) (metadata : List TensorMetadata) (name : Value) :
    Except OutputError Slot :=
  match outputs with
  | [only] => .ok ((tensorNamed? outputs metadata name).getD only)
  | _ => .error (.outputCount outputs.length)

/-- The number that an element stands for by itself. -/
def plainScore : Element → Float
  | .real x => x
  | .int n => Number.ofInt .binary64 n
  | .bool b => if b then 1 else 0

/-- The number that a quantized integer stands for. -/
def dequantized (q : Quantization) (e : Element) : Except Fault Float := do
  return q.scale * (← Value.floatOfInt (e.toInt 64 - q.zeroPoint))

def scores (s : Slot) : Except Error (List Float) :=
  match s.buffer.type, s.quantization with
  | .float32, _ => .ok (s.buffer.elements.map plainScore)
  | .float64, _ => .ok (s.buffer.elements.map plainScore)
  | .float16, _ => .ok (s.buffer.elements.map plainScore)
  | .uint8, some q => (s.buffer.elements.mapM (dequantized q)).mapError .fault
  | .int8, some q => (s.buffer.elements.mapM (dequantized q)).mapError .fault
  | type, _ => .error (.output (.scoreType s.name type))

/-- The name of the class at an index: its label, if there is one that is not empty. -/
def nameOf (labels : List String) (i : Nat) : String :=
  match labels[i]? with
  | some label => if label.isEmpty then toString i else label
  | none => toString i

/-- Scores with the names of their classes. -/
def ofScores (labels : List String) (scores : List Float) : List Category :=
  scores.zipIdx.map fun (score, i) => ⟨nameOf labels i, score⟩

/-- The categories of a score tensor. -/
def ofTensor (labels : Option (List String)) (s : Slot) : Except Error (List Category) :=
  (scores s).map (ofScores (labels.getD []))

end Category
end TextClassifier
