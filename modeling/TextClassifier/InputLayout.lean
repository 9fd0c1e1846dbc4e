import TextClassifier.Engine
import TextClassifier.Options
import TextClassifier.Sequence

/-!
# The layout of inputs

Which inputs of a model take ids, mask and segment ids, and which lengths they have. Inputs are found
by the names in the metadata, the first of a name counting. The three must agree in rank, batch and
length, and are checked in this order.
-/
namespace TextClassifier
open Json Tensor Package

/-- The place of the first tensor that metadata gives a name. -/
def findTensor? (metadata : List TensorMetadata) (name : Value) : Option Nat :=
  metadata.findIdx? fun t => t.name.equal name

/-- The tensor that metadata gives a name, as long as it speaks about as many tensors as there
are. -/
def tensorNamed? (slots : List Slot) (metadata : List TensorMetadata) (name : Value) :
    Option Slot :=
  if slots.length ≠ metadata.length then none
  else (findTensor? metadata name).bind fun i => slots[i]?

/-- The dimension of a signature that may change. -/
def dynamicDimension : Int := -1

def dimension (s : Slot) (i : Nat) : Int := s.shape.getD i 0

/-- Whether a tensor's length may change. -/
def isDynamic (s : Slot) : Bool := s.signature.getD 1 0 == dynamicDimension

/-- Whether all values of a list are the same, of which there must be one. -/
def allSame : List Int → Bool
  | [] => false
  | n :: rest => rest.all (· == n)

/-- The shape mode of input tensors, once their ranks, batches and lengths are as they must be. -/
def shapeModeOf (slots : List Slot) (names : List String) :
    Except ConfigurationError ShapeMode :=
  if slots.any (·.rank != 2) then .error (.inputRanks (names.zip (slots.map (·.rank))))
  else if slots.any (dimension · 0 != 1) then
    .error (.inputBatches (names.zip (slots.map (dimension · 0))))
  else if !allSame (slots.map (dimension · 1)) then
    .error (.inputLengths (names.zip (slots.map (dimension · 1))))
  else if slots.all isDynamic then .ok .dynamic
  else if slots.any isDynamic then .error (.mixedLengths (names.zip (slots.map isDynamic)))
  else .ok .fixed

/-- Where a classifier puts ids, mask and segment ids, and how long they are. -/
structure InputLayout where
  ids : Nat
  mask : Nat
  segmentIds : Nat
  length : Length
  deriving DecidableEq, Repr

namespace InputLayout

/-- The places of the inputs, in the order of ids, mask and segment ids. -/
def places (l : InputLayout) : List Nat := [l.ids, l.mask, l.segmentIds]

def mode (l : InputLayout) : ShapeMode :=
  match l.length with
  | .fixed _ => .fixed
  | .dynamic => .dynamic

/-- The one length of all sequences, if they have one. -/
def fixedLength? (l : InputLayout) : Option Nat :=
  match l.length with
  | .fixed n => some n
  | .dynamic => none

/-- The place of an input, which must be there. -/
def place (metadata : List TensorMetadata) (name : String) : Except ConfigurationError Nat :=
  match findTensor? metadata (.str name) with
  | some i => .ok i
  | none => .error (.inputMissing name)

/-- The fixed length of a model: the one that is asked for, if any, and with room for the
markers. -/
def fixedLength (o : Options) (actual : Int) : Except ConfigurationError Length :=
  match o.length.filter (· != actual) with
  | some requested => .error (.lengthMismatch requested actual)
  | none =>
    if actual < Length.least then
      .error (.lengthTooShort actual o.classificationToken o.separatorToken)
    else .ok (.fixed actual.toNat)

/-- The layout of a model's inputs by its metadata. -/
def resolve (o : Options) (metadata : List TensorMetadata) (inputs : List Slot) :
    Except ConfigurationError InputLayout := do
  if metadata.length ≠ inputs.length then .error (.inputCount metadata.length inputs.length)
  else
    let ids ← place metadata o.idsName
    let mask ← place metadata o.maskName
    let segmentIds ← place metadata o.segmentIdsName
    let slots := [ids, mask, segmentIds].filterMap fun i => inputs[i]?
    let length ← match ← shapeModeOf slots o.inputNames with
      | .dynamic => .ok .dynamic
      | .fixed => fixedLength o ((slots.head?.map (dimension · 1)).getD 0)
    return ⟨ids, mask, segmentIds, length⟩

end InputLayout
end TextClassifier
