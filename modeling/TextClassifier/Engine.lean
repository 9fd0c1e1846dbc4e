import TextClassifier.Graph
import TextClassifier.Package
import TextClassifier.Tensor.Slot

/-!
# The engine

An engine runs a graph over buffers that it owns, one for each tensor that is declared. A resized
input has to be allocated before the graph runs again. Every operation gives the engine back as it
is afterwards, also when the operation fails: resizing and filling then change nothing, and a run
changes outputs only once their number is right.
-/
namespace TextClassifier
open Json Tensor

/-- A graph with the tensors that it reads and writes. -/
structure Engine where
  graph : Graph
  /-- The number of bytes from which on a buffer is too large, if there is such a limit. -/
  memory : Option Nat
  inputs : List Slot
  outputs : List Slot
  /-- Whether every input has been allocated since it was last resized. -/
  allocated : Bool

namespace Engine

/-- The result of an operation, with the engine behind it. -/
structure Outcome (α : Type) where
  result : Except Error α
  engine : Engine

namespace Outcome
variable {α β : Type}

/-- Goes on with the engine of an operation that succeeded. -/
def andThen (o : Outcome α) (f : α → Engine → Outcome β) : Outcome β :=
  match o.result with
  | .ok x => f x o.engine
  | .error e => ⟨.error e, o.engine⟩

/-- A new engine, or the old one if there is none. -/
def ofExcept (old : Engine) : Except Error Engine → Outcome Unit
  | .ok engine => ⟨.ok (), engine⟩
  | .error e => ⟨.error e, old⟩

@[simp] theorem andThen_ok (e : Engine) (x : α) (f : α → Engine → Outcome β) :
    (Outcome.mk (.ok x) e).andThen f = f x e := rfl

@[simp] theorem andThen_error (e : Engine) (cause : Error) (f : α → Engine → Outcome β) :
    (Outcome.mk (.error cause) e).andThen f = ⟨.error cause, e⟩ := rfl

end Outcome

/-- The engine of a graph, with all tensors filled with zeros. -/
def ofSpecs (graph : Graph) (memory : Option Nat) (inputs outputs : List Spec) :
    Except Fault Engine := do
  return ⟨graph, memory, ← inputs.mapM (Slot.ofSpec memory), ← outputs.mapM (Slot.ofSpec memory),
    true⟩

/-- The declarations that a graph description lists under a key. -/
def specsUnder (key : String) (graph : Value) : Except Fault (List Spec) := do
  (← (← graph.required key).iterate).mapM Spec.ofValue

/-- The declarations of inputs and outputs in a graph description. -/
def specsOf (graph : Value) : Except Fault (List Spec × List Spec) := do
  return (← specsUnder "inputs" graph, ← specsUnder "outputs" graph)

/-- What a fault in a graph description means for the package. Only a missing key, a wrong kind and
an unusable value are faults of the description. -/
def descriptionError (fault : Fault) : Error :=
  if fault.kind.isOneOf [.missingKey, .mistyped, .unusable] then
    .configuration (.malformedGraph fault)
  else .fault fault

/-- What the failure of a model that is loaded means for its package. -/
def loadError (failure : GraphFailure) : Error :=
  if failure.kind.isOneOf [.runtime, .unusable] then .configuration (.unloadableModel failure)
  else .graph failure

/-- The engine of a package. -/
def ofPackage (r : Runtime) (p : Package) : Attempt Error Engine := do
  let (inputs, outputs) ← .of ((specsOf p.graph).mapError descriptionError)
  let graph ← .of ((r.load p.model).mapError loadError)
  .report .debug ("Loaded graph with " ++ toString inputs.length ++ " inputs and " ++
    toString outputs.length ++ " outputs")
  .of ((ofSpecs graph r.memory inputs outputs).mapError .fault)

/-- The place of an index in a list; a negative index counts from the end. -/
def place? (size : Nat) (index : Int) : Option Nat :=
  if 0 ≤ index ∧ index < size then some index.toNat
  else if index < 0 ∧ 0 ≤ index + size then some (index + size).toNat
  else none

/-- The input at an index, with its place. -/
def input (e : Engine) (index : Int) : Except Error (Nat × Slot) :=
  match (place? e.inputs.length index).bind fun i => (e.inputs[i]?).map fun s => (i, s) with
  | some found => .ok found
  | none => .error (.fault .outOfBounds)

def setInput (e : Engine) (i : Nat) (s : Slot) : Engine := { e with inputs := e.inputs.set i s }

/-- Whether a shape agrees with the current one wherever the signature allows no change. -/
def keepsFixed (current signature requested : List Int) : Bool :=
  ((current.zip signature).zip requested).all fun ((now, declared), wanted) =>
    declared == -1 || wanted == now

/-- The check of a requested shape. A strict one holds on to the dimensions that are fixed. -/
def checkShape (s : Slot) (shape : List Int) (strict : Bool) : Except ResourceError Unit :=
  if shape.length ≠ s.rank then .error (.resizeRank s.name s.rank shape)
  else if shape.any (· < 0) then .error (.resizeNegative s.name shape)
  else if strict && !keepsFixed s.shape s.signature shape then
    .error (.resizeFixed s.name s.signature shape)
  else .ok ()

/-- The engine with another shape for the input at a place. -/
def withShape (e : Engine) (i : Nat) (s : Slot) (shape : List Int) : Engine :=
  if shape = s.shape then e
  else { e.setInput i { s with shape } with allocated := false }

/-- Changes the shape of an input; its buffer follows when it is allocated. -/
def resize (e : Engine) (index : Int) (shape : List Int) (strict : Bool) : Outcome Unit :=
  .ofExcept e do
    let (i, s) ← e.input index
    (checkShape s shape strict).mapError .resource
    return e.withShape i s shape

/-- Changes the shape of an input to an untyped one. -/
def resizeValue (e : Engine) (index : Int) (shape : Value) (strict : Bool) : Outcome Unit :=
  match e.input index with
  | .error cause => ⟨.error cause, e⟩
  | .ok _ =>
    match Spec.readShape shape with
    | .ok shape => e.resize index shape strict
    | .error fault => ⟨.error (.fault fault), e⟩

/-- New buffers of zeros for tensors, up to the first that cannot have one. -/
def allocateAll (memory : Option Nat) : List Slot → Option Fault × List Slot
  | [] => (none, [])
  | s :: rest =>
    match s.allocate memory with
    | .ok s => let (fault, rest) := allocateAll memory rest; (fault, s :: rest)
    | .error fault => (some fault, s :: rest)

/-- Gives every input a new buffer of zeros of its shape. -/
def allocate (e : Engine) : Outcome Unit :=
  match allocateAll e.memory e.inputs with
  | (none, inputs) => ⟨.ok (), { e with inputs, allocated := true }⟩
  | (some fault, inputs) => ⟨.error (.fault fault), { e with inputs }⟩

/-- Changes the input at an index, if the change succeeds. -/
def modifyInput (e : Engine) (index : Int) (change : Slot → Except Error Slot) : Outcome Unit :=
  .ofExcept e do
    let (i, s) ← e.input index
    return e.setInput i (← change s)

def populate (e : Engine) (index : Int) (values : Grid Element) : Outcome Unit :=
  e.modifyInput index fun s => s.populate values

def populateValue (e : Engine) (index : Int) (values : Value) : Outcome Unit :=
  e.modifyInput index fun s => s.populateValue values

/-- Tensors with values as their results, up to the first value that is no tensor. -/
def setResults : List Slot → List Given → Option Fault × List Slot
  | s :: slots, .tensor b :: given =>
    let (fault, rest) := setResults slots given
    (fault, s.setResult b :: rest)
  | s :: slots, .other :: _ => (some .memberless, s :: slots)
  | slots, _ => (none, slots)

/-- What a failure of the graph means for a run. Failures of the expected classes are reported, and
others pass through. -/
def runError (failure : GraphFailure) : Error :=
  if failure.kind.isOneOf [.runtime, .unusable, .mistyped, .outOfBounds] then
    .resource (.executionFailed failure.wording)
  else .graph failure

/-- The values that the graph gives for the inputs. -/
def produce (e : Engine) : Except Error (List Given) :=
  match e.graph (e.inputs.map (·.buffer)) with
  | .error failure => .error (runError failure)
  | .ok returned => returned.values.mapError .fault

/-- Runs the graph. -/
def invoke (e : Engine) : Outcome (List Slot) :=
  if !e.allocated then ⟨.error (.resource .notAllocated), e⟩
  else match e.produce with
    | .error cause => ⟨.error cause, e⟩
    | .ok given =>
      if given.length ≠ e.outputs.length then
        ⟨.error (.resource (.outputCount given.length e.outputs.length)), e⟩
      else match setResults e.outputs given with
        | (none, outputs) => ⟨.ok outputs, { e with outputs }⟩
        | (some fault, outputs) => ⟨.error (.fault fault), { e with outputs }⟩

end Engine
end TextClassifier
