import TextClassifier.Category
import TextClassifier.Package.Descriptor

/-!
# Classifiers

A classifier encodes a text, fills the inputs of its engine by name, runs the graph and names the
scores. It is made from a package whose tokenizer, labels and inputs are checked first. A
classification gives the classifier back with the buffers as they are then, also when it fails.
-/
namespace TextClassifier
open Json Tensor Package

/-- A package together with what has been resolved from it. -/
structure Classifier where
  package : Package
  options : Options
  engine : Engine
  tokenizer : Tokenizer
  labels : Option (List String)
  layout : InputLayout

namespace Classifier

/-- The file that names the classes of the output at an index, as far as metadata declares one. -/
def labelFile? (m : Metadata) (outputIndex : Int) : Option AssociatedFile :=
  (m.output? outputIndex).bind fun t => t.file? (.str AssociatedFile.axisLabels)

/-- The contents of a file by a name of any kind. A name that is no scalar cannot be looked up. -/
def contentsOf (p : Package) (name : Value) : Except Fault (Option Text.Bytes) :=
  match name with
  | .str s => .ok (p.file? s)
  | v => if v.isScalar then .ok none else .error .mistyped

/-- The labels of a package. A file that is missing or no text is reported and left out. -/
def loadLabels (p : Package) (o : Options) : Attempt Error (Option (List String)) := do
  let some file := labelFile? p.metadata o.outputIndex | return none
  let some bytes ← .of ((contentsOf p file.name).mapError .fault)
    | .report .warning ("Label file '" ++ file.name.display ++
        "' is declared but missing from the package")
      return none
  match Package.labels bytes with
  | .ok labels => return some labels
  | .error malformed =>
    .report .warning ("Ignoring label file '" ++ file.name.display ++ "': not valid UTF-8 (" ++
      malformed.message ++ ")")
    return none

def labelsText : Option (List String) → String
  | some labels => (Value.array (labels.map .str)).literal
  | none => "None"

/-- What is reported once a classifier is made. -/
def loadedText (p : Package) (layout : InputLayout) (labels : Option (List String)) : String :=
  let length := match layout.fixedLength? with
    | some n => toString n
    | none => "None"
  "Loaded classifier '" ++ p.metadata.name.display ++ "' (" ++ layout.mode.name ++
    " inputs, max_seq_len=" ++ length ++ ", labels=" ++ labelsText labels ++ ")"

/-- A classifier from a package and the engine that runs it. -/
def ofEngine (p : Package) (engine : Engine) (o : Options) : Attempt Error Classifier := do
  let some unit := p.metadata.unit? o.unitIndex
    | .of (.error (.configuration .noProcessUnit))
  let tokenizer ← tokenizerOf unit p
  let labels ← loadLabels p o
  let layout ← .of ((InputLayout.resolve o p.metadata.inputs engine.inputs).mapError .configuration)
  .report .info (loadedText p layout labels)
  return ⟨p, o, engine, tokenizer, labels, layout⟩

/-- A classifier from a package; its graph is loaded. -/
def ofPackage (r : Runtime) (p : Package) (o : Options) : Attempt Error Classifier := do
  ofEngine p (← Engine.ofPackage r p) o

/-- A classifier from the package at a path. -/
def ofFile (unpack : Text.Bytes → Option Archive) (r : Runtime) (files : Files) (path : String)
    (o : Options) : Attempt Error Classifier := do
  .report .info ("Loading model package from " ++ path)
  ofPackage r (← Package.load unpack files path) o

/-- The markers and the padding of a classifier's sequences. -/
def markers (c : Classifier) : Sequence.Markers :=
  ⟨c.options.classificationToken, c.options.separatorToken, c.options.padId⟩

def encode (c : Classifier) (text : String) : Except Fault Sequence :=
  Sequence.encode c.tokenizer c.markers c.layout.length text

/-- Resizes inputs to one row of `n` places. -/
def resizeAll (n : Nat) : List Nat → Engine → Engine.Outcome Unit
  | [], e => ⟨.ok (), e⟩
  | i :: rest, e => (e.resize i [1, n] true).andThen fun _ e => resizeAll n rest e

/-- Makes room for a sequence where lengths are dynamic. -/
def makeRoom (layout : InputLayout) (n : Nat) (e : Engine) : Engine.Outcome Unit :=
  match layout.length with
  | .fixed _ => ⟨.ok (), e⟩
  | .dynamic => (resizeAll n layout.places e).andThen fun _ e => e.allocate

def sequenceLength (s : Sequence) : Nat := s.ids.length?.getD 0

/-- Fills the three inputs with a sequence. -/
def fill (layout : InputLayout) (s : Sequence) (e : Engine) : Engine.Outcome Unit :=
  (e.populate layout.ids (s.ids.map .int)).andThen fun _ e =>
    (e.populate layout.mask (s.mask.map .int)).andThen fun _ e =>
      e.populate layout.segmentIds (s.segmentIds.map .int)

/-- Puts a sequence into the engine. -/
def feed (layout : InputLayout) (s : Sequence) (e : Engine) : Engine.Outcome Unit :=
  (makeRoom layout (sequenceLength s) e).andThen fun _ e => fill layout s e

def interpret (c : Classifier) (outputs : List Slot) : Except Error (List Category) := do
  let scores ← (Category.scoreTensor outputs c.package.metadata.outputs
    (.str c.options.scoreName)).mapError .output
  Category.ofTensor c.labels scores

/-- Puts a sequence into an engine, runs it and names the scores. -/
def run (c : Classifier) (s : Sequence) : Engine.Outcome (List Category) :=
  (feed c.layout s c.engine).andThen fun _ e =>
    e.invoke.andThen fun outputs e => ⟨c.interpret outputs, e⟩

/-- The result of a classification, with the classifier behind it. -/
structure Reply where
  result : Except Error (List Category)
  classifier : Classifier
  log : List Record

/-- What is reported once a sequence is in the engine. -/
def encodedRecord (s : Sequence) : Record :=
  ⟨.debug, "Encoded " ++ Number.intText s.tokenCount ++ " tokens into length " ++
    toString (sequenceLength s)⟩

def classify (c : Classifier) (text : String) : Reply :=
  let dropped := Sequence.remark c.layout.length (Sequence.subwords c.tokenizer text).length
  match c.encode text with
  | .error fault => ⟨.error (.fault fault), c, dropped⟩
  | .ok s =>
    let outcome := c.run s
    let encoded := match (feed c.layout s c.engine).result with
      | .ok _ => [encodedRecord s]
      | .error _ => []
    ⟨outcome.result, { c with engine := outcome.engine }, dropped ++ encoded⟩

end Classifier
end TextClassifier
