import TextClassifier.Classifier

/-!
# Exporting models

A compiled model becomes a package with everything that a classifier needs: the declarations of its
tensors, the vocabulary, the names of the classes, and metadata that ties them together. The output
is declared as it comes out of a run on an example: zeros for ids and segment ids, and ones for the
mask.
-/
namespace TextClassifier
open Json Tensor Package Text

/-- A compiled model: its graph, and the bytes that it is loaded from. -/
structure Model where
  graph : Graph
  bytes : Bytes
  /-- The number of bytes from which on a buffer is too large, if there is such a limit. -/
  memory : Option Nat := none

/-- What an export goes by. -/
structure ExportSettings where
  labels : Option (List String) := none
  length : Int := 128
  dynamic : Bool := false
  pattern : String := Tokenizer.defaultPattern
  name : String := "bert_nl_classifier"
  inputType : String := "int32"
  deriving Repr

/-- The tokens of a vocabulary: a list in the order of ids, or a table. -/
inductive Tokens where
  | listed (tokens : List String)
  | vocabulary (v : Vocabulary)
  deriving Repr

namespace Tokens

def lines (memory : Option Nat) : Tokens → Except Fault (List String)
  | .listed tokens => .ok tokens
  | .vocabulary v => v.toLines memory

end Tokens

namespace Export

def vocabularyFile : String := "vocab.txt"

def labelsFile : String := "labels.txt"

/-- The names of the inputs in the metadata, in order. -/
def inputNames : List String := ["ids", "mask", "segment_ids"]

/-- The name of the output in the metadata. -/
def scoreName : String := "probability"

/-- Lines with a line feed between each two and one at the end. -/
def fileOfLines (lines : List String) : Bytes :=
  Utf8.encode ("\n".intercalate lines).toList ++ Utf8.encode ['\n']

/-- One row of example values. -/
def exampleRow (memory : Option Nat) (type : DeclaredType) (length : Int) (n : Int) :
    Except Fault Buffer := do
  let row ← Buffer.allocate memory type.element [1, length]
  return .ofGrid type.element (row.grid.map fun _ => .int n)

/-- The inputs of the run on an example. -/
def exampleInputs (memory : Option Nat) (type : DeclaredType) (length : Int) :
    Except Fault (List Buffer) :=
  [0, 1, 0].mapM (exampleRow memory type length)

/-- The one tensor that the graph gives for the example. -/
def exampleOutput (graph : Graph) (inputs : List Buffer) : Except Error Buffer :=
  match graph inputs with
  | .ok (.tensor b) => .ok b
  | .ok _ => .error (.fault .memberless)
  | .error failure => .error (.graph failure)

/-- The declaration of a tensor with this signature, whose dynamic dimensions have one place. -/
def declaration (name : String) (type : DeclaredType) (shape signature : List Int) : Value :=
  .object [("name", .str name), ("dtype", .str type.name), ("shape", Spec.intsValue shape),
    ("shape_signature", Spec.intsValue signature)]

def inputDeclaration (s : ExportSettings) (type : DeclaredType) (name : String) : Value :=
  let name := "serving_default_" ++ name ++ ":0"
  if s.dynamic then declaration name type [1, 1] [1, -1]
  else declaration name type [1, s.length] [1, s.length]

/-- The shape of a buffer, as declarations give it. -/
def shapeOf (b : Buffer) : List Int := b.shape.map Int.ofNat

/-- The declaration of the output. A type that cannot be declared stands as a number of 32 bits. -/
def outputDeclaration (b : Buffer) : Value :=
  declaration "StatefulPartitionedCall:0" ((DeclaredType.ofElement? b.type).getD .float32)
    (shapeOf b) (shapeOf b)

def graphDescription (s : ExportSettings) (type : DeclaredType) (output : Buffer) : Value :=
  .object [("inputs", .array (inputNames.map (inputDeclaration s type))),
    ("outputs", .array [outputDeclaration output])]

/-- What is said about the label file. -/
def labelsMetadata : AssociatedFile :=
  ⟨.str labelsFile, .str AssociatedFile.axisLabels, .str "Labels for the score tensor"⟩

/-- What is said about the vocabulary file. -/
def vocabularyMetadata : AssociatedFile :=
  ⟨.str vocabularyFile, .str AssociatedFile.vocabulary, .str ""⟩

/-- The process unit that describes the tokenizer. -/
def tokenizerUnit (pattern : String) : ProcessUnit :=
  ⟨.str (TokenizerKind.name .delimited),
    [(.str Descriptor.patternOption, .str pattern),
      (.str Descriptor.filesOption, .array [vocabularyMetadata.toValue])]⟩

def metadata (s : ExportSettings) : Metadata where
  name := .str s.name
  version := .str "1"
  description := .str "BERT-style text classifier"
  inputs := [⟨.str "ids", .str "Token ids", []⟩, ⟨.str "mask", .str "Attention mask", []⟩,
    ⟨.str "segment_ids", .str "Segment ids", []⟩]
  outputs := [⟨.str scoreName, .str "Class scores",
    if s.labels.isSome then [labelsMetadata] else []⟩]
  units := [tokenizerUnit s.pattern]

def files (s : ExportSettings) (lines : List String) : List (String × Bytes) :=
  (vocabularyFile, fileOfLines lines) ::
    match s.labels with
    | some labels => [(labelsFile, fileOfLines labels)]
    | none => []

def exportedText (s : ExportSettings) (output : Buffer) : String :=
  let inputs := if s.dynamic then "dynamic" else "static " ++ Number.intText s.length
  "Exported '" ++ s.name ++ "' (" ++ inputs ++ " inputs, output shape " ++
    bracketed (shapeOf output) ++ ")"

/-- The type of the inputs, which must be one that can be declared. -/
def inputType (s : ExportSettings) : Except Fault DeclaredType :=
  match DeclaredType.ofName? s.inputType with
  | some type => .ok type
  | none => .error (.missingKey s.inputType)

/-- The package of a compiled model, and the output for the example. -/
def packageOf (m : Model) (tokens : Tokens) (s : ExportSettings) :
    Except Error (Package × Buffer) := do
  let type ← (inputType s).mapError .fault
  let inputs ← (exampleInputs m.memory type s.length).mapError .fault
  let output ← exampleOutput m.graph inputs
  let lines ← (tokens.lines m.memory).mapError .fault
  return (⟨metadata s, graphDescription s type output, m.bytes, files s lines⟩, output)

/-- Exports a compiled model and reports it. -/
def package (m : Model) (tokens : Tokens) (s : ExportSettings) : Attempt Error Package := do
  let (p, output) ← .of (packageOf m tokens s)
  .report .info (exportedText s output)
  return p

/-- A model of scores before they are normalised, and what it says about itself. -/
structure Pretrained where
  /-- The kind of the model, which names the package. -/
  kind : String
  /-- The names of classes by their numbers. -/
  classNames : List (Int × String)
  classCount : Int
  deriving Repr

/-- The names of all classes, in order. -/
def Pretrained.labels (c : Pretrained) : Except Fault (List String) :=
  (List.range c.classCount.toNat).mapM fun (i : Nat) =>
    match c.classNames.lookup (i : Int) with
    | some name => .ok name
    | none => .error (.missingKey (toString i))

/-- Numbers of 32 bits that are as far apart as the logarithms of the results are, and sum up to
one. -/
def normalised (scores : List Float) : List Float :=
  let greatest := scores.foldl (fun m x => if m < x then x else m) (Number.infinity true)
  let powers := scores.map fun x => Number.narrow .binary32 (Float.exp (x - greatest))
  let total := powers.foldl (fun sum x => Number.narrow .binary32 (sum + x)) 0
  powers.map fun x => Number.narrow .binary32 (x / total)

/-- A graph whose one row of scores is normalised. -/
def probabilities (graph : Graph) : Graph := fun inputs => do
  match ← graph inputs with
  | .tensor b =>
    let scores := normalised (b.elements.map (·.toReal .binary32))
    match Grid.ofCells? b.shape (scores.map .real) with
    | some g => return .tensor ⟨.float32, g⟩
    | none => return .tensor b
  | other => return other

/-- Exports a pretrained model, whose scores become probabilities. -/
def pretrained (c : Pretrained) (m : Model) (tokens : Tokens) (length : Int) (pattern : String) :
    Attempt Error Package := do
  let labels ← .of (c.labels.mapError .fault)
  package { m with graph := probabilities m.graph } tokens
    { labels := some labels, length, pattern, name := c.kind }

end Export
end TextClassifier
