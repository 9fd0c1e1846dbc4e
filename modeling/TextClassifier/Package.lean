import TextClassifier.Archive
import TextClassifier.Attempt
import TextClassifier.Error
import TextClassifier.Files
import TextClassifier.Json.Encoding
import TextClassifier.Json.Writer
import TextClassifier.Package.Metadata
import TextClassifier.Text.Lines

/-!
# Model packages

A package is an archive that holds the metadata, the description of the graph, the compiled model,
and further files such as a vocabulary and class names. What is wrong with the contents of an archive
makes the package invalid.
-/
namespace TextClassifier
open Json Text

/-- A model with everything that a classifier needs. -/
structure Package where
  metadata : Package.Metadata
  graph : Value
  model : Bytes
  /-- The further files, each name once. -/
  files : List (String × Bytes)
  deriving Repr

namespace Package

def metadataEntry : String := "metadata.json"

def graphEntry : String := "graph.json"

def modelEntry : String := "model.pt"

/-- The entries that every package has, in the order in which they are looked for. -/
def requiredEntries : List String := [metadataEntry, graphEntry, modelEntry]

/-- The contents of an entry that must be there. -/
def entry (archive : Archive) (name : String) : Except Error Bytes :=
  match archive.content? name with
  | some bytes => .ok bytes
  | none => .error (.configuration (.missingEntry name))

/-- Metadata and graph from the contents of their entries. -/
def describe (metadata graph : Bytes) : Except Fault (Metadata × Value) := do
  return (← Metadata.ofValue (← Encoding.read metadata), ← Encoding.read graph)

/-- What a fault of the metadata or the graph means for the package: the expected ones are faults of
its contents, and others stay what they are. -/
def contentsError (fault : Fault) : Error :=
  if fault.kind.isOneOf [.unusable, .missingKey, .mistyped, .memberless] then
    .configuration (.malformedMetadata fault)
  else .fault fault

/-- The package that an archive holds, if the bytes were one. -/
def ofArchive : Option Archive → Except Error Package
  | none => .error (.configuration .notAnArchive)
  | some archive => do
    let metadata ← entry archive metadataEntry
    let graph ← entry archive graphEntry
    let model ← entry archive modelEntry
    let (metadata, graph) ← (describe metadata graph).mapError contentsError
    return ⟨metadata, graph, model,
      archive.entries.filter fun (name, _) => !requiredEntries.contains name⟩

def sortedNames (files : List (String × Bytes)) : List String :=
  (files.map (·.1)).mergeSort fun a b => !decide (b < a)

/-- Reads a package and reports it. -/
def read (archive : Option Archive) : Attempt Error Package := do
  let package ← .of (ofArchive archive)
  .report .debug ("Read model package '" ++ package.metadata.name.display ++
    "' with associated files " ++
    (Value.array ((sortedNames package.files).map .str)).literal)
  return package

/-- Reads the package at a path; `unpack` finds the entries in the bytes of an archive. -/
def load (unpack : Bytes → Option Archive) (files : Files) (path : String) :
    Attempt Error Package :=
  match files.read path with
  | .ok bytes => read (unpack bytes)
  | .error _ => .of (.error (.configuration (.fileNotFound path)))

def file? (p : Package) (name : String) : Option Bytes := p.files.lookup name

/-- The text of a value in a file of the package. -/
def jsonBytes (v : Value) : Bytes := Utf8.encode (Writer.write v)

/-- The entries of the archive that a package is saved as. -/
def toArchive (p : Package) : Archive :=
  (metadataEntry, jsonBytes p.metadata.toValue) :: (graphEntry, jsonBytes p.graph) ::
    (modelEntry, p.model) :: p.files

/-- What is reported once a package is saved. -/
def savedRecord (path : String) : Record := ⟨.info, "Model package saved to " ++ path⟩

/-- Whether two packages have equal metadata and graphs, and the same model and files. -/
def agrees (p q : Package) : Bool :=
  p.metadata.agrees q.metadata && p.graph.alike q.graph && p.model == q.model &&
    p.files.length == q.files.length && p.files.all fun (name, bytes) => q.file? name == some bytes

/-- The names of classes in a label file, one on each line. -/
def labels (bytes : Bytes) : Except Malformed (List String) :=
  (Utf8.decode bytes).map fun text => (lines text).map String.ofList

end Package
end TextClassifier
