import TextClassifier.Json.Table

/-!
# Metadata

What a package says about its model: the names of its tensors, the files that belong to them, and
the units that prepare the input, such as a tokenizer. Metadata is read from an untyped value. Only
what must be there is checked, and names and descriptions may be of any kind.
-/
namespace TextClassifier.Package
open Json

/-- A file in the package, by its name, with what it is for. -/
structure AssociatedFile where
  name : Value
  type : Value := .str ""
  description : Value := .str ""
  deriving Repr, Inhabited

/-- What is said about a tensor. -/
structure TensorMetadata where
  name : Value
  description : Value := .str ""
  files : List AssociatedFile := []
  deriving Repr, Inhabited

/-- A unit that prepares the input, by its kind. -/
structure ProcessUnit where
  kind : Value
  options : Table := []
  deriving Repr, Inhabited

/-- What a package says about its model. -/
structure Metadata where
  name : Value := .str ""
  version : Value := .str ""
  description : Value := .str ""
  inputs : List TensorMetadata := []
  outputs : List TensorMetadata := []
  units : List ProcessUnit := []
  deriving Repr, Inhabited

/-- The member under a key, or what stands for it when it is absent. -/
def memberOr (absent : Value) (key : String) (members : List (String × Value)) : Value :=
  (Value.lookup key members).getD absent

/-- A list that an object may hold under a key, read item by item. -/
def readList {α : Type} (read : Value → Except Fault α) (key : String)
    (members : List (String × Value)) : Except Fault (List α) := do
  (← (memberOr (.array []) key members).iterate).mapM read

namespace AssociatedFile

/-- The type of vocabulary files. -/
def vocabulary : String := "VOCABULARY"

/-- The type of files that name the classes of scores. -/
def axisLabels : String := "TENSOR_AXIS_LABELS"

/-- Reads what is said about a file. -/
def ofValue (v : Value) : Except Fault AssociatedFile := do
  let name ← v.required "name"
  let members ← v.membersOf
  return ⟨name, memberOr (.str "") "type" members, memberOr (.str "") "description" members⟩

def toValue (f : AssociatedFile) : Value :=
  .object [("name", f.name), ("type", f.type), ("description", f.description)]

/-- Whether two files have the same members; numbers that are none count as the same. -/
def agrees (f g : AssociatedFile) : Bool :=
  f.name.alike g.name && f.type.alike g.type && f.description.alike g.description

end AssociatedFile

namespace TensorMetadata

/-- Reads what is said about a tensor. -/
def ofValue (v : Value) : Except Fault TensorMetadata := do
  let name ← v.required "name"
  let members ← v.membersOf
  let files ← readList AssociatedFile.ofValue "associated_files" members
  return ⟨name, memberOr (.str "") "description" members, files⟩

def toValue (t : TensorMetadata) : Value :=
  .object [("name", t.name), ("description", t.description),
    ("associated_files", .array (t.files.map AssociatedFile.toValue))]

def file? (t : TensorMetadata) (type : Value) : Option AssociatedFile :=
  t.files.find? fun f => f.type.equal type

def agrees (t u : TensorMetadata) : Bool :=
  t.name.alike u.name && t.description.alike u.description &&
    t.files.length == u.files.length && (t.files.zip u.files).all fun (f, g) => f.agrees g

end TensorMetadata

namespace ProcessUnit

/-- Reads what is said about a unit. -/
def ofValue (v : Value) : Except Fault ProcessUnit := do
  let kind ← v.required "options_type"
  let members ← v.membersOf
  let options ← Table.ofValue (memberOr (.object []) "options" members)
  return ⟨kind, options⟩

/-- What is said about a unit, as an untyped value; `table` shows the options. -/
def toValue (table : Table → Value) (u : ProcessUnit) : Value :=
  .object [("options_type", u.kind), ("options", table u.options)]

def agrees (u w : ProcessUnit) : Bool :=
  u.kind.alike w.kind && u.options.agrees Value.alike w.options

end ProcessUnit

namespace Metadata

/-- Reads metadata. -/
def ofValue (v : Value) : Except Fault Metadata := do
  let members ← v.membersOf
  let subgraph ← (memberOr (.object []) "subgraph" members).membersOf
  let inputs ← readList TensorMetadata.ofValue "input_tensor_metadata" subgraph
  let outputs ← readList TensorMetadata.ofValue "output_tensor_metadata" subgraph
  let units ← readList ProcessUnit.ofValue "input_process_units" subgraph
  return ⟨memberOr (.str "") "name" members, memberOr (.str "") "version" members,
    memberOr (.str "") "description" members, inputs, outputs, units⟩

/-- Metadata as an untyped value; `table` shows the options of units. -/
def view (table : Table → Value) (m : Metadata) : Value :=
  .object [("name", m.name), ("version", m.version), ("description", m.description),
    ("subgraph", .object [
      ("input_tensor_metadata", .array (m.inputs.map TensorMetadata.toValue)),
      ("output_tensor_metadata", .array (m.outputs.map TensorMetadata.toValue)),
      ("input_process_units", .array (m.units.map (ProcessUnit.toValue table)))])]

def toValue (m : Metadata) : Value := m.view Table.toObject

/-- The item at an index, which may be outside of the list on either side. -/
def at? {α : Type} (items : List α) (index : Int) : Option α :=
  if 0 ≤ index then items[index.toNat]? else none

def unit? (m : Metadata) (index : Int) : Option ProcessUnit := at? m.units index

def output? (m : Metadata) (index : Int) : Option TensorMetadata := at? m.outputs index

def agrees (m n : Metadata) : Bool :=
  m.name.alike n.name && m.version.alike n.version && m.description.alike n.description &&
    m.inputs.length == n.inputs.length && ((m.inputs.zip n.inputs).all fun (t, u) => t.agrees u) &&
    m.outputs.length == n.outputs.length &&
    ((m.outputs.zip n.outputs).all fun (t, u) => t.agrees u) &&
    m.units.length == n.units.length && (m.units.zip n.units).all fun (u, w) => u.agrees w

/-- Whether reading metadata from its own untyped value gives it back. -/
def readsBack (m : Metadata) : Bool :=
  match ofValue (m.view Table.toPairs) with
  | .ok n => m.agrees n
  | .error _ => false

end Metadata
end TextClassifier.Package
