import TextClassifier.Proofs.FileLines
import TextClassifier.Proofs.PackageRoundTrip
import TextClassifier.Proofs.VocabularyLines

/-!
# Exported models are accepted

What an export writes is what a classifier asks for (`Carries.accepted`): a unit describes the tokenizer, the
label file names the classes that it was written for, the declared tensors can be allocated, and the inputs
pass all checks. The order of the further files plays no part, so the same holds of the package that is read
from the saved file.
-/
namespace TextClassifier
open Json Tensor Package

/-! ## Label files -/

section
variable {labels : List String}

theorem Export.fileOfLines_eq (lines : List String) :
    fileOfLines lines = Text.Utf8.encode (['\n'].intercalate (lines.map String.toList) ++ ['\n']) := by
  rw [fileOfLines, String.toList_intercalate, Text.Utf8.encode_append]
  rfl

/-- A class name that a line can hold. -/
def IsLine (label : String) : Prop := '\n' ∉ label.toList ∧ label.toList.getLast? ≠ some '\r'

instance (label : String) : Decidable (IsLine label) := inferInstanceAs (Decidable (_ ∧ _))

/-- Lines are read back from their file. Without any there is one line, which is empty. -/
theorem Export.exists_lines_fileOfLines (whole : ∀ line ∈ labels, IsLine line) : ∃ text,
    Text.Utf8.decode (fileOfLines labels) = .ok text ∧
    Text.lines text = if labels = [] then [[]] else labels.map String.toList := by
  have unbroken : ∀ line ∈ labels.map String.toList, '\n' ∉ line :=
    List.forall_mem_map.mpr fun line listed => (whole line listed).1
  have kept : (labels.map String.toList).map Text.dropReturns = labels.map String.toList := by
    rw [List.map_map]
    exact List.map_congr_left fun line listed => Text.dropReturns_eq_self (whole line listed).2
  refine ⟨_, Text.Utf8.decode_eq_ok_iff.mpr (fileOfLines_eq labels), ?_⟩
  rw [Text.lines_intercalate unbroken, kept]
  simp only [List.map_eq_nil_iff]

theorem Export.labels_fileOfLines (lines : ∀ label ∈ labels, IsLine label) :
    Package.labels (fileOfLines labels) = .ok (if labels = [] then [""] else labels) := by
  obtain ⟨text, decoded, split⟩ := exists_lines_fileOfLines lines
  rw [Package.labels, decoded]
  show Except.ok ((Text.lines text).map String.ofList) = _
  rw [split]
  by_cases empty : labels = []
  · subst empty
    rfl
  · simp [empty]

/-- An empty class name is as good as none. -/
theorem Category.ofScores_blank (scores : List Float) : ofScores [""] scores = ofScores [] scores := by
  have same : ∀ i, nameOf [""] i = nameOf [] i := by
    intro i
    cases i with
    | zero => rfl
    | succ i => rfl
  simp only [ofScores, same]

end

namespace Export
variable {m : Model} {tokens : Tokens} {s : ExportSettings} {p q : Package} {type : DeclaredType}
  {lines : List String} {output : Buffer} {r : Runtime}

/-! ## What is asked for -/

/-- The settings of an export: a type that can be declared, inputs of any length or of a fixed one with room for
the markers, a pattern that can be searched for, and class names that lines can hold. -/
structure Sound (s : ExportSettings) (type : DeclaredType) : Prop where
  typed : s.inputType = type.name
  length : s.dynamic = true ∨ 2 ≤ s.length
  pattern : s.pattern ≠ ""
  searchable : ∃ delimiter, Pattern.read ("(" ++ s.pattern ++ ")") = .ok delimiter
  labels : ∀ labels ∈ s.labels, ∀ label ∈ labels, IsLine label

/-- Tokens that can be written: any list, or the vocabulary of a file for whose lines there is memory. -/
inductive Writable (memory : Option Nat) : Tokens → Prop
  | listed (tokens : List String) : Writable memory (.listed tokens)
  | parsed {bytes : Text.Bytes} {v : Vocabulary} (read : (Vocabulary.read bytes).result = .ok v)
      (room : v.HasRoom memory) : Writable memory (.vocabulary v)

/-- A run on the example gives one tensor. -/
def Shows (m : Model) (s : ExportSettings) (type : DeclaredType) (output : Buffer) : Prop :=
  ∃ inputs, exampleInputs m.memory type s.length = .ok inputs ∧ m.graph inputs = .ok (.tensor output)

/-- A runtime in which a model is what was compiled, with memory for the tensors that are declared for it. The shape of
the output is one that a tensor can have. -/
structure Runs (r : Runtime) (m : Model) (s : ExportSettings) (type : DeclaredType) (output : Buffer) : Prop where
  loads : r.load m.bytes = .ok m.graph
  inputs : ∀ limit ∈ r.memory, Buffer.byteCount type.element ((inputShape s).1.map Int.toNat) < limit
  outputs : ∀ limit ∈ r.memory, Buffer.byteCount (outputSpec output).type.element output.shape < limit
  words : ∀ d ∈ output.shape, d < 0x8000000000000000
  countable : Buffer.isCountable output.shape = true

/-- A classifier with default options is made of a package, and it is what the export asks for. -/
def Accepted (r : Runtime) (m : Model) (s : ExportSettings) (p : Package) : Prop :=
  ∃ c, (Classifier.ofPackage r p {}).result = .ok c ∧ c.engine.graph = m.graph ∧
    (c.layout.mode = .dynamic ↔ s.dynamic = true) ∧
    c.layout.fixedLength?.map Int.ofNat = (if s.dynamic then none else some s.length) ∧
    c.tokenizer.pattern = .str s.pattern ∧
    Pattern.read ("(" ++ s.pattern ++ ")") = .ok c.tokenizer.delimiter ∧
    ∀ scores, Category.ofTensor c.labels scores = Category.ofTensor s.labels scores

/-! ## The parts of a classifier -/

/-- What an exported package holds, wherever its files stand. -/
structure Carries (m : Model) (s : ExportSettings) (type : DeclaredType) (lines : List String) (output : Buffer)
    (p : Package) : Prop where
  metadata : p.metadata = metadata s
  graph : p.graph = graphDescription s type output
  model : p.model = m.bytes
  vocabulary : p.file? vocabularyFile = some (fileOfLines lines)
  labels : ∀ labels ∈ s.labels, p.file? labelsFile = some (fileOfLines labels)

theorem Packed.carries (packed : Packed m tokens s type lines output p) : Carries m s type lines output p := by
  rw [packed.holds]
  refine ⟨rfl, rfl, rfl, rfl, ?_⟩
  intro labels named
  rw [Option.mem_def] at named
  simp only [Package.file?, files, named]
  rfl

theorem descriptor_tokenizerUnit (pattern : s.pattern ≠ "") :
    Descriptor.ofUnit (tokenizerUnit s.pattern) = .ok ⟨.delimited, .str s.pattern, vocabularyFile⟩ := by
  have kind : TokenizerKind.ofValue? (tokenizerUnit s.pattern).kind = some .delimited := rfl
  have present : Descriptor.option? (tokenizerUnit s.pattern) Descriptor.patternOption = some (.str s.pattern) := by
    show (some (Value.str s.pattern)).filter Value.isPresent = _
    simp [Value.isPresent, pattern]
  have listed : Descriptor.option? (tokenizerUnit s.pattern) Descriptor.filesOption =
      some (.array [vocabularyMetadata.toValue]) := rfl
  have named : Descriptor.listedFiles? (.array [vocabularyMetadata.toValue]) = some [(vocabularyFile, true)] := rfl
  simp only [Descriptor.ofUnit, kind, present, listed, Option.getD_some, named]
  rfl

/-- The tokenizer that is exported is the one that is made again. -/
theorem Carries.tokenizer (carries : Carries m s type lines output p) (sound : Sound s type) :
    ∃ t, (tokenizerOf (tokenizerUnit s.pattern) p).result = .ok t ∧ t.pattern = .str s.pattern ∧
      Pattern.read ("(" ++ s.pattern ++ ")") = .ok t.delimiter := by
  obtain ⟨delimiter, searchable⟩ := sound.searchable
  obtain ⟨v, vocabulary⟩ : ∃ v, (Vocabulary.read (fileOfLines lines)).result = .ok v := by
    rw [Vocabulary.result_read, Vocabulary.ofBytes, Text.Utf8.decode_eq_ok_iff.mpr (fileOfLines_eq lines)]
    exact ⟨_, rfl⟩
  have built : Tokenizer.ofPattern (.str s.pattern) v = .ok ⟨.str s.pattern, delimiter, v⟩ := by
    rw [Tokenizer.ofPattern, Value.display, searchable]
  refine ⟨⟨.str s.pattern, delimiter, v⟩, ?_, rfl, searchable⟩
  rw [tokenizerOf, descriptor_tokenizerUnit sound.pattern]
  simp only [Attempt.result_bind, Attempt.result_mapError, Attempt.result_of]
  show (Descriptor.tokenizer _ p).result = _
  simp only [Descriptor.tokenizer, carries.vocabulary, Attempt.result_bind, Attempt.result_mapError, vocabulary]
  show ((Tokenizer.ofPattern (.str s.pattern) v).mapError _ >>= _) = _
  rw [built]
  rfl

/-- The label file that an export declares, if it has class names. -/
theorem labelFile?_metadata (s : ExportSettings) :
    Classifier.labelFile? (metadata s) 0 = if s.labels.isSome then some labelsMetadata else none := by
  cases named : s.labels with
  | none =>
    simp only [Export.metadata, named]
    rfl
  | some labels =>
    simp only [Export.metadata, named]
    rfl

/-- Labels that are exported name the same categories when they are read again. -/
theorem Carries.labels_result (carries : Carries m s type lines output p) (sound : Sound s type) :
    ∃ labels, (Classifier.loadLabels p {}).result = .ok labels ∧
      ∀ scores, Category.ofTensor labels scores = Category.ofTensor s.labels scores := by
  cases named : s.labels with
  | none =>
    have absent : Classifier.labelFile? p.metadata 0 = none := by
      rw [carries.metadata, labelFile?_metadata, named]
      rfl
    refine ⟨none, ?_, fun _ => rfl⟩
    simp only [Classifier.loadLabels, absent]
    rfl
  | some labels =>
    have listed : Classifier.labelFile? p.metadata 0 = some labelsMetadata := by
      rw [carries.metadata, labelFile?_metadata, named]
      rfl
    have contents : Classifier.contentsOf p labelsMetadata.name = .ok (some (fileOfLines labels)) :=
      congrArg Except.ok (carries.labels labels named)
    refine ⟨some (if labels = [] then [""] else labels), ?_, fun scores => ?_⟩
    · simp only [Classifier.loadLabels, listed, contents, Attempt.result_bind, Attempt.result_of]
      simp only [Except.mapError, bind, Except.bind, labels_fileOfLines (sound.labels labels named)]
      rfl
    · by_cases empty : labels = []
      · subst empty
        simp only [Category.ofTensor, if_pos, Option.getD_some]
        rw [funext Category.ofScores_blank]
      · rw [if_neg empty]

/-- A tensor that is declared for an input, with zeros in its buffer. -/
def inputSlot (s : ExportSettings) (type : DeclaredType) (name : String) : Slot where
  name := .str ("serving_default_" ++ name ++ ":0")
  type := type
  shape := (inputShape s).1
  signature := (inputShape s).2
  quantization := none
  buffer := .zeros type.element ((inputShape s).1.map Int.toNat)

/-- There is memory for the inputs that an export declares. -/
theorem Runs.declares_input (runs : Runs r m s type output) (length : s.dynamic = true ∨ 2 ≤ s.length)
    (word : Number.fitsSigned 64 s.length = true) (name : String) :
    Slot.ofSpec r.memory (inputSpec s type name) = .ok (inputSlot s type name) := by
  have allocated : Buffer.allocate r.memory type.element (inputShape s).1 =
      .ok (.zeros type.element ((inputShape s).1.map Int.toNat)) := by
    refine Buffer.allocate_ok_iff.mpr ⟨?_, ?_, ?_, runs.inputs, rfl⟩
    · cases dynamic : s.dynamic with
      | true =>
        simp only [inputShape, dynamic, if_true]
        decide
      | false =>
        simp only [inputShape, dynamic, Bool.false_eq_true, if_false, List.forall_mem_cons]
        exact ⟨by decide, word, List.forall_mem_nil _⟩
    · cases dynamic : s.dynamic with
      | true => simp [inputShape, dynamic]
      | false =>
        have least : 2 ≤ s.length := length.resolve_left (by simp [dynamic])
        simp [inputShape, dynamic]
        omega
    · have bound := ((Number.fitsSigned_64_iff _).mp word).2
      cases dynamic : s.dynamic with
      | true =>
        simp only [inputShape, dynamic, if_true]
        decide
      | false =>
        simp only [inputShape, dynamic, Bool.false_eq_true, if_false]
        exact Buffer.isCountable_pair (by decide) (by omega)
  exact bind_ok_iff.mpr ⟨_, allocated, rfl⟩

theorem Runs.declares_output (runs : Runs r m s type output) :
    ∃ t, Slot.ofSpec r.memory (outputSpec output) = .ok t := by
  have natural : (shapeOf output).map Int.toNat = output.shape := by
    rw [shapeOf, List.map_map]
    exact List.map_id output.shape
  have allocated : Buffer.allocate r.memory (outputSpec output).type.element (shapeOf output) =
      .ok (.zeros (outputSpec output).type.element output.shape) := by
    refine Buffer.allocate_ok_iff.mpr ⟨?_, ?_, ?_, ?_, by rw [natural]⟩
    · refine List.forall_mem_map.mpr fun d listed => ?_
      exact Number.fitsSigned_natCast (runs.words d listed)
    · exact List.forall_mem_map.mpr fun d _ => Int.natCast_nonneg d
    · rw [natural]
      exact runs.countable
    · rw [natural]
      exact runs.outputs
  exact ⟨_, bind_ok_iff.mpr ⟨_, allocated, rfl⟩⟩

/-- The engine of an export has its graph and the inputs that it declares. -/
theorem Carries.engine (carries : Carries m s type lines output p) (runs : Runs r m s type output)
    (length : s.dynamic = true ∨ 2 ≤ s.length) (word : Number.fitsSigned 64 s.length = true) :
    ∃ e, (Engine.ofPackage r p).result = .ok e ∧ e.graph = m.graph ∧ e.inputs = inputNames.map (inputSlot s type) := by
  have inputs : (inputNames.map (inputSpec s type)).mapM (Slot.ofSpec r.memory) =
      .ok (inputNames.map (inputSlot s type)) := by
    rw [List.mapM_map]
    exact mapM_ok fun name _ => runs.declares_input length word name
  obtain ⟨t, shown⟩ := runs.declares_output
  have outputs : [outputSpec output].mapM (Slot.ofSpec r.memory) = .ok [t] := by
    rw [List.mapM_cons, shown]
    rfl
  have made : Engine.ofSpecs m.graph r.memory (inputNames.map (inputSpec s type)) [outputSpec output] =
      .ok ⟨m.graph, r.memory, inputNames.map (inputSlot s type), [t], true⟩ :=
    bind_ok_iff.mpr ⟨_, inputs, bind_ok_iff.mpr ⟨_, outputs, rfl⟩⟩
  refine ⟨⟨m.graph, r.memory, inputNames.map (inputSlot s type), [t], true⟩, ?_, rfl, rfl⟩
  rw [Engine.ofPackage, carries.graph, carries.model, runs.loads, specsOf_graphDescription]
  simp only [Attempt.result_bind, Attempt.result_of]
  exact mapError_ok_iff.mpr made

/-- The inputs of an export pass all checks of a classifier that goes by the defaults. -/
theorem resolve_inputs (length : s.dynamic = true ∨ 2 ≤ s.length) :
    InputLayout.resolve {} (metadata s).inputs (inputNames.map (inputSlot s type)) =
      .ok ⟨0, 1, 2, lengthOf s⟩ := by
  show (shapeModeOf (inputNames.map (inputSlot s type)) inputNames >>= _) = _
  cases dynamic : s.dynamic with
  | true =>
    have mode : shapeModeOf (inputNames.map (inputSlot s type)) inputNames = .ok .dynamic := by
      simp [shapeModeOf, inputNames, inputSlot, inputShape, dynamic, Slot.rank, dimension, allSame, isDynamic,
        dynamicDimension]
    rw [mode, lengthOf, dynamic]
    rfl
  | false =>
    have least : 2 ≤ s.length := length.resolve_left (by simp [dynamic])
    have rigid : s.length ≠ -1 := by omega
    have mode : shapeModeOf (inputNames.map (inputSlot s type)) inputNames = .ok .fixed := by
      simp [shapeModeOf, inputNames, inputSlot, inputShape, dynamic, Slot.rank, dimension, allSame, isDynamic,
        dynamicDimension, rigid]
    have places : dimension (inputSlot s type "ids") 1 = s.length := by
      simp [dimension, inputSlot, inputShape, dynamic]
    have enough : ¬ s.length < Length.least := Int.not_lt.mpr least
    have fixed : InputLayout.fixedLength {} s.length = .ok (.fixed s.length.toNat) := if_neg enough
    rw [mode, lengthOf, dynamic]
    show (InputLayout.fixedLength {} (dimension (inputSlot s type "ids") 1) >>= _) = _
    rw [places, fixed]
    rfl

/-- A classifier accepts what carries an export. -/
theorem Carries.accepted (carries : Carries m s type lines output p) (sound : Sound s type)
    (runs : Runs r m s type output) (word : Number.fitsSigned 64 s.length = true) : Accepted r m s p := by
  obtain ⟨t, tokenized, pattern, delimiter⟩ := carries.tokenizer sound
  obtain ⟨labels, labelled, names⟩ := carries.labels_result sound
  obtain ⟨e, loaded, graph, inputs⟩ := carries.engine runs sound.length word
  have described : p.metadata.unit? 0 = some (tokenizerUnit s.pattern) := by
    rw [carries.metadata]
    rfl
  have resolved : InputLayout.resolve {} p.metadata.inputs e.inputs = .ok ⟨0, 1, 2, lengthOf s⟩ := by
    rw [carries.metadata, inputs]
    exact resolve_inputs sound.length
  have made := Classifier.ofPackage_result loaded described tokenized labelled
  rw [resolved] at made
  refine ⟨_, made, graph, ?_, ?_, pattern, delimiter, names⟩
  · cases dynamic : s.dynamic with
    | true => simp [InputLayout.mode, lengthOf, dynamic]
    | false => simp [InputLayout.mode, lengthOf, dynamic]
  · cases dynamic : s.dynamic with
    | true => simp [InputLayout.fixedLength?, lengthOf, dynamic]
    | false =>
      have natural : 0 ≤ s.length := by
        rcases sound.length with other | least
        · rw [dynamic] at other
          cases other
        · omega
      simp [InputLayout.fixedLength?, lengthOf, dynamic]
      omega

/-! ## Packages that are written -/

theorem writable_lines {memory : Option Nat} (writable : Writable memory tokens) :
    ∃ lines, tokens.lines memory = .ok lines := by
  cases writable with
  | listed tokens => exact ⟨tokens, rfl⟩
  | @parsed bytes v read room =>
    rw [Vocabulary.result_read, Vocabulary.ofBytes, map_ok_iff] at read
    obtain ⟨text, -, rfl⟩ := read
    obtain ⟨lines, written, -⟩ := Vocabulary.exists_toLines (Vocabulary.natural_ofLines _) room
    exact ⟨lines, written⟩

theorem exists_package (sound : Sound s type) (writable : Writable m.memory tokens) (shows : Shows m s type output) :
    ∃ p lines, (Export.package m tokens s).result = .ok p ∧ Packed m tokens s type lines output p := by
  obtain ⟨lines, listed⟩ := writable_lines writable
  obtain ⟨inputs, example_inputs, returned⟩ := shows
  have typed : inputType s = .ok type := by rw [inputType, sound.typed, DeclaredType.ofName?_name]
  have example_output : exampleOutput m.graph inputs = .ok output := by rw [exampleOutput, returned]
  have packed : Packed m tokens s type lines output
      ⟨metadata s, graphDescription s type output, m.bytes, files s lines⟩ :=
    ⟨rfl, typed, listed, inputs, example_inputs, example_output⟩
  exact ⟨_, lines, packed.exported, packed⟩

section
variable {x : Float}

theorem float_notMem_ints (ns : List Int) : .float x ∉ (Spec.intsValue ns).parts := by
  simp [Spec.intsValue, Value.parts, Value.mem_itemParts]

theorem float_notMem_declaration (name : String) (type : DeclaredType) (shape signature : List Int) :
    .float x ∉ (declaration name type shape signature).parts := by
  simp [declaration, Value.parts, Value.mem_memberParts, float_notMem_ints]

theorem float_notMem_graphDescription (s : ExportSettings) (type : DeclaredType) (output : Buffer) :
    .float x ∉ (graphDescription s type output).parts := by
  have inputs : ∀ name, .float x ∉ (inputDeclaration s type name).parts := by
    intro name
    rw [inputDeclaration]
    split
    · exact float_notMem_declaration _ _ _ _
    · exact float_notMem_declaration _ _ _ _
  simp [graphDescription, outputDeclaration, Value.parts, Value.mem_memberParts, Value.mem_itemParts, inputs,
    float_notMem_declaration]

theorem float_notMem_metadata (s : ExportSettings) : .float x ∉ (metadata s).toValue.parts := by
  have file : ∀ name type description,
      .float x ∉ (AssociatedFile.mk (.str name) (.str type) (.str description)).toValue.parts := by
    simp [AssociatedFile.toValue, Value.parts, Value.mem_memberParts]
  have options : .float x ∉ (Table.toObject (tokenizerUnit s.pattern).options).parts := by
    show .float x ∉ (Table.toObject (Table.ofMembers (tokenizerOptions s.pattern))).parts
    rw [toObject_ofMembers (nodup_tokenizerOptions s.pattern)]
    simp [tokenizerOptions, Value.parts, Value.mem_memberParts, Value.mem_itemParts, vocabularyMetadata, file]
  have kind : .float x ∉ (tokenizerUnit s.pattern).kind.parts := by simp [tokenizerUnit, Value.parts]
  have outputs : ∀ f ∈ (if s.labels.isSome then [labelsMetadata] else []), .float x ∉ f.toValue.parts := by
    intro f listed
    split at listed
    · rw [List.mem_singleton.mp listed]
      exact file _ _ _
    · cases listed
  simpa [metadata, Metadata.toValue, Metadata.view, TensorMetadata.toValue, ProcessUnit.toValue, Value.parts,
    Value.mem_memberParts, Value.mem_itemParts, kind, options] using outputs

end

/-- There are no numbers with a fraction in what is exported. -/
theorem Packed.numbersReadBack (packed : Packed m tokens s type lines output p) : p.NumbersReadBack := by
  intro x inside
  rw [packed.holds] at inside
  rcases List.mem_append.mp inside with metadata | graph
  · exact absurd metadata (float_notMem_metadata s)
  · exact absurd graph (float_notMem_graphDescription s type output)

/-- Further files in another order are the same by their names. -/
theorem Carries.again (carries : Carries m s type lines output p) (further : List (String × Text.Bytes))
    (same : ∀ name, further.lookup name = p.file? name) :
    Carries m s type lines output { p with files := further } where
  metadata := carries.metadata
  graph := carries.graph
  model := carries.model
  vocabulary := (same _).trans carries.vocabulary
  labels labels named := (same _).trans (carries.labels labels named)

/-- Whatever can be asked for, the exported package is accepted, and so is the package that is read from the file
it is saved as. -/
theorem package_accepted (sound : Sound s type) (writable : Writable m.memory tokens)
    (shows : Shows m s type output) (runs : Runs r m s type output) :
    ∃ p, (Export.package m tokens s).result = .ok p ∧ Accepted r m s p ∧
      ∀ (pack : Archive → Text.Bytes) (unpack : Text.Bytes → Option Archive), GivesBack pack unpack p.toArchive →
        ∃ q, (Package.read (unpack (pack p.toArchive))).result = .ok q ∧ Accepted r m s q := by
  obtain ⟨p, lines, exported, packed⟩ := exists_package sound writable shows
  obtain ⟨inputs, example_inputs, -⟩ := shows
  have word := word_of_exampleInputs example_inputs
  have carries := packed.carries
  refine ⟨p, exported, carries.accepted sound runs word, fun pack unpack container => ?_⟩
  obtain ⟨b, unpacked, same⟩ := container
  have saveable := packed.saveable runs.words
  have again := carries.again (filesOf b) (saveable.lookup_filesOf same)
  refine ⟨{ p with files := filesOf b }, ?_, again.accepted sound runs word⟩
  rw [unpacked, Package.result_read]
  exact ofArchive_ok_iff.mpr (saveable.holds packed.numbersReadBack same)

def sampleRuntime : Runtime := ⟨fun _ => .ok Package.sampleModel.graph, none⟩

/-- Settings with class names of which one is empty. -/
def sampleSettings : ExportSettings := { labels := some ["a", ""], length := 2, inputType := "float32" }

/-- A model is accepted with the vocabulary of a file, and so is what its zip file holds. -/
theorem package_accepted_sample : ∃ v p q,
    (Vocabulary.read (Text.Utf8.encode "[CLS]\n\né\n".toList)).result = .ok v ∧
    (Export.package Package.sampleModel (.vocabulary v) sampleSettings).result = .ok p ∧
    Accepted sampleRuntime Package.sampleModel sampleSettings p ∧
    (Package.read (Zip.read? (Zip.write p.toArchive))).result = .ok q ∧
    Accepted sampleRuntime Package.sampleModel sampleSettings q := by
  obtain ⟨v, read, computed⟩ := exists_ok_of_map
    (r := (Vocabulary.read (Text.Utf8.encode "[CLS]\n\né\n".toList)).result)
    (f := fun v => ((Export.package Package.sampleModel (.vocabulary v) sampleSettings).result.toOption.map fun p =>
      decide (Zip.Fits p.toArchive), v.lineCount)) (y := (some true, 3)) (by decide +kernel)
  obtain ⟨fits, count⟩ := Prod.mk.inj computed
  obtain ⟨inputs, shown⟩ := exists_ok (r := exampleInputs none .float32 2) (by decide +kernel)
  have sound : Sound sampleSettings .float32 :=
    ⟨rfl, by decide, by decide, exists_ok (by decide +kernel), by decide⟩
  have room : v.HasRoom Package.sampleModel.memory := by
    refine ⟨?_, fun _ limited => (nomatch limited)⟩
    rw [count]
    decide
  have runs : Runs sampleRuntime Package.sampleModel sampleSettings .float32 (.zeros .float32 [1, 2]) :=
    ⟨rfl, fun _ limited => (nomatch limited), fun _ limited => (nomatch limited), by decide, by decide⟩
  obtain ⟨p, exported, accepted, again⟩ := package_accepted sound (.parsed read room) ⟨inputs, shown, rfl⟩ runs
  rw [exported] at fits
  have small : Zip.Fits p.toArchive := of_decide_eq_true (Option.some.inj fits)
  obtain ⟨q, found, still⟩ := again Zip.write Zip.read? (givesBack_of_fits small)
  exact ⟨v, p, q, read, exported, accepted, found, still⟩

end Export
end TextClassifier
