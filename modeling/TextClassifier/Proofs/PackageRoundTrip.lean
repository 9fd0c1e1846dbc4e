import TextClassifier.Proofs.ArchiveEntries
import TextClassifier.Proofs.ExportedPackage
import TextClassifier.Proofs.IntegerFloats
import TextClassifier.Proofs.JsonFiles
import TextClassifier.Proofs.JsonReadValues
import TextClassifier.Proofs.MetadataRoundTrip
import TextClassifier.Proofs.ZipRoundTrip

/-!
# Packages are read as they are saved

A package that was exported, or read with options that are objects, has metadata and a graph that texts can
hold, and further files under names of their own (`Saveable`). It is read back from the archive that it is
saved as, whatever container gives back the contents of the entries (`read_saved`).
-/
namespace TextClassifier
open Json Text

namespace Package

variable {p : Package} {a b : Archive} {name : String}

/-! ## Further files -/

/-- The further files have names of their own. -/
structure Filed (p : Package) : Prop where
  distinct : (p.files.map (·.1)).Nodup
  further : ∀ name ∈ p.files.map (·.1), name ∉ requiredEntries

theorem file?_required (filed : p.Filed) (required : name ∈ requiredEntries) : p.file? name = none :=
  Table.lookup_eq_none fun listed => filed.further name listed required

/-- In the archive of a package, each required entry comes before any further file of its name. -/
theorem content?_toArchive (filed : p.Filed) (name : String) :
    p.toArchive.content? name =
      if name = metadataEntry then some (jsonBytes p.metadata.toValue)
      else if name = graphEntry then some (jsonBytes p.graph)
      else if name = modelEntry then some p.model
      else p.file? name := by
  have further : Archive.content? p.files name = p.file? name := Archive.content?_of_nodup filed.distinct name
  have absent : name ∈ requiredEntries → p.file? name = none := file?_required filed
  have distinct : metadataEntry ≠ graphEntry ∧ metadataEntry ≠ modelEntry ∧ graphEntry ≠ modelEntry := by decide
  rw [toArchive, Archive.content?_cons, Archive.content?_cons, Archive.content?_cons, further]
  by_cases metadata : name = metadataEntry
  · subst metadata
    simp [absent (by decide), distinct]
  by_cases graph : name = graphEntry
  · subst graph
    simp [absent (by decide), distinct, metadata]
  by_cases model : name = modelEntry
  · subst model
    simp [absent (by decide), metadata, graph]
  · simp [metadata, graph, model]

/-- The entries of an archive that are further files. -/
def filesOf (a : Archive) : List (String × Bytes) :=
  a.entries.filter fun (name, _) => !requiredEntries.contains name

theorem keys_filesOf (a : Archive) :
    ((filesOf a).map (·.1)) = (a.entries.map (·.1)).filter fun name => !requiredEntries.contains name := by
  rw [filesOf, List.filter_map]
  rfl

theorem nodup_filesOf (a : Archive) : ((filesOf a).map (·.1)).Nodup := by
  rw [keys_filesOf]
  exact (Archive.nodup_entries a).filter _

theorem lookup_filesOf (a : Archive) (name : String) :
    (filesOf a).lookup name = if name ∈ requiredEntries then none else a.content? name := by
  have kept := Table.lookup_filter (fun name => !requiredEntries.contains name) a.entries name
  rw [filesOf, kept, Archive.lookup_entries]
  by_cases required : name ∈ requiredEntries
  · simp [required]
  · simp [required]

/-! ## Archives that hold a package -/

/-- An archive holds a package. -/
structure Holds (a : Archive) (p : Package) : Prop where
  metadata : ∃ bytes v, a.content? metadataEntry = some bytes ∧ Encoding.read bytes = .ok v ∧
    Metadata.ofValue v = .ok p.metadata
  graph : ∃ bytes, a.content? graphEntry = some bytes ∧ Encoding.read bytes = .ok p.graph
  model : a.content? modelEntry = some p.model
  files : p.files = filesOf a

theorem entry_ok_iff {bytes : Bytes} : entry a name = .ok bytes ↔ a.content? name = some bytes := by
  rw [entry]
  cases a.content? name with
  | none => simp
  | some found => simp

/-- The package that is read from an archive is the one that it holds. -/
theorem ofArchive_ok_iff : ofArchive (some a) = .ok p ↔ Holds a p := by
  constructor
  · intro found
    obtain ⟨metadata_bytes, metadata_entry, found⟩ := bind_ok_iff.mp found
    obtain ⟨graph_bytes, graph_entry, found⟩ := bind_ok_iff.mp found
    obtain ⟨model, model_entry, found⟩ := bind_ok_iff.mp found
    obtain ⟨⟨metadata, graph⟩, described, found⟩ := bind_ok_iff.mp found
    cases found
    obtain ⟨v, metadata_read, described⟩ := bind_ok_iff.mp (mapError_ok_iff.mp described)
    obtain ⟨m, made, described⟩ := bind_ok_iff.mp described
    obtain ⟨g, graph_read, described⟩ := bind_ok_iff.mp described
    cases described
    exact ⟨⟨_, v, entry_ok_iff.mp metadata_entry, metadata_read, made⟩, ⟨_, entry_ok_iff.mp graph_entry, graph_read⟩,
      entry_ok_iff.mp model_entry, rfl⟩
  · intro holds
    obtain ⟨metadata, graph, model, files⟩ := p
    obtain ⟨⟨metadata_bytes, v, metadata_entry, metadata_read, made⟩, ⟨graph_bytes, graph_entry, graph_read⟩,
      model_entry, rfl⟩ := holds
    have described : describe metadata_bytes graph_bytes = .ok (metadata, graph) :=
      bind_ok_iff.mpr ⟨v, metadata_read, bind_ok_iff.mpr ⟨_, made, bind_ok_iff.mpr ⟨_, graph_read, rfl⟩⟩⟩
    refine bind_ok_iff.mpr ⟨_, entry_ok_iff.mpr metadata_entry, ?_⟩
    refine bind_ok_iff.mpr ⟨_, entry_ok_iff.mpr graph_entry, ?_⟩
    refine bind_ok_iff.mpr ⟨_, entry_ok_iff.mpr model_entry, ?_⟩
    exact bind_ok_iff.mpr ⟨_, mapError_ok_iff.mpr described, rfl⟩

theorem result_read (archive : Option Archive) : (read archive).result = ofArchive archive := by
  simp only [read, Attempt.result_bind, Attempt.result_of]
  cases ofArchive archive <;> rfl

theorem Holds.filed (holds : Holds a p) : p.Filed := by
  refine ⟨holds.files ▸ nodup_filesOf a, fun name listed => ?_⟩
  rw [holds.files, keys_filesOf] at listed
  simpa using (List.mem_filter.mp listed).2

/-! ## Packages that can be saved -/

/-- Texts can hold the metadata and the graph, the options of units have texts as keys, and the further files
have names of their own. -/
structure Saveable (p : Package) : Prop where
  spelled : ∀ u ∈ p.metadata.units, u.Spelled
  metadata : p.metadata.toValue.Tidy
  graph : p.graph.Tidy
  filed : p.Filed

/-- The options of every unit in the metadata of an archive are absent or an object. -/
def HasPlainOptions (a : Archive) : Prop :=
  ∀ bytes v, a.content? metadataEntry = some bytes → Encoding.read bytes = .ok v → Metadata.HasPlainOptions v

theorem Holds.saveable (holds : Holds a p) (plain : HasPlainOptions a) : p.Saveable := by
  obtain ⟨metadata_bytes, v, metadata_entry, metadata_read, made⟩ := holds.metadata
  obtain ⟨graph_bytes, graph_entry, graph_read⟩ := holds.graph
  obtain ⟨spelled, metadata⟩ := Metadata.tidy_of_ofValue (Encoding.tidy_read metadata_read)
    (plain metadata_bytes v metadata_entry metadata_read) made
  exact ⟨spelled, metadata, Encoding.tidy_read graph_read, holds.filed⟩

/-- The numbers in the metadata and the graph are read back one by one. -/
def NumbersReadBack (p : Package) : Prop :=
  ∀ x, .float x ∈ p.metadata.toValue.parts ++ p.graph.parts → Value.ReadsBack x

theorem Saveable.holds (saveable : p.Saveable) (numbers : p.NumbersReadBack)
    (same : ∀ name, b.content? name = p.toArchive.content? name) : Holds b { p with files := filesOf b } := by
  have contents := content?_toArchive saveable.filed
  have metadata : p.metadata.toValue.Writable :=
    ⟨saveable.metadata, fun x inside => numbers x (List.mem_append_left _ inside)⟩
  have graph : p.graph.Writable := ⟨saveable.graph, fun x inside => numbers x (List.mem_append_right _ inside)⟩
  refine ⟨⟨_, _, ?_, read_jsonBytes metadata, Metadata.ofValue_toValue saveable.spelled⟩,
    ⟨_, ?_, read_jsonBytes graph⟩, ?_, rfl⟩
  · rw [same, contents]
    rfl
  · rw [same, contents]
    rfl
  · rw [same, contents]
    rfl

theorem Saveable.lookup_filesOf (saveable : p.Saveable) (same : ∀ name, b.content? name = p.toArchive.content? name)
    (name : String) : (filesOf b).lookup name = p.file? name := by
  rw [Package.lookup_filesOf, same, content?_toArchive saveable.filed]
  by_cases required : name ∈ requiredEntries
  · rw [if_pos required]
    exact (file?_required saveable.filed required).symm
  · have others : name ≠ metadataEntry ∧ name ≠ graphEntry ∧ name ≠ modelEntry := by
      simpa [requiredEntries] using required
    rw [if_neg required, if_neg others.1, if_neg others.2.1, if_neg others.2.2]

theorem Saveable.files (saveable : p.Saveable) (same : ∀ name, b.content? name = p.toArchive.content? name) :
    (filesOf b).Perm p.files :=
  Table.perm_of_lookup (nodup_filesOf b) saveable.filed.distinct (saveable.lookup_filesOf same)

end Package

/-! ## Exported packages -/

namespace Export
open Package Tensor

variable {m : Model} {tokens : Tokens} {s : ExportSettings} {p : Package} {type : DeclaredType}
  {lines : List String} {output : Buffer}

theorem tidy_word {n : Int} (word : Number.fitsSigned 64 n = true) : (Value.int n).Tidy := by
  rw [Number.fitsSigned_64_iff] at word
  have short : (Number.natDigits n.natAbs).length ≤ 19 :=
    (Nat.length_toDigits_le_iff (by decide) (by decide)).mpr (by omega)
  exact Value.tidy_of_fits rfl (short.trans (by decide))

theorem tidy_intsValue {ns : List Int} (words : ∀ n ∈ ns, Number.fitsSigned 64 n = true) :
    (Spec.intsValue ns).Tidy :=
  Value.tidy_array_iff.mpr (List.forall_mem_map.mpr fun n listed => tidy_word (words n listed))

theorem tidy_declaration {shape signature : List Int} (name : String) (type : DeclaredType)
    (shape_words : ∀ d ∈ shape, Number.fitsSigned 64 d = true)
    (signature_words : ∀ d ∈ signature, Number.fitsSigned 64 d = true) :
    (declaration name type shape signature).Tidy := by
  refine Value.tidy_object_iff.mpr ⟨by simp, ?_⟩
  simp only [List.forall_mem_cons]
  exact ⟨tidy_text _, tidy_text _, tidy_intsValue shape_words, tidy_intsValue signature_words, by simp⟩

theorem word_of_exampleInputs {memory : Option Nat} {length : Int} {inputs : List Buffer}
    (made : exampleInputs memory type length = .ok inputs) : Number.fitsSigned 64 length = true := by
  rw [exampleInputs, List.mapM_cons] at made
  obtain ⟨row, first, -⟩ := bind_ok_iff.mp made
  obtain ⟨b, allocated, -⟩ := bind_ok_iff.mp first
  exact (Buffer.allocate_ok_iff.mp allocated).1 length (by simp)

/-- The description of an exported graph can be written. -/
theorem tidy_graphDescription (length : Number.fitsSigned 64 s.length = true)
    (words : ∀ d ∈ output.shape, d < 0x8000000000000000) : (graphDescription s type output).Tidy := by
  have inputs : ∀ name ∈ inputNames, (inputDeclaration s type name).Tidy := by
    intro name _
    rw [inputDeclaration]
    split
    · exact tidy_declaration _ _ (by decide) (by decide)
    · have places : ∀ d ∈ [1, s.length], Number.fitsSigned 64 d = true := by
        simp only [List.forall_mem_cons]
        exact ⟨by decide, length, List.forall_mem_nil _⟩
      exact tidy_declaration _ _ places places
  have shape : ∀ d ∈ shapeOf output, Number.fitsSigned 64 d = true := by
    intro d listed
    obtain ⟨n, member, rfl⟩ := List.mem_map.mp listed
    exact Number.fitsSigned_natCast (words n member)
  refine Value.tidy_object_iff.mpr ⟨by simp, ?_⟩
  simp only [List.forall_mem_cons]
  refine ⟨Value.tidy_array_iff.mpr (List.forall_mem_map.mpr inputs), Value.tidy_array_iff.mpr ?_, by simp⟩
  exact List.forall_mem_singleton.mpr (tidy_declaration _ _ shape shape)

/-- The options of the unit that describes the tokenizer. -/
def tokenizerOptions (pattern : String) : List (String × Value) :=
  [(Descriptor.patternOption, .str pattern), (Descriptor.filesOption, .array [vocabularyMetadata.toValue])]

theorem nodup_tokenizerOptions (pattern : String) : ((tokenizerOptions pattern).map (·.1)).Nodup := by
  simp [tokenizerOptions, Descriptor.patternOption, Descriptor.filesOption]

theorem filed_files (s : ExportSettings) (lines : List String) (m : Package.Metadata) (graph : Value) (model : Bytes) :
    (Package.mk m graph model (files s lines)).Filed := by
  cases labels : s.labels with
  | none =>
    constructor
    · simp [files, labels]
    · simp [files, labels, vocabularyFile, requiredEntries, metadataEntry, graphEntry, modelEntry]
  | some names =>
    constructor
    · simp [files, labels, vocabularyFile, labelsFile]
    · simp [files, labels, vocabularyFile, labelsFile, requiredEntries, metadataEntry, graphEntry, modelEntry]

/-- The metadata of an export can be written. -/
theorem tidy_metadata (s : ExportSettings) : (metadata s).toValue.Tidy := by
  have file : ∀ name type description, (AssociatedFile.mk (.str name) (.str type) (.str description)).toValue.Tidy :=
    fun _ _ _ => AssociatedFile.tidy_iff.mpr ⟨tidy_text _, tidy_text _, tidy_text _⟩
  have input : ∀ name description, (TensorMetadata.mk (.str name) (.str description) []).toValue.Tidy := fun _ _ =>
    TensorMetadata.tidy_iff.mpr ⟨tidy_text _, tidy_text _, by simp⟩
  have options : (Value.object (tokenizerOptions s.pattern)).Tidy := by
    refine Value.tidy_object_iff.mpr ⟨nodup_tokenizerOptions s.pattern, ?_⟩
    simp only [tokenizerOptions, List.forall_mem_cons]
    exact ⟨tidy_text _, Value.tidy_array_iff.mpr (List.forall_mem_singleton.mpr (file _ _ _)), by simp⟩
  refine Metadata.tidy_iff.mpr ⟨tidy_text _, tidy_text _, tidy_text _, ?_, ?_, ?_⟩
  · simp only [metadata, List.forall_mem_cons]
    exact ⟨input _ _, input _ _, input _ _, by simp⟩
  · refine List.forall_mem_singleton.mpr (TensorMetadata.tidy_iff.mpr ⟨tidy_text _, tidy_text _, ?_⟩)
    intro f listed
    dsimp only at listed
    split at listed
    · rw [List.mem_singleton.mp listed]
      exact file _ _ _
    · cases listed
  · refine List.forall_mem_singleton.mpr (ProcessUnit.tidy_iff.mpr ⟨tidy_text _, ?_⟩)
    show (Table.toObject (Table.ofMembers (tokenizerOptions s.pattern))).Tidy
    rw [toObject_ofMembers (nodup_tokenizerOptions s.pattern)]
    exact options

theorem Packed.saveable (packed : Packed m tokens s type lines output p)
    (words : ∀ d ∈ output.shape, d < 0x8000000000000000) : p.Saveable := by
  obtain ⟨inputs, example_inputs, example_output⟩ := packed.shown
  rw [packed.holds]
  have graph : (graphDescription s type output).Tidy :=
    tidy_graphDescription (word_of_exampleInputs example_inputs) words
  refine ⟨?_, tidy_metadata s, graph, filed_files s lines _ _ _⟩
  exact List.forall_mem_singleton.mpr ⟨tokenizerOptions s.pattern, rfl, nodup_tokenizerOptions s.pattern⟩

/-- Where the tensors that a graph gives have dimensions of 64 bits, the output for the example has. -/
theorem Packed.words (packed : Packed m tokens s type lines output p)
    (words : ∀ inputs output, m.graph inputs = .ok (.tensor output) → ∀ d ∈ output.shape, d < 0x8000000000000000) :
    ∀ d ∈ output.shape, d < 0x8000000000000000 := by
  obtain ⟨inputs, -, shown⟩ := packed.shown
  refine words inputs output ?_
  rw [exampleOutput] at shown
  split at shown
  · rename_i b returned
    cases shown
    exact returned
  · cases shown
  · cases shown

end Export

/-! ## Reading what has been saved -/

namespace Package

/-- Where packages come from: a model is exported, whose tensors have dimensions of 64 bits, or an archive is
read in which the options of units are absent or an object. -/
inductive Obtained : Package → Prop
  | exported {m : Model} {tokens : Tokens} {s : ExportSettings} {p : Package}
    (made : (Export.package m tokens s).result = .ok p)
    (words : ∀ inputs output, m.graph inputs = .ok (.tensor output) → ∀ d ∈ output.shape, d < 0x8000000000000000) :
    Obtained p
  | read {a : Archive} {p : Package} (found : (read (some a)).result = .ok p) (plain : HasPlainOptions a) : Obtained p

theorem Obtained.saveable {p : Package} (obtained : p.Obtained) : p.Saveable := by
  cases obtained with
  | exported made words =>
    obtain ⟨type, lines, output, packed⟩ := Export.exists_packed made
    exact packed.saveable (packed.words words)
  | read found plain =>
    rw [result_read] at found
    exact (ofArchive_ok_iff.mp found).saveable plain

/-- A container gives back an archive if it gives back what is under each name. -/
def GivesBack (pack : Archive → Bytes) (unpack : Bytes → Option Archive) (a : Archive) : Prop :=
  ∃ b, unpack (pack a) = some b ∧ ∀ name, b.content? name = a.content? name

/-- A package is read from the file that it is saved as, with the same metadata, graph, model and further
files. -/
theorem read_saved {p : Package} (obtained : p.Obtained) (numbers : p.NumbersReadBack) {pack : Archive → Bytes}
    {unpack : Bytes → Option Archive} (container : GivesBack pack unpack p.toArchive) :
    ∃ q, (read (unpack (pack p.toArchive))).result = .ok q ∧ q.metadata = p.metadata ∧ q.graph = p.graph ∧
      q.model = p.model ∧ q.files.Perm p.files := by
  obtain ⟨b, unpacked, same⟩ := container
  have saveable := obtained.saveable
  refine ⟨{ p with files := filesOf b }, ?_, rfl, rfl, rfl, saveable.files same⟩
  rw [unpacked, result_read]
  exact ofArchive_ok_iff.mpr (saveable.holds numbers same)

theorem givesBack_of_fits {a : Archive} (fits : Zip.Fits a) : GivesBack Zip.write Zip.read? a :=
  ⟨a, Zip.read?_write fits, fun _ => rfl⟩

/-- The bits of the numbers with a fraction in the metadata and the graph. -/
def numbers (p : Package) : List UInt64 :=
  (p.metadata.toValue.parts ++ p.graph.parts).filterMap fun
    | .float x => some x.toBits
    | _ => none

theorem numbersReadBack_of_numbers {p : Package} (xs : List Float) (same : p.numbers = xs.map (·.toBits))
    (each : ∀ x ∈ xs, Value.ReadsBack x) : p.NumbersReadBack := by
  intro x inside
  have listed : x.toBits ∈ p.numbers := List.mem_filterMap.mpr ⟨.float x, inside, rfl⟩
  rw [same] at listed
  obtain ⟨y, known, bits⟩ := List.mem_map.mp listed
  exact Number.eq_of_toBits bits ▸ each y known

/-- Metadata with characters that are escaped, and units without options and with nested ones. -/
def sampleMetadata : String :=
  "\x7b\"name\":\"\\u00e9\\n\",\"subgraph\":\x7b\"input_process_units\":[\x7b\"options_type\":0\x7d," ++
    "\x7b\"options_type\":1,\"options\":\x7b\"k\":[true,\"\\ud83d\\ude00\",1.5]\x7d\x7d]\x7d\x7d"

/-- A graph in which a member is repeated, with an integer of many digits and a scale. -/
def sampleGraph : String :=
  "[\x7b\"a\":1,\"b\":[],\"a\":-12345678901234567890\x7d, \x7b\"quantization\":[0.25,3]\x7d]"

/-- An archive in which an entry is repeated. -/
def sample : Archive :=
  [("metadata.json", Utf8.encode sampleMetadata.toList), ("vocab.txt", [97]),
    ("graph.json", Utf8.encode sampleGraph.toList), ("model.pt", [0, 255]), ("vocab.txt", [98, 10])]

theorem hasPlainOptions_sample : HasPlainOptions sample := by
  have computed : ((sample.content? metadataEntry).map fun bytes => (Encoding.read bytes).toOption.map fun v =>
      (Metadata.unitValues v).toOption.map (·.all ProcessUnit.hasPlainOptions)) = some (some (some true)) := by
    decide +kernel
  intro bytes v entry found units listed
  rw [entry, Option.map_some, found] at computed
  have all_plain := Option.some.inj (Option.some.inj computed)
  dsimp only at all_plain
  rw [listed] at all_plain
  exact List.all_eq_true.mp (Option.some.inj all_plain)

def sampleModel : Model := ⟨fun _ => .ok (.tensor (.zeros .float32 [1, 2])), [0, 255], none⟩

/-- A package that is exported and one that is read, with numbers in it, in zip files. -/
theorem read_saved_sample : ∃ p q,
    (Export.package sampleModel (.listed ["[CLS]", "é"]) { labels := some ["a", "b"], length := 4 }).result = .ok p ∧
    (read (some sample)).result = .ok q ∧ q.numbers = [(1.5 : Float).toBits, (0.25 : Float).toBits] ∧
    ∀ r ∈ [p, q], ∃ t, (read (Zip.read? (Zip.write r.toArchive))).result = .ok t ∧ t.metadata = r.metadata ∧
      t.graph = r.graph ∧ t.model = r.model ∧ t.files.Perm r.files := by
  obtain ⟨p, exported, computed⟩ := exists_ok_of_map
    (r := (Export.package sampleModel (.listed ["[CLS]", "é"]) { labels := some ["a", "b"], length := 4 }).result)
    (f := fun p => (decide (Zip.Fits p.toArchive), p.numbers)) (y := (true, [])) (by decide +kernel)
  obtain ⟨p_fits, p_numbers⟩ := Prod.mk.inj computed
  obtain ⟨q, found, computed⟩ := exists_ok_of_map (r := (read (some sample)).result)
    (f := fun p => (decide (Zip.Fits p.toArchive), p.numbers)) (y := (true, [(1.5 : Float).toBits, (0.25 : Float).toBits]))
    (by decide +kernel)
  obtain ⟨q_fits, q_numbers⟩ := Prod.mk.inj computed
  have words : ∀ inputs output, sampleModel.graph inputs = .ok (.tensor output) →
      ∀ d ∈ output.shape, d < 0x8000000000000000 := by
    rintro inputs output ⟨⟩
    decide
  refine ⟨p, q, exported, found, q_numbers, ?_⟩
  simp only [List.forall_mem_cons]
  refine ⟨?_, ?_, by simp⟩
  · exact read_saved (.exported exported words) (numbersReadBack_of_numbers [] p_numbers (List.forall_mem_nil _))
      (givesBack_of_fits (of_decide_eq_true p_fits))
  · have back : ∀ x ∈ [(1.5 : Float), 0.25], Value.ReadsBack x :=
      List.forall_mem_cons.mpr ⟨rfl, List.forall_mem_singleton.mpr rfl⟩
    exact read_saved (.read found hasPlainOptions_sample) (numbersReadBack_of_numbers [1.5, 0.25] q_numbers back)
      (givesBack_of_fits (of_decide_eq_true q_fits))

end Package
end TextClassifier
