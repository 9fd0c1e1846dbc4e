import TextClassifier.Proofs.MetadataShapes
import TextClassifier.Proofs.PackageRoundTrip

/-!
# Which archives are packages

An archive is a package exactly if it has the three required entries, two of them spell values, and the first of
these values has the shape of metadata (`Package.IsPackage`). Reading anything else fails in one way: the package is
invalid. It is no archive, or the first entry that it lacks is named, or its metadata and graph are malformed, by a
fault of what the entries hold (`Package.Refused`). These faults are all of the classes that reading a package expects
(`contentsError_ofContents`).
-/
namespace TextClassifier
open Json Text

variable {bytes : Bytes} {v : Value} {fault : Fault} {a : Archive} {name : String}

/-! ## Values in files -/

/-- The faults of what a file holds: its bytes are no text, the text is no value, or the value is not what it should
be. -/
inductive Fault.OfContents : Fault → Prop
  | undecodable (bytes : Malformed) : OfContents (.undecodable bytes)
  | notJson : OfContents .notJson
  | ofValue {fault : Fault} (data : fault.OfValue) : OfContents fault
  | memberless : OfContents .memberless

namespace Json.Encoding

/-- The bytes are the text of a value. -/
def Spells (bytes : Bytes) (v : Value) : Prop := ∃ text, decode bytes = .ok text ∧ Reader.read text = .ok v

theorem read_ok_iff : read bytes = .ok v ↔ Spells bytes v := by
  rw [read, Spells]
  cases decode bytes with
  | error malformed => simp
  | ok text =>
    cases found : Reader.read text with
    | ok w => simp [found]
    | error defect => cases defect <;> simp [found]

theorem read_error (failed : read bytes = .error fault) : fault.OfContents := by
  rw [read] at failed
  split at failed
  · cases failed
    exact .undecodable _
  split at failed
  · cases failed
  · cases failed
    exact .notJson
  · cases failed
    exact .ofValue .unusable

end Json.Encoding

namespace Package

/-! ## Archives that are packages -/

/-- An archive is a package: metadata, a graph and a model are in it. -/
structure IsPackage (a : Archive) : Prop where
  metadata : ∃ bytes v, a.content? "metadata.json" = some bytes ∧ Encoding.Spells bytes v ∧ Metadata.Shape v
  graph : ∃ bytes v, a.content? "graph.json" = some bytes ∧ Encoding.Spells bytes v
  model : ∃ bytes, a.content? "model.pt" = some bytes

theorem isPackage_iff : IsPackage a ↔ ∃ p, Holds a p := by
  constructor
  · rintro ⟨⟨metadata_bytes, v, metadata_entry, spelled, shape⟩, ⟨graph_bytes, g, graph_entry, drawn⟩, model, held⟩
    obtain ⟨m, made⟩ := Metadata.ofValue_ok_iff.mpr shape
    exact ⟨⟨m, g, model, filesOf a⟩, ⟨_, v, metadata_entry, Encoding.read_ok_iff.mpr spelled, made⟩,
      ⟨_, graph_entry, Encoding.read_ok_iff.mpr drawn⟩, held, rfl⟩
  · rintro ⟨p, ⟨metadata_bytes, v, metadata_entry, spelled, made⟩, ⟨graph_bytes, graph_entry, drawn⟩, model, -⟩
    exact ⟨⟨_, v, metadata_entry, Encoding.read_ok_iff.mp spelled, Metadata.ofValue_ok_iff.mp ⟨_, made⟩⟩,
      ⟨_, _, graph_entry, Encoding.read_ok_iff.mp drawn⟩, _, model⟩

/-! ## Archives that are refused -/

/-- The first of the required entries that an archive lacks. -/
def firstMissing? (a : Archive) : Option String :=
  ["metadata.json", "graph.json", "model.pt"].find? fun name => (a.content? name).isNone

/-- Why no package is read. -/
inductive Refused : Option Archive → ConfigurationError → Prop
  | unarchived : Refused none .notAnArchive
  | missing {a : Archive} {name : String} (first : firstMissing? a = some name) : Refused (some a) (.missingEntry name)
  | malformed {a : Archive} {fault : Fault} (complete : firstMissing? a = none) (contents : fault.OfContents) :
    Refused (some a) (.malformedMetadata fault)

theorem Refused.code {archive : Option Archive} {cause : ConfigurationError} (refused : Refused archive cause) :
    cause.code = .invalidModelPackage := by
  cases refused <;> rfl

theorem describe_error {metadata graph : Bytes} (failed : describe metadata graph = .error fault) :
    fault.OfContents := by
  rcases bind_error_iff.mp failed with failed | ⟨v, -, failed⟩
  · exact Encoding.read_error failed
  rcases bind_error_iff.mp failed with failed | ⟨m, -, failed⟩
  · rcases Metadata.ofValue_error failed with data | rfl
    · exact .ofValue data
    · exact .memberless
  rcases bind_error_iff.mp failed with failed | ⟨g, -, failed⟩
  · exact Encoding.read_error failed
  · cases failed

theorem contentsError_ofContents (contents : fault.OfContents) :
    contentsError fault = .configuration (.malformedMetadata fault) := by
  cases contents with
  | ofValue data => cases data <;> rfl
  | undecodable | notJson | memberless => rfl

theorem entry_error {cause : Error} (failed : entry a name = .error cause) :
    a.content? name = none ∧ cause = .configuration (.missingEntry name) := by
  rw [entry] at failed
  cases held : a.content? name with
  | none =>
    rw [held] at failed
    cases failed
    exact ⟨rfl, rfl⟩
  | some bytes =>
    rw [held] at failed
    cases failed

/-- An archive that is not read is refused for one of the reasons, as an error of the classifier's own. -/
theorem refused_of_error {archive : Option Archive} {e : Error} (failed : ofArchive archive = .error e) :
    ∃ cause, e = .configuration cause ∧ Refused archive cause := by
  cases archive with
  | none =>
    cases failed
    exact ⟨_, rfl, .unarchived⟩
  | some a =>
    rcases bind_error_iff.mp failed with failed | ⟨metadata, metadata_entry, failed⟩
    · obtain ⟨absent, rfl⟩ := entry_error failed
      exact ⟨_, rfl, .missing (by simp_all [firstMissing?, metadataEntry])⟩
    rw [entry_ok_iff] at metadata_entry
    rcases bind_error_iff.mp failed with failed | ⟨graph, graph_entry, failed⟩
    · obtain ⟨absent, rfl⟩ := entry_error failed
      exact ⟨_, rfl, .missing (by simp_all [firstMissing?, metadataEntry, graphEntry])⟩
    rw [entry_ok_iff] at graph_entry
    rcases bind_error_iff.mp failed with failed | ⟨model, model_entry, failed⟩
    · obtain ⟨absent, rfl⟩ := entry_error failed
      exact ⟨_, rfl, .missing (by simp_all [firstMissing?, metadataEntry, graphEntry, modelEntry])⟩
    rw [entry_ok_iff] at model_entry
    rcases bind_error_iff.mp failed with failed | ⟨described, -, failed⟩
    · obtain ⟨fault, undescribed, rfl⟩ := mapError_error_iff.mp failed
      have contents := describe_error undescribed
      refine ⟨_, contentsError_ofContents contents, .malformed ?_ contents⟩
      simp_all [firstMissing?, metadataEntry, graphEntry, modelEntry]
    · cases failed

theorem IsPackage.complete (package : IsPackage a) : firstMissing? a = none := by
  obtain ⟨⟨_, _, metadata, -⟩, ⟨_, _, graph, -⟩, _, model⟩ := package
  simp [firstMissing?, metadata, graph, model]

theorem ofArchive_missing (first : firstMissing? a = some name) :
    ofArchive (some a) = .error (.configuration (.missingEntry name)) := by
  cases found : ofArchive (some a) with
  | ok p =>
    have package := isPackage_iff.mpr ⟨p, ofArchive_ok_iff.mp found⟩
    rw [package.complete] at first
    cases first
  | error e =>
    obtain ⟨cause, rfl, refused⟩ := refused_of_error found
    cases refused with
    | missing another => rw [Option.some.inj (first.symm.trans another)]
    | malformed complete => cases first.symm.trans complete

/-- A package is read exactly from an archive that is one. The archive holds what is read, and the further files are
the other entries, each name with the contents of its last entry. Reading anything else fails with an invalid
package, and the message names the first entry that is missing. -/
theorem read_isPackage (archive : Option Archive) :
    ((∃ p, (read archive).result = .ok p) ↔ ∃ a, archive = some a ∧ IsPackage a) ∧
    (∀ e, (read archive).result = .error e →
      ∃ cause, e = .configuration cause ∧ cause.code = .invalidModelPackage ∧ Refused archive cause) ∧
    (∀ a name, archive = some a → firstMissing? a = some name → ∃ cause,
      (read archive).result = .error (.configuration cause) ∧
        cause.message = "Model package is missing '" ++ name ++ "'") ∧
    ∀ a p, archive = some a → (read archive).result = .ok p → Holds a p ∧ (p.files.map (·.1)).Nodup ∧
      ∀ name, p.file? name = if name ∈ requiredEntries then none else a.content? name := by
  rw [result_read]
  refine ⟨?_, fun e failed => ?_, ?_, ?_⟩
  · cases archive with
    | none => simp [ofArchive]
    | some a => simp [ofArchive_ok_iff, isPackage_iff]
  · obtain ⟨cause, same, refused⟩ := refused_of_error failed
    exact ⟨cause, same, refused.code, refused⟩
  · rintro a name rfl first
    exact ⟨_, ofArchive_missing first, rfl⟩
  · rintro a p rfl found
    have holds := ofArchive_ok_iff.mp found
    refine ⟨holds, holds.filed.distinct, fun name => ?_⟩
    rw [file?, holds.files, lookup_filesOf]

end Package
end TextClassifier
