import TextClassifier.Proofs.ExportAcceptance
import TextClassifier.Proofs.FailureClasses
import TextClassifier.Proofs.GraphDescriptions
import TextClassifier.Proofs.ScoreNames
import TextClassifier.Proofs.TokenizerCreation

/-!
# Loading exported models

A classifier is made of an exported package, or the package is called wrong, with three exceptions: the model fails to
load in a way that is not expected, the runtime cannot have a tensor that is declared, and the pattern has a count that
is too large or has too many digits, or contradicts itself (`Unmade`, `ofPackage_cases`). The options play no part in
this, as long as they ask for the unit and the output that an export has.
-/
namespace TextClassifier
open Json Tensor Package

/-! ## Failures on the way -/

namespace Classifier
variable {r : Runtime} {p : Package} {o : Options} {e : Engine} {unit : ProcessUnit} {cause : Error}

theorem ofPackage_engine_error (failed : (Engine.ofPackage r p).result = .error cause) :
    (ofPackage r p o).result = .error cause := by
  rw [ofPackage, Attempt.result_bind, failed]
  rfl

theorem ofPackage_tokenizer_error (loaded : (Engine.ofPackage r p).result = .ok e)
    (described : p.metadata.unit? o.unitIndex = some unit) (failed : (tokenizerOf unit p).result = .error cause) :
    (ofPackage r p o).result = .error cause := by
  rw [ofPackage, Attempt.result_bind, loaded]
  show (ofEngine p e o).result = _
  simp only [ofEngine, described, Attempt.result_bind, failed]
  rfl

end Classifier

theorem Package.tokenizerOf_described {p : Package} {unit : ProcessUnit} {d : Descriptor}
    (described : Descriptor.ofUnit unit = .ok d) : (tokenizerOf unit p).result = (d.tokenizer p).result := by
  rw [tokenizerOf, described]
  rfl

theorem Package.tokenizerOf_undescribed {p : Package} {unit : ProcessUnit} {cause : ConfigurationError}
    (undescribed : Descriptor.ofUnit unit = .error cause) :
    (tokenizerOf unit p).result = .error (.configuration cause) := by
  rw [tokenizerOf, undescribed]
  rfl

/-- A failure of one of the classes that loading a model is expected to have. -/
def GraphFailure.OfLoading (failure : GraphFailure) : Prop :=
  failure.kind.DerivesFrom .runtime ∨ failure.kind.DerivesFrom .unusable

namespace Engine

theorem loadError_of_ofLoading {failure : GraphFailure} (expected : failure.OfLoading) :
    loadError failure = .configuration (.unloadableModel failure) := by
  have known : failure.kind.isOneOf [.runtime, .unusable] = true := by
    simpa [FailureClass.isOneOf_iff, GraphFailure.OfLoading] using expected
  rw [loadError, if_pos known]

theorem loadError_of_not_ofLoading {failure : GraphFailure} (other : ¬ failure.OfLoading) :
    loadError failure = .graph failure := by
  have unknown : ¬ failure.kind.isOneOf [.runtime, .unusable] = true := by
    simpa [FailureClass.isOneOf_iff, GraphFailure.OfLoading] using other
  rw [loadError, if_neg unknown]

/-- A model that the runtime cannot load makes its package a wrong one, if it fails as it is expected to. -/
theorem ofPackage_unloadable {r : Runtime} {p : Package} {specs : List Spec × List Spec} {failure : GraphFailure}
    (described : specsOf p.graph = .ok specs) (failed : r.load p.model = .error failure) :
    (ofPackage r p).result = .error (loadError failure) := by
  simp only [ofPackage, Attempt.result_bind, Attempt.result_of, described, failed]
  rfl

end Engine

/-! ## Exported packages -/

namespace Export
variable {m : Model} {s : ExportSettings} {type : DeclaredType} {lines : List String} {output : Buffer} {p : Package}
  {r : Runtime} {o : Options} {fault : Fault}

/-- Why no classifier is made of a package that is not called wrong: its model fails to load in a way that is not
expected, a declared tensor cannot be had, or making the tokenizer gives a fault. -/
inductive Unmade (r : Runtime) (p : Package) : Error → Prop
  | model {failure : GraphFailure} (fails : r.load p.model = .error failure) (other : ¬ failure.OfLoading) :
    Unmade r p (.graph failure)
  | tensor {graph : Graph} {inputs outputs : List Spec} {spec : Spec} (loads : r.load p.model = .ok graph)
    (described : Engine.specsOf p.graph = .ok (inputs, outputs)) (listed : spec ∈ inputs ++ outputs)
    (denied : spec.Denied r.memory .unallocatable) : Unmade r p (.fault .unallocatable)
  | pattern {e : Engine} {unit : ProcessUnit} {d : Descriptor} {fault : Fault}
    (engine : (Engine.ofPackage r p).result = .ok e) (found : p.metadata.unit? 0 = some unit)
    (described : Descriptor.ofUnit unit = .ok d) (gives : d.Gives p (.error (.fault fault))) : Unmade r p (.fault fault)

/-- The dimensions of an export: the length and the shape of the output are words. -/
structure Worded (s : ExportSettings) (output : Buffer) : Prop where
  length : Number.fitsSigned 64 s.length = true
  output : ∀ d ∈ output.shape, d < 0x8000000000000000

theorem Packed.worded {tokens : Tokens} (packed : Packed m tokens s type lines output p)
    (words : ∀ d ∈ output.shape, d < 0x8000000000000000) : Worded s output := by
  obtain ⟨inputs, shown, -⟩ := packed.shown
  exact ⟨word_of_exampleInputs shown, words⟩

/-- The dimensions of a tensor that an export declares are words, so if it is denied, it cannot be allocated. -/
theorem unallocatable_of_denied (worded : Worded s output) {spec : Spec} {memory : Option Nat}
    (listed : spec ∈ inputNames.map (inputSpec s type) ++ [outputSpec output]) (denied : spec.Denied memory fault) :
    fault = .unallocatable := by
  have words : ∀ d ∈ spec.shape, Number.fitsSigned 64 d = true := by
    intro d inside
    rcases List.mem_append.mp listed with input | result
    · obtain ⟨name, -, rfl⟩ := List.mem_map.mp input
      have dims : (inputSpec s type name).shape = [1, 1] ∨ (inputSpec s type name).shape = [1, s.length] := by
        cases dynamic : s.dynamic <;> simp [inputSpec, inputShape, dynamic]
      rcases dims with short | long
      · rw [short] at inside
        obtain rfl : d = 1 := by simpa using inside
        decide
      · rw [long] at inside
        rcases List.mem_cons.mp inside with rfl | inside
        · decide
        · obtain rfl := List.mem_singleton.mp inside
          exact worded.length
    · rw [List.mem_singleton.mp result] at inside
      obtain ⟨n, dimension, rfl⟩ := List.mem_map.mp inside
      exact Number.fitsSigned_natCast (worded.output n dimension)
  cases denied with
  | word inside wide => simp [words _ inside] at wide
  | negative | uncountable | short => rfl

theorem Carries.specs (carries : Carries m s type lines output p) :
    Engine.specsOf p.graph = .ok (inputNames.map (inputSpec s type), [outputSpec output]) := by
  rw [carries.graph, specsOf_graphDescription]

theorem Carries.unit (carries : Carries m s type lines output p) :
    p.metadata.unit? 0 = some (tokenizerUnit s.pattern) := by
  rw [carries.metadata]
  rfl

/-- Labels can be loaded: there is no label file, or its name is a text. -/
theorem Carries.labelled (carries : Carries m s type lines output p) (first : o.outputIndex = 0) :
    ∃ labels, (Classifier.loadLabels p o).result = .ok labels := by
  have scalar : ∀ file, Classifier.labelFile? p.metadata o.outputIndex = some file → file.name.isScalar = true := by
    intro file declared
    rw [carries.metadata, first, labelFile?_metadata] at declared
    split at declared
    · cases declared
      rfl
    · cases declared
  obtain ⟨labels, loaded, -⟩ := Classifier.loadLabels_ok scalar
  exact ⟨labels, loaded⟩

/-- What making an engine of an exported package comes to. -/
theorem Carries.engine_cases (carries : Carries m s type lines output p) (worded : Worded s output) :
    (∃ e, (Engine.ofPackage r p).result = .ok e) ∨
      (∃ cause, (Engine.ofPackage r p).result = .error (.configuration cause)) ∨
      ∃ cause, (Engine.ofPackage r p).result = .error cause ∧ Unmade r p cause := by
  cases loads : r.load p.model with
  | error failure =>
    have failed := Engine.ofPackage_unloadable carries.specs loads
    by_cases expected : failure.OfLoading
    · rw [Engine.loadError_of_ofLoading expected] at failed
      exact .inr (.inl ⟨_, failed⟩)
    · rw [Engine.loadError_of_not_ofLoading expected] at failed
      exact .inr (.inr ⟨_, failed, .model loads expected⟩)
  | ok graph =>
    have result := Engine.result_ofPackage loads
    rw [carries.specs] at result
    cases made : Engine.ofSpecs graph r.memory (inputNames.map (inputSpec s type)) [outputSpec output] with
    | ok e =>
      refine .inl ⟨e, result.trans ?_⟩
      simp only [Except.mapError, bind, Except.bind, made]
    | error fault =>
      obtain ⟨spec, listed, denied⟩ := Engine.ofSpecs_error made
      obtain rfl := unallocatable_of_denied worded listed denied
      refine .inr (.inr ⟨_, result.trans ?_, .tensor loads carries.specs listed denied⟩)
      simp only [Except.mapError, bind, Except.bind, made]

/-- The output of an exported model is not quantized. -/
theorem Carries.unquantized {e : Engine} (carries : Carries m s type lines output p)
    (loaded : (Engine.ofPackage r p).result = .ok e) : ∀ t ∈ e.outputs, t.quantization = none := by
  have keeps : ∀ spec t, Slot.ofSpec r.memory spec = .ok t → t.quantization = spec.quantization := by
    intro spec t made
    obtain ⟨buffer, -, made⟩ := bind_ok_iff.mp made
    cases made
    rfl
  cases loads : r.load p.model with
  | error fault =>
    rw [Engine.ofPackage_unloadable carries.specs loads] at loaded
    cases loaded
  | ok graph =>
    rw [Engine.result_ofPackage loads, carries.specs] at loaded
    obtain ⟨-, outputs⟩ := Engine.map_ofSpecs keeps (mapError_ok_iff.mp loaded)
    intro t listed
    have kept := List.mem_map_of_mem (f := (·.quantization)) listed
    rw [outputs] at kept
    simpa [outputSpec] using kept

/-- What making a classifier of an exported package comes to. -/
theorem Carries.ofPackage_cases (carries : Carries m s type lines output p) (worded : Worded s output)
    (unit : o.unitIndex = 0) (first : o.outputIndex = 0) :
    (∃ c, (Classifier.ofPackage r p o).result = .ok c) ∨
      (∃ cause, (Classifier.ofPackage r p o).result = .error (.configuration cause)) ∨
      ∃ cause, (Classifier.ofPackage r p o).result = .error cause ∧ Unmade r p cause := by
  have described : p.metadata.unit? o.unitIndex = some (tokenizerUnit s.pattern) := unit ▸ carries.unit
  rcases carries.engine_cases (r := r) worded with ⟨e, loaded⟩ | ⟨cause, failed⟩ | ⟨cause, failed, unmade⟩
  · cases spelled : Descriptor.ofUnit (tokenizerUnit s.pattern) with
    | error cause =>
      have failed := tokenizerOf_undescribed (p := p) spelled
      exact .inr (.inl ⟨cause, Classifier.ofPackage_tokenizer_error loaded described failed⟩)
    | ok d =>
      have gives := Descriptor.gives d p
      rw [← tokenizerOf_described spelled] at gives
      cases made : (tokenizerOf (tokenizerUnit s.pattern) p).result with
      | ok t =>
        obtain ⟨labels, labelled⟩ := carries.labelled first
        rw [Classifier.ofPackage_result loaded described made labelled]
        cases InputLayout.resolve o p.metadata.inputs e.inputs with
        | ok layout => exact .inl ⟨_, rfl⟩
        | error cause => exact .inr (.inl ⟨cause, rfl⟩)
      | error cause =>
        have failed := Classifier.ofPackage_tokenizer_error loaded described made
        rw [made] at gives
        cases gives with
        | refusal refused => exact .inr (.inl ⟨_, failed⟩)
        | large found unread has =>
          exact .inr (.inr ⟨_, failed, .pattern loaded carries.unit spelled (.large found unread has)⟩)
        | long found unread has =>
          exact .inr (.inr ⟨_, failed, .pattern loaded carries.unit spelled (.long found unread has)⟩)
        | contradictory found contradicts =>
          exact .inr (.inr ⟨_, failed, .pattern loaded carries.unit spelled (.contradictory found contradicts)⟩)
  · exact .inr (.inl ⟨cause, Classifier.ofPackage_engine_error failed⟩)
  · exact .inr (.inr ⟨_, Classifier.ofPackage_engine_error failed, unmade⟩)

/-- What is unmade is not called wrong: its error comes out as it is. -/
theorem Unmade.result {cause : Error} (unmade : Unmade r p cause) (carries : Carries m s type lines output p)
    (worded : Worded s output) (unit : o.unitIndex = 0) : (Classifier.ofPackage r p o).result = .error cause := by
  cases unmade with
  | model fails other =>
    apply Classifier.ofPackage_engine_error
    rw [Engine.ofPackage_unloadable carries.specs fails, Engine.loadError_of_not_ofLoading other]
  | @tensor graph inputs outputs spec loads described listed denied =>
    have unavailable : ¬ ∃ e, (Engine.ofPackage r p).result = .ok e := by
      rw [Engine.exists_ofPackage_iff loads]
      rintro ⟨ins, outs, same, available⟩
      rw [described] at same
      cases same
      exact denied.not_available (available spec listed)
    apply Classifier.ofPackage_engine_error
    rcases carries.engine_cases (r := r) worded with made | ⟨cause, failed⟩ | ⟨cause, failed, unmade⟩
    · exact absurd made unavailable
    · rcases Engine.ofPackage_error loads failed with ⟨fault, undescribed, -⟩ | escapes
      · rw [described] at undescribed
        cases undescribed
      · cases escapes
    · cases unmade with
      | model fails => cases loads.symm.trans fails
      | tensor => exact failed
      | pattern engine => exact absurd ⟨_, engine⟩ unavailable
  | pattern engine found described gives =>
    rw [← unit] at found
    apply Classifier.ofPackage_tokenizer_error engine found
    rw [tokenizerOf_described described]
    exact gives.result

end Export
end TextClassifier
