import TextClassifier.Proofs.InputAcceptance

/-!
# Making a classifier

A classifier is made of an engine with zeros in all of its buffers (`Engine.fresh_ofPackage`), of a
tokenizer, labels and a layout (`madeOf`). Once the others are there, it is made exactly if the inputs
pass their checks, and the first check that fails gives the error its code.
-/
namespace TextClassifier
open Json Tensor Package

/-! ## New engines -/

/-- A tensor as it is declared, with zeros in its buffer, which its memory can hold. -/
structure Tensor.Slot.Fresh (memory : Option Nat) (s : Slot) : Prop where
  buffer : Buffer.allocate memory s.type.element s.shape = .ok s.buffer
  signature : s.signature.length = s.shape.length

theorem Tensor.Slot.fresh_ofSpec {memory : Option Nat} {spec : Spec} {s : Slot}
    (made : Slot.ofSpec memory spec = .ok s) : s.Fresh memory := by
  obtain ⟨buffer, allocated, made⟩ := bind_ok_iff.mp made
  cases made
  exact ⟨allocated, spec.length_signature⟩

namespace Engine

/-- An engine in which nothing has been done. -/
structure Fresh (e : Engine) : Prop where
  inputs : ∀ s ∈ e.inputs, s.Fresh e.memory
  allocated : e.allocated = true

theorem fresh_ofSpecs {graph : Graph} {memory : Option Nat} {inputs outputs : List Spec} {e : Engine}
    (made : ofSpecs graph memory inputs outputs = .ok e) :
    e.Fresh ∧ e.graph = graph ∧ e.memory = memory := by
  obtain ⟨slots, listed, made⟩ := bind_ok_iff.mp made
  obtain ⟨others, -, made⟩ := bind_ok_iff.mp made
  cases made
  refine ⟨⟨?_, rfl⟩, rfl, rfl⟩
  intro s member
  obtain ⟨spec, -, made⟩ := mem_of_mapM listed s member
  exact Slot.fresh_ofSpec made

/-- What every tensor keeps of its declaration, the tensors of an engine keep. -/
theorem map_ofSpecs {graph : Graph} {memory : Option Nat} {inputs outputs : List Spec} {e : Engine} {α : Type}
    {source : Spec → α} {view : Slot → α} (keeps : ∀ spec s, Slot.ofSpec memory spec = .ok s → view s = source spec)
    (made : ofSpecs graph memory inputs outputs = .ok e) :
    e.inputs.map view = inputs.map source ∧ e.outputs.map view = outputs.map source := by
  obtain ⟨slots, listed, made⟩ := bind_ok_iff.mp made
  obtain ⟨others, further, made⟩ := bind_ok_iff.mp made
  cases made
  exact ⟨map_of_mapM keeps listed, map_of_mapM keeps further⟩

theorem fresh_ofPackage {r : Runtime} {p : Package} {e : Engine}
    (loaded : (ofPackage r p).result = .ok e) : e.Fresh ∧ e.memory = r.memory := by
  simp only [ofPackage, Attempt.result_bind, Attempt.result_of] at loaded
  obtain ⟨specs, -, loaded⟩ := bind_ok_iff.mp loaded
  obtain ⟨graph, -, loaded⟩ := bind_ok_iff.mp loaded
  obtain ⟨-, -, loaded⟩ := bind_ok_iff.mp loaded
  obtain ⟨fresh, -, memory⟩ := fresh_ofSpecs (mapError_ok_iff.mp loaded)
  exact ⟨fresh, memory⟩

end Engine

/-! ## New classifiers -/

namespace Classifier
variable {r : Runtime} {p : Package} {o : Options}

/-- The checks of the inputs come last. -/
theorem ofPackage_result {e : Engine} {unit : ProcessUnit} {t : Tokenizer} {labels : Option (List String)}
    (loaded : (Engine.ofPackage r p).result = .ok e) (described : p.metadata.unit? o.unitIndex = some unit)
    (tokenized : (tokenizerOf unit p).result = .ok t) (labelled : (loadLabels p o).result = .ok labels) :
    (ofPackage r p o).result =
      match InputLayout.resolve o p.metadata.inputs e.inputs with
      | .ok layout => .ok ⟨p, o, e, t, labels, layout⟩
      | .error cause => .error (.configuration cause) := by
  rw [ofPackage, Attempt.result_bind, loaded]
  show (ofEngine p e o).result = _
  simp only [ofEngine, described, Attempt.result_bind, tokenized, labelled]
  show ((InputLayout.resolve o p.metadata.inputs e.inputs).mapError Error.configuration >>= _) = _
  cases InputLayout.resolve o p.metadata.inputs e.inputs with
  | ok layout => rfl
  | error cause => rfl

/-- What a classifier takes from a package and an engine. -/
structure MadeWith (p : Package) (e : Engine) (o : Options) (c : Classifier) : Prop where
  package : c.package = p
  options : c.options = o
  engine : c.engine = e
  tokenizer : ∃ unit, p.metadata.unit? o.unitIndex = some unit ∧ (tokenizerOf unit p).result = .ok c.tokenizer
  labels : (loadLabels p o).result = .ok c.labels
  layout : InputLayout.resolve o p.metadata.inputs e.inputs = .ok c.layout

theorem madeWith {e : Engine} {c : Classifier} (made : (ofEngine p e o).result = .ok c) : MadeWith p e o c := by
  simp only [ofEngine] at made
  cases described : p.metadata.unit? o.unitIndex with
  | none => simp [described] at made
  | some unit =>
    simp only [described, Attempt.result_bind, Attempt.result_of] at made
    obtain ⟨t, tokenized, made⟩ := bind_ok_iff.mp made
    obtain ⟨labels, labelled, made⟩ := bind_ok_iff.mp made
    obtain ⟨layout, resolved, made⟩ := bind_ok_iff.mp made
    cases made
    exact ⟨rfl, rfl, rfl, ⟨unit, described, tokenized⟩, labelled, mapError_ok_iff.mp resolved⟩

/-- What a classifier is made of. -/
structure MadeOf (r : Runtime) (p : Package) (o : Options) (c : Classifier) : Prop where
  package : c.package = p
  options : c.options = o
  engine : (Engine.ofPackage r p).result = .ok c.engine
  tokenizer : ∃ unit, p.metadata.unit? o.unitIndex = some unit ∧ (tokenizerOf unit p).result = .ok c.tokenizer
  labels : (loadLabels p o).result = .ok c.labels
  layout : InputLayout.resolve o p.metadata.inputs c.engine.inputs = .ok c.layout

theorem madeOf {c : Classifier} (made : (ofPackage r p o).result = .ok c) : MadeOf r p o c := by
  rw [ofPackage, Attempt.result_bind] at made
  obtain ⟨e, loaded, made⟩ := bind_ok_iff.mp made
  obtain ⟨package, options, rfl, tokenizer, labels, layout⟩ := madeWith made
  exact ⟨package, options, loaded, tokenizer, labels, layout⟩

theorem MadeWith.resolved {e : Engine} {c : Classifier} (made : MadeWith p e o c) (fresh : e.Fresh) :
    InputLayout.Resolved o p.metadata.inputs e.inputs c.layout := by
  have correct := InputLayout.resolve_correct o p.metadata.inputs fun s member => (fresh.inputs s member).signature
  rw [made.layout] at correct
  exact correct.2

theorem MadeOf.resolved {c : Classifier} (made : MadeOf r p o c) :
    InputLayout.Resolved o p.metadata.inputs c.engine.inputs c.layout := by
  have fresh := (Engine.fresh_ofPackage made.engine).1
  have parts : MadeWith p c.engine o c :=
    ⟨made.package, made.options, rfl, made.tokenizer, made.labels, made.layout⟩
  exact parts.resolved fresh

/-- Once there are an engine, a tokenizer and labels, a classifier is made exactly if all checks of the
inputs hold. Otherwise the first check that fails gives the error its code. The inputs of a classifier
are three different ones, and their lengths are those of the tensors. -/
theorem ofPackage_accepts (valid : o.Valid) {e : Engine} {unit : ProcessUnit} {t : Tokenizer}
    {labels : Option (List String)} (loaded : (Engine.ofPackage r p).result = .ok e)
    (described : p.metadata.unit? o.unitIndex = some unit) (tokenized : (tokenizerOf unit p).result = .ok t)
    (labelled : (loadLabels p o).result = .ok labels) :
    ((∃ c, (ofPackage r p o).result = .ok c) ↔
      ∀ check : InputLayout.Check, check.Holds o p.metadata.inputs e.inputs) ∧
    (¬ (∀ check : InputLayout.Check, check.Holds o p.metadata.inputs e.inputs) →
      ∃ check : InputLayout.Check, check.FirstFailing o p.metadata.inputs e.inputs ∧
        ∃ cause, (ofPackage r p o).result = .error (.configuration cause) ∧ cause.code = check.code) ∧
    ∀ c, (ofPackage r p o).result = .ok c →
      (FirstNamed p.metadata.inputs o.idsName c.layout.ids ∧
        FirstNamed p.metadata.inputs o.maskName c.layout.mask ∧
        FirstNamed p.metadata.inputs o.segmentIdsName c.layout.segmentIds) ∧
      c.layout.places.Nodup ∧ (∀ i ∈ c.layout.places, i < e.inputs.length) ∧
      (c.layout.mode = .dynamic ↔
        ∀ s, InputLayout.Chosen o p.metadata.inputs e.inputs s → InputLayout.Elastic s) ∧
      (c.layout.mode = .dynamic → c.layout.fixedLength? = none) ∧
      (c.layout.mode = .fixed → ∃ n : Nat, c.layout.fixedLength? = some n ∧
        ∀ s, InputLayout.Chosen o p.metadata.inputs e.inputs s → s.shape[1]? = some (n : Int)) := by
  have run := ofPackage_result loaded described tokenized labelled
  have declared := fun s member => ((Engine.fresh_ofPackage loaded).1.inputs s member).signature
  have correct := InputLayout.resolve_correct o p.metadata.inputs declared
  rw [run]
  cases found : InputLayout.resolve o p.metadata.inputs e.inputs with
  | error cause =>
    rw [found] at correct
    obtain ⟨check, first, code⟩ := correct
    refine ⟨⟨?_, fun hold => absurd (hold check) first.1⟩, fun _ => ⟨check, first, cause, rfl, code⟩, ?_⟩
    · rintro ⟨c, made⟩
      cases made
    · intro c made
      cases made
  | ok layout =>
    rw [found] at correct
    obtain ⟨hold, resolved⟩ := correct
    refine ⟨⟨fun _ => hold, fun _ => ⟨_, rfl⟩⟩, fun fails => absurd hold fails, ?_⟩
    intro c made
    cases made
    exact ⟨⟨resolved.ids, resolved.mask, resolved.segmentIds⟩, resolved.distinct valid.names,
      resolved.inside, resolved.dynamic_iff, InputLayout.fixedLength?_eq_none,
      resolved.fixedLength?_eq_some⟩

/-- A tensor as the description of a graph shows it. -/
def sampleTensor (name type : String) (shape signature : List Int) : Value :=
  .object [("name", .str name), ("dtype", .str type), ("shape", .array (shape.map .int)),
    ("shape_signature", .array (signature.map .int))]

/-- A tokenizer that cuts texts at blanks. -/
def sampleUnit : ProcessUnit where
  kind := .str "RegexTokenizerOptions"
  options := [(.str "delim_regex_pattern", .str " "),
    (.str "vocab_file", .array [.object [("name", .str "vocab.txt")]])]

/-- A package whose inputs are not in the order of their names and have another input between them. -/
def sample : Package where
  metadata := {
    inputs := [⟨.str "segment_ids", .str "", []⟩, ⟨.str "position", .str "", []⟩, ⟨.str "ids", .str "", []⟩,
      ⟨.str "mask", .str "", []⟩]
    units := [sampleUnit] }
  graph := .object [
    ("inputs", .array [sampleTensor "a" "int64" [1, 4] [1, -1], sampleTensor "b" "int32" [2] [2],
      sampleTensor "c" "int32" [1, 4] [1, -1], sampleTensor "d" "int32" [1, 4] [1, -1]]),
    ("outputs", .array [sampleTensor "probability" "float32" [1, 2] [1, 2]])]
  model := []
  files := [("vocab.txt", [97, 10, 98])]

/-- A runtime in which every graph gives its first input back. -/
def sampleRuntime : Runtime where
  load := fun _ => .ok fun
    | b :: _ => .ok (.tensor b)
    | [] => .ok (.sequence [])

/-- The checks hold of inputs in another order than their names. -/
theorem ofPackage_accepts_sample : ∃ e c, (Engine.ofPackage sampleRuntime sample).result = .ok e ∧
    (ofPackage sampleRuntime sample {}).result = .ok c ∧ c.layout.places.Nodup ∧
    ∀ check : InputLayout.Check, check.Holds {} sample.metadata.inputs e.inputs := by
  obtain ⟨e, loaded⟩ := exists_ok (r := (Engine.ofPackage sampleRuntime sample).result) (by decide +kernel)
  obtain ⟨t, tokenized⟩ := exists_ok (r := (tokenizerOf sampleUnit sample).result) (by decide +kernel)
  obtain ⟨labels, labelled⟩ := exists_ok (r := (loadLabels sample {}).result) (by decide +kernel)
  obtain ⟨c, made⟩ := exists_ok (r := (ofPackage sampleRuntime sample {}).result) (by decide +kernel)
  have described : sample.metadata.unit? 0 = some sampleUnit := rfl
  have accepts := ofPackage_accepts (by decide +kernel) loaded described tokenized labelled
  exact ⟨e, c, loaded, made, (accepts.2.2 c made).2.1, accepts.1.mp ⟨c, made⟩⟩

end Classifier
end TextClassifier
