import TextClassifier.Export
import TextClassifier.Proofs.Construction
import TextClassifier.Proofs.Declarations
import TextClassifier.Proofs.EngineOperations

/-!
# Classifiers of exported models

What a package holds that a model is exported as (`Packed`), and what a classifier with default options
is made of it: three inputs of one type in the order of ids, mask and segment ids, one output, and the
length that the export asks for. Tokenizer and labels only depend on units, outputs and files
(`tokenizerOf_congr`, `loadLabels_congr`).
-/
namespace TextClassifier
open Json Tensor Package

namespace Export
variable {m : Model} {tokens : Tokens} {s : ExportSettings} {p : Package} {type : DeclaredType}
  {lines : List String} {output : Buffer}

/-! ## Packages -/

/-- What a model is exported as, by the type of its inputs, the lines of its vocabulary and its output for
the example. -/
structure Packed (m : Model) (tokens : Tokens) (s : ExportSettings) (type : DeclaredType) (lines : List String)
    (output : Buffer) (p : Package) : Prop where
  holds : p = ⟨metadata s, graphDescription s type output, m.bytes, files s lines⟩
  typed : inputType s = .ok type
  listed : tokens.lines m.memory = .ok lines
  shown : ∃ inputs, exampleInputs m.memory type s.length = .ok inputs ∧ exampleOutput m.graph inputs = .ok output

theorem exists_packed (exported : (Export.package m tokens s).result = .ok p) :
    ∃ type lines output, Packed m tokens s type lines output p := by
  simp only [Export.package, Attempt.result_bind, Attempt.result_of] at exported
  obtain ⟨⟨q, output⟩, packed, exported⟩ := bind_ok_iff.mp exported
  obtain ⟨-, -, exported⟩ := bind_ok_iff.mp exported
  cases exported
  obtain ⟨type, typed, packed⟩ := bind_ok_iff.mp packed
  obtain ⟨inputs, example_inputs, packed⟩ := bind_ok_iff.mp packed
  obtain ⟨output, example_output, packed⟩ := bind_ok_iff.mp packed
  obtain ⟨lines, listed, packed⟩ := bind_ok_iff.mp packed
  cases packed
  exact ⟨type, lines, output, rfl, mapError_ok_iff.mp typed, mapError_ok_iff.mp listed, inputs,
    mapError_ok_iff.mp example_inputs, example_output⟩

theorem Packed.exported (packed : Packed m tokens s type lines output p) :
    (Export.package m tokens s).result = .ok p := by
  obtain ⟨rfl, typed, listed, inputs, example_inputs, example_output⟩ := packed
  have made : packageOf m tokens s =
      .ok (⟨metadata s, graphDescription s type output, m.bytes, files s lines⟩, output) := by
    refine bind_ok_iff.mpr ⟨type, mapError_ok_iff.mpr typed, ?_⟩
    refine bind_ok_iff.mpr ⟨inputs, mapError_ok_iff.mpr example_inputs, ?_⟩
    refine bind_ok_iff.mpr ⟨output, example_output, ?_⟩
    exact bind_ok_iff.mpr ⟨lines, mapError_ok_iff.mpr listed, rfl⟩
  simp only [Export.package, Attempt.result_bind, Attempt.result_of, made]
  rfl

/-- The declared shape and signature of an input. -/
def inputShape (s : ExportSettings) : List Int × List Int :=
  if s.dynamic then ([1, 1], [1, -1]) else ([1, s.length], [1, s.length])

/-- The declaration of an input. -/
def inputSpec (s : ExportSettings) (type : DeclaredType) (name : String) : Spec where
  name := .str ("serving_default_" ++ name ++ ":0")
  type := type
  shape := (inputShape s).1
  signature := (inputShape s).2
  quantization := none
  length_signature := by cases dynamic : s.dynamic <;> simp [inputShape, dynamic]

def outputSpec (output : Buffer) : Spec :=
  ⟨.str "StatefulPartitionedCall:0", (DeclaredType.ofElement? output.type).getD .float32, shapeOf output,
    shapeOf output, none, rfl⟩

theorem inputDeclaration_eq (s : ExportSettings) (type : DeclaredType) (name : String) :
    inputDeclaration s type name = (inputSpec s type name).toValue := by
  cases dynamic : s.dynamic <;> simp only [inputDeclaration, Spec.toValue, inputSpec, inputShape, dynamic] <;> rfl

/-- The description of an exported graph declares its three inputs and its output. -/
theorem specsOf_graphDescription (s : ExportSettings) (type : DeclaredType) (output : Buffer) :
    Engine.specsOf (graphDescription s type output) = .ok (inputNames.map (inputSpec s type), [outputSpec output]) := by
  have inputs : Engine.specsUnder "inputs" (graphDescription s type output) =
      .ok (inputNames.map (inputSpec s type)) := by
    show (inputNames.map (inputDeclaration s type)).mapM Spec.ofValue = _
    rw [List.mapM_map]
    refine mapM_ok fun name _ => ?_
    rw [Function.comp_apply, inputDeclaration_eq, Spec.ofValue_toValue]
  have outputs : Engine.specsUnder "outputs" (graphDescription s type output) = .ok [outputSpec output] := by
    show [(outputSpec output).toValue].mapM Spec.ofValue = _
    rw [List.mapM_cons, Spec.ofValue_toValue]
    rfl
  rw [Engine.specsOf, inputs, outputs]
  rfl

/-! ## Engines -/

theorem Packed.engine {r : Runtime} {e : Engine} (packed : Packed m tokens s type lines output p)
    (loaded : (Engine.ofPackage r p).result = .ok e) :
    r.load m.bytes = .ok e.graph ∧ e.memory = r.memory ∧
      Engine.ofSpecs e.graph r.memory (inputNames.map (inputSpec s type)) [outputSpec output] = .ok e := by
  have described : Engine.specsOf p.graph = .ok (inputNames.map (inputSpec s type), [outputSpec output]) := by
    rw [packed.holds, specsOf_graphDescription]
  have bytes : p.model = m.bytes := by rw [packed.holds]
  simp only [Engine.ofPackage, Attempt.result_bind, Attempt.result_of, described, bytes] at loaded
  obtain ⟨specs, ⟨⟩, loaded⟩ := bind_ok_iff.mp loaded
  obtain ⟨graph, read, loaded⟩ := bind_ok_iff.mp loaded
  obtain ⟨-, -, loaded⟩ := bind_ok_iff.mp loaded
  have made := mapError_ok_iff.mp loaded
  obtain ⟨-, rfl, memory⟩ := Engine.fresh_ofSpecs made
  exact ⟨mapError_ok_iff.mp read, memory, made⟩

/-! ## Classifiers -/

/-- The lengths that a classifier of an exported model has. -/
def lengthOf (s : ExportSettings) : Length := if s.dynamic then .dynamic else .fixed s.length.toNat

/-- What a classifier with default options is of an exported model: three inputs of one type, one output,
and sequences in the order of the inputs. -/
structure Made (r : Runtime) (m : Model) (s : ExportSettings) (type : DeclaredType) (c : Classifier) : Prop where
  graph : r.load m.bytes = .ok c.engine.graph
  memory : c.engine.memory = r.memory
  inputs : ∃ a b g, c.engine.inputs = [a, b, g] ∧
    ∀ i ∈ [a, b, g], i.type = type ∧ i.shape = (inputShape s).1 ∧ i.signature = (inputShape s).2 ∧ i.Fresh r.memory
  output : ∃ t, c.engine.outputs = [t] ∧ t.name = .str "StatefulPartitionedCall:0" ∧ t.quantization = none
  layout : c.layout = ⟨0, 1, 2, lengthOf s⟩

private theorem ofSpec_kept (memory : Option Nat) (spec : Spec) (t : Slot) (made : Slot.ofSpec memory spec = .ok t) :
    (t.name, t.type, t.shape, t.signature, t.quantization) =
      (spec.name, spec.type, spec.shape, spec.signature, spec.quantization) := by
  obtain ⟨buffer, -, made⟩ := bind_ok_iff.mp made
  cases made
  rfl

/-- A tensor that is declared for an export takes the sequences of its lengths and no others. -/
theorem length_of_takes {l : InputLayout} {t : Slot} {memory : Option Nat} (shape : t.shape = (inputShape s).1)
    (signature : t.signature = (inputShape s).2) (fresh : t.Fresh memory) (takes : l.Takes t) :
    l.length = lengthOf s := by
  cases dynamic : s.dynamic with
  | true =>
    simp only [inputShape, dynamic, if_true] at signature
    cases length : l.length with
    | dynamic => simp [lengthOf, dynamic]
    | fixed n =>
      rw [InputLayout.Takes, length] at takes
      obtain ⟨d, declared, rigid⟩ := takes.2.1
      simp only [signature, List.getElem?_cons_succ, List.getElem?_cons_zero, Option.some.injEq] at declared
      exact absurd declared.symm rigid
  | false =>
    simp only [inputShape, dynamic, Bool.false_eq_true, if_false] at shape signature
    cases length : l.length with
    | fixed n =>
      rw [InputLayout.Takes, length, shape] at takes
      simp only [List.cons.injEq, true_and, and_true] at takes
      simp [lengthOf, dynamic, takes.1]
    | dynamic =>
      -- No tensor has the length of minus one that its signature would have to ask for.
      rw [InputLayout.Takes, length, InputLayout.Elastic, signature] at takes
      simp only [List.getElem?_cons_succ, List.getElem?_cons_zero, Option.some.injEq] at takes
      have natural := (Buffer.allocate_ok_iff.mp fresh.buffer).2.1
      rw [shape, takes.2] at natural
      exact absurd (natural dynamicDimension (by simp)) (by decide)

theorem firstNamed_inputs (s : ExportSettings) : FirstNamed (metadata s).inputs "ids" 0 ∧
    FirstNamed (metadata s).inputs "mask" 1 ∧ FirstNamed (metadata s).inputs "segment_ids" 2 := by
  refine ⟨⟨rfl, ?_⟩, ⟨rfl, ?_⟩, ⟨rfl, ?_⟩⟩
  · intro j earlier
    cases earlier
  · intro j earlier
    obtain rfl : j = 0 := by omega
    simp [metadata]
  · intro j earlier
    obtain rfl | rfl : j = 0 ∨ j = 1 := by omega
    · simp [metadata]
    · simp [metadata]

/-- A classifier of a packed export has the tokenizer, the labels and the layout that were packed. -/
theorem Packed.made {r : Runtime} {c : Classifier} (packed : Packed m tokens s type lines output p)
    (made : Classifier.MadeOf r p {} c) : Made r m s type c := by
  obtain ⟨loaded, memory, specs⟩ := packed.engine made.engine
  obtain ⟨inputs, outputs⟩ := Engine.map_ofSpecs (ofSpec_kept r.memory) specs
  have fresh := (Engine.fresh_ofPackage made.engine).1.inputs
  have resolved := made.resolved
  rw [packed.holds] at resolved
  obtain ⟨ids, mask, segmentIds⟩ := firstNamed_inputs s
  have places : c.layout.ids = 0 ∧ c.layout.mask = 1 ∧ c.layout.segmentIds = 2 :=
    ⟨resolved.ids.place_unique ids, resolved.mask.place_unique mask, resolved.segmentIds.place_unique segmentIds⟩
  obtain ⟨a, rest, listed, first, others⟩ := List.map_eq_cons_iff.mp inputs
  obtain ⟨b, rest, rfl, second, others⟩ := List.map_eq_cons_iff.mp others
  obtain ⟨g, rest, rfl, third, others⟩ := List.map_eq_cons_iff.mp others
  obtain rfl := List.map_eq_nil_iff.mp others
  obtain ⟨t, rest, shown, only, others⟩ := List.map_eq_cons_iff.mp outputs
  obtain rfl := List.map_eq_nil_iff.mp others
  have each : ∀ i ∈ [a, b, g],
      i.type = type ∧ i.shape = (inputShape s).1 ∧ i.signature = (inputShape s).2 ∧ i.Fresh r.memory := by
    intro i member
    have kept : i.type = type ∧ i.shape = (inputShape s).1 ∧ i.signature = (inputShape s).2 := by
      simp only [Prod.mk.injEq] at first second third
      simp only [List.mem_cons, List.not_mem_nil, or_false] at member
      rcases member with rfl | rfl | rfl
      · exact ⟨first.2.1, first.2.2.1, first.2.2.2.1⟩
      · exact ⟨second.2.1, second.2.2.1, second.2.2.2.1⟩
      · exact ⟨third.2.1, third.2.2.1, third.2.2.2.1⟩
    exact ⟨kept.1, kept.2.1, kept.2.2, memory ▸ fresh i (listed ▸ member)⟩
  obtain ⟨taken, found, takes⟩ := resolved.rows c.layout.ids c.layout.mem_places.1
  obtain ⟨-, shape, signature, new⟩ := each taken (listed ▸ List.mem_of_getElem? found)
  have length := length_of_takes shape signature new takes
  simp only [Prod.mk.injEq] at only
  refine ⟨loaded, memory, ⟨a, b, g, listed, each⟩, ⟨t, shown, only.1, only.2.2.2.2⟩, ?_⟩
  cases laid : c.layout with
  | mk i m g n =>
    simp only [laid] at places length
    rw [places.1, places.2.1, places.2.2, length]

end Export
end TextClassifier
