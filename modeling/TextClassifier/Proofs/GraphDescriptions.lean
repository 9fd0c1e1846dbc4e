import TextClassifier.Proofs.Construction
import TextClassifier.Proofs.EngineOperations
import TextClassifier.Proofs.UntypedFaults

/-!
# Graph descriptions of any kind

A graph description is any untyped value. An engine is made of it exactly if it declares tensors and these can be
had (`Spec.Available`). Where it declares none, the package is called invalid, with one exception: a number that
is too large for its place passes as it is (`Engine.IsOversized`). So does the fault of a declared tensor that
cannot be had, since the buffers are made after the description has been read.
-/
namespace TextClassifier
open Json Tensor

/-! ## Declarations -/

namespace Tensor.Spec
variable {v : Value} {fault : Fault} {memory : Option Nat}

/-- A list of dimensions with an infinite number. -/
def HasInfinite (v : Value) : Prop := ∃ items, v = .array items ∧ ∃ d ∈ items, d.IsInfinite

/-- A scale and a zero point one of which is too large. -/
def HasOversized (v : Value) : Prop :=
  ∃ scale zeroPoint, v = .array [scale, zeroPoint] ∧ (scale.ExceedsFloats ∨ zeroPoint.IsInfinite)

/-- A declaration with a number that is too large for its place. -/
def IsOversized (v : Value) : Prop :=
  ∃ members, v = .object members ∧
    ((∃ key ∈ ["shape", "shape_signature"], ∃ dims, Value.lookup key members = some dims ∧ HasInfinite dims) ∨
      ∃ q, Value.lookup "quantization" members = some q ∧ HasOversized q)

theorem IsOversized.not_text (oversized : IsOversized v) (s : String) : v ≠ .str s := by
  rintro rfl
  obtain ⟨_, ⟨⟩, -⟩ := oversized

/-- A tensor can be had as it is declared: its dimensions are natural words that can be counted with, and memory has
room for it. -/
structure Available (memory : Option Nat) (s : Spec) : Prop where
  words : ∀ d ∈ s.shape, Number.fitsSigned 64 d = true
  natural : ∀ d ∈ s.shape, 0 ≤ d
  countable : Buffer.isCountable (s.shape.map Int.toNat) = true
  room : ∀ limit ∈ memory, Buffer.byteCount s.type.element (s.shape.map Int.toNat) < limit

/-- The fault of a tensor that cannot be had. -/
inductive Denied (memory : Option Nat) (s : Spec) : Fault → Prop
  | word {d : Int} (listed : d ∈ s.shape) (wide : Number.fitsSigned 64 d = false) : Denied memory s .mistyped
  | negative {d : Int} (listed : d ∈ s.shape) (negative : d < 0) : Denied memory s .unallocatable
  | uncountable (uncountable : Buffer.isCountable (s.shape.map Int.toNat) = false) : Denied memory s .unallocatable
  | short {limit : Nat} (limited : memory = some limit)
      (short : limit ≤ Buffer.byteCount s.type.element (s.shape.map Int.toNat)) : Denied memory s .unallocatable

theorem Denied.not_available {s : Spec} (denied : s.Denied memory fault) : ¬ s.Available memory := by
  intro available
  cases denied with
  | word listed wide => simp [available.words _ listed] at wide
  | negative listed negative => exact absurd (available.natural _ listed) (by omega)
  | uncountable uncountable => simp [available.countable] at uncountable
  | short limited short => exact absurd (available.room _ limited) (by omega)

theorem readType_error {name type : Value} (failed : readType name type = .error fault) : fault.OfValue := by
  unfold readType at failed
  split at failed
  · cases failed
    exact .mistyped
  split at failed
  · split at failed
    · cases failed
    · cases failed
      exact .stated _
  · cases failed
    exact .stated _

theorem readShape_error (failed : readShape v = .error fault) :
    fault.OfValue ∨ fault = .tooLarge ∧ HasInfinite v := by
  rcases bind_error_iff.mp failed with failed | ⟨items, iterated, failed⟩
  · exact .inl (Value.iterate_error failed)
  obtain ⟨d, listed, failed⟩ := exists_of_mapM_error failed
  refine (Value.toInt_error failed).imp_right fun ⟨large, infinite⟩ => ⟨large, items, ?_, d, listed, infinite⟩
  exact Value.array_of_iterate iterated listed infinite.not_text

/-- What is wrong with a quantization is wrong with a value in it, or one of its numbers is too large. -/
theorem readQuantization_error (failed : readQuantization v = .error fault) :
    fault.OfValue ∨ fault = .tooLarge ∧ HasOversized v := by
  rcases bind_error_iff.mp failed with failed | ⟨items, iterated, failed⟩
  · exact .inl (Value.iterate_error failed)
  split at failed
  · rename_i scale zeroPoint
    have listed : scale ∈ [scale, zeroPoint] ∧ zeroPoint ∈ [scale, zeroPoint] := by simp
    rcases bind_error_iff.mp failed with failed | ⟨x, -, failed⟩
    · refine (Value.toFloat_error failed).imp_right fun ⟨large, exceeds⟩ =>
        ⟨large, scale, zeroPoint, ?_, .inl exceeds⟩
      exact Value.array_of_iterate iterated listed.1 exceeds.not_text
    rcases bind_error_iff.mp failed with failed | ⟨n, -, failed⟩
    · refine (Value.toInt_error failed).imp_right fun ⟨large, infinite⟩ =>
        ⟨large, scale, zeroPoint, ?_, .inr infinite⟩
      exact Value.array_of_iterate iterated listed.2 infinite.not_text
    · cases failed
  · cases failed
    exact .inl .unusable

theorem make_eq (name type shape : Value) (signature quantization : Option Value) :
    make name type shape signature quantization =
      readType name type >>= fun declared => readShape shape >>= fun dims =>
        signature.elim (.ok dims) readShape >>= fun varying =>
          if h : varying.length = dims.length then
            quantization.elim (.ok none) (fun v => (readQuantization v).map some) >>= fun q =>
              .ok ⟨name, declared, dims, varying, q, h⟩
          else .error (.stated ("Tensor " ++ name.display ++ " has shape " ++ bracketed dims ++
            " but signature " ++ bracketed varying)) := by
  cases signature <;> cases quantization <;> rfl

/-- What is wrong with a declaration is wrong with a value in it, or one of its numbers is too large. -/
theorem make_error {name type shape : Value} {signature quantization : Option Value}
    (failed : make name type shape signature quantization = .error fault) :
    fault.OfValue ∨ fault = .tooLarge ∧
      (HasInfinite shape ∨ (∃ dims, signature = some dims ∧ HasInfinite dims) ∨
        ∃ q, quantization = some q ∧ HasOversized q) := by
  rw [make_eq] at failed
  rcases bind_error_iff.mp failed with failed | ⟨declared, -, failed⟩
  · exact .inl (readType_error failed)
  rcases bind_error_iff.mp failed with failed | ⟨dims, -, failed⟩
  · exact (readShape_error failed).imp_right fun ⟨large, infinite⟩ => ⟨large, .inl infinite⟩
  rcases bind_error_iff.mp failed with failed | ⟨varying, -, failed⟩
  · cases signature with
    | none => cases failed
    | some v =>
      exact (readShape_error failed).imp_right fun ⟨large, infinite⟩ => ⟨large, .inr (.inl ⟨v, rfl, infinite⟩)⟩
  split at failed
  · rcases bind_error_iff.mp failed with failed | ⟨q, -, failed⟩
    · cases quantization with
      | none => cases failed
      | some v =>
        exact (readQuantization_error (map_error_iff.mp failed)).imp_right fun ⟨large, oversized⟩ =>
          ⟨large, .inr (.inr ⟨v, rfl, oversized⟩)⟩
    · cases failed
  · cases failed
    exact .inl (.stated _)

theorem present?_some {o : Option Value} {w : Value} (present : present? o = some w) : o = some w := by
  unfold present? at present
  split at present
  · cases present
  · exact present

theorem ofValue_error (failed : ofValue v = .error fault) : fault.OfValue ∨ fault = .tooLarge ∧ IsOversized v := by
  rcases bind_error_iff.mp failed with failed | ⟨name, named, failed⟩
  · exact .inl (Value.required_error failed)
  rcases bind_error_iff.mp failed with failed | ⟨type, -, failed⟩
  · exact .inl (Value.required_error failed)
  rcases bind_error_iff.mp failed with failed | ⟨shape, shaped, failed⟩
  · exact .inl (Value.required_error failed)
  obtain ⟨members, rfl, -⟩ := Value.required_ok_iff.mp named
  obtain ⟨_, ⟨rfl⟩, found⟩ := Value.required_ok_iff.mp shaped
  refine (make_error failed).imp_right fun ⟨large, oversized⟩ => ⟨large, members, rfl, ?_⟩
  rcases oversized with infinite | ⟨dims, present, infinite⟩ | ⟨q, present, oversized⟩
  · exact .inl ⟨"shape", by simp, shape, found, infinite⟩
  · exact .inl ⟨"shape_signature", by simp, dims, present?_some present, infinite⟩
  · exact .inr ⟨q, present?_some present, oversized⟩

/-! ## Tensors that are declared -/

theorem available_iff {s : Spec} : s.Available memory ↔ ∃ slot, Slot.ofSpec memory s = .ok slot := by
  constructor
  · rintro ⟨words, natural, countable, room⟩
    exact ⟨_, bind_ok_iff.mpr ⟨_, Buffer.allocate_ok_iff.mpr ⟨words, natural, countable, room, rfl⟩, rfl⟩⟩
  · rintro ⟨slot, made⟩
    obtain ⟨b, allocated, -⟩ := bind_ok_iff.mp made
    obtain ⟨words, natural, countable, room, -⟩ := Buffer.allocate_ok_iff.mp allocated
    exact ⟨words, natural, countable, room⟩

/-- A tensor that cannot be made is denied. -/
theorem denied_of_error {s : Spec} (failed : Slot.ofSpec memory s = .error fault) : s.Denied memory fault := by
  rcases bind_error_iff.mp failed with failed | ⟨b, -, failed⟩
  · rw [Buffer.allocate] at failed
    split at failed
    · rename_i wide
      cases failed
      obtain ⟨d, listed, wide⟩ := List.any_eq_true.mp wide
      exact .word listed (by simpa using wide)
    split at failed
    · rename_i negative
      cases failed
      obtain ⟨d, listed, negative⟩ := List.any_eq_true.mp negative
      exact .negative listed (of_decide_eq_true negative)
    split at failed
    · rename_i uncountable
      cases failed
      exact .uncountable (by simpa using uncountable)
    split at failed
    · rename_i short
      cases failed
      cases memory with
      | none => cases short
      | some limit => exact .short rfl (of_decide_eq_true short)
    · cases failed
  · cases failed

end Tensor.Spec

/-! ## Engines -/

namespace Engine
variable {r : Runtime} {p : Package} {graph : Graph} {v : Value} {fault : Fault}

/-- A graph description that declares a tensor with a number that is too large for its place. -/
def IsOversized (v : Value) : Prop :=
  ∃ members, v = .object members ∧ ∃ key ∈ ["inputs", "outputs"], ∃ tensors,
    Value.lookup key members = some (.array tensors) ∧ ∃ t ∈ tensors, Spec.IsOversized t

theorem specsUnder_error {key : String} (listed : key ∈ ["inputs", "outputs"])
    (failed : specsUnder key v = .error fault) : fault.OfValue ∨ fault = .tooLarge ∧ IsOversized v := by
  rcases bind_error_iff.mp failed with failed | ⟨tensors, held, failed⟩
  · exact .inl (Value.required_error failed)
  rcases bind_error_iff.mp failed with failed | ⟨items, iterated, failed⟩
  · exact .inl (Value.iterate_error failed)
  obtain ⟨t, member, failed⟩ := exists_of_mapM_error failed
  refine (Spec.ofValue_error failed).imp_right fun ⟨large, oversized⟩ => ⟨large, ?_⟩
  obtain ⟨members, rfl, found⟩ := Value.required_ok_iff.mp held
  obtain rfl := Value.array_of_iterate iterated member oversized.not_text
  exact ⟨members, rfl, key, listed, items, found, t, member, oversized⟩

theorem specsOf_error (failed : specsOf v = .error fault) : fault.OfValue ∨ fault = .tooLarge ∧ IsOversized v := by
  rcases bind_error_iff.mp failed with failed | ⟨inputs, -, failed⟩
  · exact specsUnder_error (by simp) failed
  rcases bind_error_iff.mp failed with failed | ⟨outputs, -, failed⟩
  · exact specsUnder_error (by simp) failed
  · cases failed

theorem descriptionError_ofValue (data : fault.OfValue) :
    descriptionError fault = .configuration (.malformedGraph fault) := by
  cases data <;> rfl

theorem ofSpecs_error {memory : Option Nat} {inputs outputs : List Spec}
    (failed : ofSpecs graph memory inputs outputs = .error fault) : ∃ s ∈ inputs ++ outputs, s.Denied memory fault := by
  rcases bind_error_iff.mp failed with failed | ⟨slots, -, failed⟩
  · obtain ⟨s, listed, failed⟩ := exists_of_mapM_error failed
    exact ⟨s, List.mem_append_left _ listed, Spec.denied_of_error failed⟩
  rcases bind_error_iff.mp failed with failed | ⟨others, -, failed⟩
  · obtain ⟨s, listed, failed⟩ := exists_of_mapM_error failed
    exact ⟨s, List.mem_append_right _ listed, Spec.denied_of_error failed⟩
  · cases failed

theorem ofSpecs_ok_iff {memory : Option Nat} {inputs outputs : List Spec} :
    (∃ e, ofSpecs graph memory inputs outputs = .ok e) ↔ ∀ s ∈ inputs ++ outputs, s.Available memory := by
  simp only [List.forall_mem_append, Spec.available_iff, ← exists_mapM_iff]
  constructor
  · rintro ⟨e, made⟩
    obtain ⟨slots, made_inputs, made⟩ := bind_ok_iff.mp made
    obtain ⟨others, made_outputs, -⟩ := bind_ok_iff.mp made
    exact ⟨⟨slots, made_inputs⟩, others, made_outputs⟩
  · rintro ⟨⟨slots, made_inputs⟩, others, made_outputs⟩
    exact ⟨_, bind_ok_iff.mpr ⟨slots, made_inputs, bind_ok_iff.mpr ⟨others, made_outputs, rfl⟩⟩⟩

/-- What making an engine comes to once the model loads. -/
theorem result_ofPackage (loads : r.load p.model = .ok graph) :
    (ofPackage r p).result = (specsOf p.graph).mapError descriptionError >>= fun specs =>
      (ofSpecs graph r.memory specs.1 specs.2).mapError .fault := by
  simp only [ofPackage, Attempt.result_bind, Attempt.result_of, loads]
  rfl

/-- The errors about a graph description that are not wrapped. -/
inductive Escapes (memory : Option Nat) (description : Value) : Error → Prop
  | oversized (failed : specsOf description = .error .tooLarge) (oversized : IsOversized description) :
    Escapes memory description (.fault .tooLarge)
  | denied {inputs outputs : List Spec} {s : Spec} {fault : Fault}
    (declared : specsOf description = .ok (inputs, outputs)) (listed : s ∈ inputs ++ outputs)
    (denied : s.Denied memory fault) : Escapes memory description (.fault fault)

theorem exists_ofPackage_iff (loads : r.load p.model = .ok graph) :
    (∃ e, (ofPackage r p).result = .ok e) ↔ ∃ inputs outputs,
      specsOf p.graph = .ok (inputs, outputs) ∧ ∀ s ∈ inputs ++ outputs, s.Available r.memory := by
  simp only [result_ofPackage loads, exists_bind_ok_iff, mapError_ok_iff, ofSpecs_ok_iff, Prod.exists]

/-- An engine is not made because the description is malformed, or because something escapes. -/
theorem ofPackage_error {cause : Error} (loads : r.load p.model = .ok graph)
    (failed : (ofPackage r p).result = .error cause) :
    (∃ fault, specsOf p.graph = .error fault ∧ fault.OfValue ∧ cause = .configuration (.malformedGraph fault)) ∨
      Escapes r.memory p.graph cause := by
  rw [result_ofPackage loads] at failed
  rcases bind_error_iff.mp failed with failed | ⟨⟨inputs, outputs⟩, declared, failed⟩
  · obtain ⟨fault, undeclared, rfl⟩ := mapError_error_iff.mp failed
    rcases specsOf_error undeclared with data | ⟨rfl, oversized⟩
    · exact .inl ⟨fault, undeclared, data, descriptionError_ofValue data⟩
    · exact .inr (.oversized undeclared oversized)
  · obtain ⟨fault, unmade, rfl⟩ := mapError_error_iff.mp failed
    obtain ⟨s, listed, denied⟩ := ofSpecs_error unmade
    exact .inr (.denied (mapError_ok_iff.mp declared) listed denied)

/-- Once its model loads, a package gives an engine exactly if its graph description declares tensors and all of
these can be had. If it declares none, its fault is wrapped, and the package is invalid. What is not wrapped is a
number that is too large for its place, and the fault of a declared tensor that cannot be had. -/
theorem ofPackage_loaded (loads : r.load p.model = .ok graph) :
    ((∃ e, (ofPackage r p).result = .ok e) ↔ ∃ inputs outputs,
      specsOf p.graph = .ok (inputs, outputs) ∧ ∀ s ∈ inputs ++ outputs, s.Available r.memory) ∧
    (∀ cause, (ofPackage r p).result = .error (.configuration cause) ↔
      ∃ fault, specsOf p.graph = .error fault ∧ fault.OfValue ∧ cause = .malformedGraph fault) ∧
    (∀ cause, (ofPackage r p).result = .error cause →
      (∃ refused, cause = .configuration refused ∧ refused.code = .invalidModelPackage) ∨
        Escapes r.memory p.graph cause) := by
  refine ⟨exists_ofPackage_iff loads, fun cause => ⟨fun failed => ?_, ?_⟩, fun cause failed => ?_⟩
  · rcases ofPackage_error loads failed with ⟨fault, undeclared, data, same⟩ | escapes
    · exact ⟨fault, undeclared, data, Error.configuration.inj same⟩
    · cases escapes
  · rintro ⟨fault, undeclared, data, rfl⟩
    rw [result_ofPackage loads, undeclared, ← descriptionError_ofValue data]
    rfl
  · exact (ofPackage_error loads failed).imp_left fun ⟨fault, _, _, same⟩ => ⟨.malformedGraph fault, same, rfl⟩

/-- The sample with one input of a shape and without outputs. -/
def sampleShaped (shape : Value) : Package :=
  { Classifier.sample with
    graph := .object [
      ("inputs", .array [.object [("name", .str "a"), ("dtype", .str "int32"), ("shape", shape)]]),
      ("outputs", .array [])] }

/-- A shape that is a text of digits is taken, and one with a text that is no number is called malformed. -/
theorem ofPackage_loaded_sample :
    (∃ e, (ofPackage Classifier.sampleRuntime (sampleShaped (.str "12"))).result = .ok e) ∧
    (ofPackage Classifier.sampleRuntime (sampleShaped (.array [.str "a"]))).result =
      .error (.configuration (.malformedGraph .unusable)) := by
  obtain ⟨inputs, declared, shapes⟩ := exists_ok_of_map (r := specsOf (sampleShaped (.str "12")).graph)
    (f := fun specs => (specs.1 ++ specs.2).map (·.shape)) (y := [[1, 2]]) (by decide +kernel)
  obtain ⟨s, only, shape⟩ := List.map_eq_singleton_iff.mp shapes
  constructor
  · refine (ofPackage_loaded rfl).1.mpr ⟨_, _, declared, ?_⟩
    rw [only, List.forall_mem_singleton]
    refine ⟨?_, ?_, ?_, nofun⟩ <;>
    · rw [shape]
      decide
  · exact ((ofPackage_loaded rfl).2.1 _).mpr ⟨.unusable, by rfl, .unusable, rfl⟩

/-- A negative dimension and an infinite one pass. -/
theorem ofPackage_unwrapped :
    (ofPackage Classifier.sampleRuntime (sampleShaped (.array [.int (-1), .int 2]))).result =
      .error (.fault .unallocatable) ∧
    (ofPackage Classifier.sampleRuntime (sampleShaped (.array [.float (Number.infinity false)]))).result =
      .error (.fault .tooLarge) :=
  ⟨rfl, rfl⟩

end Engine
end TextClassifier
