import TextClassifier.Proofs.EngineHistory
import TextClassifier.Proofs.EscapingErrors

/-!
# What a run changes

A run that ends with an error about resources has changed nothing (`invoke_engine_of_refuses`): it was not
begun, or its graph failed, or there are more or fewer results than outputs (`Refuses`). A run that succeeds
puts the results of the graph into the outputs, in order, and changes nothing else (`invoke_engine_of_ok`).
-/
namespace TextClassifier
open Json Tensor

/-- The values that are returned: a tensor by itself is the only one, sequences have the order of their items
and mappings that of their members. A value that can be iterated otherwise gives no tensors. -/
inductive Returned.Lists : Returned → List Given → Prop
  | tensor (b : Buffer) : Lists (.tensor b) [.tensor b]
  | sequence (items : List Given) : Lists (.sequence items) items
  | mapping (members : List (String × Given)) : Lists (.mapping members) (members.map (·.2))
  | plain {v : Value} {items : List Value} (iterated : v.iterate = .ok items) :
      Lists (.plain v) (items.map fun _ => .other)

/-- What is returned lists exactly what going through it gives. -/
theorem Returned.lists_iff {returned : Returned} {given : List Given} :
    returned.Lists given ↔ returned.values = .ok given := by
  constructor
  · intro lists
    cases lists with
    | tensor | sequence | mapping => rfl
    | plain iterated =>
      rw [values, iterated]
      rfl
  · intro values
    cases returned with
    | tensor b =>
      cases values
      exact .tensor b
    | sequence items =>
      cases values
      exact .sequence _
    | mapping members =>
      cases values
      exact .mapping members
    | plain v =>
      obtain ⟨items, iterated, listed⟩ := bind_ok_iff.mp values
      cases listed
      exact .plain iterated

namespace Engine
variable {e : Engine} {cause : ResourceError}

/-- Why a run ends with an error about resources. -/
inductive Refuses (e : Engine) : ResourceError → Prop
  | unallocated (resized : e.allocated = false) : Refuses e .notAllocated
  | failed {failure : GraphFailure} (allocated : e.allocated = true)
      (raised : e.graph (e.inputs.map (·.buffer)) = .error failure) (expected : failure.OfRun) :
      Refuses e (.executionFailed failure.wording)
  | miscounted {returned : Returned} {given : List Given} (allocated : e.allocated = true)
      (produced : e.graph (e.inputs.map (·.buffer)) = .ok returned) (lists : returned.Lists given)
      (count : given.length ≠ e.outputs.length) : Refuses e (.outputCount given.length e.outputs.length)

/-- An allocated engine refuses a run for what the run reports. -/
theorem refuses_iff_reported (allocated : e.allocated = true) :
    e.Refuses cause ↔ Reported e.outputs.length (e.graph (e.inputs.map (·.buffer))) cause := by
  constructor
  · intro refuses
    cases refuses with
    | unallocated resized =>
      rw [allocated] at resized
      cases resized
    | failed _ raised expected =>
      rw [raised]
      exact .failed expected
    | miscounted _ produced lists count =>
      rw [produced]
      exact .miscounted (Returned.lists_iff.mp lists) count
  · intro reported
    generalize behaves : e.graph (e.inputs.map (·.buffer)) = behaviour at reported
    cases reported with
    | failed expected => exact .failed allocated behaves expected
    | miscounted values count => exact .miscounted allocated behaves (Returned.lists_iff.mpr values) count

/-- A run ends with an error about resources exactly if the engine refuses it. -/
theorem invoke_resource_iff : e.invoke.result = .error (.resource cause) ↔ e.Refuses cause := by
  cases allocated : e.allocated with
  | false =>
    rw [invoke_unallocated allocated]
    constructor
    · intro same
      cases same
      exact .unallocated allocated
    · intro refuses
      cases refuses with
      | unallocated => rfl
      | failed running | miscounted running =>
        rw [allocated] at running
        cases running
  | true =>
    rw [invoke_eq_iff allocated, refuses_iff_reported allocated]
    constructor
    · intro ran
      generalize e.graph (e.inputs.map (·.buffer)) = behaviour at ran ⊢
      cases ran with
      | reported reported => exact reported
      | uncaught uncaught => cases uncaught
    · exact .reported

/-- A run that is refused changes nothing. -/
theorem invoke_engine_of_refuses (refuses : e.Refuses cause) : e.invoke.engine = e := by
  cases refuses with
  | unallocated resized => rw [invoke_unallocated resized]
  | failed allocated raised expected => simp [invoke, produce, allocated, raised, runError_of_ofRun expected]
  | miscounted allocated produced lists count =>
    simp [invoke, produce, allocated, produced, Returned.lists_iff.mp lists, Except.mapError, count]

/-- A run that succeeds changes the outputs only. -/
theorem invoke_engine_of_ok {outputs : List Slot} (ran : e.invoke.result = .ok outputs) :
    e.invoke.engine = { e with outputs } := by
  unfold invoke at ran ⊢
  split at ran
  · cases ran
  rename_i allocated
  rw [if_neg allocated]
  split at ran
  · cases ran
  rename_i given produced
  split at ran
  · cases ran
  rename_i count
  split at ran
  · rename_i left stored
    cases ran
    simp [count]
  · cases ran

/-- A run that succeeds was asked for after an allocation, and its graph gave as many tensors as there are
outputs. -/
theorem exists_buffers_of_ok {outputs : List Slot} (ran : e.invoke.result = .ok outputs) :
    e.allocated = true ∧ ∃ (returned : Returned) (buffers : List Buffer), e.graph (e.inputs.map (·.buffer)) = .ok returned ∧
      returned.Lists (buffers.map .tensor) ∧ buffers.length = e.outputs.length ∧
      outputs = List.zipWith Slot.setResult e.outputs buffers := by
  cases allocated : e.allocated with
  | false =>
    rw [invoke_unallocated allocated] at ran
    cases ran
  | true =>
    rw [invoke_eq_iff allocated] at ran
    generalize behaves : e.graph (e.inputs.map (·.buffer)) = behaviour at ran
    cases ran with
    | stored values count => exact ⟨rfl, _, _, rfl, Returned.lists_iff.mpr values, count, rfl⟩

/-- A run that ends with an error about resources leaves the engine as it is: it asks for an allocation that is
due, or its graph fails, or does not give as many values as there are outputs. A run that succeeds only changes
the outputs. There are as many as the graph gives values, and each holds the tensor in its place among these,
with its shape. -/
theorem invoke_changes (e : Engine) :
    (∀ cause : ResourceError, e.invoke.result = .error (.resource cause) ↔ e.Refuses cause) ∧
    (∀ cause : ResourceError, e.invoke.result = .error (.resource cause) → e.invoke.engine = e) ∧
    ∀ outputs : List Slot, e.invoke.result = .ok outputs → e.invoke.engine = { e with outputs } ∧
      ∃ (returned : Returned) (buffers : List Buffer), e.graph (e.inputs.map (·.buffer)) = .ok returned ∧
        returned.Lists (buffers.map .tensor) ∧ buffers.length = e.outputs.length ∧
        outputs.length = e.outputs.length ∧
        ∀ (i : Nat) (s : Slot) (b : Buffer), e.outputs[i]? = some s → buffers[i]? = some b →
          outputs[i]? = some { s with buffer := b, shape := b.shape.map Int.ofNat } := by
  refine ⟨fun cause => invoke_resource_iff, fun cause failed => ?_, fun outputs ran => ?_⟩
  · exact invoke_engine_of_refuses (invoke_resource_iff.mp failed)
  · obtain ⟨-, returned, buffers, produced, lists, count, rfl⟩ := exists_buffers_of_ok ran
    refine ⟨invoke_engine_of_ok ran, returned, buffers, produced, lists, count, ?_, fun i s b declared given => ?_⟩
    · rw [List.length_zipWith, count, Nat.min_self]
    · rw [List.getElem?_zipWith, declared, given]
      rfl

end Engine
end TextClassifier
