import Mathlib.Data.List.Forall2
import TextClassifier.Proofs.Construction
import TextClassifier.Proofs.EngineOperations

/-!
# What an engine goes through

An engine is resized, allocated, filled and run in any order, and each of these operations may fail
(`Operation`). What an operation can do to an engine is said once (`Step`, `Operation.step`); whatever
holds after every history follows from it, one case for each kind of step. So tensors stay as they are
declared, buffers have the types of their tensors, and once all tensors are allocated buffers have their
shapes too (`Sound`). A graph is run on such buffers only (`RunsOnly`).
-/
namespace TextClassifier
open Json Tensor

/-! ## Shapes -/

theorem Tensor.Grid.shape_of_ofCells? {α : Type} {shape : List Nat} {cells : List α} {g : Grid α}
    (made : ofCells? shape cells = some g) : g.shape = shape := by
  rw [ofCells?] at made
  split at made
  · cases made
    rfl
  · cases made

theorem Tensor.map_ofNat_toNat {shape : List Int} (natural : ∀ d ∈ shape, 0 ≤ d) :
    (shape.map Int.toNat).map Int.ofNat = shape := by
  rw [List.map_map]
  exact (List.map_congr_left fun d member => Int.toNat_of_nonneg (natural d member)).trans (List.map_id shape)

/-- A shape without negative dimensions is taken as it is. -/
theorem Tensor.Grid.shape_of_reshape? {α : Type} {g h : Grid α} {shape : List Int}
    (natural : ∀ d ∈ shape, 0 ≤ d) (reshaped : g.reshape? shape = some h) : h.shape.map Int.ofNat = shape := by
  rw [reshape?_of_natural natural] at reshaped
  rw [shape_of_ofCells? reshaped, map_ofNat_toNat natural]

namespace Tensor.Slot
variable {s t : Slot} {α : Type}

/-- A tensor has a buffer of its type, and a shape that its signature allows. -/
structure Sound (s : Slot) : Prop where
  type : s.buffer.type = s.type.element
  rank : s.shape.length = s.signature.length
  natural : ∀ d ∈ s.shape, 0 ≤ d

/-- The buffer of a tensor has its shape. -/
def Settled (s : Slot) : Prop := s.buffer.shape.map Int.ofNat = s.shape

theorem fit_ok {values g : Grid α} (fits : s.fit values = .ok g) :
    values.size = s.buffer.grid.size ∧ values.reshape? s.shape = some g := by
  rw [fit] at fits
  split at fits
  · cases fits
  rename_i size
  split at fits
  · rename_i reshaped
    cases fits
    exact ⟨Decidable.not_not.mp size, reshaped⟩
  · cases fits

theorem sound_store (sound : s.Sound) (g : Grid Element) : (s.store g).Sound :=
  ⟨rfl, sound.rank, sound.natural⟩

theorem settled_store {g : Grid Element} (shape : g.shape.map Int.ofNat = s.shape) : (s.store g).Settled := shape

/-- A tensor with a new buffer of zeros is sound and has its shape. -/
theorem sound_allocate {memory : Option Nat} {b : Buffer} (rank : s.shape.length = s.signature.length)
    (made : Buffer.allocate memory s.type.element s.shape = .ok b) :
    Sound { s with buffer := b } ∧ Settled { s with buffer := b } := by
  obtain ⟨-, natural, -, -, rfl⟩ := Buffer.allocate_ok_iff.mp made
  exact ⟨⟨rfl, rank, natural⟩, map_ofNat_toNat natural⟩

end Tensor.Slot

namespace Engine
variable {e f : Engine} {i : Nat} {s : Slot}

/-! ## Operations -/

/-- What is done with an engine. Shapes and values may be untyped. -/
inductive Operation where
  | resize (index : Int) (shape : List Int) (strict : Bool)
  | resizeValue (index : Int) (shape : Value) (strict : Bool)
  | allocate
  | populate (index : Int) (values : Grid Element)
  | populateValue (index : Int) (values : Value)
  | invoke

/-- The engine behind an operation, whether that fails or not. -/
def Operation.engine (e : Engine) : Operation → Engine
  | .resize index shape strict => (e.resize index shape strict).engine
  | .resizeValue index shape strict => (e.resizeValue index shape strict).engine
  | .allocate => e.allocate.engine
  | .populate index values => (e.populate index values).engine
  | .populateValue index values => (e.populateValue index values).engine
  | .invoke => e.invoke.engine

/-- The engine behind a history of operations. -/
def after (e : Engine) (history : List Operation) : Engine := history.foldl Operation.engine e

/-- What an operation can do to an engine. Only an allocation makes new buffers for all inputs, and a shape
that changes calls for one. -/
inductive Step (e : Engine) : Operation → Engine → Prop
  | same {op : Operation} : Step e op e
  | outputs {op : Operation} (outputs : List Slot) : Step e op { e with outputs }
  | resized {op : Operation} {i : Nat} {s : Slot} {shape : List Int} (found : e.inputs[i]? = some s)
      (rank : shape.length = s.rank) (natural : ∀ d ∈ shape, 0 ≤ d) :
      Step e op { e.setInput i { s with shape } with allocated := false }
  | filled {op : Operation} {i : Nat} {s : Slot} {g : Grid Element} (found : e.inputs[i]? = some s)
      (shape : (∀ d ∈ s.shape, 0 ≤ d) → g.shape.map Int.ofNat = s.shape) :
      Step e op (e.setInput i (s.store g))
  | allocated (fits : (allocateAll e.memory e.inputs).1 = none) :
      Step e .allocate { e with inputs := (allocateAll e.memory e.inputs).2, allocated := true }
  | halfway : Step e .allocate { e with inputs := (allocateAll e.memory e.inputs).2 }

theorem input_ok {index : Int} (found : e.input index = .ok (i, s)) : e.inputs[i]? = some s := by
  rw [input] at found
  split at found
  · rename_i pair located
    cases found
    obtain ⟨j, -, at_j⟩ := Option.bind_eq_some_iff.mp located
    obtain ⟨t, there, same⟩ := Option.map_eq_some_iff.mp at_j
    cases same
    exact there
  · cases found

theorem checkShape_ok {shape : List Int} {strict : Bool} (allowed : checkShape s shape strict = .ok ()) :
    shape.length = s.rank ∧ ∀ d ∈ shape, 0 ≤ d := by
  rw [checkShape] at allowed
  split at allowed
  · cases allowed
  rename_i rank
  split at allowed
  · cases allowed
  rename_i natural
  refine ⟨Decidable.not_not.mp rank, fun d member => ?_⟩
  simpa using List.any_eq_false.mp (Bool.eq_false_iff.mpr natural) d member

theorem Outcome.ofExcept_cases (old : Engine) (made : Except Error Engine) :
    (ofExcept old made).engine = old ∨ ∃ new, made = .ok new ∧ (ofExcept old made).engine = new := by
  cases made with
  | error cause => exact .inl rfl
  | ok new => exact .inr ⟨new, rfl, rfl⟩

theorem resize_step {op : Operation} (index : Int) (shape : List Int) (strict : Bool) :
    Step e op (e.resize index shape strict).engine := by
  rw [resize]
  rcases Outcome.ofExcept_cases e _ with same | ⟨new, made, changed⟩
  · rw [same]
    exact .same
  rw [changed]
  obtain ⟨⟨i, s⟩, found, made⟩ := bind_ok_iff.mp made
  obtain ⟨⟨⟩, allowed, made⟩ := bind_ok_iff.mp made
  cases made
  obtain ⟨rank, natural⟩ := checkShape_ok (mapError_ok_iff.mp allowed)
  rw [withShape]
  split
  · exact .same
  · exact .resized (input_ok found) rank natural

theorem resizeValue_step {op : Operation} (index : Int) (shape : Value) (strict : Bool) :
    Step e op (e.resizeValue index shape strict).engine := by
  rw [resizeValue]
  split
  · exact .same
  split
  · exact resize_step index _ strict
  · exact .same

/-- A change to one input is a step if it stores a grid that fits. -/
theorem modifyInput_step {op : Operation} (index : Int) {change : Slot → Except Error Slot}
    (stores : ∀ s t, change s = .ok t →
      ∃ g, ((∀ d ∈ s.shape, 0 ≤ d) → g.shape.map Int.ofNat = s.shape) ∧ t = s.store g) :
    Step e op (e.modifyInput index change).engine := by
  rw [modifyInput]
  rcases Outcome.ofExcept_cases e _ with same | ⟨new, made, changed⟩
  · rw [same]
    exact .same
  rw [changed]
  obtain ⟨⟨i, s⟩, found, made⟩ := bind_ok_iff.mp made
  obtain ⟨t, stored, made⟩ := bind_ok_iff.mp made
  cases made
  obtain ⟨g, shape, rfl⟩ := stores s t stored
  exact .filled (input_ok found) shape

theorem populate_stores {s t : Slot} {values : Grid Element} (stored : s.populate values = .ok t) :
    ∃ g, ((∀ d ∈ s.shape, 0 ≤ d) → g.shape.map Int.ofNat = s.shape) ∧ t = s.store g := by
  obtain ⟨g, fits, stored⟩ := bind_ok_iff.mp stored
  cases stored
  exact ⟨g, fun natural => Grid.shape_of_reshape? natural (Slot.fit_ok fits).2, rfl⟩

theorem populateValue_stores {s t : Slot} {v : Value} (stored : s.populateValue v = .ok t) :
    ∃ g, ((∀ d ∈ s.shape, 0 ≤ d) → g.shape.map Int.ofNat = s.shape) ∧ t = s.store g := by
  obtain ⟨given, -, stored⟩ := bind_ok_iff.mp stored
  obtain ⟨values, fits, stored⟩ := bind_ok_iff.mp stored
  obtain ⟨g, read, stored⟩ := bind_ok_iff.mp stored
  cases stored
  have shape : g.shape = values.shape := by
    have read := mapError_ok_iff.mp read
    rw [elementsOf] at read
    split at read
    · cases read
      rfl
    · cases read
  exact ⟨g, fun natural => shape ▸ Grid.shape_of_reshape? natural (Slot.fit_ok fits).2, rfl⟩

/-- An operation does to an engine what one of the steps does, whether it succeeds or not. -/
theorem Operation.step (e : Engine) (op : Operation) : e.Step op (op.engine e) := by
  cases op with
  | resize index shape strict => exact resize_step index shape strict
  | resizeValue index shape strict => exact resizeValue_step index shape strict
  | allocate =>
    rw [Operation.engine]
    cases fits : (allocateAll e.memory e.inputs).1 with
    | none =>
      rw [allocate_ok fits]
      exact .allocated fits
    | some fault =>
      rw [allocate_error fits]
      exact .halfway
  | populate index values => exact modifyInput_step index fun s t => populate_stores
  | populateValue index values => exact modifyInput_step index fun s t => populateValue_stores
  | invoke =>
    obtain ⟨outputs, run, -⟩ := invoke_engine e
    rw [Operation.engine, run]
    exact .outputs outputs

/-! ## What every step keeps -/

/-- Allocation only changes buffers. -/
theorem map_allocateAll {α : Type} {view : Slot → α} (blind : ∀ s b, view { s with buffer := b } = view s)
    (memory : Option Nat) (slots : List Slot) : (allocateAll memory slots).2.map view = slots.map view := by
  induction slots with
  | nil => rfl
  | cons s rest ih =>
    rw [allocateAll]
    cases made : s.allocate memory with
    | error fault => rfl
    | ok t =>
      obtain ⟨b, -, rfl⟩ := allocate_eq_ok_iff.mp made
      show view _ :: (allocateAll memory rest).2.map view = _
      rw [ih, blind, List.map_cons]

theorem map_setInput {α : Type} {view : Slot → α} {t : Slot} (found : e.inputs[i]? = some s)
    (same : view t = view s) : (e.inputs.set i t).map view = e.inputs.map view := by
  obtain ⟨inside, rfl⟩ := List.getElem?_eq_some_iff.mp found
  rw [List.map_set, same, ← List.getElem_map view (h := by simpa using inside), List.set_getElem_self]

/-- What is declared for the inputs stays. -/
theorem Step.declared {op : Operation} (step : Step e op f) :
    f.inputs.map Slot.emptied = e.inputs.map Slot.emptied := by
  cases step with
  | same => rfl
  | outputs => rfl
  | resized found => exact map_setInput found rfl
  | filled found => exact map_setInput found rfl
  | allocated => exact map_allocateAll (fun _ _ => rfl) _ _
  | halfway => exact map_allocateAll (fun _ _ => rfl) _ _

/-- A shape that changes calls for an allocation. -/
theorem Step.allocated_of_shapes {op : Operation} (step : Step e op f)
    (changed : f.inputs.map (·.shape) ≠ e.inputs.map (·.shape)) : f.allocated = false := by
  cases step with
  | same => exact absurd rfl changed
  | outputs => exact absurd rfl changed
  | resized => rfl
  | @filled _ _ s g found =>
    have same : (s.store g).shape = s.shape := rfl
    exact absurd (map_setInput found same) changed
  | allocated => exact absurd (map_allocateAll (fun _ _ => rfl) _ _) changed
  | halfway => exact absurd (map_allocateAll (fun _ _ => rfl) _ _) changed

/-- Nothing but an allocation meets the call for one. -/
theorem Step.unallocated {op : Operation} (step : Step e op f) (other : op ≠ .allocate)
    (unallocated : e.allocated = false) : f.allocated = false := by
  cases step with
  | same => exact unallocated
  | outputs => exact unallocated
  | resized => rfl
  | filled => exact unallocated
  | allocated => exact absurd rfl other
  | halfway => exact absurd rfl other

/-- All inputs are sound, and their buffers have their shapes once they are allocated. -/
structure Sound (e : Engine) : Prop where
  inputs : ∀ s ∈ e.inputs, s.Sound
  settled : e.allocated = true → ∀ s ∈ e.inputs, s.Settled

theorem sound_of_fresh (fresh : e.Fresh) : e.Sound := by
  have made := fun s member => Slot.sound_allocate (fresh.inputs s member).signature.symm (fresh.inputs s member).buffer
  exact ⟨fun s member => (made s member).1, fun _ s member => (made s member).2⟩

/-- An input that is allocated with others is sound. It has its shape, or it is as it was. -/
theorem sound_allocateAll (memory : Option Nat) {slots : List Slot} (sound : ∀ s ∈ slots, s.Sound) :
    ∀ t ∈ (allocateAll memory slots).2, t.Sound ∧
      (t.Settled ∨ t ∈ slots ∧ ∃ fault, (allocateAll memory slots).1 = some fault) := by
  intro t member
  obtain ⟨i, inside, rfl⟩ := List.mem_iff_getElem.mp member
  have at_i : i < slots.length := by rwa [length_allocateAll] at inside
  obtain ⟨t, there, made | ⟨rfl, fails⟩⟩ := allocateAll_entry memory (List.getElem?_eq_getElem at_i)
  · obtain ⟨b, allocated, rfl⟩ := allocate_eq_ok_iff.mp made
    rw [List.getElem?_eq_getElem inside, Option.some.injEq] at there
    rw [there]
    have both := Slot.sound_allocate (sound _ (List.getElem_mem at_i)).rank allocated
    exact ⟨both.1, .inl both.2⟩
  · rw [List.getElem?_eq_getElem inside, Option.some.injEq] at there
    rw [there]
    exact ⟨sound _ (List.getElem_mem at_i), .inr ⟨List.getElem_mem at_i, fails⟩⟩

/-- No step makes a sound engine unsound: what it stores has the shape of the tensor that it goes into. -/
theorem Step.sound {op : Operation} (step : Step e op f) (sound : e.Sound) : f.Sound := by
  cases step with
  | same => exact sound
  | outputs => exact ⟨sound.inputs, sound.settled⟩
  | resized found rank natural =>
    have old := sound.inputs _ (List.mem_of_getElem? found)
    refine ⟨fun t member => ?_, fun allocated => by cases allocated⟩
    rcases List.mem_or_eq_of_mem_set member with there | rfl
    · exact sound.inputs t there
    · exact ⟨old.type, rank.trans old.rank, natural⟩
  | filled found shape =>
    have old := sound.inputs _ (List.mem_of_getElem? found)
    refine ⟨fun t member => ?_, fun allocated t member => ?_⟩
    · rcases List.mem_or_eq_of_mem_set member with there | rfl
      · exact sound.inputs t there
      · exact Slot.sound_store old _
    · rcases List.mem_or_eq_of_mem_set member with there | rfl
      · exact sound.settled allocated t there
      · exact Slot.settled_store (shape old.natural)
  | allocated fits =>
    have new := sound_allocateAll e.memory sound.inputs
    refine ⟨fun t member => (new t member).1, fun _ t member => ?_⟩
    rcases (new t member).2 with settled | ⟨-, fault, fails⟩
    · exact settled
    · rw [fits] at fails
      cases fails
  | halfway =>
    have new := sound_allocateAll e.memory sound.inputs
    refine ⟨fun t member => (new t member).1, fun allocated t member => ?_⟩
    rcases (new t member).2 with settled | ⟨old, -⟩
    · exact settled
    · exact sound.settled allocated t old

/-! ## Histories -/

theorem after_sound (sound : e.Sound) (history : List Operation) : (e.after history).Sound := by
  induction history generalizing e with
  | nil => exact sound
  | cons op history ih => exact ih ((op.step e).sound sound)

theorem after_declared (e : Engine) (history : List Operation) :
    (e.after history).inputs.map Slot.emptied = e.inputs.map Slot.emptied := by
  induction history generalizing e with
  | nil => rfl
  | cons op history ih => exact (ih (op.engine e)).trans (op.step e).declared

theorem after_unallocated (unallocated : e.allocated = false) {history : List Operation}
    (none_allocates : .allocate ∉ history) : (e.after history).allocated = false := by
  induction history generalizing e with
  | nil => exact unallocated
  | cons op history ih =>
    rw [List.mem_cons, not_or] at none_allocates
    exact ih ((op.step e).unallocated (Ne.symm none_allocates.1) unallocated) none_allocates.2

/-! ## Runs -/

/-- A run asks the graph for nothing but these buffers, if for any: no other answer of the graph makes a
difference. -/
def RunsOnly (e : Engine) (args : Option (List Buffer)) : Prop :=
  ∀ graph : Graph, (∀ given, args = some given → graph given = e.graph given) →
    { e with graph }.invoke = ⟨e.invoke.result, { e.invoke.engine with graph }⟩

theorem runsOnly_unallocated (unallocated : e.allocated = false) : e.RunsOnly none := by
  intro graph _
  simp only [invoke, unallocated, Bool.not_false, if_true]

theorem invoke_unallocated (unallocated : e.allocated = false) :
    e.invoke = ⟨.error (.resource .notAllocated), e⟩ := by
  simp only [invoke, unallocated, Bool.not_false, if_true]

/-- A run asks the graph for the buffers of the inputs at most. -/
theorem runsOnly_inputs (e : Engine) : e.RunsOnly (some (e.inputs.map (·.buffer))) := by
  intro graph same
  have produced : { e with graph }.produce = e.produce := by
    have asked := same _ rfl
    simp only [produce, asked]
  simp only [invoke, produced]
  split
  · rfl
  split
  · rfl
  split
  · rfl
  split
  · rfl
  · rfl

/-- What a graph is given for inputs: a buffer for each, of its type and shape. -/
def Fitting (inputs : List Slot) (args : List Buffer) : Prop :=
  List.Forall₂ (fun s b => b.type = s.type.element ∧ b.shape.map Int.ofNat = s.shape) inputs args

theorem Sound.fitting (sound : e.Sound) (allocated : e.allocated = true) :
    Fitting e.inputs (e.inputs.map (·.buffer)) := by
  rw [Fitting, List.forall₂_map_right_iff, List.forall₂_same]
  exact fun s member => ⟨(sound.inputs s member).type, sound.settled allocated s member⟩

theorem declared_ofSpecs {graph : Graph} {memory : Option Nat} {inputs outputs : List Spec}
    (made : ofSpecs graph memory inputs outputs = .ok e) :
    e.inputs.map (fun s => (s.name, s.type, s.signature)) = inputs.map fun s => (s.name, s.type, s.signature) := by
  refine (map_ofSpecs (fun spec s made => ?_) made).1
  obtain ⟨buffer, -, made⟩ := bind_ok_iff.mp made
  cases made
  rfl

/-- After every history of operations the inputs of an engine are as they are declared, but for their
dimensions. Their buffers have the types of their tensors, and the shapes too, once all are allocated. A
run asks the graph for nothing but such buffers. An operation that changes a shape keeps the graph from
being run until there is an allocation. -/
theorem after_ofSpecs {graph : Graph} {memory : Option Nat} {inputs outputs : List Spec}
    (made : ofSpecs graph memory inputs outputs = .ok e) (history : List Operation) :
    (e.after history).inputs.map (fun s => (s.name, s.type, s.signature)) =
      inputs.map (fun s => (s.name, s.type, s.signature)) ∧
    (∀ s ∈ (e.after history).inputs, s.buffer.type = s.type.element ∧ s.shape.length = s.signature.length ∧
      (∀ d ∈ s.shape, 0 ≤ d) ∧ ((e.after history).allocated = true → s.buffer.shape.map Int.ofNat = s.shape)) ∧
    (∃ args, (e.after history).RunsOnly args ∧
      ∀ given, args = some given → Fitting (e.after history).inputs given) ∧
    ∀ op : Operation,
      (op.engine (e.after history)).inputs.map (·.shape) ≠ (e.after history).inputs.map (·.shape) →
      ∀ later : List Operation, .allocate ∉ later →
        let f := (op.engine (e.after history)).after later
        f.RunsOnly none ∧
          ∃ cause, f.invoke = ⟨.error (.resource cause), f⟩ ∧ cause.code = .allocationError := by
  obtain ⟨fresh, -, -⟩ := fresh_ofSpecs made
  have sound := after_sound (sound_of_fresh fresh) history
  refine ⟨?_, ?_, ?_, ?_⟩
  · have kept := congrArg (List.map fun s : Slot => (s.name, s.type, s.signature)) (after_declared e history)
    simp only [List.map_map] at kept
    exact kept.trans (declared_ofSpecs made)
  · intro s member
    obtain ⟨type, rank, natural⟩ := sound.inputs s member
    exact ⟨type, rank, natural, fun allocated => sound.settled allocated s member⟩
  · cases allocated : (e.after history).allocated with
    | false => exact ⟨none, runsOnly_unallocated allocated, fun given none_given => by cases none_given⟩
    | true =>
      refine ⟨_, runsOnly_inputs _, ?_⟩
      rintro given ⟨⟩
      exact sound.fitting allocated
  · intro op changed later none_allocates
    have unallocated := after_unallocated ((op.step _).allocated_of_shapes changed) none_allocates
    exact ⟨runsOnly_unallocated unallocated, .notAllocated, invoke_unallocated unallocated, rfl⟩

/-- A row whose length may change. -/
def sampleRow : Spec := ⟨.str "ids", .int32, [1, 4], [1, -1], none, rfl⟩

/-- A history with a resize that fails and a run that fails. -/
def sampleHistory : List Operation :=
  [.resize 0 [2, 4] true, .resize (-1) [1, 3] true, .allocate, .invoke]

/-- A tensor that is resized and resized back has to be allocated again. -/
theorem after_ofSpecs_resized_back : ∃ e : Engine,
    ofSpecs (fun _ => .error ⟨.runtime, ""⟩) none [sampleRow] [] = .ok e ∧
    (e.after sampleHistory).inputs.map (·.shape) = [[1, 3]] ∧
    let f := ((Operation.resize 0 [1, 5] true).engine (e.after sampleHistory)).after [.resize 0 [1, 3] true, .invoke]
    f.inputs.map (·.shape) = [[1, 3]] ∧ ∃ cause, f.invoke = ⟨.error (.resource cause), f⟩ ∧
      cause.code = .allocationError := by
  obtain ⟨e, made, shapes⟩ := exists_ok_of_map
    (r := ofSpecs (fun _ => .error ⟨.runtime, ""⟩) none [sampleRow] [])
    (f := fun e =>
      let used := e.after sampleHistory
      let resized := (Operation.resize 0 [1, 5] true).engine used
      (used.inputs.map (·.shape), resized.inputs.map (·.shape),
        (resized.after [.resize 0 [1, 3] true, .invoke]).inputs.map (·.shape)))
    (y := ([[1, 3]], [[1, 5]], [[1, 3]])) (by decide +kernel)
  simp only [Prod.mk.injEq] at shapes
  obtain ⟨used, resized, back⟩ := shapes
  obtain ⟨-, -, -, blocked⟩ := after_ofSpecs made sampleHistory
  have changed : ((Operation.resize 0 [1, 5] true).engine (e.after sampleHistory)).inputs.map (·.shape) ≠
      (e.after sampleHistory).inputs.map (·.shape) := by
    rw [used, resized]
    decide
  obtain ⟨-, fails⟩ := blocked _ changed [.resize 0 [1, 3] true, .invoke] (by simp)
  exact ⟨e, made, used, back, fails⟩

end Engine
end TextClassifier
