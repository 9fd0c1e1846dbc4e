import TextClassifier.Proofs.ResizeRules

/-!
# What filling a tensor does

A list of integers fills a tensor if it is as long as the buffer of the tensor and as the shape of the tensor asks
for. These two lengths are the same once all tensors are allocated (`Slot.Settled.size_eq`); a list of this length
is taken then, and any other one is refused as an error about resources. Between a resize and the allocation that
it calls for, the lengths may differ. No list fits then, and one as long as the old buffer fails without being
refused (`Engine.populateValue_resized`).
-/
namespace TextClassifier
open Json Tensor

/-! ## Lists of integers -/

/-- A flat list of integers. -/
def Tensor.integers (values : List Int) : Value := .array (values.map .int)

namespace Tensor.Grid

theorem itemShape?_integers (values : List Int) :
    itemShape? (values.map .int) = some (if values = [] then none else some []) := by
  induction values with
  | nil => rfl
  | cons n rest ih =>
    rw [List.map_cons, itemShape?, ih]
    cases rest <;> rfl

theorem itemLeaves_integers (values : List Int) : itemLeaves (values.map .int) = values.map .int := by
  induction values with
  | nil => rfl
  | cons n rest ih =>
    rw [List.map_cons, itemLeaves, ih]
    rfl

theorem ofValue_integers (values : List Int) : ofValue (integers values) = .ok (ofList (values.map .int)) := by
  have shape : shape? (integers values) = some [(values.map Value.int).length] := by
    rw [integers, shape?, itemShape?_integers]
    cases values <;> rfl
  have cells : leaves (integers values) = values.map .int := itemLeaves_integers values
  have count : (values.map Value.int).length = cellCount [(values.map Value.int).length] := by simp [cellCount]
  rw [ofValue, shape, cells, Option.bind_some, ofCells?, dif_pos count]
  rfl

end Tensor.Grid

namespace Tensor

/-- Integers that 64 bits hold with a sign stay integers. -/
theorem elementsOf_integers {values : List Int} (words : ∀ n ∈ values, Number.fitsSigned 64 n = true)
    {g : Grid Value} (cells : g.cells = values.map .int) :
    ∃ h, elementsOf g = .ok h ∧ h.shape = g.shape ∧ h.cells = values.map .int := by
  have numbers : (values.map Value.int).all Numbers.isNumber = true := by
    rw [List.all_map, List.all_eq_true]
    intro n member
    simp [Numbers.isNumber, words n member]
  have whole : (values.map Value.int).any Numbers.isReal = false := by
    rw [List.any_map, List.any_eq_false]
    exact fun n _ => Bool.false_ne_true
  have signed : (values.map Value.int).any Numbers.isUnsigned = false := by
    rw [List.any_map, List.any_eq_false]
    intro n member
    have fits := words n member
    rw [Number.fitsSigned, Bool.and_eq_true, decide_eq_true_eq, decide_eq_true_eq] at fits
    simpa [Numbers.isUnsigned] using fits.2
  have kept : ∀ kind : Numbers, kind ≠ .reals → (g.map kind.element).cells = values.map .int := by
    intro kind other
    rw [Grid.cells_map, cells, List.map_map]
    refine List.map_congr_left fun n _ => ?_
    cases kind with
    | truths | integers => rfl
    | reals => exact absurd rfl other
  rw [elementsOf, cells, Numbers.kind?, numbers, whole, signed, Bool.and_false]
  cases (values.map Value.int).all Numbers.isTruth with
  | true => exact ⟨_, rfl, rfl, kept .truths (by simp)⟩
  | false => exact ⟨_, rfl, rfl, kept .integers (by simp)⟩

namespace Slot
variable {s : Slot} {values : List Int}

/-! ## One tensor -/

/-- The number of places that the shape of a tensor asks for. -/
def places (s : Slot) : Nat := cellCount (s.shape.map Int.toNat)

theorem Settled.size_eq (settled : s.Settled) : s.buffer.grid.size = s.places := by
  have shape : s.shape.map Int.toNat = s.buffer.shape := by
    rw [← settled, List.map_map]
    exact List.map_id _
  rw [places, shape]
  exact s.buffer.grid.length_cells

theorem populateValue_eq (s : Slot) (values : List Int) : s.populateValue (integers values) =
    s.fit (Grid.ofList (values.map Value.int)) >>= fun g =>
      (elementsOf g).mapError Error.fault >>= fun h => .ok (s.store h) := by
  rw [populateValue, Grid.ofValue_integers]
  rfl

/-- A list that is as long as the buffer and as the shape asks for is taken. -/
theorem populateValue_ok (natural : ∀ d ∈ s.shape, 0 ≤ d) (words : ∀ n ∈ values, Number.fitsSigned 64 n = true)
    (buffer : values.length = s.buffer.grid.size) (shape : values.length = s.places) :
    ∃ b : Buffer, s.populateValue (integers values) = .ok { s with buffer := b } ∧ b.type = s.type.element ∧
      b.shape = s.shape.map Int.toNat ∧ b.elements = values.map fun n => (Element.int n).convert s.type.element := by
  have count : (values.map Value.int).length = cellCount (s.shape.map Int.toNat) := by
    rw [List.length_map, shape, places]
  have size : ¬ (Grid.ofList (values.map Value.int)).size ≠ s.buffer.grid.size := by
    simp [Grid.size, buffer]
  have fits : s.fit (Grid.ofList (values.map Value.int)) =
      .ok ⟨s.shape.map Int.toNat, values.map Value.int, count⟩ := by
    rw [fit, if_neg size, Grid.reshape?_of_natural natural, Grid.cells_ofList, Grid.ofCells?, dif_pos count]
  obtain ⟨h, read, same, cells⟩ := elementsOf_integers words (g := ⟨s.shape.map Int.toNat, _, count⟩) rfl
  refine ⟨.ofGrid s.type.element h, ?_, rfl, same, ?_⟩
  · rw [populateValue_eq, fits]
    show (elementsOf _).mapError _ >>= _ = _
    rw [read]
    rfl
  · rw [Buffer.elements, Buffer.ofGrid, Grid.cells_map, cells, List.map_map]
    rfl

/-- A list that is not as long as the buffer is refused. -/
theorem populateValue_refused (other : values.length ≠ s.buffer.grid.size) :
    s.populateValue (integers values) = .error (.resource (.populateSize s.name s.shape values.length)) := by
  have size : (Grid.ofList (values.map Value.int)).size = values.length := List.length_map _
  rw [populateValue_eq, fit, size, if_pos other]
  rfl

/-- A list that is as long as the buffer, but not as the shape asks for, cannot be put under the shape. -/
theorem populateValue_unusable (natural : ∀ d ∈ s.shape, 0 ≤ d) (buffer : values.length = s.buffer.grid.size)
    (other : values.length ≠ s.places) : s.populateValue (integers values) = .error (.fault .unusable) := by
  have size : ¬ (Grid.ofList (values.map Value.int)).size ≠ s.buffer.grid.size := by
    simp [Grid.size, buffer]
  have count : ¬ (values.map Value.int).length = cellCount (s.shape.map Int.toNat) := by
    rwa [List.length_map]
  rw [populateValue_eq, fit, if_neg size, Grid.reshape?_of_natural natural, Grid.cells_ofList, Grid.ofCells?,
    dif_neg count]
  rfl

end Slot
end Tensor

/-! ## An input of an engine -/

namespace Engine
variable {e : Engine} {i : Nat} {s : Slot} {index : Int}

theorem modifyInput_ok {change : Slot → Except Error Slot} {t : Slot} (located : e.input index = .ok (i, s))
    (changed : change s = .ok t) : e.modifyInput index change = ⟨.ok (), e.setInput i t⟩ := by
  rw [modifyInput, located]
  show Outcome.ofExcept e (change s >>= _) = _
  rw [changed]
  rfl

theorem modifyInput_error {change : Slot → Except Error Slot} {cause : Error} (located : e.input index = .ok (i, s))
    (failed : change s = .error cause) : e.modifyInput index change = ⟨.error cause, e⟩ := by
  rw [modifyInput, located]
  show Outcome.ofExcept e (change s >>= _) = _
  rw [failed]
  rfl

/-- After every history a list of integers is put into the tensor at an index exactly if it is as long as the
buffer of the tensor and as its shape asks for. Then the buffer has the shape of the tensor and the integers in
their order, converted to its type, and nothing else changes. A list that is not as long as the buffer is refused
as an error about resources, and one that is as long as the buffer only is not usable. Neither changes anything.
Once all tensors are allocated, the buffer is as long as the shape asks for. -/
theorem populateValue_after_ofSpecs {graph : Graph} {memory : Option Nat} {inputs outputs : List Spec}
    (made : ofSpecs graph memory inputs outputs = .ok e) (history : List Operation) (index : Int)
    (low : -((e.after history).inputs.length : Int) ≤ index) (high : index < (e.after history).inputs.length) :
    ∃ (i : Nat) (s : Slot), (e.after history).inputs[i]? = some s ∧
      (i : Int) = (if index < 0 then index + (e.after history).inputs.length else index) ∧
      ((e.after history).allocated = true → s.buffer.grid.size = s.places) ∧
      ∀ values : List Int, (∀ n ∈ values, Number.fitsSigned 64 n = true) →
        (values.length = s.buffer.grid.size → values.length = s.places → ∃ b : Buffer,
          (e.after history).populateValue index (integers values) =
            ⟨.ok (), { e.after history with inputs := (e.after history).inputs.set i { s with buffer := b } }⟩ ∧
          b.type = s.type.element ∧ b.shape = s.shape.map Int.toNat ∧
          b.elements = values.map fun n => (Element.int n).convert s.type.element) ∧
        (values.length ≠ s.buffer.grid.size → (e.after history).populateValue index (integers values) =
          ⟨.error (.resource (.populateSize s.name s.shape values.length)), e.after history⟩) ∧
        (values.length = s.buffer.grid.size → values.length ≠ s.places →
          (e.after history).populateValue index (integers values) = ⟨.error (.fault .unusable), e.after history⟩) := by
  obtain ⟨fresh, -, -⟩ := fresh_ofSpecs made
  have sound := after_sound (sound_of_fresh fresh) history
  obtain ⟨i, s, there, place, located⟩ := exists_input low high
  have member := List.mem_of_getElem? there
  have natural := (sound.inputs s member).natural
  refine ⟨i, s, there, place, fun allocated => (sound.settled allocated s member).size_eq, fun values words => ?_⟩
  refine ⟨fun buffer shape => ?_, fun other => ?_, fun buffer other => ?_⟩
  · obtain ⟨b, filled, type, same, elements⟩ := Slot.populateValue_ok natural words buffer shape
    exact ⟨b, modifyInput_ok located filled, type, same, elements⟩
  · exact modifyInput_error located (Slot.populateValue_refused other)
  · exact modifyInput_error located (Slot.populateValue_unusable natural buffer other)

/-- A row that is resized and allocated takes as many integers as its new length. -/
theorem populateValue_after_ofSpecs_allocated : ∃ e : Engine,
    ofSpecs (fun _ => .error ⟨.runtime, ""⟩) none [sampleRow] [] = .ok e ∧
    let used := e.after [.resize 0 [1, 6] true, .allocate]
    used.inputs.map (fun s => (s.buffer.grid.size, s.places)) = [(6, 6)] ∧
    ∃ (s : Slot) (b : Buffer), used.populateValue 0 (integers [5, -6, 7, 8, 9, 10]) =
      ⟨.ok (), { used with inputs := used.inputs.set 0 { s with buffer := b } }⟩ ∧
      b.elements = [5, -6, 7, 8, 9, 10].map fun n => (Element.int n).convert s.type.element := by
  obtain ⟨e, made, sizes⟩ := exists_ok_of_map
    (r := ofSpecs (fun _ => .error ⟨.runtime, ""⟩) none [sampleRow] [])
    (f := fun e => (e.after [.resize 0 [1, 6] true, .allocate]).inputs.map fun s => (s.buffer.grid.size, s.places))
    (y := [(6, 6)]) (by decide +kernel)
  have count : (e.after [.resize 0 [1, 6] true, .allocate]).inputs.length = 1 := by
    simpa using congrArg List.length sizes
  obtain ⟨i, s, there, place, -, fills⟩ :=
    populateValue_after_ofSpecs made [.resize 0 [1, 6] true, .allocate] 0 (by omega) (by omega)
  obtain rfl : i = 0 := by simpa using place
  have size : s.buffer.grid.size = 6 ∧ s.places = 6 := by
    have entry := congrArg (·[0]?) sizes
    simpa [there] using entry
  obtain ⟨b, filled, -, -, elements⟩ :=
    (fills [5, -6, 7, 8, 9, 10] (by decide)).1 size.1.symm size.2.symm
  exact ⟨e, made, sizes, s, b, filled, elements⟩

/-- A row of four that is resized to six takes no list before it is allocated: four integers are not usable, and
six are not as many as the old buffer holds. -/
theorem populateValue_resized : ∃ (e : Engine) (s : Slot),
    ofSpecs (fun _ => .error ⟨.runtime, ""⟩) none [sampleRow] [] = .ok e ∧
    let used := e.after [.resize 0 [1, 6] true]
    used.inputs = [s] ∧ s.shape = [1, 6] ∧
    used.populateValue 0 (integers [1, 2, 3, 4]) = ⟨.error (.fault .unusable), used⟩ ∧
    used.populateValue 0 (integers [1, 2, 3, 4, 5, 6]) =
      ⟨.error (.resource (.populateSize s.name [1, 6] 6)), used⟩ := by
  obtain ⟨e, made, sizes⟩ := exists_ok_of_map
    (r := ofSpecs (fun _ => .error ⟨.runtime, ""⟩) none [sampleRow] [])
    (f := fun e => (e.after [.resize 0 [1, 6] true]).inputs.map fun s => (s.shape, s.buffer.grid.size))
    (y := [([1, 6], 4)]) (by decide +kernel)
  obtain ⟨s, only, entry⟩ := List.map_eq_singleton_iff.mp sizes
  obtain ⟨shape, size⟩ := Prod.mk.inj entry
  have located : (e.after [.resize 0 [1, 6] true]).input 0 = .ok (0, s) := by
    rw [input, only]
    rfl
  refine ⟨e, s, made, only, shape, ?_, ?_⟩
  · refine modifyInput_error located (Slot.populateValue_unusable ?_ size.symm ?_)
    · rw [shape]
      decide
    · rw [Slot.places, shape]
      decide
  · have refused : s.populateValue (integers [1, 2, 3, 4, 5, 6]) =
        .error (.resource (.populateSize s.name s.shape 6)) := Slot.populateValue_refused (by rw [size]; decide)
    rw [shape] at refused
    exact modifyInput_error located refused

end Engine
end TextClassifier
