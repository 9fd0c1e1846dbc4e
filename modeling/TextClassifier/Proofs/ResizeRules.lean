import TextClassifier.Proofs.EngineHistory

/-!
# What a resize does

A tensor takes a shape of its rank without negative dimensions. A strict resize also holds on to every
dimension that the signature fixes (`Slot.Allows`, `checkShape_ok_iff`). A shape that is taken changes this
tensor and nothing else, and calls for an allocation if it is another one; any other shape changes nothing
(`resize_eq`). So the dimensions that signatures fix outlast every history of strict resizes (`after_rigid`).
-/
namespace TextClassifier
open Json Tensor

/-- The dimensions that a signature fixes, each in its place. -/
def Tensor.rigid (signature shape : List Int) : List (Option Int) :=
  List.zipWith (fun declared now => if declared = -1 then none else some now) signature shape

theorem Tensor.join_rigid {signature shape : List Int} {k : Nat} {d : Int} (declared : signature[k]? = some d)
    (fixed : d ≠ -1) : (rigid signature shape)[k]?.join = shape[k]? := by
  rw [rigid, List.getElem?_zipWith, declared]
  cases shape[k]? with
  | none => rfl
  | some now => simp [fixed]

/-- A shape that a tensor can be given. -/
structure Tensor.Slot.Allows (s : Slot) (shape : List Int) (strict : Bool) : Prop where
  rank : shape.length = s.shape.length
  natural : ∀ d ∈ shape, 0 ≤ d
  fixed : strict = true → ∀ (k : Nat) (declared : Int), s.signature[k]? = some declared → declared ≠ -1 →
    shape[k]? = s.shape[k]?

/-- The dimensions of a tensor that its signature fixes. -/
def Tensor.Slot.rigid (s : Slot) : List (Option Int) := Tensor.rigid s.signature s.shape

namespace Engine
variable {e : Engine} {i : Nat} {s : Slot} {shape : List Int}

/-! ## The check of a shape -/

theorem keepsFixed_iff_forall {current signature requested : List Int} :
    keepsFixed current signature requested = true ↔ ∀ (k : Nat) (now declared wanted : Int),
      current[k]? = some now → signature[k]? = some declared → requested[k]? = some wanted →
        declared = -1 ∨ wanted = now := by
  simp only [keepsFixed, List.all_eq_true, List.mem_iff_getElem?, forall_exists_index, Prod.forall,
    List.getElem?_zip_eq_some, Bool.or_eq_true, beq_iff_eq]
  constructor
  · intro each k now declared wanted here there asked
    exact each now declared wanted k ⟨⟨here, there⟩, asked⟩
  · rintro each now declared wanted k ⟨⟨here, there⟩, asked⟩
    exact each k now declared wanted here there asked

/-- A request keeps the fixed dimensions exactly if it repeats each of them. -/
theorem keepsFixed_iff (rank : shape.length = s.shape.length) (sound : s.shape.length = s.signature.length) :
    keepsFixed s.shape s.signature shape = true ↔
      ∀ (k : Nat) (declared : Int), s.signature[k]? = some declared → declared ≠ -1 →
        shape[k]? = s.shape[k]? := by
  rw [keepsFixed_iff_forall]
  constructor
  · intro each k declared there fixed
    obtain ⟨inside, -⟩ := List.getElem?_eq_some_iff.mp there
    have here := List.getElem?_eq_getElem (l := s.shape) (i := k) (by omega)
    have asked := List.getElem?_eq_getElem (l := shape) (i := k) (by omega)
    rw [here, asked, (each k _ _ _ here there asked).resolve_left fixed]
  · intro each k now declared wanted here there asked
    by_cases elastic : declared = -1
    · exact .inl elastic
    · have same := each k declared there elastic
      rw [here, asked, Option.some.injEq] at same
      exact .inr same

/-- What a strict resize holds on to are the fixed dimensions. -/
theorem rigid_of_keepsFixed (rank : shape.length = s.shape.length)
    (keeps : keepsFixed s.shape s.signature shape = true) : Slot.rigid { s with shape } = s.rigid := by
  refine List.ext_getElem? fun k => ?_
  simp only [Slot.rigid, Tensor.rigid, List.getElem?_zipWith]
  cases there : s.signature[k]? with
  | none => rfl
  | some declared =>
    by_cases inside : k < s.shape.length
    · have here := List.getElem?_eq_getElem inside
      have asked := List.getElem?_eq_getElem (l := shape) (i := k) (by omega)
      rw [here, asked]
      rcases keepsFixed_iff_forall.mp keeps k _ _ _ here there asked with elastic | same
      · simp [elastic]
      · rw [same]
    · rw [List.getElem?_eq_none (l := s.shape) (by omega), List.getElem?_eq_none (l := shape) (by omega)]

theorem keepsFixed_of_checkShape (passed : checkShape s shape true = .ok ()) :
    keepsFixed s.shape s.signature shape = true := by
  obtain ⟨rank, natural⟩ := checkShape_ok passed
  by_contra breaks
  rw [checkShape, if_neg (not_not_intro rank), if_neg (by simpa using natural)] at passed
  simp [breaks] at passed

/-- A shape passes its check exactly if the tensor allows it. -/
theorem checkShape_ok_iff (sound : s.shape.length = s.signature.length) {strict : Bool} :
    checkShape s shape strict = .ok () ↔ s.Allows shape strict := by
  constructor
  · intro passed
    obtain ⟨rank, natural⟩ := checkShape_ok passed
    refine ⟨rank, natural, ?_⟩
    rintro rfl
    exact (keepsFixed_iff rank sound).mp (keepsFixed_of_checkShape passed)
  · rintro ⟨rank, natural, fixed⟩
    have keeps : (strict && !keepsFixed s.shape s.signature shape) = false := by
      cases strict with
      | false => rfl
      | true => simpa using (keepsFixed_iff rank sound).mpr (fixed rfl)
    have same : ¬ shape.length ≠ s.rank := not_not_intro rank
    rw [checkShape, if_neg same, if_neg (by simpa using natural), keeps]
    rfl

theorem checkShape_error {strict : Bool} {cause : ResourceError}
    (refused : checkShape s shape strict = .error cause) : cause.code = .allocationError := by
  rw [checkShape] at refused
  split at refused
  · cases refused
    rfl
  split at refused
  · cases refused
    rfl
  split at refused
  · cases refused
    rfl
  · cases refused

/-! ## One resize -/

/-- An engine with another shape for the input at a place. It has to be allocated if the shape is a new one. -/
def reshaped (e : Engine) (i : Nat) (s : Slot) (shape : List Int) : Engine :=
  { e with inputs := e.inputs.set i { s with shape }, allocated := e.allocated && shape == s.shape }

theorem withShape_eq (found : e.inputs[i]? = some s) (shape : List Int) :
    e.withShape i s shape = e.reshaped i s shape := by
  rw [withShape, reshaped]
  split
  · rename_i same
    obtain ⟨inside, there⟩ := List.getElem?_eq_some_iff.mp found
    subst same
    have kept : e.inputs.set i s = e.inputs := by rw [← there, List.set_getElem_self]
    simp [kept]
  · rename_i other
    simp [other, setInput]

/-- An index that counts from either end is the place of an input. -/
theorem exists_input {index : Int} (low : -(e.inputs.length : Int) ≤ index) (high : index < e.inputs.length) :
    ∃ (i : Nat) (s : Slot), e.inputs[i]? = some s ∧ (i : Int) = (if index < 0 then index + e.inputs.length else index) ∧
      e.input index = .ok (i, s) := by
  have located : ∃ i : Nat, place? e.inputs.length index = some i ∧ i < e.inputs.length ∧
      (i : Int) = if index < 0 then index + e.inputs.length else index := by
    by_cases negative : index < 0
    · refine ⟨(index + e.inputs.length).toNat, ?_, by omega, ?_⟩
      · rw [place?, if_neg (by omega), if_pos (by omega)]
      · rw [if_pos negative]
        omega
    · refine ⟨index.toNat, ?_, by omega, ?_⟩
      · rw [place?, if_pos (by omega)]
      · rw [if_neg negative]
        omega
  obtain ⟨i, place, inside, same⟩ := located
  have there := List.getElem?_eq_getElem inside
  refine ⟨i, _, there, same, ?_⟩
  rw [input, place, Option.bind_some, there]
  rfl

/-- A shape that the tensor allows is taken, and any other one is refused and changes nothing. -/
theorem resize_eq {index : Int} {strict : Bool} (located : e.input index = .ok (i, s))
    (sound : s.shape.length = s.signature.length) :
    (s.Allows shape strict → e.resize index shape strict = ⟨.ok (), e.reshaped i s shape⟩) ∧
    (¬ s.Allows shape strict → ∃ cause : ResourceError,
      e.resize index shape strict = ⟨.error (.resource cause), e⟩ ∧ cause.code = .allocationError) := by
  have run : e.resize index shape strict =
      .ofExcept e ((checkShape s shape strict).mapError Error.resource >>= fun _ => .ok (e.withShape i s shape)) := by
    rw [resize, located]
    rfl
  rw [run, ← checkShape_ok_iff sound]
  cases checked : checkShape s shape strict with
  | ok passed =>
    refine ⟨fun _ => ?_, fun refused => absurd rfl refused⟩
    rw [← withShape_eq (input_ok located)]
    rfl
  | error cause =>
    refine ⟨fun passed => ?_, fun _ => ⟨cause, rfl, checkShape_error checked⟩⟩
    cases passed

/-! ## Histories of strict resizes -/

/-- No operation but a resize that is not strict may change a fixed dimension. -/
def Operation.IsStrict : Operation → Prop
  | .resize _ _ strict => strict = true
  | .resizeValue _ _ strict => strict = true
  | _ => True

theorem rigid_resize (e : Engine) (index : Int) (shape : List Int) :
    (e.resize index shape true).engine.inputs.map Slot.rigid = e.inputs.map Slot.rigid := by
  rw [resize]
  rcases Outcome.ofExcept_cases e _ with same | ⟨new, made, changed⟩
  · rw [same]
  rw [changed]
  obtain ⟨⟨i, s⟩, found, made⟩ := bind_ok_iff.mp made
  obtain ⟨⟨⟩, allowed, made⟩ := bind_ok_iff.mp made
  cases made
  have passed := mapError_ok_iff.mp allowed
  rw [withShape_eq (input_ok found)]
  exact map_setInput (input_ok found) (rigid_of_keepsFixed (checkShape_ok passed).1 (keepsFixed_of_checkShape passed))

theorem rigid_modifyInput (index : Int) {change : Slot → Except Error Slot}
    (stores : ∀ s t, change s = .ok t → ∃ g, t = s.store g) :
    (e.modifyInput index change).engine.inputs.map Slot.rigid = e.inputs.map Slot.rigid := by
  rw [modifyInput]
  rcases Outcome.ofExcept_cases e _ with same | ⟨new, made, changed⟩
  · rw [same]
  rw [changed]
  obtain ⟨⟨i, s⟩, found, made⟩ := bind_ok_iff.mp made
  obtain ⟨t, stored, made⟩ := bind_ok_iff.mp made
  cases made
  obtain ⟨g, rfl⟩ := stores s t stored
  exact map_setInput (input_ok found) rfl

/-- A strict operation leaves all fixed dimensions as they are. -/
theorem rigid_engine {op : Operation} (strict : op.IsStrict) (e : Engine) :
    (op.engine e).inputs.map Slot.rigid = e.inputs.map Slot.rigid := by
  cases op with
  | resize index shape demanded =>
    obtain rfl : demanded = true := strict
    exact rigid_resize e index shape
  | resizeValue index shape demanded =>
    obtain rfl : demanded = true := strict
    rw [Operation.engine, resizeValue]
    split
    · rfl
    split
    · exact rigid_resize e index _
    · rfl
  | allocate =>
    have kept : (allocateAll e.memory e.inputs).2.map Slot.rigid = e.inputs.map Slot.rigid :=
      map_allocateAll (fun _ _ => rfl) e.memory e.inputs
    rw [Operation.engine]
    cases fits : (allocateAll e.memory e.inputs).1 with
    | none => rw [allocate_ok fits, kept]
    | some fault => rw [allocate_error fits, kept]
  | populate index values =>
    refine rigid_modifyInput index fun s t stored => ?_
    obtain ⟨g, -, same⟩ := populate_stores stored
    exact ⟨g, same⟩
  | populateValue index values =>
    refine rigid_modifyInput index fun s t stored => ?_
    obtain ⟨g, -, same⟩ := populateValue_stores stored
    exact ⟨g, same⟩
  | invoke =>
    obtain ⟨outputs, run, -⟩ := invoke_engine e
    rw [Operation.engine, run]

/-- Strict resizes leave the fixed dimensions of all inputs as they are. -/
theorem after_rigid {history : List Operation} (strict : ∀ op ∈ history, op.IsStrict) (e : Engine) :
    (e.after history).inputs.map Slot.rigid = e.inputs.map Slot.rigid := by
  induction history generalizing e with
  | nil => rfl
  | cons op history ih =>
    obtain ⟨first, later⟩ := List.forall_mem_cons.mp strict
    exact (ih later (op.engine e)).trans (rigid_engine first e)

/-- What is declared of dimensions, the tensors of an engine have at first. -/
theorem declared_rigid {graph : Graph} {memory : Option Nat} {inputs outputs : List Spec}
    (made : ofSpecs graph memory inputs outputs = .ok e) :
    e.inputs.map (fun s => (s.signature, s.rigid)) =
      inputs.map fun spec => (spec.signature, Tensor.rigid spec.signature spec.shape) := by
  refine (map_ofSpecs (fun spec s made => ?_) made).1
  obtain ⟨buffer, -, made⟩ := bind_ok_iff.mp made
  cases made
  rfl

/-- A dimension that its signature fixes is the declared one after every history of strict resizes. -/
theorem dimension_after {graph : Graph} {memory : Option Nat} {inputs outputs : List Spec}
    (made : ofSpecs graph memory inputs outputs = .ok e) {history : List Operation}
    (strict : ∀ op ∈ history, op.IsStrict) {spec : Spec} (declares : inputs[i]? = some spec)
    (found : (e.after history).inputs[i]? = some s) {k : Nat} {d : Int} (declared : spec.signature[k]? = some d)
    (fixed : d ≠ -1) : s.shape[k]? = spec.shape[k]? := by
  have first := congrArg (·[i]?) (declared_rigid made)
  have kept := congrArg (·[i]?) (after_rigid strict e)
  have signatures := congrArg (List.map Slot.signature) (after_declared e history)
  simp only [List.map_map] at signatures
  replace signatures := congrArg (·[i]?) signatures
  simp only [List.getElem?_map, declares, found, Option.map_some] at first kept signatures
  obtain ⟨t, at_i, same⟩ := Option.map_eq_some_iff.mp first
  rw [at_i, Option.map_some, Option.some.injEq] at kept signatures
  obtain ⟨signature, rigid⟩ := Prod.mk.inj same
  have still : s.signature = spec.signature := Eq.trans signatures signature
  have dimensions : s.rigid = Tensor.rigid spec.signature spec.shape := kept.trans rigid
  rw [← join_rigid (still ▸ declared) fixed, ← join_rigid declared fixed, ← dimensions, Slot.rigid, still]

/-- After every history a resize is taken exactly if the tensor at its index allows the shape. Then it changes
the shape of this tensor and nothing else, but for the call for an allocation when the shape is a new one. A
resize that is refused changes nothing. Where all resizes are strict, every dimension that a signature fixes
stays as it was declared. -/
theorem resize_after_ofSpecs {graph : Graph} {memory : Option Nat} {inputs outputs : List Spec}
    (made : ofSpecs graph memory inputs outputs = .ok e) :
    (∀ (history : List Operation) (index : Int), -((e.after history).inputs.length : Int) ≤ index →
      index < (e.after history).inputs.length →
      ∃ (i : Nat) (s : Slot), (e.after history).inputs[i]? = some s ∧
        (i : Int) = (if index < 0 then index + (e.after history).inputs.length else index) ∧
        ∀ (shape : List Int) (strict : Bool),
          (s.Allows shape strict → (e.after history).resize index shape strict =
            ⟨.ok (), { e.after history with
              inputs := (e.after history).inputs.set i { s with shape }
              allocated := (e.after history).allocated && shape == s.shape }⟩) ∧
          (¬ s.Allows shape strict → ∃ cause : ResourceError, cause.code = .allocationError ∧
            (e.after history).resize index shape strict = ⟨.error (.resource cause), e.after history⟩)) ∧
    ∀ history : List Operation, (∀ op ∈ history, op.IsStrict) →
      ∀ (i : Nat) (spec : Spec) (s : Slot), inputs[i]? = some spec → (e.after history).inputs[i]? = some s →
        ∀ (k : Nat) (d : Int), spec.signature[k]? = some d → d ≠ -1 → s.shape[k]? = spec.shape[k]? := by
  constructor
  · intro history index low high
    obtain ⟨fresh, -, -⟩ := fresh_ofSpecs made
    have sound := after_sound (sound_of_fresh fresh) history
    obtain ⟨i, s, there, place, located⟩ := exists_input low high
    refine ⟨i, s, there, place, fun shape strict => ?_⟩
    have rank := (sound.inputs s (List.mem_of_getElem? there)).rank
    refine ⟨(resize_eq located rank).1, fun other => ?_⟩
    obtain ⟨cause, failed, code⟩ := (resize_eq located rank).2 other
    exact ⟨cause, code, failed⟩
  · intro history strict i spec s declares found k d declared fixed
    exact dimension_after made strict declares found declared fixed

/-- A row that has been resized keeps its first dimension, and a strict resize of that is refused. -/
theorem resize_after_ofSpecs_refused : ∃ e : Engine,
    ofSpecs (fun _ => .error ⟨.runtime, ""⟩) none [sampleRow] [] = .ok e ∧
    (e.after sampleHistory).inputs.map (fun s => (s.shape, s.signature)) = [([1, 3], [1, -1])] ∧
    ∃ cause : ResourceError, cause.code = .allocationError ∧
      (e.after sampleHistory).resize (-1) [2, 3] true = ⟨.error (.resource cause), e.after sampleHistory⟩ := by
  obtain ⟨e, made, shapes⟩ := exists_ok_of_map
    (r := ofSpecs (fun _ => .error ⟨.runtime, ""⟩) none [sampleRow] [])
    (f := fun e => (e.after sampleHistory).inputs.map fun s => (s.shape, s.signature)) (y := [([1, 3], [1, -1])])
    (by decide +kernel)
  have count : (e.after sampleHistory).inputs.length = 1 := by simpa using congrArg List.length shapes
  obtain ⟨decided, keeps⟩ := resize_after_ofSpecs made
  obtain ⟨i, s, there, place, resizes⟩ := decided sampleHistory (-1) (by omega) (by omega)
  obtain rfl : i = 0 := by
    rw [if_pos (by decide)] at place
    omega
  have strict : ∀ op ∈ sampleHistory, op.IsStrict := by simp [sampleHistory, Operation.IsStrict]
  have first := keeps sampleHistory strict 0 sampleRow s rfl there 0 1 rfl (by decide)
  have signature : s.signature = [1, -1] := by
    have entry := congrArg (·[0]?) shapes
    simp only [List.getElem?_map, there] at entry
    exact (Prod.mk.inj (Option.some.inj entry)).2
  refine ⟨e, made, shapes, (resizes [2, 3] true).2 fun allows => ?_⟩
  have fixed := allows.fixed rfl 0 1 (by rw [signature]; rfl) (by decide)
  rw [first] at fixed
  exact absurd fixed (by decide)

end Engine
end TextClassifier
