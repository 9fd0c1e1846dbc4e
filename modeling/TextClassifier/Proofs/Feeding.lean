import TextClassifier.Proofs.Construction
import TextClassifier.Proofs.EngineOperations

/-!
# Putting sequences into an engine

An engine is ready for a layout if the layout's inputs are rows that take the next sequence and all
other inputs are as they were declared (`Ready`). Then a sequence only fails to get into the engine if
there is no memory for it (`blocked`). If there is, the layout's inputs hold the sequence and all other
inputs are the same (`Ready.feed_ok`); if there is not, no input has changed but for the buffers and
shapes of the layout's inputs (`Ready.feed_blocked`). The engine stays ready in both cases.
-/
namespace TextClassifier
open Json Tensor Package

/-! ## Inputs at places -/

/-- Tensors with those at some places changed. -/
def changedAt (places : List Nat) (f : Slot → Slot) (inputs : List Slot) : List Slot :=
  inputs.mapIdx fun i s => if i ∈ places then f s else s

theorem getElem?_changedAt (places : List Nat) (f : Slot → Slot) (inputs : List Slot) (i : Nat) :
    (changedAt places f inputs)[i]? = if i ∈ places then inputs[i]?.map f else inputs[i]? := by
  rw [changedAt, List.getElem?_mapIdx]
  by_cases listed : i ∈ places
  · simp [listed]
  · simp [listed]

theorem changedAt_nil (f : Slot → Slot) (inputs : List Slot) : changedAt [] f inputs = inputs := by
  apply List.ext_getElem?
  intro i
  simp [getElem?_changedAt]

/-- Changing a tensor twice is the same as changing it once, as long as the change does not go on. -/
theorem changedAt_modify {f : Slot → Slot} (once : ∀ s, f (f s) = f s) (i : Nat) (rest : List Nat)
    (inputs : List Slot) : changedAt rest f (inputs.modify i f) = changedAt (i :: rest) f inputs := by
  apply List.ext_getElem?
  intro j
  rw [getElem?_changedAt, getElem?_changedAt]
  by_cases same : i = j
  · subst same
    rw [List.getElem?_modify_eq, Option.map_eq_map, if_pos List.mem_cons_self]
    by_cases listed : i ∈ rest
    · rw [if_pos listed, Option.map_map]
      exact congrArg (Option.map · _) (funext once)
    · rw [if_neg listed]
  · have cons : j ∈ i :: rest ↔ j ∈ rest := by simp [Ne.symm same]
    simp only [List.getElem?_modify_ne _ _ same, cons]

namespace InputLayout

/-- The array of a sequence that an input takes, if it takes one. -/
def rowAt (l : InputLayout) (q : Sequence) (i : Nat) : Option (Grid Int) :=
  if i = l.segmentIds then some q.segmentIds
  else if i = l.mask then some q.mask
  else if i = l.ids then some q.ids
  else none

def load (l : InputLayout) (q : Sequence) (inputs : List Slot) : List Slot :=
  inputs.mapIdx fun i s =>
    match l.rowAt q i with
    | some g => s.filled (g.map .int)
    | none => s

/-- Inputs without anything that sequences leave in them. -/
def frame (l : InputLayout) (inputs : List Slot) : List Slot := changedAt l.places Slot.emptied inputs

variable {l : InputLayout} {q : Sequence} {i : Nat}

theorem rowAt_eq_none (other : i ∉ l.places) : l.rowAt q i = none := by
  simp only [places, List.mem_cons, List.not_mem_nil, or_false, not_or] at other
  rw [rowAt, if_neg other.2.2, if_neg other.2.1, if_neg other.1]

theorem rowAt_eq_some (listed : i ∈ l.places) :
    ∃ g, l.rowAt q i = some g ∧ (g = q.ids ∨ g = q.mask ∨ g = q.segmentIds) := by
  simp only [places, List.mem_cons, List.not_mem_nil, or_false] at listed
  by_cases third : i = l.segmentIds
  · exact ⟨q.segmentIds, by rw [rowAt, if_pos third], .inr (.inr rfl)⟩
  by_cases second : i = l.mask
  · exact ⟨q.mask, by rw [rowAt, if_neg third, if_pos second], .inr (.inl rfl)⟩
  have first : i = l.ids := by
    rcases listed with first | other | other
    · exact first
    · exact absurd other second
    · exact absurd other third
  exact ⟨q.ids, by rw [rowAt, if_neg third, if_neg second, if_pos first], .inl rfl⟩

/-- Different places take the three arrays. -/
theorem rowAt_places (distinct : l.places.Nodup) (q : Sequence) :
    l.rowAt q l.ids = some q.ids ∧ l.rowAt q l.mask = some q.mask ∧
      l.rowAt q l.segmentIds = some q.segmentIds := by
  simp only [places, List.nodup_cons, List.mem_cons, List.not_mem_nil, or_false, not_or, not_false_eq_true,
    List.nodup_nil, and_true] at distinct
  obtain ⟨⟨ids_mask, ids_segmentIds⟩, mask_segmentIds⟩ := distinct
  refine ⟨?_, ?_, ?_⟩
  · rw [rowAt, if_neg ids_segmentIds, if_neg ids_mask, if_pos rfl]
  · rw [rowAt, if_neg mask_segmentIds, if_pos rfl]
  · rw [rowAt, if_pos rfl]

theorem getElem?_load (l : InputLayout) (q : Sequence) (inputs : List Slot) (i : Nat) :
    (l.load q inputs)[i]? = inputs[i]?.map fun s =>
      match l.rowAt q i with
      | some g => s.filled (g.map .int)
      | none => s := by
  rw [load, List.getElem?_mapIdx]

/-- Nothing of what the inputs held before is left in them. -/
theorem load_frame (l : InputLayout) (q : Sequence) (inputs : List Slot) :
    l.load q (l.frame inputs) = l.load q inputs := by
  apply List.ext_getElem?
  intro i
  rw [getElem?_load, getElem?_load, frame, getElem?_changedAt]
  by_cases listed : i ∈ l.places
  · obtain ⟨g, row, -⟩ := rowAt_eq_some (q := q) listed
    rw [if_pos listed, Option.map_map, row]
    rfl
  · rw [if_neg listed]

/-- Inputs that do not take a sequence stay as they are. -/
theorem frame_load (l : InputLayout) (q : Sequence) (inputs : List Slot) :
    l.frame (l.load q inputs) = l.frame inputs := by
  apply List.ext_getElem?
  intro i
  rw [frame, frame, getElem?_changedAt, getElem?_changedAt, getElem?_load]
  by_cases listed : i ∈ l.places
  · obtain ⟨g, row, -⟩ := rowAt_eq_some (q := q) listed
    rw [if_pos listed, if_pos listed, Option.map_map, row]
    rfl
  · rw [if_neg listed, if_neg listed, rowAt_eq_none listed, Option.map_id_fun']
    rfl

theorem frame_changedAt {f : Slot → Slot} (keeps : ∀ s, (f s).emptied = s.emptied) (inputs : List Slot) :
    l.frame (changedAt l.places f inputs) = l.frame inputs := by
  apply List.ext_getElem?
  intro i
  simp only [frame, getElem?_changedAt]
  by_cases listed : i ∈ l.places
  · rw [if_pos listed, if_pos listed, if_pos listed, Option.map_map]
    exact congrArg (Option.map · _) (funext keeps)
  · rw [if_neg listed, if_neg listed, if_neg listed]

end InputLayout

/-! ## Filling -/

/-- A tensor is a row of `n` places, and so is its buffer. -/
structure Tensor.Slot.IsRow (n : Nat) (s : Slot) : Prop where
  shape : s.shape = [1, (n : Int)]
  size : s.buffer.grid.size = n

theorem Tensor.Slot.isRow_filled (g : Grid Element) (s : Slot) : (s.filled g).IsRow g.size :=
  ⟨rfl, by simp [filled, Buffer.ofGrid]⟩

/-- The arrays of a sequence have `n` places. -/
def Sequence.HasPlaces (q : Sequence) (n : Nat) : Prop :=
  q.ids.shape = [n] ∧ q.mask.shape = [n] ∧ q.segmentIds.shape = [n]

theorem Sequence.HasPlaces.sequenceLength {q : Sequence} {n : Nat} (places : q.HasPlaces n) :
    Classifier.sequenceLength q = n := by
  rw [Classifier.sequenceLength, Grid.length?, places.1]
  rfl

/-- There are rows of `n` places at some places. -/
def RowsAt (places : List Nat) (n : Nat) (inputs : List Slot) : Prop :=
  ∀ i ∈ places, ∃ s, inputs[i]? = some s ∧ s.IsRow n

namespace Classifier
variable {l : InputLayout} {q : Sequence} {e : Engine} {n : Nat}

/-- An input that is a row takes any row of its length. -/
theorem populate_rows {places : List Nat} {i : Nat} {g : Grid Element} (rows : RowsAt places n e.inputs)
    (listed : i ∈ places) (size : g.size = n) :
    ∃ f, e.populate i g = ⟨.ok (), f⟩ ∧ RowsAt places n f.inputs ∧
      f = { e with inputs := e.inputs.modify i (·.filled g) } := by
  obtain ⟨s, found, row⟩ := rows i listed
  have filled := Engine.populate_row found (g := g) (by rw [size]; exact row.shape) (row.size.trans size.symm)
  refine ⟨_, filled, ?_, rfl⟩
  intro j other
  by_cases same : i = j
  · subst same
    refine ⟨s.filled g, ?_, size ▸ Slot.isRow_filled g s⟩
    rw [List.getElem?_modify_eq, found]
    rfl
  · exact (List.getElem?_modify_ne _ _ same).symm ▸ rows j other

/-- Rows take a sequence of as many places. -/
theorem fill_rows (rows : RowsAt l.places n e.inputs) (places : q.HasPlaces n) :
    fill l q e = ⟨.ok (), { e with inputs := l.load q e.inputs }⟩ := by
  obtain ⟨ids, mask, segmentIds⟩ := places
  have size : ∀ g : Grid Int, g.shape = [n] → (g.map Element.int).size = n := by
    intro g shape
    rw [Grid.size_map, Grid.size_eq_of_shape shape]
  have listed := l.mem_places
  obtain ⟨one, first, rows, rfl⟩ := populate_rows rows listed.1 (size q.ids ids)
  obtain ⟨two, second, rows, rfl⟩ := populate_rows rows listed.2.1 (size q.mask mask)
  obtain ⟨three, third, rows, rfl⟩ := populate_rows rows listed.2.2 (size q.segmentIds segmentIds)
  rw [fill, first, Engine.Outcome.andThen_ok, second, Engine.Outcome.andThen_ok, third]
  -- The last array that an input takes is the one that stays.
  have loaded : ((e.inputs.modify l.ids (·.filled (q.ids.map .int))).modify l.mask
      (·.filled (q.mask.map .int))).modify l.segmentIds (·.filled (q.segmentIds.map .int)) =
        l.load q e.inputs := by
    apply List.ext_getElem?
    intro i
    rw [InputLayout.getElem?_load, List.getElem?_modify, List.getElem?_modify, List.getElem?_modify]
    cases e.inputs[i]? with
    | none => rfl
    | some s =>
      simp only [Option.map_eq_map, Option.map_some, InputLayout.rowAt, eq_comm (a := i)]
      by_cases third : l.segmentIds = i <;> by_cases second : l.mask = i <;> by_cases first : l.ids = i <;>
        simp [first, second, third]
  rw [loaded]

/-! ## Making room -/

/-- A tensor is a row that may change its length. -/
def ElasticRow (s : Slot) : Prop := (∃ m, s.shape = [1, m]) ∧ InputLayout.Elastic s

/-- Inputs whose length may change all become rows of the same length. -/
theorem resizeAll_rows (n : Nat) (places : List Nat) : ∀ e : Engine,
    (∀ i ∈ places, ∃ s, e.inputs[i]? = some s ∧ ElasticRow s) →
    ∃ flag, resizeAll n places e =
      ⟨.ok (), { e with inputs := changedAt places (·.resized n) e.inputs, allocated := flag }⟩ := by
  induction places with
  | nil =>
    intro e _
    exact ⟨e.allocated, by rw [resizeAll, changedAt_nil]⟩
  | cons i rest ih =>
    intro e rows
    obtain ⟨s, found, ⟨m, shape⟩, elastic⟩ := rows i List.mem_cons_self
    obtain ⟨flag, resized⟩ := Engine.resize_row found shape elastic n
    rw [resizeAll, resized, Engine.Outcome.andThen_ok]
    obtain ⟨flag, run⟩ := ih { e with inputs := e.inputs.modify i (·.resized n), allocated := flag } (by
      intro j listed
      obtain ⟨t, there, row⟩ := rows j (List.mem_cons_of_mem _ listed)
      by_cases same : i = j
      · subst same
        refine ⟨t.resized n, ?_, ⟨n, rfl⟩, row.2⟩
        rw [List.getElem?_modify_eq, there]
        rfl
      · rw [List.getElem?_modify_ne _ _ same]
        exact ⟨t, there, row⟩)
    refine ⟨flag, ?_⟩
    rw [run, changedAt_modify (f := (·.resized n)) fun s => rfl]

end Classifier

namespace InputLayout
variable {l : InputLayout} {q : Sequence} {e f : Engine} {n : Nat}

/-- An input takes the next sequence of a layout: as it is, or once it is resized. -/
def TakesNext (l : InputLayout) (s : Slot) : Prop :=
  match l.length with
  | .fixed n => s.IsRow n
  | .dynamic => Classifier.ElasticRow s

/-- An engine takes the next sequence of a layout, and no other input has been touched. -/
structure Ready (l : InputLayout) (e : Engine) : Prop where
  rows : ∀ i ∈ l.places, ∃ s, e.inputs[i]? = some s ∧ l.TakesNext s
  others : ∀ i s, i ∉ l.places → e.inputs[i]? = some s → s.Fresh e.memory
  allocated : ∀ n, l.length = .fixed n → e.allocated = true

/-- Why there is no memory for a sequence of `n` places, if there is none. -/
def blocked (l : InputLayout) (n : Nat) (e : Engine) : Option Fault :=
  match l.length with
  | .fixed _ => none
  | .dynamic => (Engine.allocateAll e.memory (changedAt l.places (·.resized n) e.inputs)).1

/-- Shapes and types of resized inputs only depend on the frame. -/
theorem blocked_congr (memory : e.memory = f.memory) (inputs : l.frame e.inputs = l.frame f.inputs) :
    l.blocked n e = l.blocked n f := by
  cases length : l.length with
  | fixed m => simp only [blocked, length]
  | dynamic =>
    simp only [blocked, length, memory]
    apply Engine.allocateAll_congr
    have through : ∀ inputs : List Slot, (changedAt l.places (·.resized n) inputs).map (fun s => (s.type, s.shape)) =
        (changedAt l.places (·.resized n) (l.frame inputs)).map (fun s => (s.type, s.shape)) := by
      intro inputs
      apply List.ext_getElem?
      intro i
      simp only [List.getElem?_map, frame, getElem?_changedAt]
      by_cases listed : i ∈ l.places
      · simp only [if_pos listed, Option.map_map]
        rfl
      · simp only [if_neg listed]
    rw [through, inputs, ← through]

/-- New buffers only touch the inputs of the layout, since the others have new ones already. -/
theorem frame_allocateAll {memory : Option Nat} {inputs : List Slot}
    (others : ∀ i s, i ∉ l.places → inputs[i]? = some s → s.Fresh memory) :
    l.frame (Engine.allocateAll memory inputs).2 = l.frame inputs := by
  apply List.ext_getElem?
  intro i
  rw [frame, frame, getElem?_changedAt, getElem?_changedAt]
  cases found : inputs[i]? with
  | none =>
    have outside : (Engine.allocateAll memory inputs).2.length ≤ i := by
      rw [Engine.length_allocateAll]
      exact List.getElem?_eq_none_iff.mp found
    rw [List.getElem?_eq_none outside]
  | some s =>
    obtain ⟨t, there, made | ⟨rfl, -⟩⟩ := Engine.allocateAll_entry memory found
    · obtain ⟨b, allocated, rfl⟩ := Engine.allocate_eq_ok_iff.mp made
      rw [there]
      by_cases listed : i ∈ l.places
      · rw [if_pos listed, if_pos listed]
        rfl
      · have fresh := (others i s listed found).buffer
        rw [allocated, Except.ok.injEq] at fresh
        rw [if_neg listed, if_neg listed, fresh]
    · rw [there]

/-- Inputs with one frame have the same tensors where no sequence goes. -/
theorem getElem?_of_frame {inputs others : List Slot} (same : l.frame inputs = l.frame others) {i : Nat}
    (other : i ∉ l.places) : inputs[i]? = others[i]? := by
  have pointwise := congrArg (·[i]?) same
  simp only [frame, getElem?_changedAt, if_neg other] at pointwise
  exact pointwise

/-- Inputs with rows of `n` places where a sequence goes, old buffers and all. -/
theorem resized_rows {inputs : List Slot}
    (rows : ∀ i ∈ l.places, ∃ s, inputs[i]? = some s ∧ Classifier.ElasticRow s) :
    ∀ i ∈ l.places, ∃ s, (changedAt l.places (·.resized n) inputs)[i]? = some s ∧
      s.shape = [1, (n : Int)] ∧ Elastic s := by
  intro i listed
  obtain ⟨s, found, -, elastic⟩ := rows i listed
  refine ⟨s.resized n, ?_, rfl, elastic⟩
  rw [getElem?_changedAt, if_pos listed, found]
  rfl

/-- Rows stay rows when they are allocated, and have buffers of their length once all are. -/
theorem allocateAll_rows (memory : Option Nat) {slots : List Slot}
    (rows : ∀ i ∈ l.places, ∃ s, slots[i]? = some s ∧ s.shape = [1, (n : Int)] ∧ Elastic s) :
    (∀ i ∈ l.places, ∃ s, (Engine.allocateAll memory slots).2[i]? = some s ∧ Classifier.ElasticRow s) ∧
      ((Engine.allocateAll memory slots).1 = none → RowsAt l.places n (Engine.allocateAll memory slots).2) := by
  constructor
  · intro i listed
    obtain ⟨s, found, shape, elastic⟩ := rows i listed
    obtain ⟨t, there, made | ⟨rfl, -⟩⟩ := Engine.allocateAll_entry memory found
    · obtain ⟨b, -, rfl⟩ := Engine.allocate_eq_ok_iff.mp made
      exact ⟨_, there, ⟨n, shape⟩, elastic⟩
    · exact ⟨t, there, ⟨n, shape⟩, elastic⟩
  · intro fits i listed
    obtain ⟨s, found, shape, -⟩ := rows i listed
    obtain ⟨t, there, made | ⟨-, fault, fails⟩⟩ := Engine.allocateAll_entry memory found
    · obtain ⟨b, allocated, rfl⟩ := Engine.allocate_eq_ok_iff.mp made
      refine ⟨_, there, shape, ?_⟩
      rw [Buffer.eq_zeros_of_allocate allocated, shape]
      simp [Buffer.zeros, cellCount]
    · rw [fits] at fails
      cases fails

namespace Ready

theorem elasticRows (ready : l.Ready e) (length : l.length = .dynamic) :
    ∀ i ∈ l.places, ∃ s, e.inputs[i]? = some s ∧ Classifier.ElasticRow s := by
  intro i listed
  obtain ⟨s, found, takes⟩ := ready.rows i listed
  rw [TakesNext, length] at takes
  exact ⟨s, found, takes⟩

theorem others_of_frame (ready : l.Ready e) {inputs : List Slot} (same : l.frame inputs = l.frame e.inputs) :
    ∀ i s, i ∉ l.places → inputs[i]? = some s → s.Fresh e.memory := by
  intro i s other found
  rw [getElem?_of_frame same other] at found
  exact ready.others i s other found

/-- Resized inputs get new buffers, or some of them cannot have one. -/
theorem makeRoom_dynamic (ready : l.Ready e) (length : l.length = .dynamic) :
    ∃ inputs flag, l.frame inputs = l.frame e.inputs ∧
      (∀ i ∈ l.places, ∃ s, inputs[i]? = some s ∧ Classifier.ElasticRow s) ∧
      match l.blocked n e with
      | none => Classifier.makeRoom l n e = ⟨.ok (), { e with inputs, allocated := true }⟩ ∧
          RowsAt l.places n inputs
      | some fault =>
        Classifier.makeRoom l n e = ⟨.error (.fault fault), { e with inputs, allocated := flag }⟩ := by
  have rows := ready.elasticRows length
  obtain ⟨flag, resized⟩ := Classifier.resizeAll_rows n l.places e rows
  have kept := frame_changedAt (l := l) (Slot.emptied_resized n) e.inputs
  have others := ready.others_of_frame kept
  have room : Classifier.makeRoom l n e =
      Engine.allocate { e with inputs := changedAt l.places (·.resized n) e.inputs, allocated := flag } := by
    simp only [Classifier.makeRoom, length, resized, Engine.Outcome.andThen_ok]
  obtain ⟨elastic, full⟩ := allocateAll_rows e.memory (resized_rows (n := n) rows)
  have reason : l.blocked n e = (Engine.allocateAll e.memory (changedAt l.places (·.resized n) e.inputs)).1 := by
    simp only [blocked, length]
  refine ⟨(Engine.allocateAll e.memory (changedAt l.places (·.resized n) e.inputs)).2, flag,
    (frame_allocateAll others).trans kept, elastic, ?_⟩
  rw [room, reason]
  cases fits : (Engine.allocateAll e.memory (changedAt l.places (·.resized n) e.inputs)).1 with
  | some fault => exact Engine.allocate_error fits
  | none => exact ⟨Engine.allocate_ok fits, full fits⟩

/-- There is no room for `n` places if one of the inputs that a sequence goes into cannot have a row of as
many, and only then. -/
theorem blocked_eq_some_iff (ready : l.Ready e) {fault : Fault} :
    l.blocked n e = some fault ↔ l.length = .dynamic ∧ ∃ i ∈ l.places, ∃ s, e.inputs[i]? = some s ∧
      Buffer.allocate e.memory s.type.element [1, (n : Int)] = .error fault := by
  cases length : l.length with
  | fixed m => simp [blocked, length]
  | dynamic =>
    have reason : l.blocked n e = (changedAt l.places (·.resized n) e.inputs).findSome? (Engine.fault? e.memory) := by
      simp only [blocked, length]
      exact Engine.allocateAll_fault _ _
    have located : ∀ cause, l.blocked n e = some cause → ∃ i ∈ l.places, ∃ s, e.inputs[i]? = some s ∧
        Buffer.allocate e.memory s.type.element [1, (n : Int)] = .error cause := by
      intro cause found
      rw [reason] at found
      obtain ⟨s, member, failed⟩ := List.exists_of_findSome?_eq_some found
      obtain ⟨i, there⟩ := List.mem_iff_getElem?.mp member
      rw [getElem?_changedAt] at there
      by_cases listed : i ∈ l.places
      · rw [if_pos listed] at there
        obtain ⟨t, here, rfl⟩ := Option.map_eq_some_iff.mp there
        have refused : Buffer.allocate e.memory (t.resized n).type.element (t.resized n).shape = .error cause :=
          Engine.fault?_eq_some failed
        exact ⟨i, listed, t, here, refused⟩
      · rw [if_neg listed] at there
        rw [Engine.fault?_eq_none (ready.others i s listed there).buffer] at failed
        cases failed
    refine ⟨fun found => ⟨rfl, located fault found⟩, ?_⟩
    rintro ⟨-, i, listed, s, here, failed⟩
    cases found : l.blocked n e with
    | none =>
      have there : (changedAt l.places (·.resized n) e.inputs)[i]? = some (s.resized n) := by
        rw [getElem?_changedAt, if_pos listed, here]
        rfl
      rw [reason, List.findSome?_eq_none_iff] at found
      have passed := found _ (List.mem_of_getElem? there)
      have same : Buffer.allocate e.memory (s.resized n).type.element (s.resized n).shape = .error fault := failed
      rw [Engine.fault?, same] at passed
      cases passed
    | some cause =>
      obtain ⟨j, -, t, -, other⟩ := located cause found
      rw [Buffer.allocate_error failed, Buffer.allocate_error other]

theorem blocked_eq_none_of_rows (ready : l.Ready e)
    (rows : l.length = .dynamic → ∀ i ∈ l.places, ∀ s, e.inputs[i]? = some s →
      ∃ b, Buffer.allocate e.memory s.type.element [1, (n : Int)] = .ok b) : l.blocked n e = none := by
  cases found : l.blocked n e with
  | none => rfl
  | some fault =>
    obtain ⟨length, i, listed, s, here, failed⟩ := ready.blocked_eq_some_iff.mp found
    obtain ⟨b, made⟩ := rows length i listed s here
    rw [made] at failed
    cases failed

/-- With a sequence in them, the inputs can take the next one. -/
theorem rows_load (ready : l.Ready e) (places : q.HasPlaces n) (fits : ∀ m, l.length = .fixed m → n = m) :
    ∀ i ∈ l.places, ∃ s, (l.load q e.inputs)[i]? = some s ∧ l.TakesNext s := by
  intro i listed
  obtain ⟨s, found, takes⟩ := ready.rows i listed
  obtain ⟨g, row, which⟩ := rowAt_eq_some (q := q) listed
  have size : (g.map Element.int).size = n := by
    obtain ⟨ids, mask, segmentIds⟩ := places
    rw [Grid.size_map]
    rcases which with rfl | rfl | rfl
    · exact Grid.size_eq_of_shape ids
    · exact Grid.size_eq_of_shape mask
    · exact Grid.size_eq_of_shape segmentIds
  refine ⟨s.filled (g.map .int), ?_, ?_⟩
  · rw [getElem?_load, found, row]
    rfl
  · cases length : l.length with
    | fixed m =>
      simp only [TakesNext, length]
      rw [← fits m length, ← size]
      exact Slot.isRow_filled _ _
    | dynamic =>
      simp only [TakesNext, length] at takes ⊢
      exact ⟨⟨_, rfl⟩, takes.2⟩

/-- With memory for it, a sequence gets into the engine, which is ready for the next one then. -/
theorem feed_ok (ready : l.Ready e) (places : q.HasPlaces n) (fits : ∀ m, l.length = .fixed m → n = m)
    (room : l.blocked n e = none) :
    Classifier.feed l q e = ⟨.ok (), { e with inputs := l.load q e.inputs, allocated := true }⟩ ∧
      l.Ready { e with inputs := l.load q e.inputs, allocated := true } := by
  refine ⟨?_, ready.rows_load places fits, ready.others_of_frame (frame_load l q e.inputs), fun _ _ => rfl⟩
  rw [Classifier.feed, places.sequenceLength]
  cases length : l.length with
  | fixed m =>
    have rows : RowsAt l.places n e.inputs := by
      intro i listed
      obtain ⟨s, found, takes⟩ := ready.rows i listed
      simp only [TakesNext, length] at takes
      rw [fits m length]
      exact ⟨s, found, takes⟩
    have same : Classifier.makeRoom l n e = ⟨.ok (), e⟩ := by simp only [Classifier.makeRoom, length]
    rw [same, Engine.Outcome.andThen_ok, Classifier.fill_rows rows places, ← ready.allocated m length]
  | dynamic =>
    obtain ⟨inputs, flag, kept, -, made⟩ := ready.makeRoom_dynamic (n := n) length
    rw [room] at made
    obtain ⟨run, rows⟩ := made
    have filled := Classifier.fill_rows (e := { e with inputs, allocated := true }) rows places
    have loaded : l.load q inputs = l.load q e.inputs := by rw [← load_frame, kept, load_frame]
    rw [run, Engine.Outcome.andThen_ok, filled, loaded]

/-- Without memory for it, a sequence does not get into the engine, which stays ready. -/
theorem feed_blocked (ready : l.Ready e) (places : q.HasPlaces n) {fault : Fault}
    (reason : l.blocked n e = some fault) :
    ∃ inputs flag, Classifier.feed l q e = ⟨.error (.fault fault), { e with inputs, allocated := flag }⟩ ∧
      l.frame inputs = l.frame e.inputs ∧ l.Ready { e with inputs, allocated := flag } := by
  cases length : l.length with
  | fixed m => simp [blocked, length] at reason
  | dynamic =>
    obtain ⟨inputs, flag, kept, rows, made⟩ := ready.makeRoom_dynamic (n := n) length
    rw [reason] at made
    refine ⟨inputs, flag, ?_, kept, ?_, ready.others_of_frame kept, ?_⟩
    · rw [Classifier.feed, places.sequenceLength, made, Engine.Outcome.andThen_error]
    · simp only [TakesNext, length]
      exact rows
    · intro m fixed
      rw [length] at fixed
      cases fixed

end Ready

end InputLayout
end TextClassifier
