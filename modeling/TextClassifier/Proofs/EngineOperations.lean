import TextClassifier.Engine

/-!
# What the operations of an engine do

Each operation by itself, on inputs that are rows: tensors of one row with as many places as are
needed. Resizing and filling change the tensor at their place and nothing else (`resize_row`,
`populate_row`). Whether tensors can be allocated only depends on their types and shapes
(`allocateAll_congr`), and what a run gives only depends on what the graph gives and on how the
outputs are declared (`invoke_congr`).
-/
namespace TextClassifier
open Tensor

/-! ## Memory -/

/-- A buffer can be had exactly if its dimensions are natural words that can be counted with, and memory has room
for its bytes. -/
theorem Tensor.Buffer.allocate_ok_iff {memory : Option Nat} {type : ElementType} {shape : List Int} {b : Buffer} :
    allocate memory type shape = .ok b ↔ (∀ d ∈ shape, Number.fitsSigned 64 d = true) ∧ (∀ d ∈ shape, 0 ≤ d) ∧
      isCountable (shape.map Int.toNat) = true ∧ (∀ limit ∈ memory, byteCount type (shape.map Int.toNat) < limit) ∧
      b = zeros type (shape.map Int.toNat) := by
  have room : memory.any (· ≤ byteCount type (shape.map Int.toNat)) = true ↔
      ¬ ∀ limit ∈ memory, byteCount type (shape.map Int.toNat) < limit := by
    cases memory <;> simp
  have words : (shape.any fun d => !Number.fitsSigned 64 d) = true ↔
      ¬ ∀ d ∈ shape, Number.fitsSigned 64 d = true := by simp
  have natural : shape.any (· < 0) = true ↔ ¬ ∀ d ∈ shape, 0 ≤ d := by simp
  rw [allocate]
  simp only [room, words, natural]
  constructor
  · intro made
    split at made
    · cases made
    rename_i words
    split at made
    · cases made
    rename_i natural
    split at made
    · cases made
    rename_i countable
    split at made
    · cases made
    rename_i room
    cases made
    exact ⟨Decidable.not_not.mp words, Decidable.not_not.mp natural, by simpa using countable,
      Classical.not_not.mp room, rfl⟩
  · rintro ⟨words, natural, countable, room, rfl⟩
    rw [if_neg (not_not_intro words), if_neg (not_not_intro natural), countable, Bool.not_true, if_neg Bool.false_ne_true,
      if_neg (not_not_intro room)]

theorem Tensor.Buffer.eq_zeros_of_allocate {memory : Option Nat} {type : ElementType} {shape : List Int} {b : Buffer}
    (made : allocate memory type shape = .ok b) : b = zeros type (shape.map Int.toNat) :=
  (allocate_ok_iff.mp made).2.2.2.2

/-- Whether memory is short or not, the fault is the same for all buffers of a shape. -/
theorem Tensor.Buffer.allocate_error {memory : Option Nat} {type : ElementType} {shape : List Int} {fault : Fault}
    (failed : allocate memory type shape = .error fault) :
    fault = if shape.any fun d => !Number.fitsSigned 64 d then .mistyped else .unallocatable := by
  rw [allocate] at failed
  split at failed
  · rename_i words
    cases failed
    rw [if_pos words]
  rename_i words
  rw [if_neg words]
  split at failed
  · cases failed
    rfl
  split at failed
  · cases failed
    rfl
  split at failed
  · cases failed
    rfl
  · cases failed

/-! ## Rows -/

namespace Tensor.Grid
variable {α β : Type}

def row (g : Grid α) : Grid α := ⟨[1, g.size], g.cells, by simp [cellCount, size]⟩

/-- A shape without negative dimensions is taken by as many cells as it has places. -/
theorem reshape?_of_natural {shape : List Int} (natural : ∀ d ∈ shape, 0 ≤ d) (g : Grid α) :
    g.reshape? shape = ofCells? (shape.map Int.toNat) g.cells := by
  have none_negative : shape.filter (· < 0) = [] := by
    rw [List.filter_eq_nil_iff]
    intro d member
    simpa using natural d member
  have all_natural : shape.filter (0 ≤ ·) = shape := by
    rw [List.filter_eq_self]
    intro d member
    simpa using natural d member
  have fitting : fitting? g.size shape =
      if cellCount (shape.map Int.toNat) = g.size then some (shape.map Int.toNat) else none := by
    rw [fitting?, none_negative, all_natural]
    rfl
  rw [reshape?, fitting]
  by_cases count : cellCount (shape.map Int.toNat) = g.size
  · rw [if_pos count, Option.bind_some]
  · have other : ¬ g.cells.length = cellCount (shape.map Int.toNat) := Ne.symm count
    rw [if_neg count, Option.bind_none, ofCells?, dif_neg other]

theorem reshape?_row (g : Grid α) : g.reshape? [1, (g.size : Int)] = some g.row := by
  have cells : g.cells.length = cellCount [1, g.size] := by simp [cellCount, size]
  rw [reshape?_of_natural (by simp)]
  exact dif_pos cells

@[simp] theorem size_map (f : α → β) (g : Grid α) : (g.map f).size = g.size := by simp [size]

@[simp] theorem size_fill (shape : List Nat) (x : α) : (fill shape x).size = cellCount shape := by
  simp [size, fill]

@[simp] theorem size_row (g : Grid α) : g.row.size = g.size := rfl

theorem size_eq_of_shape {g : Grid α} {n : Nat} (shape : g.shape = [n]) : g.size = n := by
  rw [size, g.length_cells, shape]
  simp [cellCount]

end Tensor.Grid

namespace Tensor.Slot

/-- A tensor as it is declared, without a shape and with only one zero. -/
def emptied (s : Slot) : Slot := { s with shape := [], buffer := .zeros s.type.element [] }

def resized (n : Nat) (s : Slot) : Slot := { s with shape := [1, n] }

def filled (g : Grid Element) (s : Slot) : Slot :=
  { s with shape := [1, g.size], buffer := .ofGrid s.type.element g.row }

@[simp] theorem emptied_resized (n : Nat) (s : Slot) : (s.resized n).emptied = s.emptied := rfl

@[simp] theorem emptied_setResult (b : Buffer) (s : Slot) : (s.setResult b).emptied = s.emptied := rfl

@[simp] theorem filled_filled (g h : Grid Element) (s : Slot) : (s.filled g).filled h = s.filled h := rfl

/-- What is known of two tensors that are declared alike. -/
theorem eq_of_emptied {s t : Slot} (same : s.emptied = t.emptied) :
    s.name = t.name ∧ s.type = t.type ∧ s.signature = t.signature ∧ s.quantization = t.quantization := by
  simp only [emptied, mk.injEq] at same
  exact ⟨same.1, same.2.1, same.2.2.2.1, same.2.2.2.2.1⟩

theorem setResult_congr {s t : Slot} (same : s.emptied = t.emptied) (b : Buffer) :
    s.setResult b = t.setResult b := by
  obtain ⟨name, type, signature, quantization⟩ := eq_of_emptied same
  simp only [setResult, name, type, signature, quantization]

/-- A row takes as many values as it has places. -/
theorem populate_row {s : Slot} {g : Grid Element} (shape : s.shape = [1, (g.size : Int)])
    (size : s.buffer.grid.size = g.size) : s.populate g = .ok (s.filled g) := by
  have fits : s.fit g = .ok g.row := by
    rw [fit, size, if_neg (by simp), shape, Grid.reshape?_row]
  rw [populate, fits]
  show Except.ok (s.store g.row) = _
  rw [store, filled, shape]

end Tensor.Slot

namespace Engine
variable {e : Engine} {i : Nat} {s : Slot}

/-! ## One input -/

theorem input_eq (found : e.inputs[i]? = some s) : e.input i = .ok (i, s) := by
  obtain ⟨inside, -⟩ := List.getElem?_eq_some_iff.mp found
  have place : place? e.inputs.length i = some i := by
    rw [place?, if_pos (by omega), Int.toNat_natCast]
  rw [input, place, Option.bind_some, found]
  rfl

theorem setInput_eq_modify (found : e.inputs[i]? = some s) (f : Slot → Slot) :
    e.setInput i (f s) = { e with inputs := e.inputs.modify i f } := by
  have inputs : e.inputs.set i (f s) = e.inputs.modify i f := by
    apply List.ext_getElem?
    intro j
    by_cases same : i = j
    · subst same
      rw [List.getElem?_set_self', List.getElem?_modify_eq, found]
      rfl
    · rw [List.getElem?_set_ne same, List.getElem?_modify_ne _ _ same]
  rw [setInput, inputs]

/-- A row that is filled, with everything else as it was. -/
theorem populate_row {g : Grid Element} (found : e.inputs[i]? = some s)
    (shape : s.shape = [1, (g.size : Int)]) (size : s.buffer.grid.size = g.size) :
    e.populate i g = ⟨.ok (), { e with inputs := e.inputs.modify i (·.filled g) }⟩ := by
  rw [populate, modifyInput, input_eq found]
  show Outcome.ofExcept e ((s.populate g).bind fun t => .ok (e.setInput i t)) = _
  rw [Slot.populate_row shape size]
  show Outcome.mk (.ok ()) (e.setInput i (s.filled g)) = _
  rw [setInput_eq_modify found]

theorem keepsFixed_row {m n : Int} {signature : List Int} (elastic : signature[1]? = some (-1)) :
    keepsFixed [1, m] signature [1, n] = true := by
  rcases signature with _ | ⟨batch, _ | ⟨length, rest⟩⟩
  · simp at elastic
  · simp at elastic
  · simp only [List.getElem?_cons_succ, List.getElem?_cons_zero, Option.some.injEq] at elastic
    simp [keepsFixed, elastic]

/-- A row that may change its length is resized, with everything else as it was. -/
theorem resize_row {m : Int} (found : e.inputs[i]? = some s) (shape : s.shape = [1, m])
    (elastic : s.signature[1]? = some (-1)) (n : Nat) :
    ∃ flag, e.resize i [1, n] true =
      ⟨.ok (), { e with inputs := e.inputs.modify i (·.resized n), allocated := flag }⟩ := by
  have checked : checkShape s [1, n] true = .ok () := by
    have keeps := keepsFixed_row (m := m) (n := n) elastic
    simp [checkShape, Slot.rank, shape, keeps]
  have run : e.resize i [1, n] true = ⟨.ok (), e.withShape i s [1, n]⟩ := by
    rw [resize, input_eq found]
    show Outcome.ofExcept e (((checkShape s [1, n] true).mapError _).bind _) = _
    rw [checked]
    rfl
  rw [run, withShape]
  by_cases same : [1, (n : Int)] = s.shape
  · have kept : e.setInput i (s.resized n) = e := by
      have unchanged : s.resized n = s := by rw [Slot.resized, same]
      obtain ⟨inside, at_i⟩ := List.getElem?_eq_some_iff.mp found
      rw [unchanged, setInput, ← at_i, List.set_getElem_self inside]
    refine ⟨e.allocated, ?_⟩
    rw [if_pos same]
    rw [setInput_eq_modify found (·.resized n)] at kept
    exact congrArg (Outcome.mk (.ok ())) kept.symm
  · refine ⟨false, ?_⟩
    rw [if_neg same]
    have changed := setInput_eq_modify found (·.resized n)
    exact congrArg (fun e : Engine => Outcome.mk (.ok ()) { e with allocated := false }) changed

/-! ## Allocation -/

/-- What a tensor's buffer fails with, if it cannot be allocated. -/
def fault? (memory : Option Nat) (s : Slot) : Option Fault :=
  match Buffer.allocate memory s.type.element s.shape with
  | .ok _ => none
  | .error fault => some fault

theorem fault?_eq_none {memory : Option Nat} {b : Buffer}
    (made : Buffer.allocate memory s.type.element s.shape = .ok b) : fault? memory s = none := by
  rw [fault?, made]

theorem fault?_eq_some {memory : Option Nat} {fault : Fault} (failed : fault? memory s = some fault) :
    Buffer.allocate memory s.type.element s.shape = .error fault := by
  rw [fault?] at failed
  split at failed
  · cases failed
  · rename_i same
    cases failed
    exact same

theorem allocate_eq_ok_iff {memory : Option Nat} {s t : Slot} :
    s.allocate memory = .ok t ↔
      ∃ b, Buffer.allocate memory s.type.element s.shape = .ok b ∧ t = { s with buffer := b } := by
  cases made : Buffer.allocate memory s.type.element s.shape with
  | ok b =>
    have run : s.allocate memory = .ok { s with buffer := b } := by rw [Slot.allocate, made]; rfl
    simp [run, eq_comm]
  | error fault =>
    have run : s.allocate memory = .error fault := by rw [Slot.allocate, made]; rfl
    simp [run]

/-- The tensors are allocated in order, up to the first that cannot be. -/
theorem allocateAll_fault (memory : Option Nat) (slots : List Slot) :
    (allocateAll memory slots).1 = slots.findSome? (fault? memory) := by
  induction slots with
  | nil => rfl
  | cons s rest ih =>
    rw [allocateAll, Slot.allocate, List.findSome?_cons, fault?]
    cases Buffer.allocate memory s.type.element s.shape with
    | ok b => exact ih
    | error fault => rfl

/-- Only types and shapes decide whether tensors can be allocated. -/
theorem allocateAll_congr {memory : Option Nat} {slots others : List Slot}
    (same : slots.map (fun s => (s.type, s.shape)) = others.map (fun s => (s.type, s.shape))) :
    (allocateAll memory slots).1 = (allocateAll memory others).1 := by
  -- The fault of a tensor is a function of its type and its shape.
  have through : ∀ slots : List Slot, slots.findSome? (fault? memory) =
      (slots.map fun s => (s.type, s.shape)).findSome? fun (type, shape) =>
        match Buffer.allocate memory type.element shape with
        | .ok _ => none
        | .error fault => some fault := by
    intro slots
    rw [List.findSome?_map]
    rfl
  rw [allocateAll_fault, allocateAll_fault, through, through, same]

theorem length_allocateAll (memory : Option Nat) (slots : List Slot) :
    (allocateAll memory slots).2.length = slots.length := by
  induction slots with
  | nil => rfl
  | cons s rest ih =>
    rw [allocateAll]
    cases s.allocate memory with
    | ok t => simp [ih]
    | error fault => rfl

/-- A tensor has a new buffer, or it is as it was because some tensor could not be allocated. -/
theorem allocateAll_entry (memory : Option Nat) {slots : List Slot} {i : Nat} {s : Slot}
    (found : slots[i]? = some s) :
    ∃ t, (allocateAll memory slots).2[i]? = some t ∧
      (s.allocate memory = .ok t ∨ t = s ∧ ∃ fault, (allocateAll memory slots).1 = some fault) := by
  induction slots generalizing i with
  | nil => simp at found
  | cons first rest ih =>
    cases made : first.allocate memory with
    | error fault =>
      have run : allocateAll memory (first :: rest) = (some fault, first :: rest) := by
        rw [allocateAll, made]
      rw [run]
      exact ⟨s, found, .inr ⟨rfl, fault, rfl⟩⟩
    | ok t =>
      have run : allocateAll memory (first :: rest) =
          ((allocateAll memory rest).1, t :: (allocateAll memory rest).2) := by
        rw [allocateAll, made]
      rw [run]
      cases i with
      | zero =>
        rw [List.getElem?_cons_zero, Option.some.injEq] at found
        exact ⟨t, rfl, .inl (found ▸ made)⟩
      | succ i => exact ih found

theorem allocate_ok (fits : (allocateAll e.memory e.inputs).1 = none) :
    e.allocate = ⟨.ok (), { e with inputs := (allocateAll e.memory e.inputs).2, allocated := true }⟩ := by
  rw [allocate]
  rcases run : allocateAll e.memory e.inputs with ⟨_ | fault, inputs⟩
  · rfl
  · simp [run] at fits

theorem allocate_error {fault : Fault} (fails : (allocateAll e.memory e.inputs).1 = some fault) :
    e.allocate = ⟨.error (.fault fault), { e with inputs := (allocateAll e.memory e.inputs).2 }⟩ := by
  rw [allocate]
  rcases run : allocateAll e.memory e.inputs with ⟨_ | other, inputs⟩
  · simp [run] at fails
  · simp only [run, Option.some.injEq] at fails
    rw [fails]

/-! ## Results -/

theorem emptied_setResults (slots : List Slot) (given : List Given) :
    (setResults slots given).2.map Slot.emptied = slots.map Slot.emptied := by
  induction slots generalizing given with
  | nil => simp [setResults]
  | cons s rest ih =>
    rcases given with _ | ⟨_ | b, given⟩
    · rfl
    · simp [setResults, ih]
    · rfl

/-- Results do not depend on what the tensors held before. -/
theorem setResults_congr {slots others : List Slot} {given : List Given}
    (same : slots.map Slot.emptied = others.map Slot.emptied) (count : given.length = slots.length) :
    (setResults slots given).1 = (setResults others given).1 ∧
      ((setResults slots given).1 = none → (setResults slots given).2 = (setResults others given).2) := by
  induction slots generalizing others given with
  | nil =>
    have empty : others = [] := by simpa using same.symm
    subst empty
    simp
  | cons s rest ih =>
    rcases others with _ | ⟨t, others⟩
    · simp at same
    simp only [List.map_cons, List.cons.injEq] at same
    obtain ⟨alike, same⟩ := same
    rcases given with _ | ⟨_ | b, given⟩
    · simp at count
    · rename_i b
      simp only [List.length_cons, Nat.add_right_cancel_iff] at count
      obtain ⟨fault, results⟩ := ih same count
      refine ⟨fault, fun passed => ?_⟩
      show s.setResult b :: _ = t.setResult b :: _
      rw [Slot.setResult_congr alike, results passed]
    · exact ⟨rfl, fun passed => by cases passed⟩

/-- A run depends on what the graph gives and on how the outputs are declared. -/
theorem invoke_congr {e f : Engine}
    (graph : e.graph (e.inputs.map (·.buffer)) = f.graph (f.inputs.map (·.buffer)))
    (outputs : e.outputs.map Slot.emptied = f.outputs.map Slot.emptied)
    (allocated : e.allocated = f.allocated) : e.invoke.result = f.invoke.result := by
  have produced : e.produce = f.produce := by rw [produce, produce, graph]
  have lengths : e.outputs.length = f.outputs.length := by simpa using congrArg List.length outputs
  unfold invoke
  rw [produced, allocated, lengths]
  cases f.allocated with
  | false => rfl
  | true =>
    cases f.produce with
    | error cause => rfl
    | ok given =>
      by_cases count : given.length = f.outputs.length
      · obtain ⟨fault, results⟩ := setResults_congr outputs (count.trans lengths.symm)
        simp only [Bool.not_true, Bool.false_eq_true, if_false, ne_eq, count, not_true_eq_false]
        rcases first : setResults e.outputs given with ⟨_ | cause, here⟩
        · rcases second : setResults f.outputs given with ⟨_ | cause, there⟩
          · simp only [first, second] at results
            simp [results]
          · simp [first, second] at fault
        · rcases second : setResults f.outputs given with ⟨_ | other, there⟩
          · simp [first, second] at fault
          · simp only [first, second, Option.some.injEq] at fault
            simp [fault]
      · simp [count]

/-- A run only changes what the outputs hold. -/
theorem invoke_engine (e : Engine) : ∃ outputs, e.invoke.engine = { e with outputs } ∧
    outputs.map Slot.emptied = e.outputs.map Slot.emptied := by
  unfold invoke
  split
  · exact ⟨e.outputs, rfl, rfl⟩
  split
  · exact ⟨e.outputs, rfl, rfl⟩
  rename_i given produced
  split
  · exact ⟨e.outputs, rfl, rfl⟩
  have kept := emptied_setResults e.outputs given
  rcases run : setResults e.outputs given with ⟨_ | fault, outputs⟩
  · rw [run] at kept
    exact ⟨outputs, rfl, kept⟩
  · rw [run] at kept
    exact ⟨outputs, rfl, kept⟩

end Engine
end TextClassifier
