import TextClassifier.Tensor.Grid

/-!
# Row-major order

The cells of a grid stand one behind the other in the order of their indices, of which the last runs fastest. The
order of the indices is said for a shape alone (`indices`), and what stands at an index is found in the nested arrays
that a grid is shown as (`Value.at?`). The cells are then what stands at the indices, in order (`map_at?_indices`).
-/
namespace TextClassifier

/-- What stands at an index in nested arrays. -/
def Json.Value.at? (v : Json.Value) : List Nat → Option Json.Value
  | [] => some v
  | i :: index =>
    match v with
    | .array items => (items[i]?).bind fun item => item.at? index
    | _ => none

namespace Tensor
open Json

/-- The indices under a shape, of which the last runs fastest. -/
def indices : List Nat → List (List Nat)
  | [] => [[]]
  | d :: shape => (List.range d).flatMap fun i => (indices shape).map (i :: ·)

namespace Grid
variable {α : Type} {cell : α → Value} {shape : List Nat}

/-- The values at the indices of a shape are the shown cells, in order. -/
def Shows (cell : α → Value) (shape : List Nat) (v : Value) (cells : List α) : Prop :=
  (indices shape).map v.at? = cells.map fun x => some (cell x)

/-- One row in front of others: their rows are counted from one on. -/
theorem Shows.cons {d : Nat} {v : Value} {vs : List Value} {row cells : List α} (first : Shows cell shape v row)
    (others : Shows cell (d :: shape) (.array vs) cells) :
    Shows cell ((d + 1) :: shape) (.array (v :: vs)) (row ++ cells) := by
  have front : (indices shape).map (fun index => (Value.array (v :: vs)).at? (0 :: index)) =
      (indices shape).map v.at? := rfl
  have back : ∀ i, (indices shape).map (fun index => (Value.array (v :: vs)).at? ((i + 1) :: index)) =
      (indices shape).map (fun index => (Value.array vs).at? (i :: index)) := fun i => rfl
  simp only [Shows, indices, List.map_flatMap, List.map_map, Function.comp_def] at first others ⊢
  rw [List.range_succ_eq_map, List.flatMap_cons, List.flatMap_map, List.map_append, front, first]
  simp only [Nat.succ_eq_add_one, back, others]

/-- Rows that are each shown give an array that is shown. -/
theorem shows_rows {row : List α → Value × List α}
    (each : ∀ cells rest, cells.length = cellCount shape →
      ∃ v, row (cells ++ rest) = (v, rest) ∧ Shows cell shape v cells) (d : Nat) :
    ∀ cells rest, cells.length = d * cellCount shape →
      ∃ vs, rows row d (cells ++ rest) = (vs, rest) ∧ Shows cell (d :: shape) (.array vs) cells := by
  induction d with
  | zero =>
    intro cells rest count
    obtain rfl : cells = [] := by simpa using count
    exact ⟨[], rfl, rfl⟩
  | succ d ih =>
    intro cells rest count
    rw [Nat.succ_mul] at count
    have front : (cells.take (cellCount shape)).length = cellCount shape := by
      rw [List.length_take]
      omega
    have back : (cells.drop (cellCount shape)).length = d * cellCount shape := by
      rw [List.length_drop]
      omega
    obtain ⟨v, here, shown⟩ := each _ (cells.drop (cellCount shape) ++ rest) front
    obtain ⟨vs, later, others⟩ := ih _ rest back
    refine ⟨v :: vs, ?_, ?_⟩
    · rw [← List.append_assoc, List.take_append_drop] at here
      rw [rows, here]
      simp only [later]
    · have together := shown.cons others
      rwa [List.take_append_drop] at together

/-- Nested arrays are filled from the front of the cells, and the rest is left. -/
theorem shows_nestFrom (cell : α → Value) (shape : List Nat) :
    ∀ cells rest, cells.length = cellCount shape →
      ∃ v, nestFrom cell shape (cells ++ rest) = (v, rest) ∧ Shows cell shape v cells := by
  induction shape with
  | nil =>
    intro cells rest count
    obtain ⟨x, rfl⟩ := List.length_eq_one_iff.mp count
    exact ⟨cell x, rfl, rfl⟩
  | cons d shape ih =>
    intro cells rest count
    obtain ⟨vs, shown, others⟩ := shows_rows ih d cells rest count
    refine ⟨.array vs, ?_, others⟩
    rw [nestFrom]
    simp only [shown]

/-- The cells of a grid are what stands at the indices of its shape, in row-major order. -/
theorem map_at?_indices (cell : α → Value) (g : Grid α) :
    (indices g.shape).map (g.toValue cell).at? = g.cells.map fun x => some (cell x) := by
  obtain ⟨v, nested, shown⟩ := shows_nestFrom cell g.shape g.cells [] g.length_cells
  rw [List.append_nil] at nested
  rw [toValue, nested]
  exact shown

example : indices [2, 3] = [[0, 0], [0, 1], [0, 2], [1, 0], [1, 1], [1, 2]] := rfl

end Grid
end Tensor
end TextClassifier
