import TextClassifier.Fault
import TextClassifier.Json.Untyped
import TextClassifier.Tensor.ElementType

/-!
# Grids

A grid is a list of cells under a shape, in row-major order; it has as many cells as its shape asks
for. Grids are made from nested arrays, all of one depth and, at each depth, of one length, and can
be reshaped as long as the number of cells stays the same.
-/
namespace TextClassifier.Tensor
open Json

/-- The number of cells of a shape. -/
def cellCount : List Nat → Nat
  | [] => 1
  | d :: shape => d * cellCount shape

/-- Cells in row-major order under a shape. -/
structure Grid (α : Type) where
  shape : List Nat
  cells : List α
  length_cells : cells.length = cellCount shape

namespace Grid
variable {α β : Type}

def size (g : Grid α) : Nat := g.cells.length

/-- The grid of cells under a shape, if their number is right. -/
def ofCells? (shape : List Nat) (cells : List α) : Option (Grid α) :=
  if h : cells.length = cellCount shape then some ⟨shape, cells, h⟩ else none

def fill (shape : List Nat) (x : α) : Grid α :=
  ⟨shape, List.replicate (cellCount shape) x, by simp⟩

/-- A list as a grid with one dimension. -/
def ofList (cells : List α) : Grid α := ⟨[cells.length], cells, by simp [cellCount]⟩

def map (f : α → β) (g : Grid α) : Grid β := ⟨g.shape, g.cells.map f, by simp [g.length_cells]⟩

/-- The first dimension, if there is one. -/
def length? (g : Grid α) : Option Nat := g.shape.head?

/-- The shape that `count` cells take when a shape with integer dimensions is asked for. One
dimension may be negative, and is what the others leave. -/
def fitting? (count : Nat) (shape : List Int) : Option (List Nat) :=
  let known := cellCount ((shape.filter (0 ≤ ·)).map Int.toNat)
  match (shape.filter (· < 0)).length with
  | 0 => if known = count then some (shape.map Int.toNat) else none
  | 1 =>
    if known ≠ 0 ∧ count % known = 0 then
      some (shape.map fun d => if d < 0 then count / known else d.toNat)
    else none
  | _ => none

/-- The same cells under another shape. -/
def reshape? (g : Grid α) (shape : List Int) : Option (Grid α) :=
  (fitting? g.size shape).bind fun shape => ofCells? shape g.cells

/-- Cells cut into `count` rows, each shown by `row`, which gives the cells behind it back. -/
def rows (row : List α → Value × List α) : Nat → List α → List Value × List α
  | 0, cells => ([], cells)
  | count + 1, cells =>
    let (v, rest) := row cells
    let (vs, rest) := rows row count rest
    (v :: vs, rest)

/-- The first cells under a shape as nested arrays, and the cells behind them. -/
def nestFrom (cell : α → Value) : List Nat → List α → Value × List α
  | [], x :: rest => (cell x, rest)
  | [], [] => (.null, [])
  | d :: shape, cells =>
    let (vs, rest) := rows (nestFrom cell shape) d cells
    (.array vs, rest)

/-- A grid as nested arrays; without dimensions it is its only cell. -/
def toValue (cell : α → Value) (g : Grid α) : Value := (nestFrom cell g.shape g.cells).1

mutual

/-- The shape of nested arrays, if it is the same at each depth. -/
def shape? : Value → Option (List Nat)
  | .array items =>
    (itemShape? items).map fun
      | some shape => items.length :: shape
      | none => [0]
  | _ => some []

/-- The shape that all items have, if there are any. -/
def itemShape? : List Value → Option (Option (List Nat))
  | [] => some none
  | v :: rest =>
    match shape? v, itemShape? rest with
    | some s, some none => some (some s)
    | some s, some (some t) => if s = t then some (some s) else none
    | _, _ => none

end

mutual

/-- What nested arrays hold, in order. -/
def leaves : Value → List Value
  | .array items => itemLeaves items
  | v => [v]

/-- What the items of an array hold, in order. -/
def itemLeaves : List Value → List Value
  | [] => []
  | v :: rest => leaves v ++ itemLeaves rest

end

/-- The grid of nested arrays. -/
def ofValue (v : Value) : Except Fault (Grid Value) :=
  match (shape? v).bind fun shape => ofCells? shape (leaves v) with
  | some g => .ok g
  | none => .error .unusable

/-- A grid with each cell replaced, as long as all cells can be. -/
def mapM (f : α → Except Fault β) (g : Grid α) : Except Fault (Grid β) := do
  match ofCells? g.shape (← g.cells.mapM f) with
  | some g => .ok g
  | none => .error .unusable

@[simp] theorem cells_map (f : α → β) (g : Grid α) : (g.map f).cells = g.cells.map f := rfl

@[simp] theorem cells_ofList (cells : List α) : (ofList cells).cells = cells := rfl

end Grid
end TextClassifier.Tensor
