import TextClassifier.Tensor.Grid

/-!
# Buffers

A buffer holds elements of one type under a shape. Untyped values become elements together: truth
values alone stay what they are, integers stay integers if 64 bits hold them, all signed or all
unsigned, and become numbers with a fraction where one of them has one or where no kind of integer
holds them all.
-/
namespace TextClassifier.Tensor
open Json

/-- Elements of one type under a shape. -/
structure Buffer where
  type : ElementType
  grid : Grid Element

namespace Buffer

def shape (b : Buffer) : List Nat := b.grid.shape

def elements (b : Buffer) : List Element := b.grid.cells

/-- Elements converted to a type. -/
def ofGrid (type : ElementType) (g : Grid Element) : Buffer := ⟨type, g.map (·.convert type)⟩

/-- Zeros of a type. -/
def zeros (type : ElementType) (shape : List Nat) : Buffer := ⟨type, .fill shape (.zero type)⟩

/-- The number of bytes of a buffer. -/
def byteCount (type : ElementType) (shape : List Nat) : Nat := cellCount shape * type.bytes

/-- Whether words of 64 bits count what a shape without cells asks for: the cells of the dimensions in front
of the first zero, and the distance between two rows as if there were one cell in it. Memory alone limits
shapes with cells. -/
def isCountable (shape : List Nat) : Bool :=
  cellCount shape != 0 ||
    Number.fitsUnsigned 64 (cellCount (shape.takeWhile (· != 0))) &&
      Number.fitsSigned 64 (cellCount (shape.tail.map (max 1)))

/-- A buffer of zeros. Its dimensions must be words of 64 bits and not negative, their products must be
words where they are computed, and it must stay below the limit of memory, if there is one. -/
def allocate (memory : Option Nat) (type : ElementType) (shape : List Int) : Except Fault Buffer :=
  if shape.any fun d => !Number.fitsSigned 64 d then .error .mistyped
  else if shape.any (· < 0) then .error .unallocatable
  else if !isCountable (shape.map Int.toNat) then .error .unallocatable
  else if memory.any (· ≤ byteCount type (shape.map Int.toNat)) then .error .unallocatable
  else .ok (zeros type (shape.map Int.toNat))

/-- An element as an untyped value. -/
def cell : Element → Value
  | .int n => .int n
  | .real x => .float x
  | .bool b => .bool b

def toValue (b : Buffer) : Value := b.grid.toValue cell

theorem isCountable_of_cells {shape : List Nat} (cells : cellCount shape ≠ 0) : isCountable shape = true := by
  rw [isCountable, bne_iff_ne.mpr cells, Bool.true_or]

/-- Two dimensions can always be counted. -/
theorem isCountable_pair {m n : Nat} (rows : m < 0x8000000000000000) (columns : n < 0x8000000000000000) :
    isCountable [m, n] = true := by
  cases m with
  | zero =>
    have distance : Number.fitsSigned 64 (cellCount [max 1 n]) = true :=
      Number.fitsSigned_natCast (by simp only [cellCount]; omega)
    simpa [isCountable, cellCount, Number.fitsUnsigned, Number.wordCount] using distance
  | succ m =>
    cases n with
    | zero =>
      simp [isCountable, cellCount, Number.fitsUnsigned, Number.wordCount, Number.fitsSigned, Number.signedLimit]
      omega
    | succ n => exact isCountable_of_cells (by simp [cellCount])

end Buffer

/-- The kinds of elements that untyped values become together. -/
inductive Numbers where
  | truths
  | integers
  | reals
  deriving DecidableEq, Repr

namespace Numbers

/-- Whether a value is a number or a truth value that 64 bits hold. -/
def isNumber : Value → Bool
  | .bool _ => true
  | .int n => Number.fitsSigned 64 n || Number.fitsUnsigned 64 n
  | .float _ => true
  | _ => false

/-- Whether a value is a truth value. -/
def isTruth : Value → Bool
  | .bool _ => true
  | _ => false

/-- Whether a value is an integer that 64 bits hold with a sign. -/
def isSigned : Value → Bool
  | .int n => n < (Number.signedLimit 64 : Int)
  | _ => false

/-- Whether a value is an integer that 64 bits hold only without a sign. -/
def isUnsigned : Value → Bool
  | .int n => (Number.signedLimit 64 : Int) ≤ n
  | _ => false

/-- Whether a value is a number with a fraction. -/
def isReal : Value → Bool
  | .float _ => true
  | _ => false

/-- The kind that values become, if all of them are numbers. -/
def kind? (values : List Value) : Option Numbers :=
  if !values.all isNumber then none
  else if values.any isReal then some .reals
  else if values.any isSigned && values.any isUnsigned then some .reals
  else if values.all isTruth then some .truths
  else some .integers

/-- A value as an element of a kind. -/
def element : Numbers → Value → Element
  | .truths, .bool b => .bool b
  | .reals, .bool b => .real (if b then 1 else 0)
  | .reals, .int n => .real (Number.ofInt .binary64 n)
  | _, .bool b => .int (if b then 1 else 0)
  | _, .int n => .int n
  | _, .float x => .real x
  | _, _ => .int 0

end Numbers

/-- Untyped values as elements. -/
def elementsOf (g : Grid Value) : Except Fault (Grid Element) :=
  match Numbers.kind? g.cells with
  | some kind => .ok (g.map kind.element)
  | none => .error .mistyped

/-- The buffer of a type with nested arrays as its elements. -/
def Buffer.ofValue (type : ElementType) (v : Value) : Except Fault Buffer := do
  return .ofGrid type (← elementsOf (← Grid.ofValue v))

end TextClassifier.Tensor
