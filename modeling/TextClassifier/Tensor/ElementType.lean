import TextClassifier.Number.Dyadic
import TextClassifier.Number.Word

/-!
# Types of tensor elements

A buffer may hold elements of twelve types. Six of them can be declared for a tensor of a model, and a
buffer that a graph returns may have any of the twelve. Complex numbers are held by their real part,
since no score is made of them.
-/
namespace TextClassifier.Tensor

/-- The type of the elements of a buffer. -/
inductive ElementType where
  | float16
  | bfloat16
  | float32
  | float64
  | uint8
  | int8
  | int16
  | int32
  | int64
  | bool
  | complex64
  | complex128
  deriving DecidableEq, Repr

namespace ElementType

def name : ElementType → String
  | .float16 => "float16"
  | .bfloat16 => "bfloat16"
  | .float32 => "float32"
  | .float64 => "float64"
  | .uint8 => "uint8"
  | .int8 => "int8"
  | .int16 => "int16"
  | .int32 => "int32"
  | .int64 => "int64"
  | .bool => "bool"
  | .complex64 => "complex64"
  | .complex128 => "complex128"

def all : List ElementType :=
  [.float16, .bfloat16, .float32, .float64, .uint8, .int8, .int16, .int32, .int64, .bool,
    .complex64, .complex128]

def ofName? (name : String) : Option ElementType := all.find? fun t => t.name == name

def bytes : ElementType → Nat
  | .uint8 => 1
  | .int8 => 1
  | .bool => 1
  | .float16 => 2
  | .bfloat16 => 2
  | .int16 => 2
  | .float32 => 4
  | .int32 => 4
  | .float64 => 8
  | .int64 => 8
  | .complex64 => 8
  | .complex128 => 16

end ElementType

/-- The types that a model can declare for its tensors. -/
inductive DeclaredType where
  | int32
  | int64
  | float32
  | float64
  | uint8
  | int8
  deriving DecidableEq, Repr

namespace DeclaredType

/-- The element type that is declared. -/
def element : DeclaredType → ElementType
  | .int32 => .int32
  | .int64 => .int64
  | .float32 => .float32
  | .float64 => .float64
  | .uint8 => .uint8
  | .int8 => .int8

def name (t : DeclaredType) : String := t.element.name

def all : List DeclaredType := [.int32, .int64, .float32, .float64, .uint8, .int8]

def ofName? (name : String) : Option DeclaredType := all.find? fun t => t.name == name

/-- The declaration of an element type, if it can be declared. -/
def ofElement? (type : ElementType) : Option DeclaredType := all.find? fun t => t.element == type

@[simp] theorem ofName?_name (t : DeclaredType) : ofName? t.name = some t := by
  cases t <;> decide

end DeclaredType

/-- An element, as the number or the truth value that it stands for. -/
inductive Element where
  | int (n : Int)
  | real (x : Float)
  | bool (b : Bool)
  deriving Repr, Inhabited

namespace Element

/-- A number without its fraction, as a signed integer of `bits` bits. What is outside of their range
becomes the least of them. -/
def truncate (bits : Nat) (x : Float) : Int :=
  match Number.Dyadic.ofFloat? x with
  | some d =>
    if Number.fitsSigned bits d.truncate then d.truncate else -Number.signedLimit bits
  | none => -Number.signedLimit bits

/-- The integer that an element becomes, where numbers pass through signed integers of `bits`
bits. -/
def toInt (bits : Nat) : Element → Int
  | .int n => n
  | .bool b => if b then 1 else 0
  | .real x => truncate bits x

/-- The number of a format that an element becomes. -/
def toReal (format : Number.Format) : Element → Float
  | .int n => Number.ofInt format n
  | .bool b => if b then 1 else 0
  | .real x => Number.narrow format x

/-- Whether an element stands for something other than zero. -/
def isNonzero : Element → Bool
  | .int n => n != 0
  | .bool b => b
  | .real x => x != 0

/-- An element converted to a type. Numbers of 16 bits are reached through those of 32 bits. -/
def convert (e : Element) : ElementType → Element
  | .float16 => .real (Number.narrow .binary16 (e.toReal .binary32))
  | .bfloat16 => .real (Number.narrow .bfloat16 (e.toReal .binary32))
  | .float32 => .real (e.toReal .binary32)
  | .float64 => .real (e.toReal .binary64)
  | .uint8 => .int (Number.wrap 8 false (e.toInt 64))
  | .int8 => .int (Number.wrap 8 true (e.toInt 32))
  | .int16 => .int (Number.wrap 16 true (e.toInt 32))
  | .int32 => .int (Number.wrap 32 true (e.toInt 32))
  | .int64 => .int (Number.wrap 64 true (e.toInt 64))
  | .bool => .bool e.isNonzero
  | .complex64 => .real (e.toReal .binary32)
  | .complex128 => .real (e.toReal .binary64)

/-- The zero of a type. -/
def zero (type : ElementType) : Element := (Element.int 0).convert type

end Element
end TextClassifier.Tensor
