import TextClassifier.Text.Hex

/-!
# Bytes that are not text

What a decoder says about the first bytes that its encoding does not allow.
-/
namespace TextClassifier.Text

/-- A sequence of bytes: the contents of a file. -/
abbrev Bytes := List UInt8

/-- Why a run of bytes is no character. -/
inductive Defect where
  /-- No character begins with this byte. -/
  | invalidStart
  /-- The character is cut off by a byte that cannot continue it. -/
  | invalidContinuation
  /-- The bytes end inside a character. -/
  | unexpectedEnd
  /-- The bytes end inside a code unit. -/
  | truncated
  /-- The number is above the last code point. -/
  | aboveRange
  deriving DecidableEq, Repr

/-- The wording of a defect. -/
def Defect.text : Defect → String
  | .invalidStart => "invalid start byte"
  | .invalidContinuation => "invalid continuation byte"
  | .unexpectedEnd => "unexpected end of data"
  | .truncated => "truncated data"
  | .aboveRange => "code point not in range(0x110000)"

/-- The first bytes that do not decode: where they begin, how many belong together, and why. -/
structure Malformed where
  /-- The name of the encoding. -/
  encoding : String
  /-- The first of the bytes. -/
  first : UInt8
  /-- The offset of the first byte. -/
  position : Nat
  /-- The number of bytes, at least one. -/
  length : Nat
  defect : Defect
  deriving DecidableEq, Repr

namespace Malformed

/-- The message names a single byte by its value and several by their offsets. -/
def message (m : Malformed) : String :=
  let place :=
    if m.length = 1 then
      "byte 0x" ++ String.ofList (hexDigits 2 m.first.toNat) ++
        " in position " ++ toString m.position
    else
      "bytes in position " ++ toString m.position ++ "-" ++ toString (m.position + m.length - 1)
  "'" ++ m.encoding ++ "' codec can't decode " ++ place ++ ": " ++ m.defect.text

end Malformed
end TextClassifier.Text
