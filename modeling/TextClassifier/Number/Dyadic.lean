/-!
# Binary fractions and their formats

A finite floating-point number is a dyadic fraction. Here are the fraction behind a number, the
rounding of a fraction to a format, which is to the nearest number and to the even one of two, and
exact conversion to and comparison with integers. Numbers of narrower formats are held widened, as
values of the 64-bit format that they embed in.
-/
namespace TextClassifier.Number

/-- The fraction `mantissa * 2 ^ exponent` with a sign, which zero has too. -/
structure Dyadic where
  negative : Bool
  mantissa : Nat
  exponent : Int
  deriving DecidableEq, Repr

/-- A binary floating-point format. -/
structure Format where
  /-- The number of bits of a mantissa. -/
  precision : Nat
  /-- The exponent of the least positive number. -/
  least : Int
  /-- The exponent of the leading bit of the greatest numbers. -/
  greatest : Int
  deriving DecidableEq, Repr

namespace Format

/-- 64 bits, 53 of them significant. -/
def binary64 : Format := ⟨53, -1074, 1023⟩

/-- 32 bits, 24 of them significant. -/
def binary32 : Format := ⟨24, -149, 127⟩

/-- 16 bits, 11 of them significant. -/
def binary16 : Format := ⟨11, -24, 15⟩

/-- 16 bits, 8 of them significant, over the exponents of `binary32`. -/
def bfloat16 : Format := ⟨8, -133, 127⟩

end Format

/-- The nearest integer to `num / den`, the even one of two. -/
def roundHalfEven (num den : Nat) : Nat :=
  let floor := num / den
  let rest := num % den
  if 2 * rest < den then floor
  else if 2 * rest > den then floor + 1
  else if floor % 2 = 0 then floor else floor + 1

/-- `n * 2 ^ k`, cut off below one. -/
def shift (n : Nat) (k : Int) : Nat :=
  if 0 ≤ k then n * Nat.pow 2 k.toNat else n / Nat.pow 2 (-k).toNat

/-- The leading bit of the mantissas of the 64-bit format, which is not written. -/
def leadingBit : Nat := 0x10000000000000

/-- Infinity of either sign. -/
def infinity (negative : Bool) : Float :=
  Float.ofBits (if negative then 0xFFF0000000000000 else 0x7FF0000000000000)

namespace Dyadic

def ofInt (n : Int) : Dyadic := ⟨n < 0, n.natAbs, 0⟩

/-- The fraction that a finite number is; none for the infinities and for what is no number. -/
def ofFloat? (x : Float) : Option Dyadic :=
  let bits := x.toBits
  let negative := bits >>> 63 == 1
  let biased := ((bits >>> 52) &&& 0x7FF).toNat
  let fraction := (bits &&& 0xFFFFFFFFFFFFF).toNat
  if biased = 0x7FF then none
  else if biased = 0 then some ⟨negative, fraction, -1074⟩
  else some ⟨negative, leadingBit + fraction, (biased : Int) - 1075⟩

/-- The number whose fraction this is; its mantissa must have at most 53 significant bits and it
must lie in the range of the 64-bit format. -/
def toFloat (d : Dyadic) : Float :=
  let sign : UInt64 := if d.negative then 0x8000000000000000 else 0
  if d.mantissa = 0 then Float.ofBits sign
  else
    let leading := d.exponent + d.mantissa.log2
    if -1022 ≤ leading then
      let fraction := shift d.mantissa (52 - (d.mantissa.log2 : Int)) - leadingBit
      Float.ofBits (sign ||| ((leading + 1023).toNat.toUInt64 <<< 52) ||| fraction.toUInt64)
    else Float.ofBits (sign ||| (shift d.mantissa (d.exponent + 1074)).toUInt64)

/-- The number of a format that is nearest to a fraction, infinity if that is too large. -/
def round (f : Format) (d : Dyadic) : Float :=
  if d.mantissa = 0 then d.toFloat
  else
    let unit := max (d.exponent + d.mantissa.log2 - (f.precision - 1)) f.least
    let rounded : Dyadic :=
      if unit ≤ d.exponent then d
      else ⟨d.negative, roundHalfEven d.mantissa (Nat.pow 2 (unit - d.exponent).toNat), unit⟩
    if rounded.mantissa ≠ 0 ∧ f.greatest < rounded.exponent + rounded.mantissa.log2 then
      infinity d.negative
    else rounded.toFloat

/-- The integer part, towards zero. -/
def truncate (d : Dyadic) : Int :=
  let size : Int := shift d.mantissa d.exponent
  if d.negative then -size else size

/-- Whether a fraction is the integer `n`. -/
def equalsInt (d : Dyadic) (n : Int) : Bool :=
  d.truncate == n && shift d.truncate.natAbs (-d.exponent) == d.mantissa

end Dyadic

/-- A number of the 64-bit format in a narrower one, held widened. -/
def narrow (f : Format) (x : Float) : Float :=
  match Dyadic.ofFloat? x with
  | some d => d.round f
  | none => x

/-- The number nearest to an integer, infinity if the integer is too large for the format. -/
def ofInt (f : Format) (n : Int) : Float := (Dyadic.ofInt n).round f

/-- Whether a number is the integer `n`. -/
def equalsInt (x : Float) (n : Int) : Bool :=
  match Dyadic.ofFloat? x with
  | some d => d.equalsInt n
  | none => false

end TextClassifier.Number
