import TextClassifier.Number.Dyadic

/-!
# The shortest decimal of a number

The decimal with the fewest digits that reads back to a number, the nearest of several. A decimal
reads back when it lies in the interval of reals that round to the number, whose ends belong to it
when the mantissa is even. For one, two, and up to seventeen digits the two neighbours of the number
on that decimal grid are tried. All comparisons are between natural numbers.
-/
namespace TextClassifier.Number

/-- The decimal `digits * 10 ^ exponent`. -/
structure Decimal where
  digits : Nat
  exponent : Int
  deriving DecidableEq, Repr

/-- `a * 10 ^ i` against `b * 2 ^ j`. -/
def compareScaled (a : Nat) (i : Int) (b : Nat) (j : Int) : Ordering :=
  compare (a * Nat.pow 10 i.toNat * Nat.pow 2 (-j).toNat)
    (b * Nat.pow 2 j.toNat * Nat.pow 10 (-i).toNat)

namespace Dyadic

/-- Whether the gap to the next number towards zero is half the gap away from zero: so at every
power of two above the least exponent. -/
def narrowBelow (d : Dyadic) : Bool := d.mantissa == leadingBit && d.exponent != -1074

/-- Whether a decimal lies in the interval of reals that round to the number `d`. -/
def readsBack (d : Dyadic) (x : Decimal) : Bool :=
  let low := if d.narrowBelow then 4 * d.mantissa - 1 else 4 * d.mantissa - 2
  let high := 4 * d.mantissa + 2
  let closed := d.mantissa % 2 == 0
  let toLow := compareScaled x.digits x.exponent low (d.exponent - 2)
  let toHigh := compareScaled x.digits x.exponent high (d.exponent - 2)
  (toLow == .gt || (closed && toLow == .eq)) && (toHigh == .lt || (closed && toHigh == .eq))

/-- The greatest multiple of `10 ^ grid` that is not above the number, in units of the grid. -/
def floorOnGrid (d : Dyadic) (grid : Int) : Nat :=
  d.mantissa * Nat.pow 2 d.exponent.toNat * Nat.pow 10 (-grid).toNat /
    (Nat.pow 2 (-d.exponent).toNat * Nat.pow 10 grid.toNat)

/-- The neighbour of the number on a grid that reads back, the nearer if both do, the even one of
two that are equally near. -/
def onGrid? (d : Dyadic) (grid : Int) : Option Decimal :=
  let below := floorOnGrid d grid
  let lower : Decimal := ⟨below, grid⟩
  let upper : Decimal := ⟨below + 1, grid⟩
  match readsBack d lower, readsBack d upper with
  | false, false => none
  | true, false => some lower
  | false, true => some upper
  | true, true =>
    match compareScaled (2 * below + 1) grid (2 * d.mantissa) d.exponent with
    | .gt => some lower
    | .lt => some upper
    | .eq => some (if below % 2 = 0 then lower else upper)

/-- The first `i`, not below the given one, with the number below `10 ^ i`; `fuel` bounds the steps. -/
def scaleFrom (d : Dyadic) : Nat → Int → Int
  | 0, i => i
  | fuel + 1, i =>
    if compareScaled 1 i d.mantissa d.exponent == .gt then i else scaleFrom d fuel (i + 1)

/-- The least `i` with the number below `10 ^ i`: three hundred and one thousandths of its binary
logarithm, and a step or two up from below that. -/
def scale (d : Dyadic) : Int :=
  let leading := d.exponent + d.mantissa.log2
  scaleFrom d 4 (Int.fdiv (leading * 30103) 100000)

/-- A decimal without zeros at the end of its digits; `fuel` bounds their number. -/
def stripZeros : Nat → Decimal → Decimal
  | 0, x => x
  | fuel + 1, x =>
    if x.digits != 0 && x.digits % 10 == 0 then stripZeros fuel ⟨x.digits / 10, x.exponent + 1⟩ else x

/-- The number itself as a decimal, exactly. -/
def exactDecimal (d : Dyadic) : Decimal :=
  ⟨d.mantissa * Nat.pow 2 d.exponent.toNat * Nat.pow 5 (-d.exponent).toNat, min d.exponent 0⟩

/-- The shortest decimal that reads back to a number other than zero. -/
def shortest (d : Dyadic) : Decimal :=
  let top := scale d
  match (List.range 17).findSome? fun (n : Nat) => onGrid? d (top - (n + 1 : Nat)) with
  | some x => stripZeros 20 x
  | none => exactDecimal d

end Dyadic
end TextClassifier.Number
