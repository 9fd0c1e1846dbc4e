import TextClassifier.Number.Shortest

/-!
# How numbers are written

Numbers are written with the fewest digits that identify them, positionally when the leading digit
stands for at least `10 ^ -4` and less than `10 ^ 16`, and otherwise with an exponent of a sign and
at least two digits. Scores in reports are written with a fixed number of places, rounded from the
exact value, a half to the even neighbour.
-/
namespace TextClassifier.Number

def natDigits (n : Nat) : List Char := Nat.toDigits 10 n

/-- An integer in base ten. -/
def intText (n : Int) : String :=
  if n < 0 then "-" ++ String.ofList (natDigits n.natAbs) else String.ofList (natDigits n.natAbs)

/-- Digits with a point in front of the last `places` of them, and at least one digit before it. -/
def withPoint (digits : List Char) (places : Nat) : List Char :=
  let padded := List.replicate (places + 1 - digits.length) '0' ++ digits
  padded.take (padded.length - places) ++ '.' :: padded.drop (padded.length - places)

/-- A decimal other than zero: positionally or with an exponent. -/
def Decimal.layout (x : Decimal) : List Char :=
  let digits := natDigits x.digits
  let leading := x.exponent + digits.length - 1
  if -4 ≤ leading ∧ leading < 16 then
    if 0 ≤ x.exponent then digits ++ List.replicate x.exponent.toNat '0' ++ ['.', '0']
    else withPoint digits (-x.exponent).toNat
  else
    let head := digits.take 1
    let tail := if digits.length = 1 then [] else '.' :: digits.drop 1
    let size := natDigits leading.natAbs
    let sign := if leading < 0 then '-' else '+'
    head ++ tail ++ 'e' :: sign :: (List.replicate (2 - size.length) '0' ++ size)

/-- The sign of a number in front of the text of its size. -/
def signed (negative : Bool) (size : List Char) : String :=
  String.ofList (if negative then '-' :: size else size)

/-- A number by its shortest decimal; the two texts word infinity and what is no number. -/
def render (infinite noNumber : String) (x : Float) : String :=
  match Dyadic.ofFloat? x with
  | some d => signed d.negative (if d.mantissa = 0 then ['0', '.', '0'] else d.shortest.layout)
  | none =>
    if x.isNaN then noNumber else signed (x < 0) infinite.toList

def text (x : Float) : String := render "inf" "nan" x

/-- A number with a fixed count of places behind the point. -/
def fixed (places : Nat) (x : Float) : String :=
  match Dyadic.ofFloat? x with
  | some d =>
    let units := roundHalfEven (d.mantissa * Nat.pow 2 d.exponent.toNat * Nat.pow 10 places)
      (Nat.pow 2 (-d.exponent).toNat)
    signed d.negative (withPoint (natDigits units) places)
  | none => if x.isNaN then "nan" else signed (x < 0) "inf".toList

end TextClassifier.Number
