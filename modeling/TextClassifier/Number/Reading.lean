import TextClassifier.Number.Dyadic
import TextClassifier.Text.Blank
import TextClassifier.Text.DecimalDigit
import TextClassifier.Text.LetterCase

/-!
# Numbers read from text

Text is read as a number without the blanks around it, with the digits of every script, and with
single underscores between digits. An integer is a sign and digits. Any other number has a point or
an exponent, or is spelled out as infinity or as no number.
-/
namespace TextClassifier.Number
open TextClassifier.Text

/-- The value of a run of digits of any script, with the value read so far in front. -/
def digitsValue (value : Nat) : List Char → Option Nat
  | [] => some value
  | c :: rest =>
    match digit? c with
    | some d => digitsValue (value * 10 + d) rest
    | none => none

/-- A text without the underscores that stand singly between two digits, and none if one stands
elsewhere. `afterDigit` tells whether a digit came before. -/
def dropUnderscores (afterDigit : Bool) : List Char → Option (List Char)
  | [] => some []
  | '_' :: c :: rest =>
    if afterDigit && isDecimalDigit c then
      (dropUnderscores true rest).map (c :: ·)
    else none
  | ['_'] => none
  | c :: rest => (dropUnderscores (isDecimalDigit c) rest).map (c :: ·)

/-- The blanks that may stand around a number: all but the separators of files, groups, records and
units. -/
def isPadding (c : Char) : Bool := isBlank c && !(0x1C ≤ c.toNat && c.toNat ≤ 0x1F)

/-- A text without the padding around it. -/
def unpadded (s : List Char) : List Char :=
  ((s.dropWhile isPadding).reverse.dropWhile isPadding).reverse

/-- A text without its sign, and whether that is a minus. -/
def splitSign : List Char → Bool × List Char
  | '-' :: rest => (true, rest)
  | '+' :: rest => (false, rest)
  | rest => (false, rest)

/-- The most digits that an integer may be read from. -/
def mostDigits : Nat := 4300

/-- The integer that a text spells, blanks around it aside. -/
def readInt? (s : List Char) : Option Int :=
  match dropUnderscores false (unpadded s) with
  | none => none
  | some s =>
    let (negative, digits) := splitSign s
    if digits.isEmpty || mostDigits < digits.length then none
    else (digitsValue 0 digits).map fun (n : Nat) => if negative then -(n : Int) else n

/-- The number nearest to `digits * 10 ^ exponent`. What is far outside the range of the format is
settled by the exponent alone. -/
def ofDecimal (digits : Nat) (exponent : Int) : Float :=
  let leading := exponent + (digits.log2 : Int) / 4
  if digits = 0 then 0
  else if 400 < leading then infinity false
  else if exponent + digits.log2 < -400 then 0
  else Float.ofScientific digits (exponent < 0) exponent.natAbs

/-- The digits at the beginning of a text, their values in order, and the rest. -/
def spanDigits : List Char → List Nat × List Char
  | [] => ([], [])
  | c :: rest =>
    match digit? c with
    | some d => let (ds, behind) := spanDigits rest; (d :: ds, behind)
    | none => ([], c :: rest)

/-- The number that digit values spell in base ten. -/
def ofDigits (ds : List Nat) : Nat := ds.foldl (fun n d => n * 10 + d) 0

/-- The exponent at the end of a number: nothing, or a mark, a sign and digits. -/
def readExponent? : List Char → Option Int
  | [] => some 0
  | mark :: rest =>
    if mark == 'e' || mark == 'E' then
      let (negative, digits) := splitSign rest
      match spanDigits digits with
      | ([], _) => none
      | (ds, []) => some (if negative then -(ofDigits ds : Int) else ofDigits ds)
      | _ => none
    else none

/-- A number without sign: digits, perhaps a point and digits, and an exponent. -/
def readUnsigned? (s : List Char) : Option Float :=
  let (whole, rest) := spanDigits s
  let (part, rest) := match rest with
    | '.' :: behind => spanDigits behind
    | _ => ([], rest)
  if whole.isEmpty && part.isEmpty then none
  else (readExponent? rest).map fun exponent =>
    ofDecimal (ofDigits (whole ++ part)) (exponent - part.length)

/-- The number that a text spells, blanks around it aside. -/
def readFloat? (s : List Char) : Option Float :=
  match dropUnderscores false (unpadded s) with
  | none => none
  | some s =>
    let (negative, size) := splitSign s
    let word := String.ofList (size.map asciiLower)
    if word == "inf" || word == "infinity" then some (infinity negative)
    else if word == "nan" then some (0 / 0)
    else (readUnsigned? size).map fun x => if negative then -x else x

end TextClassifier.Number
