/-!
# Words

Integers of a fixed number of bits: which ones there are, with a sign and without, and how other
integers wrap around into them.
-/
namespace TextClassifier.Number

/-- How many words of `bits` bits there are. -/
def wordCount (bits : Nat) : Nat := Nat.pow 2 bits

/-- The least number that is too large for `bits` bits with a sign. -/
def signedLimit (bits : Nat) : Nat := Nat.pow 2 (bits - 1)

/-- Whether `bits` bits with a sign hold an integer. -/
def fitsSigned (bits : Nat) (n : Int) : Bool :=
  -(signedLimit bits : Int) ≤ n && n < (signedLimit bits : Int)

theorem fitsSigned_64_iff (n : Int) :
    fitsSigned 64 n = true ↔ -0x8000000000000000 ≤ n ∧ n < 0x8000000000000000 := by
  have limit : ((signedLimit 64 : Nat) : Int) = 0x8000000000000000 := by decide
  simp only [fitsSigned, limit, Bool.and_eq_true, decide_eq_true_eq]

theorem fitsSigned_natCast {n : Nat} (word : n < 0x8000000000000000) : fitsSigned 64 n = true :=
  (fitsSigned_64_iff n).mpr (by omega)

/-- Whether `bits` bits without a sign hold an integer. -/
def fitsUnsigned (bits : Nat) (n : Int) : Bool := 0 ≤ n && n < (wordCount bits : Int)

/-- An integer wrapped around into `bits` bits, with a sign or without. -/
def wrap (bits : Nat) (signed : Bool) (n : Int) : Int :=
  if signed then n.bmod (wordCount bits) else n % (wordCount bits : Int)

end TextClassifier.Number
