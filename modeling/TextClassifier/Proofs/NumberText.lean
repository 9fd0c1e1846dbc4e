import Mathlib.Algebra.Group.Nat.Defs
import TextClassifier.Number.Notation
import TextClassifier.Number.Reading

/-!
# Digits

Natural numbers are written with decimal digits, none of which is a zero in front of others, and reading
the digits gives the number back (`digitsValue_natDigits`). No number is written with more digits than it
can be read from (`length_natDigits_le`). All numbers are written with visible ASCII characters
(`visible_render`).
-/
namespace TextClassifier
open Text

/-! ## One digit -/

theorem Text.isDigit_bounds {c : Char} (digit : c.isDigit = true) : 48 ≤ c.toNat ∧ c.toNat ≤ 57 := by
  simp only [Char.isDigit, Bool.and_eq_true, decide_eq_true_eq, ge_iff_le, UInt32.le_iff_toNat_le] at digit
  exact digit

theorem Text.digit?_eq {c : Char} (digit : c.isDigit = true) : digit? c = some (c.toNat - 48) := by
  obtain ⟨low, high⟩ := isDigit_bounds digit
  have first : DecimalDigit.ranges.startOf? c.toNat = some 48 := by
    rw [DecimalDigit.ranges, Ranges.startOf?, if_neg (by omega), if_pos high]
  rw [digit?, first, Option.map_some, Nat.mod_eq_of_lt (by omega)]

theorem Text.digit?_lt {c : Char} {d : Nat} (digit : digit? c = some d) : d < 10 := by
  obtain ⟨first, -, rfl⟩ := Option.map_eq_some_iff.mp digit
  exact Nat.mod_lt _ (by decide)

namespace Number

/-! ## Runs of digits -/

theorem digitsValue_eq {digits : List Char} (all : ∀ c ∈ digits, c.isDigit = true) (value : Nat) :
    digitsValue value digits = some (Nat.ofDigitChars 10 digits value) := by
  induction digits generalizing value with
  | nil => rfl
  | cons c rest ih =>
    rw [digitsValue, digit?_eq (all c List.mem_cons_self)]
    show digitsValue (value * 10 + (c.toNat - 48)) rest = _
    rw [ih fun d later => all d (List.mem_cons_of_mem _ later), Nat.mul_comm]
    rfl

/-- As many digits as there are bound the number that they spell. -/
theorem digitsValue_lt {digits : List Char} {value n : Nat} (read : digitsValue value digits = some n) :
    n < (value + 1) * 10 ^ digits.length := by
  induction digits generalizing value with
  | nil =>
    cases read
    simp
  | cons c rest ih =>
    rw [digitsValue] at read
    cases digit : digit? c with
    | none => simp [digit] at read
    | some d =>
      rw [digit] at read
      have below := digit?_lt digit
      calc n < (value * 10 + d + 1) * 10 ^ rest.length := ih read
        _ ≤ ((value + 1) * 10) * 10 ^ rest.length := Nat.mul_le_mul_right _ (by omega)
        _ = (value + 1) * 10 ^ (c :: rest).length := by rw [List.length_cons, Nat.pow_succ', Nat.mul_assoc]

/-! ## Digits of a number -/

theorem isDigit_natDigits {n : Nat} {c : Char} (listed : c ∈ natDigits n) : c.isDigit = true :=
  Nat.isDigit_of_mem_toDigits (by decide) (by decide) listed

theorem digitsValue_natDigits (n : Nat) : digitsValue 0 (natDigits n) = some n := by
  rw [digitsValue_eq fun c => isDigit_natDigits, natDigits, Nat.ofDigitChars_ten_toDigits]

theorem natDigits_zero : natDigits 0 = ['0'] := rfl

/-- A number other than zero does not begin with the digit zero. -/
theorem natDigits_head {n : Nat} (positive : 0 < n) : ∃ c rest, natDigits n = c :: rest ∧ c ≠ '0' := by
  induction n using Nat.strongRecOn with
  | _ n ih =>
    by_cases small : n < 10
    · refine ⟨n.digitChar, [], Nat.toDigits_of_lt_base small, ?_⟩
      have nonzero : ∀ d < 10, 0 < d → d.digitChar ≠ '0' := by decide
      exact nonzero n small positive
    · obtain ⟨c, rest, digits, head⟩ := ih (n / 10) (by omega) (by omega)
      refine ⟨c, rest ++ [(n % 10).digitChar], ?_, head⟩
      rw [natDigits, Nat.toDigits_of_base_le (by decide) (by omega)]
      rw [natDigits] at digits
      rw [digits, List.cons_append]

theorem length_natDigits_le {digits : List Char} {n : Nat} (read : digitsValue 0 digits = some n)
    (some_there : digits ≠ []) : (natDigits n).length ≤ digits.length := by
  rw [natDigits, Nat.length_toDigits_le_iff (by decide) (List.length_pos_iff.mpr some_there)]
  simpa using digitsValue_lt read

/-! ## Characters of numbers -/

/-- A test of each character of a text shows what holds of all of them. -/
theorem forall_of_all {p : Char → Prop} [DecidablePred p] {s : List Char}
    (all : s.all (fun c => decide (p c)) = true) : ∀ c ∈ s, p c :=
  fun c listed => of_decide_eq_true (List.all_eq_true.mp all c listed)

/-- An ASCII character that is neither a blank nor a control character. -/
def Visible (c : Char) : Prop := 0x20 < c.toNat ∧ c.toNat < 0x7F

instance (c : Char) : Decidable (Visible c) := inferInstanceAs (Decidable (_ ∧ _))

theorem visible_natDigits {n : Nat} {c : Char} (listed : c ∈ natDigits n) : Visible c := by
  have bounds := isDigit_bounds (isDigit_natDigits listed)
  exact ⟨by omega, by omega⟩

theorem visible_intText {n : Int} {c : Char} (listed : c ∈ (intText n).toList) : Visible c := by
  by_cases negative : n < 0
  · simp only [intText, negative, if_true, String.toList_append, String.toList_ofList, List.mem_append] at listed
    rcases listed with sign | digit
    · have minus : ∀ d ∈ "-".toList, Visible d := forall_of_all (by decide)
      exact minus c sign
    · exact visible_natDigits digit
  · simp only [intText, negative, if_false, String.toList_ofList] at listed
    exact visible_natDigits listed

theorem visible_withPoint {digits : List Char} (all : ∀ c ∈ digits, Visible c) (places : Nat) :
    ∀ c ∈ withPoint digits places, Visible c := by
  have padded : ∀ c ∈ List.replicate (places + 1 - digits.length) '0' ++ digits, Visible c := by
    intro c listed
    rcases List.mem_append.mp listed with zero | digit
    · rw [List.eq_of_mem_replicate zero]
      decide
    · exact all c digit
  intro c listed
  rcases List.mem_append.mp listed with before | behind
  · exact padded c (List.mem_of_mem_take before)
  · rcases List.mem_cons.mp behind with rfl | behind
    · decide
    · exact padded c (List.mem_of_mem_drop behind)

theorem visible_layout (x : Decimal) : ∀ c ∈ x.layout, Visible c := by
  have digits : ∀ n : Nat, ∀ c ∈ natDigits n, Visible c := fun n c => visible_natDigits
  have zeros : ∀ n : Nat, ∀ c ∈ List.replicate n '0', Visible c := by
    intro n c listed
    rw [List.eq_of_mem_replicate listed]
    decide
  intro c listed
  unfold Decimal.layout at listed
  dsimp only at listed
  split at listed
  · split at listed
    · simp only [List.mem_append] at listed
      rcases listed with (digit | zero) | point
      · exact digits _ c digit
      · exact zeros _ c zero
      · have both : ∀ d ∈ ['.', '0'], Visible d := forall_of_all (by decide)
        exact both c point
    · exact visible_withPoint (digits _) _ c listed
  · simp only [List.mem_append, List.mem_cons] at listed
    rcases listed with (head | tail) | rfl | rfl | zero | size
    · exact digits _ c (List.mem_of_mem_take head)
    · split at tail
      · cases tail
      · rcases List.mem_cons.mp tail with rfl | tail
        · decide
        · exact digits _ c (List.mem_of_mem_drop tail)
    · decide
    · split <;> decide
    · exact zeros _ c zero
    · exact digits _ c size

theorem visible_signed (negative : Bool) {size : List Char} (all : ∀ c ∈ size, Visible c) :
    ∀ c ∈ (signed negative size).toList, Visible c := by
  intro c listed
  rw [signed, String.toList_ofList] at listed
  cases negative with
  | false => exact all c listed
  | true =>
    rcases List.mem_cons.mp listed with rfl | listed
    · decide
    · exact all c listed

/-- Numbers are written with visible characters, as long as the words for infinity and for what is no
number are. -/
theorem visible_render {infinite noNumber : String} (endless : ∀ c ∈ infinite.toList, Visible c)
    (none_there : ∀ c ∈ noNumber.toList, Visible c) (x : Float) :
    ∀ c ∈ (render infinite noNumber x).toList, Visible c := by
  unfold render
  split
  · apply visible_signed
    split
    · exact forall_of_all (by decide)
    · exact visible_layout _
  · split
    · exact none_there
    · exact visible_signed _ endless

end Number
end TextClassifier
