import TextClassifier.Proofs.JsonRoundTrip
import TextClassifier.Proofs.NormalDeclarations
import TextClassifier.Report

/-!
# Reported categories

A score is shown with a fixed number of places behind the point: its digits spell the nearest multiple of the last
place, the even one of two (`ShowsPlaces`, `showsPlaces_iff`). Categories are shown as one line each, with these digits
(`lines_eq`). As a value, they are written to a text that can be read again (`writable_toValue`).
-/
namespace TextClassifier

namespace Number
open Text
variable {q : ℚ} {m n places : Nat} {x : Float} {whole part other further digits : List Char} {s : String}

/-! ## The nearest natural number -/

/-- The natural number that is nearest to a fraction, the even one of two. -/
structure Nearest (q : ℚ) (n : Nat) : Prop where
  near : |q - n| ≤ 1 / 2
  even : |q - n| = 1 / 2 → Even n

theorem Nearest.not_lt (first : Nearest q m) (second : Nearest q n) : ¬ m < n := by
  intro less
  obtain ⟨-, above⟩ := abs_le.mp first.near
  obtain ⟨below, -⟩ := abs_le.mp second.near
  have step : (m + 1 : ℚ) ≤ n := by exact_mod_cast less
  have next : n = m + 1 := by
    have close : (n : ℚ) ≤ m + 1 := by linarith
    have close : n ≤ m + 1 := by exact_mod_cast close
    omega
  have half : q - m = 1 / 2 := by linarith
  obtain ⟨a, even⟩ := first.even (by rw [half]; norm_num)
  obtain ⟨b, odd⟩ := second.even (by rw [next, Nat.cast_succ, show q - (m + 1) = -(1 / 2) by linarith]; norm_num)
  omega

theorem Nearest.unique (first : Nearest q m) (second : Nearest q n) : m = n :=
  Nat.le_antisymm (Nat.not_lt.mp (second.not_lt first)) (Nat.not_lt.mp (first.not_lt second))

/-- Distances of a quotient can be measured in halves of its denominator. -/
theorem nearest_of_distance {d : Nat} (positive : 0 < d) (near : |2 * ((m : Int) - n * d)| ≤ d)
    (even : |2 * ((m : Int) - n * d)| = d → Even n) : Nearest (m / d) n := by
  have size : (0 : ℚ) < d := by exact_mod_cast positive
  have distance : |(m / d : ℚ) - n| = (|2 * ((m : Int) - n * d)| : Int) / (2 * d) := by
    have ratio : (m / d : ℚ) - n = ((2 * ((m : Int) - n * d) : Int) : ℚ) / (2 * d) := by
      push_cast
      field_simp
    rw [ratio, abs_div, Int.cast_abs, abs_of_pos (show (0 : ℚ) < 2 * d by positivity)]
  refine ⟨?_, fun half => even ?_⟩
  · rw [distance, div_le_div_iff₀ (by positivity) two_pos, one_mul, mul_comm]
    exact_mod_cast Int.mul_le_mul_of_nonneg_left near (show (0 : Int) ≤ 2 by decide)
  · rw [distance, div_eq_div_iff (by positivity) two_ne_zero, one_mul, mul_comm] at half
    exact_mod_cast mul_left_cancel₀ two_ne_zero half

/-- Rounding a quotient gives the nearest natural number. -/
theorem nearest_roundHalfEven (m : Nat) {d : Nat} (positive : 0 < d) : Nearest (m / d) (roundHalfEven m d) := by
  have split := Nat.div_add_mod m d
  have inside := Nat.mod_lt m positive
  unfold roundHalfEven
  dsimp only
  generalize m / d = floor, m % d = rest at split inside ⊢
  have below : |2 * ((m : Int) - floor * d)| = 2 * rest := by
    rw [← split]
    push_cast
    rw [mul_comm (d : Int), add_sub_cancel_left, abs_of_nonneg (by positivity)]
  have above : |2 * ((m : Int) - (floor + 1 : Nat) * d)| = 2 * (d - rest) := by
    rw [← split]
    push_cast
    rw [show 2 * ((d : Int) * floor + rest - (floor + 1) * d) = -(2 * (d - rest)) by ring, abs_neg,
      abs_of_nonneg (by omega)]
  split
  · exact nearest_of_distance positive (by omega) (by omega)
  · split
    · exact nearest_of_distance positive (by omega) (by omega)
    · split
      · rename_i even
        exact nearest_of_distance positive (by omega) fun _ => Nat.even_iff.mpr even
      · rename_i odd
        exact nearest_of_distance positive (by omega) fun _ => by rw [Nat.even_add_one, Nat.even_iff]; exact odd

/-- A fraction without its sign, in units of a decimal place, as a quotient of natural numbers. -/
theorem Dyadic.abs_value_mul (d : Dyadic) (places : Nat) : |d.value| * 10 ^ places =
    ((d.mantissa * 2 ^ d.exponent.toNat * 10 ^ places : Nat) : ℚ) / (2 ^ (-d.exponent).toNat : Nat) := by
  have size : |d.value| = d.mantissa * 2 ^ d.exponent := by
    have positive : (0 : ℚ) ≤ d.mantissa * 2 ^ d.exponent := by positivity
    rw [value]
    split
    · rw [abs_neg, abs_of_nonneg positive]
    · exact abs_of_nonneg positive
  have power : (2 : ℚ) ^ d.exponent = 2 ^ d.exponent.toNat / 2 ^ (-d.exponent).toNat := by
    rw [← zpow_natCast, ← zpow_natCast, ← zpow_sub₀ two_ne_zero, Int.toNat_sub_toNat_neg]
  rw [size, power]
  push_cast
  ring

/-- A fraction without its sign is rounded to the nearest number of units of a decimal place. -/
theorem Dyadic.nearest_units (d : Dyadic) (places : Nat) : Nearest (|d.value| * 10 ^ places)
    (roundHalfEven (d.mantissa * 2 ^ d.exponent.toNat * 10 ^ places) (2 ^ (-d.exponent).toNat)) := by
  rw [abs_value_mul]
  exact nearest_roundHalfEven _ (by positivity)

/-! ## Digits around a point -/

/-- Digits with some of them behind a point spell a number of units in the last place. No zero is in front of other
digits before the point. -/
structure Spells (places n : Nat) (whole part : List Char) : Prop where
  digits : ∀ c ∈ whole ++ part, c.isDigit = true
  first : ∃ c rest, whole = c :: rest ∧ (c = '0' → rest = [])
  behind : part.length = places
  number : Nat.ofDigitChars 10 (whole ++ part) 0 = n

theorem natDigits_first (n : Nat) : ∃ c rest, natDigits n = c :: rest ∧ (c = '0' → rest = []) := by
  rcases Nat.eq_zero_or_pos n with rfl | positive
  · exact ⟨'0', [], natDigits_zero, fun _ => rfl⟩
  · obtain ⟨c, rest, digits, nonzero⟩ := natDigits_head positive
    exact ⟨c, rest, digits, fun zero => absurd zero nonzero⟩

theorem natDigits_append {d : Nat} (positive : 0 < n) (digit : d < 10) :
    natDigits (10 * n + d) = natDigits n ++ [d.digitChar] := by
  rw [natDigits, Nat.toDigits_of_base_le (by decide) (by omega), show (10 * n + d) / 10 = n by omega,
    show (10 * n + d) % 10 = d by omega, natDigits]

theorem digitChar_of_isDigit {c : Char} (digit : c.isDigit = true) : (c.toNat - 48).digitChar = c := by
  obtain ⟨low, high⟩ := isDigit_bounds digit
  have back : ∀ n < 10, n.digitChar.toNat = n + 48 := by decide
  apply Char.toNat_inj.mp
  rw [back _ (by omega)]
  omega

/-- Digits without a zero in front of others are those of the number that they spell. -/
theorem natDigits_ofDigitChars (all : ∀ c ∈ digits, c.isDigit = true)
    (first : ∃ c rest, digits = c :: rest ∧ (c = '0' → rest = [])) :
    natDigits (Nat.ofDigitChars 10 digits 0) = digits := by
  induction digits using List.reverseRecOn with
  | nil =>
    obtain ⟨c, rest, begins, -⟩ := first
    cases begins
  | append_singleton front d ih =>
    have digit : d.isDigit = true := all d (List.mem_append_right _ (List.mem_singleton_self d))
    have bounds := isDigit_bounds digit
    have step : Nat.ofDigitChars 10 (front ++ [d]) 0 = 10 * Nat.ofDigitChars 10 front 0 + (d.toNat - 48) := by
      rw [Nat.ofDigitChars_append, Nat.ofDigitChars_cons, Nat.ofDigitChars_nil]
      rfl
    obtain ⟨c, rest, begins, alone⟩ := first
    rw [step]
    cases front with
    | nil =>
      rw [Nat.ofDigitChars_nil, natDigits, Nat.toDigits_of_lt_base (by omega), Nat.mul_zero, Nat.zero_add,
        digitChar_of_isDigit digit, List.nil_append]
    | cons c' front =>
      obtain ⟨rfl, rfl⟩ := List.cons.inj begins
      have nonzero : c' ≠ '0' := fun zero => by simpa using alone zero
      have kept := ih (fun c listed => all c (List.mem_append_left _ listed))
        ⟨c', front, rfl, fun zero => absurd zero nonzero⟩
      have positive : 0 < Nat.ofDigitChars 10 (c' :: front) 0 := by
        by_contra zero
        rw [Nat.eq_zero_of_not_pos zero, natDigits_zero] at kept
        exact nonzero (List.cons.inj kept).1.symm
      rw [natDigits_append positive (by omega), kept, digitChar_of_isDigit digit]

/-- The digits on each side of a point, behind a one where zeros may be in front. -/
theorem Spells.sides (spells : Spells places n whole part) :
    whole = natDigits (n / 10 ^ places) ∧ '1' :: part = natDigits (10 ^ places + n % 10 ^ places) := by
  obtain ⟨digits, first, rfl, rfl⟩ := spells
  obtain ⟨before, behind⟩ := List.forall_mem_append.mp digits
  have small : Nat.ofDigitChars 10 part 0 < 10 ^ part.length := by
    simpa using digitsValue_lt (digitsValue_eq behind 0)
  have leading : Nat.ofDigitChars 10 ('1' :: part) 0 = 10 ^ part.length + Nat.ofDigitChars 10 part 0 := by
    rw [Nat.ofDigitChars_cons, Nat.ofDigitChars_eq_ofDigitChars_zero]
    simp
  rw [Nat.ofDigitChars_append, Nat.ofDigitChars_eq_ofDigitChars_zero, Nat.mul_add_div (by positivity),
    Nat.div_eq_of_lt small, Nat.mul_add_mod, Nat.mod_eq_of_lt small, Nat.add_zero, ← leading]
  refine ⟨(natDigits_ofDigitChars before first).symm, (natDigits_ofDigitChars ?_ ⟨'1', part, rfl, nofun⟩).symm⟩
  exact List.forall_mem_cons.mpr ⟨by decide, behind⟩

theorem Spells.unique (first : Spells places n whole part) (second : Spells places n other further) :
    whole = other ∧ part = further := by
  obtain ⟨before, behind⟩ := first.sides
  obtain ⟨before', behind'⟩ := second.sides
  exact ⟨before.trans before'.symm, (List.cons.inj (behind.trans behind'.symm)).2⟩

/-- With a point in front of the last places, the digits of a number spell it. -/
theorem spells_withPoint (places n : Nat) :
    ∃ whole part, withPoint (natDigits n) places = whole ++ '.' :: part ∧ Spells places n whole part := by
  have written : ∀ c ∈ natDigits n, c.isDigit = true := fun c => isDigit_natDigits
  have spelled : Nat.ofDigitChars 10 (natDigits n) 0 = n := Nat.ofDigitChars_ten_toDigits
  obtain ⟨c, rest, begins, alone⟩ := natDigits_first n
  refine ⟨_, _, rfl, ?_, ?_, ?_, ?_⟩
  · intro c listed
    rw [List.take_append_drop] at listed
    rcases List.mem_append.mp listed with zero | digit
    · rw [List.eq_of_mem_replicate zero]
      decide
    · exact written c digit
  · generalize natDigits n = digits at begins
    subst begins
    by_cases longer : places < (c :: rest).length
    · -- The number has a digit of its own before the point.
      obtain ⟨k, same⟩ : ∃ k, (c :: rest).length - places = k + 1 := ⟨(c :: rest).length - places - 1, by omega⟩
      have unpadded : places + 1 - (c :: rest).length = 0 := by omega
      refine ⟨c, rest.take k, ?_, fun zero => ?_⟩
      · rw [unpadded, List.replicate_zero, List.nil_append, same, List.take_succ_cons]
      · rw [alone zero, List.take_nil]
    · obtain ⟨k, same⟩ : ∃ k, places + 1 - (c :: rest).length = k + 1 := ⟨places - (c :: rest).length, by omega⟩
      refine ⟨'0', [], ?_, fun _ => rfl⟩
      have one : (List.replicate (places + 1 - (c :: rest).length) '0' ++ c :: rest).length - places = 1 := by
        rw [List.length_append, List.length_replicate]
        omega
      rw [one, same, List.replicate_succ, List.cons_append, List.take_succ_cons, List.take_zero]
  · rw [List.length_drop, List.length_append, List.length_replicate]
    omega
  · rw [List.take_append_drop, Nat.ofDigitChars_append, Nat.ofDigitChars_replicate_zero, Nat.mul_zero, spelled]

/-! ## Shown numbers -/

/-- A text shows a number with some places behind the point. -/
inductive ShowsPlaces (places : Nat) (x : Float) : String → Prop
  | finite {d : Dyadic} {n : Nat} {whole part : List Char} (is : Dyadic.ofFloat? x = some d)
    (nearest : Nearest (|d.value| * 10 ^ places) n) (spells : Spells places n whole part) :
    ShowsPlaces places x (String.ofList ((if d.negative then ['-'] else []) ++ whole ++ '.' :: part))
  | infinite (beyond : Dyadic.ofFloat? x = none) (number : x.isNaN = false) :
    ShowsPlaces places x (if x < 0 then "-inf" else "inf")
  | noNumber (beyond : Dyadic.ofFloat? x = none) (noNumber : x.isNaN = true) : ShowsPlaces places x "nan"

/-- A finite number has one text with a fixed number of places. -/
theorem fixed_finite {d : Dyadic} (is : Dyadic.ofFloat? x = some d) (nearest : Nearest (|d.value| * 10 ^ places) n)
    (spells : Spells places n whole part) :
    fixed places x = String.ofList ((if d.negative then ['-'] else []) ++ whole ++ '.' :: part) := by
  obtain ⟨_, _, written, spelled⟩ := spells_withPoint places n
  obtain ⟨rfl, rfl⟩ := spells.unique spelled
  rw [fixed, is]
  show signed d.negative (withPoint (natDigits (roundHalfEven (d.mantissa * 2 ^ d.exponent.toNat * 10 ^ places)
    (2 ^ (-d.exponent).toNat))) places) = _
  rw [(d.nearest_units places).unique nearest, written]
  cases d.negative with
  | false => rfl
  | true => rfl

theorem fixed_infinite (beyond : Dyadic.ofFloat? x = none) (number : x.isNaN = false) :
    fixed places x = if x < 0 then "-inf" else "inf" := by
  rw [fixed, beyond]
  simp only [number, Bool.false_eq_true, if_false]
  by_cases negative : x < 0
  · rw [if_pos negative, decide_eq_true negative]
    rfl
  · rw [if_neg negative, decide_eq_false negative]
    rfl

theorem fixed_noNumber (beyond : Dyadic.ofFloat? x = none) (noNumber : x.isNaN = true) : fixed places x = "nan" := by
  rw [fixed, beyond]
  simp only [noNumber, if_true]

/-- The text with a fixed number of places is the only one that shows a number so. -/
theorem showsPlaces_iff : ShowsPlaces places x s ↔ fixed places x = s := by
  constructor
  · rintro (⟨is, nearest, spells⟩ | ⟨beyond, number⟩ | ⟨beyond, noNumber⟩)
    · exact fixed_finite is nearest spells
    · exact fixed_infinite beyond number
    · exact fixed_noNumber beyond noNumber
  · rintro rfl
    cases is : Dyadic.ofFloat? x with
    | some d =>
      have nearest := d.nearest_units places
      obtain ⟨whole, part, -, spells⟩ := spells_withPoint places _
      rw [fixed_finite is nearest spells]
      exact .finite is nearest spells
    | none =>
      cases number : x.isNaN with
      | false =>
        rw [fixed_infinite is number]
        exact .infinite is number
      | true =>
        rw [fixed_noNumber is number]
        exact .noNumber is number

end Number

namespace Report
open Json Number
variable {categories : List Category}

/-! ## Categories -/

/-- Categories are shown as lines, one for each with its index, its name and its score. -/
theorem lines_eq (categories : List Category) :
    ∃ shown, List.Forall₂ (fun (k, i) line => ∃ score, ShowsPlaces 5 k.score score ∧
        line = "category[" ++ toString i ++ "]: '" ++ k.name ++ "' : '" ++ score ++ "'") categories.zipIdx shown ∧
      lines categories = "\n".intercalate shown := by
  refine ⟨_, ?_, rfl⟩
  rw [List.forall₂_map_right_iff]
  exact List.forall₂_same.mpr fun (k, i) _ => ⟨_, showsPlaces_iff.mpr rfl, rfl⟩

/-- A text with its categories can be written as JSON, as far as the scores can. -/
theorem writable_toValue (text : String) (numbers : ∀ k ∈ categories, Value.ReadsBack k.score) :
    (toValue text categories).Writable := by
  have each : ∀ k ∈ categories, (entry k.name (.float k.score)).Writable := by
    intro k listed
    have score : (Value.float k.score).Writable := by
      refine Value.writable_scalar rfl trivial ?_
      rintro x ⟨⟩
      exact numbers k listed
    exact Value.writable_object (show ["label", "score"].Nodup by decide)
      (List.forall_mem_cons.mpr ⟨Value.writable_str _, List.forall_mem_singleton.mpr score⟩)
  have entries : (Value.array (categories.map fun k => entry k.name (.float k.score))).Writable :=
    Value.writable_array (List.forall_mem_map.mpr each)
  exact Value.writable_object (show ["text", "categories"].Nodup by decide)
    (List.forall_mem_cons.mpr ⟨Value.writable_str _, List.forall_mem_singleton.mpr entries⟩)

end Report
end TextClassifier
