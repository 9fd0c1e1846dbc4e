import Mathlib.Data.List.TakeDrop
import Mathlib.Data.List.TakeWhile
import TextClassifier.Json.Reader
import TextClassifier.Json.Writer
import TextClassifier.Proofs.NumberText

/-!
# Scalars of JSON texts

Words and numbers end where a comma or a new line follows (`scalar_append`), so that it is enough to know
how they are read by themselves. Integers that have no more digits than are read are read back
(`scalar_intText`).
-/
namespace TextClassifier.Json.Reader
open TextClassifier

/-- Nothing, a comma or a new line: what may stand behind a value. -/
def Ends (rest : List Char) : Prop := ∀ c ∈ rest.head?, c = ',' ∨ c = '\n'

variable {s rest : List Char} {v : Value}

theorem ends_nil : Ends [] := by simp [Ends]

theorem ends_comma : Ends (',' :: rest) := by simp [Ends]

theorem ends_newline : Ends ('\n' :: rest) := by simp [Ends]

theorem isDigit_eq (c : Char) : isDigit c = c.isDigit := rfl

/-! ## Numbers -/

/-- What stops a run of characters may stand behind the text. -/
theorem span_append {p : Char → Bool} (stops : ∀ c ∈ rest.head?, p c = false) (s : List Char) :
    (s ++ rest).span p = ((s.span p).1, (s.span p).2 ++ rest) := by
  rw [List.span_eq_takeWhile_dropWhile, List.span_eq_takeWhile_dropWhile]
  induction s with
  | nil =>
    cases rest with
    | nil => rfl
    | cons c rest =>
      have stop := stops c rfl
      simp [stop]
  | cons c s ih =>
    cases held : p c with
    | false => simp [held]
    | true =>
      obtain ⟨taken, left⟩ := Prod.mk.inj ih
      simp [held, taken, left]

section
variable (ends : Ends rest)
include ends

theorem span_isDigit_append (s : List Char) :
    (s ++ rest).span isDigit = ((s.span isDigit).1, (s.span isDigit).2 ++ rest) := by
  apply span_append
  intro c first
  rcases ends c first with rfl | rfl <;> decide

theorem fraction_append (s : List Char) : fraction (s ++ rest) = ((fraction s).1, (fraction s).2 ++ rest) := by
  rcases s with _ | ⟨a, _ | ⟨b, s⟩⟩
  · cases rest with
    | nil => rfl
    | cons c rest => rcases ends c rfl with rfl | rfl <;> rfl
  · by_cases point : a = '.'
    · subst point
      cases rest with
      | nil => rfl
      | cons c rest => rcases ends c rfl with rfl | rfl <;> rfl
    · simp [fraction, point]
  · by_cases point : a = '.'
    · subst point
      cases digit : isDigit b with
      | false => simp [fraction, digit]
      | true => 
        have spanned := span_isDigit_append ends (b :: s)
        simpa [fraction, digit] using spanned
    · simp [fraction, point]

theorem splitSign_append (s : List Char) :
    Number.splitSign (s ++ rest) = ((Number.splitSign s).1, (Number.splitSign s).2 ++ rest) := by
  rcases s with _ | ⟨a, s⟩
  · cases rest with
    | nil => rfl
    | cons c rest => rcases ends c rfl with rfl | rfl <;> rfl
  · by_cases minus : a = '-'
    · subst minus
      rfl
    · by_cases plus : a = '+'
      · subst plus
        rfl
      · simp [Number.splitSign, minus, plus]

theorem exponent?_append (s : List Char) :
    exponent? (s ++ rest) = (exponent? s).map fun (n, behind) => (n, behind ++ rest) := by
  rcases s with _ | ⟨mark, s⟩
  · cases rest with
    | nil => rfl
    | cons c rest => rcases ends c rfl with rfl | rfl <;> rfl
  · rw [List.cons_append, exponent?, exponent?, splitSign_append ends]
    by_cases marked : (mark == 'e' || mark == 'E') = true
    · simp only [marked, if_true]
      rw [span_isDigit_append ends]
      rcases (Number.splitSign s).2.span isDigit with ⟨_ | ⟨d, digits⟩, behind⟩
      · rfl
      · rfl
    · simp [marked]

/-- The digits in front of the point: a zero or some that begin with none. -/
def wholePart (s : List Char) : List Char × List Char :=
  match s with
  | '0' :: rest => (['0'], rest)
  | _ => s.span isDigit

theorem wholePart_append (s : List Char) :
    wholePart (s ++ rest) = ((wholePart s).1, (wholePart s).2 ++ rest) := by
  rcases s with _ | ⟨a, s⟩
  · cases rest with
    | nil => rfl
    | cons c rest => rcases ends c rfl with rfl | rfl <;> rfl
  · by_cases zero : a = '0'
    · subst zero
      rfl
    · have spanned := span_isDigit_append ends (a :: s)
      simpa [wholePart, zero] using spanned

end

/-- What digits in front of a point and the text behind them are read as. -/
def numberBehind (negative : Bool) (whole rest : List Char) : Except Defect (Value × List Char) :=
  if whole.isEmpty then .error .malformed
  else match (fraction rest).1, exponent? (fraction rest).2 with
    | [], none =>
      if Number.mostDigits < whole.length then .error .tooManyDigits
      else
        let size : Nat := (Number.digitsValue 0 whole).getD 0
        .ok (.int (if negative then -size else size), (fraction rest).2)
    | part, exponent =>
      let (power, rest) := exponent.getD (0, (fraction rest).2)
      let digits := (Number.digitsValue 0 (whole ++ part)).getD 0
      let x := Number.ofDecimal digits (power - part.length)
      .ok (.float (if negative then -x else x), rest)

theorem number_eq (negative : Bool) (s : List Char) :
    number negative s = numberBehind negative (wholePart s).1 (wholePart s).2 := rfl

/-- A result with more text behind it. -/
def followed (rest : List Char) (r : Except Defect (Value × List Char)) : Except Defect (Value × List Char) :=
  r.map fun (v, behind) => (v, behind ++ rest)

theorem numberBehind_append (ends : Ends rest) (negative : Bool) (whole s : List Char) :
    numberBehind negative whole (s ++ rest) = followed rest (numberBehind negative whole s) := by
  rw [numberBehind, numberBehind, fraction_append ends, exponent?_append ends]
  cases whole with
  | nil => rfl
  | cons c whole =>
    simp only [List.isEmpty_cons, Bool.false_eq_true, if_false]
    rcases (fraction s).1 with _ | ⟨d, part⟩
    · rcases exponent? (fraction s).2 with _ | ⟨power, behind⟩
      · show (if _ then _ else _) = followed rest (if _ then _ else _)
        split <;> rfl
      · rfl
    · rcases exponent? (fraction s).2 with _ | ⟨power, behind⟩
      · rfl
      · rfl

theorem number_append (ends : Ends rest) (negative : Bool) (s : List Char) :
    number negative (s ++ rest) = followed rest (number negative s) := by
  rw [number_eq, number_eq, wholePart_append ends, numberBehind_append ends]

/-! ## Words -/

theorem afterWord?_append (ends : Ends rest) {word : List Char} (plain : ∀ c ∈ word, c ≠ ',' ∧ c ≠ '\n') :
    ∀ s, afterWord? word (s ++ rest) = (afterWord? word s).map (· ++ rest) := by
  induction word with
  | nil => exact fun s => rfl
  | cons c word ih =>
    have later := ih fun d member => plain d (List.mem_cons_of_mem _ member)
    obtain ⟨comma, newline⟩ := plain c List.mem_cons_self
    intro s
    cases s with
    | nil =>
      cases rest with
      | nil => rfl
      | cons d rest => rcases ends d rfl with rfl | rfl <;> simp [afterWord?, comma, newline]
    | cons d s =>
      by_cases same : c = d
      · simp [afterWord?, same, later]
      · simp [afterWord?, same]

theorem words_plain : ∀ word ∈ words.map (·.1), ∀ c ∈ word, c ≠ ',' ∧ c ≠ '\n' := by
  have tested : ∀ word ∈ words.map (·.1), (word.all fun c => decide (c ≠ ',' ∧ c ≠ '\n')) = true := by decide
  exact fun word listed => Number.forall_of_all (tested word listed)

/-- The word that a text begins with, and the text behind it. -/
def word? (s : List Char) : Option (Value × List Char) :=
  words.findSome? fun (word, v) => (afterWord? word s).map fun rest => (v, rest)

/-- A word is read as well in front of what cannot belong to it. -/
theorem word?_append (ends : Ends rest) (s : List Char) :
    word? (s ++ rest) = (word? s).map fun (v, behind) => (v, behind ++ rest) := by
  have each : ∀ table : List (List Char × Value), (∀ word ∈ table.map (·.1), ∀ c ∈ word, c ≠ ',' ∧ c ≠ '\n') →
      (table.findSome? fun (word, v) => (afterWord? word (s ++ rest)).map fun rest => (v, rest)) =
        (table.findSome? fun (word, v) => (afterWord? word s).map fun rest => (v, rest)).map
          fun (v, behind) => (v, behind ++ rest) := by
    intro table
    induction table with
    | nil => exact fun _ => rfl
    | cons entry table ih =>
      obtain ⟨word, v⟩ := entry
      intro plain
      have first := afterWord?_append ends (plain word List.mem_cons_self) s
      simp only [List.findSome?_cons, first]
      cases afterWord? word s with
      | none => exact ih fun w member => plain w (List.mem_cons_of_mem _ member)
      | some behind => rfl
  exact each words words_plain

theorem scalar_eq (s : List Char) : scalar s = match word? s with
    | some result => .ok result
    | none =>
      match s with
      | '-' :: rest => number true rest
      | _ => number false s := rfl

/-- A word or a number ends where a value ends. -/
theorem scalar_append (ends : Ends rest) (s : List Char) : scalar (s ++ rest) = followed rest (scalar s) := by
  rw [scalar_eq, scalar_eq, word?_append ends]
  cases word? s with
  | some result => rfl
  | none =>
    rcases s with _ | ⟨a, s⟩
    · have plain := number_append ends false []
      cases rest with
      | nil => exact plain
      | cons c rest => rcases ends c rfl with rfl | rfl <;> exact plain
    · by_cases minus : a = '-'
      · subst minus
        exact number_append ends true s
      · have plain := number_append ends false (a :: s)
        simpa [minus] using plain

/-! ## What is left of a text -/

theorem span_suffix (p : Char → Bool) (s : List Char) : (s.span p).2 <:+ s := by
  rw [List.span_eq_takeWhile_dropWhile]
  exact List.dropWhile_suffix p

theorem wholePart_suffix (s : List Char) : (wholePart s).2 <:+ s := by
  unfold wholePart
  split
  · exact List.suffix_cons _ _
  · exact span_suffix _ _

theorem fraction_suffix (s : List Char) : (fraction s).2 <:+ s := by
  unfold fraction
  split
  · split
    · exact (span_suffix _ _).trans (List.suffix_cons _ _)
    · exact List.suffix_refl _
  · exact List.suffix_refl _

theorem splitSign_suffix (s : List Char) : (Number.splitSign s).2 <:+ s := by
  unfold Number.splitSign
  split
  · exact List.suffix_cons _ _
  · exact List.suffix_cons _ _
  · exact List.suffix_refl _

theorem exponent?_suffix {s behind : List Char} {n : Int} (read : exponent? s = some (n, behind)) :
    behind <:+ s := by
  rcases s with _ | ⟨mark, s⟩
  · simp [exponent?] at read
  · rw [exponent?] at read
    by_cases marked : (mark == 'e' || mark == 'E') = true
    · simp only [marked, if_true] at read
      have left := span_suffix isDigit (Number.splitSign s).2
      rcases spanned : (Number.splitSign s).2.span isDigit with ⟨_ | ⟨d, digits⟩, rest⟩
      · rw [spanned] at read
        cases read
      · rw [spanned] at read left
        cases read
        exact left.trans ((splitSign_suffix s).trans (List.suffix_cons _ _))
    · simp [marked] at read

/-- What is left behind a number is the end of the text. -/
theorem numberBehind_suffix {negative : Bool} {whole behind : List Char}
    (read : numberBehind negative whole s = .ok (v, behind)) : behind <:+ s := by
  have left := fraction_suffix s
  rw [numberBehind] at read
  split at read
  · cases read
  cases found : exponent? (fraction s).2 with
  | none =>
    rw [found] at read
    cases part : (fraction s).1 with
    | nil =>
      simp only [part] at read
      split at read
      · cases read
      · cases read
        exact left
    | cons d digits =>
      rw [part] at read
      cases read
      exact left
  | some taken =>
    obtain ⟨power, after⟩ := taken
    rw [found] at read
    have shorter := (exponent?_suffix found).trans left
    cases part : (fraction s).1 with
    | nil =>
      rw [part] at read
      cases read
      exact shorter
    | cons d digits =>
      rw [part] at read
      cases read
      exact shorter

theorem number_suffix {negative : Bool} {behind : List Char} (read : number negative s = .ok (v, behind)) :
    behind <:+ s := by
  rw [number_eq] at read
  exact (numberBehind_suffix read).trans (wholePart_suffix s)

theorem afterWord?_suffix {word behind : List Char} (read : afterWord? word s = some behind) : behind <:+ s := by
  induction word generalizing s with
  | nil =>
    cases read
    exact List.suffix_refl _
  | cons c word ih =>
    cases s with
    | nil => simp [afterWord?] at read
    | cons d s =>
      by_cases same : c = d
      · rw [afterWord?, if_pos same] at read
        exact (ih read).trans (List.suffix_cons _ _)
      · simp [afterWord?, same] at read

/-- What stands behind a word or a number is the end of the text. -/
theorem scalar_suffix {behind : List Char} (read : scalar s = .ok (v, behind)) : behind <:+ s := by
  rw [scalar_eq] at read
  cases found : word? s with
  | some result =>
    obtain ⟨⟨word, w⟩, -, taken⟩ := List.exists_of_findSome?_eq_some found
    obtain ⟨left, after, rfl⟩ := Option.map_eq_some_iff.mp taken
    rw [found] at read
    cases read
    exact afterWord?_suffix after
  | none =>
    rw [found] at read
    dsimp only at read
    split at read
    · exact (number_suffix read).trans (List.suffix_cons _ _)
    · exact number_suffix read

/-! ## What scalars begin with -/

/-- A digit, a minus or the first letter of a word. -/
def beginsScalar (c : Char) : Bool := c.isDigit || ['n', 't', 'f', 'N', 'I', '-'].contains c

theorem beginsScalar_of_word {c : Char} (read : word? (c :: s) ≠ none) : beginsScalar c = true := by
  have heads : ∀ word ∈ words.map (·.1), word.head?.all beginsScalar = true := by decide
  have filled : ∀ word ∈ words.map (·.1), word ≠ [] := by decide
  obtain ⟨result, found⟩ := Option.ne_none_iff_exists'.mp read
  obtain ⟨⟨word, w⟩, listed, taken⟩ := List.exists_of_findSome?_eq_some found
  obtain ⟨left, after, -⟩ := Option.map_eq_some_iff.mp taken
  have named : word ∈ words.map (·.1) := List.mem_map.mpr ⟨_, listed, rfl⟩
  cases word with
  | nil => exact absurd rfl (filled [] named)
  | cons d word =>
    have same : d = c := by
      by_cases same : d = c
      · exact same
      · simp [afterWord?, same] at after
    exact same ▸ heads _ named

/-- A text that begins with a word or a number begins with one of a few characters. -/
theorem scalar_head {r : Value × List Char} (read : scalar s = .ok r) :
    ∃ c rest, s = c :: rest ∧ beginsScalar c = true := by
  rcases s with _ | ⟨c, s⟩
  · cases read
  · refine ⟨c, s, rfl, ?_⟩
    by_cases word : word? (c :: s) = none
    · by_cases minus : c = '-'
      · subst minus
        decide
      · cases digit : c.isDigit with
        | true => simp [beginsScalar, digit]
        | false =>
          -- Without a digit there is no number.
          have zero : c ≠ '0' := by
            rintro rfl
            cases digit
          have whole : (wholePart (c :: s)).1 = [] := by
            simp [wholePart, zero, isDigit_eq, digit]
          have fails : number false (c :: s) = .error .malformed := by
            rw [number_eq, whole]
            rfl
          rw [scalar_eq, word] at read
          simp [minus, fails] at read
    · exact beginsScalar_of_word word

/-- What a scalar begins with begins no string, array or object, and is no blank. -/
theorem beginsScalar_ne {c : Char} (begins : beginsScalar c = true) :
    c ≠ '"' ∧ c ≠ '[' ∧ c ≠ ']' ∧ c ≠ '\x7b' ∧ isBlank c = false := by
  have other : ∀ d, beginsScalar d = false → c ≠ d := by
    rintro d no rfl
    rw [begins] at no
    cases no
  refine ⟨?_, ?_, ?_, ?_, ?_⟩
  · exact other _ (by decide)
  · exact other _ (by decide)
  · exact other _ (by decide)
  · exact other _ (by decide)
  · have blanks : c ≠ ' ' ∧ c ≠ '\t' ∧ c ≠ '\n' ∧ c ≠ '\r' :=
      ⟨other _ (by decide), other _ (by decide), other _ (by decide), other _ (by decide)⟩
    simp [isBlank, blanks]

/-- A word or a number is read as a value. -/
theorem value_of_scalar {r : Value × List Char} (read : scalar s = .ok r) (fuel : Nat) :
    value (fuel + 1) s = .ok r := by
  obtain ⟨c, rest, rfl, begins⟩ := scalar_head read
  obtain ⟨quote, bracket, -, brace, -⟩ := beginsScalar_ne begins
  rw [value]
  · exact read
  · exact fun rest same => quote (List.cons.inj same).1
  · exact fun rest same => bracket (List.cons.inj same).1
  · exact fun rest same => brace (List.cons.inj same).1

/-! ## Integers -/

theorem word?_digit {c : Char} (digit : c.isDigit = true) (s : List Char) : word? (c :: s) = none := by
  have other : ∀ d : Char, d.isDigit = false → d ≠ c := by
    rintro d no rfl
    rw [digit] at no
    cases no
  have heads : 'n' ≠ c ∧ 't' ≠ c ∧ 'f' ≠ c ∧ 'N' ≠ c ∧ 'I' ≠ c ∧ '-' ≠ c := by
    refine ⟨?_, ?_, ?_, ?_, ?_, ?_⟩ <;> exact other _ (by decide)
  simp [word?, words, afterWord?, heads]

theorem word?_minus_digit {c : Char} (digit : c.isDigit = true) (s : List Char) :
    word? ('-' :: c :: s) = none := by
  have other : 'I' ≠ c := by
    rintro rfl
    cases digit
  simp [word?, words, afterWord?, other]

theorem span_natDigits (n : Nat) : (Number.natDigits n).span isDigit = (Number.natDigits n, []) := by
  have all : ∀ c ∈ Number.natDigits n, isDigit c = true := fun c => Number.isDigit_natDigits
  rw [List.span_eq_takeWhile_dropWhile, List.takeWhile_eq_self_iff.mpr all, List.dropWhile_eq_nil_iff.mpr all]

theorem wholePart_natDigits (n : Nat) : wholePart (Number.natDigits n) = (Number.natDigits n, []) := by
  rcases Nat.eq_zero_or_pos n with rfl | positive
  · rfl
  · have spanned := span_natDigits n
    obtain ⟨c, rest, digits, head⟩ := Number.natDigits_head positive
    rw [digits] at spanned ⊢
    simpa [wholePart, head] using spanned

theorem number_natDigits (negative : Bool) {n : Nat} (few : (Number.natDigits n).length ≤ Number.mostDigits) :
    number negative (Number.natDigits n) = .ok (.int (if negative then -n else n), []) := by
  have some_there : (Number.natDigits n).isEmpty = false := by
    have positive : 0 < (Number.natDigits n).length := Nat.length_toDigits_pos
    cases digits : Number.natDigits n with
    | nil => simp [digits] at positive
    | cons c rest => rfl
  rw [number_eq, wholePart_natDigits, numberBehind, some_there]
  simp only [Bool.false_eq_true, if_false]
  show (if _ then _ else _) = _
  rw [if_neg (by omega), Number.digitsValue_natDigits]
  rfl

/-- An integer is read back, as long as it does not have too many digits. -/
theorem scalar_intText {n : Int} (few : (Number.natDigits n.natAbs).length ≤ Number.mostDigits) :
    scalar (Number.intText n).toList = .ok (.int n, []) := by
  obtain ⟨c, rest, digits⟩ : ∃ c rest, Number.natDigits n.natAbs = c :: rest :=
    List.exists_cons_of_length_pos Nat.length_toDigits_pos
  have digit : c.isDigit = true := Number.isDigit_natDigits (n := n.natAbs) (by rw [digits]; exact List.mem_cons_self)
  by_cases negative : n < 0
  · have text : (Number.intText n).toList = '-' :: Number.natDigits n.natAbs := by
      simp [Number.intText, negative]
    have value : -(n.natAbs : Int) = n := by omega
    have read := number_natDigits true few
    rw [if_pos rfl, value] at read
    rw [text, scalar_eq, digits, word?_minus_digit digit, ← digits]
    exact read
  · have text : (Number.intText n).toList = Number.natDigits n.natAbs := by
      simp [Number.intText, negative]
    have value : (n.natAbs : Int) = n := by omega
    have read := number_natDigits false few
    have plain : c ≠ '-' := by
      rintro rfl
      cases digit
    rw [text, scalar_eq, digits, word?_digit digit]
    rw [digits] at read
    simpa [value, plain] using read

end TextClassifier.Json.Reader
