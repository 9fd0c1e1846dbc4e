import Mathlib.Data.List.Infix
import TextClassifier.Proofs.PartReading

/-!
# Counts that are too large

A count of repetitions stands in braces. It may have too many digits or be too large, and where the reader of
counts finds it so, it is a part of the text (`hasExceeding_of_spelledCounts?`).
-/
namespace TextClassifier.Pattern

/-! ## Counts in a text -/

/-- Digits that are no count: there are too many of them, or they spell too large a number. -/
inductive Exceeds : Defect → List Char → Prop
  | digits {cs : List Char} (many : Number.mostDigits < cs.length) : Exceeds .tooManyDigits cs
  | number {cs : List Char} (few : cs.length ≤ Number.mostDigits)
    (large : Reader.mostCount ≤ Reader.inBase 10 cs) : Exceeds .countTooLarge cs

/-- A text that begins with one or two numbers in braces, one of which is no count. -/
inductive BeginsExceeding (defect : Defect) : List Char → Prop
  | single {cs rest : List Char} (digits : ∀ c ∈ cs, Reader.isDigit c = true) (exceeds : Exceeds defect cs) :
    BeginsExceeding defect ('\x7b' :: cs ++ '\x7d' :: rest)
  | double {low high rest : List Char} (first : ∀ c ∈ low, Reader.isDigit c = true)
    (second : ∀ c ∈ high, Reader.isDigit c = true) (exceeds : Exceeds defect low ∨ Exceeds defect high) :
    BeginsExceeding defect ('\x7b' :: low ++ ',' :: high ++ '\x7d' :: rest)

/-- A text with one or two numbers in braces, one of which is no count. -/
def HasExceeding (defect : Defect) (text : List Char) : Prop :=
  ∃ part, part <:+ text ∧ BeginsExceeding defect part

/-- What exceeds is a count, whatever else may be wrong. -/
theorem HasExceeding.ne_contradictory {defect : Defect} {text : List Char} (has : HasExceeding defect text) :
    defect ≠ .contradictory := by
  have counts : ∀ {cs}, Exceeds defect cs → defect ≠ .contradictory := by
    intro cs exceeds
    cases exceeds <;> decide
  obtain ⟨part, -, begins⟩ := has
  cases begins with
  | single _ exceeds => exact counts exceeds
  | double _ _ exceeds => exact exceeds.elim counts counts

namespace Reader
variable {tokens : List Token}

/-! ## Texts of tokens -/

/-- The text of tokens. -/
def textOf (tokens : List Token) : List Char := tokens.flatMap Token.text

@[simp] theorem textOf_cons (t : Token) (tokens : List Token) : textOf (t :: tokens) = t.text ++ textOf tokens := rfl

theorem textOf_tokens {s : List Char} (read : tokens? s = some tokens) : textOf tokens = s := by
  induction s using tokens?.induct generalizing tokens with
  | case1 =>
    cases read
    rfl
  | case2 c rest ih =>
    rw [tokens?] at read
    obtain ⟨behind, found, rfl⟩ := Option.map_eq_some_iff.mp read
    rw [textOf_cons, ih found]
    rfl
  | case3 => cases read
  | case4 c rest paired single ih =>
    rw [tokens?_cons (ne_backslash paired single)] at read
    obtain ⟨behind, found, rfl⟩ := Option.map_eq_some_iff.mp read
    rw [textOf_cons, ih found]
    rfl

theorem textOf_suffix {rest : List Token} (behind : rest <:+ tokens) : textOf rest <:+ textOf tokens := by
  obtain ⟨front, rfl⟩ := behind
  exact ⟨textOf front, by simp [textOf]⟩

theorem takeWhile_suffix (test : Char → Bool) (n : Nat) (tokens : List Token) :
    (takeWhile test n tokens).2 <:+ tokens := by
  induction tokens generalizing n with
  | nil => cases n <;> exact List.suffix_rfl
  | cons t tokens ih =>
    cases n with
    | zero => exact List.suffix_rfl
    | succ n =>
      rw [takeWhile]
      split
      · exact (ih n).trans (List.suffix_cons t tokens)
      · exact List.suffix_rfl

/-- Characters in front that satisfy a test, and the text behind them. -/
theorem textOf_takeWhile (test : Char → Bool) (n : Nat) (tokens : List Token) :
    (∀ c ∈ (takeWhile test n tokens).1, test c = true) ∧
      textOf tokens = (takeWhile test n tokens).1 ++ textOf (takeWhile test n tokens).2 := by
  induction tokens generalizing n with
  | nil => cases n <;> simp [takeWhile]
  | cons t tokens ih =>
    cases n with
    | zero => simp [takeWhile]
    | succ n =>
      rw [takeWhile]
      split
      · rename_i passes
        rw [Bool.and_eq_true, Bool.not_eq_true'] at passes
        obtain ⟨all, same⟩ := ih n
        refine ⟨List.forall_mem_cons.mpr ⟨passes.2, all⟩, ?_⟩
        rw [textOf_cons, same, Token.text, if_neg (by simp [passes.1])]
        rfl
      · simp

theorem of_behind? {c : Char} {tokens rest : List Token} (found : behind? c tokens = some rest) :
    rest <:+ tokens ∧ textOf tokens = c :: textOf rest := by
  cases tokens with
  | nil => cases found
  | cons t tokens =>
    rw [behind?] at found
    split at found
    · rename_i same
      cases found
      exact ⟨List.suffix_cons t _, by rw [same]; rfl⟩
    · cases found

/-- Either no second count is read, or a comma and the digits behind it are. -/
theorem of_secondCount {low high : List Char} {rest : List Token} (counted : secondCount low tokens = (high, rest)) :
    rest <:+ tokens ∧ (high = low ∧ textOf tokens = textOf rest ∨
      (∀ c ∈ high, isDigit c = true) ∧ textOf tokens = ',' :: high ++ textOf rest) := by
  rw [secondCount] at counted
  cases comma : behind? ',' tokens with
  | none =>
    rw [comma] at counted
    cases counted
    exact ⟨List.suffix_rfl, .inl ⟨rfl, rfl⟩⟩
  | some further =>
    rw [comma] at counted
    obtain ⟨behind, separates⟩ := of_behind? comma
    obtain ⟨digits, front⟩ := textOf_takeWhile isDigit further.length further
    have left := takeWhile_suffix isDigit further.length further
    simp only [counted] at digits front left
    refine ⟨left.trans behind, .inr ⟨digits, ?_⟩⟩
    rw [separates, front, List.cons_append]

/-- The text of two counts as they are spelled behind an opening brace. -/
theorem of_spelledCounts? {low high : List Char} {rest : List Token}
    (spelled : spelledCounts? tokens = some (low, high, rest)) :
    rest <:+ tokens ∧ (∀ c ∈ low, isDigit c = true) ∧
      (high = low ∧ textOf tokens = low ++ '\x7d' :: textOf rest ∨
        (∀ c ∈ high, isDigit c = true) ∧ textOf tokens = low ++ ',' :: high ++ '\x7d' :: textOf rest) := by
  rw [spelledCounts?] at spelled
  split at spelled
  · cases spelled
  obtain ⟨digits, front⟩ := textOf_takeWhile isDigit tokens.length tokens
  have begun := takeWhile_suffix isDigit tokens.length tokens
  rcases taken : takeWhile isDigit tokens.length tokens with ⟨first, others⟩
  simp only [taken] at spelled digits front begun
  rcases counted : secondCount first others with ⟨second, left⟩
  simp only [counted] at spelled
  obtain ⟨final, closed, same⟩ := Option.map_eq_some_iff.mp spelled
  cases same
  obtain ⟨further, counts⟩ := of_secondCount counted
  obtain ⟨behind, ends⟩ := of_behind? closed
  refine ⟨(behind.trans further).trans begun, digits, counts.imp ?_ ?_⟩
  · rintro ⟨same, text⟩
    exact ⟨same, by rw [front, text, ends]⟩
  · rintro ⟨more, text⟩
    exact ⟨more, by rw [front, text, ends, List.append_assoc, List.cons_append]⟩

theorem count?_error {cs : List Char} {defect : Defect} (failed : count? cs = .error defect) : Exceeds defect cs := by
  rw [count?] at failed
  split at failed
  · cases failed
  split at failed
  · rename_i many
    cases failed
    exact .digits many
  rename_i few
  split at failed
  · rename_i large
    cases failed
    exact .number (Nat.le_of_not_lt few) large
  · cases failed

/-- Two counts in braces are a part of the text of the tokens. -/
theorem hasExceeding_of_spelledCounts? {left rest : List Token} {low high : List Char} {defect : Defect}
    (braced : ⟨false, '\x7b'⟩ :: left <:+ tokens) (spelled : spelledCounts? left = some (low, high, rest))
    (exceeds : Exceeds defect low ∨ Exceeds defect high) : HasExceeding defect (textOf tokens) := by
  obtain ⟨-, first, counts⟩ := of_spelledCounts? spelled
  refine ⟨textOf (⟨false, '\x7b'⟩ :: left), textOf_suffix braced, ?_⟩
  rcases counts with ⟨rfl, text⟩ | ⟨second, text⟩
  · rw [textOf_cons, text]
    exact .single first (exceeds.elim id id)
  · rw [textOf_cons, text]
    exact .double first second exceeds

end Reader

/-! ## The group around a pattern -/

/-- A text before a closing parenthesis that is closed by a brace first. -/
theorem exists_rest {front text rest : List Char} (same : text ++ [')'] = front ++ '\x7d' :: rest) :
    ∃ inner, text = front ++ '\x7d' :: inner := by
  rcases List.eq_nil_or_concat rest with rfl | ⟨inner, last, rfl⟩
  · exact absurd (List.append_inj' same rfl).2 (by decide)
  · rw [List.concat_eq_append, ← List.cons_append, ← List.append_assoc] at same
    exact ⟨inner, (List.append_inj' same rfl).1⟩

theorem BeginsExceeding.of_concat {defect : Defect} {text : List Char}
    (begins : BeginsExceeding defect (text ++ [')'])) : BeginsExceeding defect text := by
  generalize whole : text ++ [')'] = all at begins
  cases begins with
  | single digits exceeds =>
    obtain ⟨inner, rfl⟩ := exists_rest whole
    exact .single digits exceeds
  | double first second exceeds =>
    obtain ⟨inner, rfl⟩ := exists_rest whole
    exact .double first second exceeds

/-- The parentheses of a group add no count. -/
theorem HasExceeding.of_grouped {defect : Defect} {text : List Char}
    (has : HasExceeding defect ('(' :: (text ++ [')']))) : HasExceeding defect text := by
  obtain ⟨part, behind, begins⟩ := has
  rcases List.suffix_cons_iff.mp behind with rfl | behind
  · cases begins
  rcases List.suffix_concat_iff.mp behind with rfl | ⟨front, rfl, inside⟩
  · cases begins
  · exact ⟨front, inside, begins.of_concat⟩

end TextClassifier.Pattern
