import TextClassifier.Json.Reader
import TextClassifier.Json.Writer

/-!
# Strings of JSON texts

An escaped character is read as its 16-bit code units (`units?_escape`), and the code units of a text are
joined to its characters again (`joinUnits_unitsOf`), so that a written string is read back
(`string?_string`).
-/
namespace TextClassifier.Json
open TextClassifier

/-- The 16-bit code units of a character: one, or two surrogates. -/
def unitsOf (c : Char) : List Nat :=
  if c.toNat < 0x10000 then [c.toNat]
  else [0xD800 + (c.toNat - 0x10000) / 0x400, 0xDC00 + (c.toNat - 0x10000) % 0x400]

/-- A character is no surrogate. -/
theorem toNat_bounds (c : Char) : c.toNat < 0xD800 ∨ 0xE000 ≤ c.toNat ∧ c.toNat < 0x110000 := by
  rcases c.valid with low | ⟨above, high⟩
  · exact .inl low
  · exact .inr ⟨above, high⟩

namespace Reader

/-! ## Code units -/

theorem hexValue?_hexDigit : ∀ n < 16, Text.hexValue? (Text.hexDigit n) = some n := by decide

/-- Four digits spell each unit. -/
theorem hexUnit?_hexDigits {unit : Nat} (small : unit < 0x10000) :
    ∃ a b c d, Text.hexDigits 4 unit = [a, b, c, d] ∧ hexUnit? a b c d = some unit := by
  refine ⟨_, _, _, _, rfl, ?_⟩
  have digit : ∀ n, Text.hexValue? (Text.hexDigit (n % 16)) = some (n % 16) := fun n =>
    hexValue?_hexDigit _ (Nat.mod_lt _ (by decide))
  simp only [hexUnit?, digit, Option.some.injEq]
  omega

/-- Units in front of those that are read. -/
def prepend (units : List Nat) (read : Option (List Nat × List Char)) : Option (List Nat × List Char) :=
  read.map fun (more, behind) => (units ++ more, behind)

theorem units?_escapeUnit {unit : Nat} (small : unit < 0x10000) (text : List Char) :
    units? (Writer.escapeUnit unit ++ text) = prepend [unit] (units? text) := by
  obtain ⟨a, b, c, d, digits, value⟩ := hexUnit?_hexDigits small
  rw [Writer.escapeUnit, digits]
  show units? ('\\' :: 'u' :: a :: b :: c :: d :: text) = _
  rw [units?, value]
  cases units? text <;> rfl

/-- A letter behind a backslash is one unit. -/
theorem units?_letter {letter : Char} {unit : Nat} (means : unescape? letter = some unit) (text : List Char) :
    units? ('\\' :: letter :: text) = prepend [unit] (units? text) := by
  have other : letter ≠ 'u' := by
    rintro rfl
    cases means
  rw [units?, means]
  · cases units? text <;> rfl
  · exact fun _ _ _ _ _ u _ => other u

theorem units?_plain {c : Char} (quote : c ≠ '"') (backslash : c ≠ '\\') (visible : 0x20 ≤ c.toNat)
    (text : List Char) : units? (c :: text) = prepend [c.toNat] (units? text) := by
  rw [units?, if_neg (by omega)]
  · rfl
  · exact quote
  · exact fun _ _ _ _ _ same _ => backslash same
  · exact fun _ _ same _ => backslash same

theorem unescape?_small {letter : Char} {unit : Nat} (means : unescape? letter = some unit) : unit < 0x10000 := by
  unfold unescape? at means
  split at means <;> cases means <;> decide

theorem unitsOf_small {c : Char} (small : c.toNat < 0x10000) : unitsOf c = [c.toNat] := if_pos small

/-- How a character stands in a string: by a letter, as it is, or by one code unit or two. -/
theorem escape_cases (c : Char) :
    (∃ d, Writer.escape c = ['\\', d] ∧ unescape? d = some c.toNat) ∨
    (Writer.escape c = [c] ∧ c ≠ '"' ∧ c ≠ '\\' ∧ 0x20 ≤ c.toNat ∧ c.toNat < 0x7F) ∨
    (Writer.escape c = Writer.escapeUnit c.toNat ∧ c.toNat < 0x10000) ∨
    (Writer.escape c = Writer.escapeUnit (0xD800 + (c.toNat - 0x10000) / 0x400) ++
      Writer.escapeUnit (0xDC00 + (c.toNat - 0x10000) % 0x400) ∧ 0x10000 ≤ c.toNat) := by
  have letter : ∀ d {e : Char}, unescape? d = some e.toNat → (c == e) = true →
      ∃ f, ['\\', d] = ['\\', f] ∧ unescape? f = some c.toNat := by
    intro d e means same
    rw [beq_iff_eq] at same
    subst same
    exact ⟨d, rfl, means⟩
  have control : ∀ d {unit : Nat}, unescape? d = some unit → (c.toNat == unit) = true →
      ∃ f, ['\\', d] = ['\\', f] ∧ unescape? f = some c.toNat := by
    intro d unit means same
    rw [beq_iff_eq] at same
    exact ⟨d, rfl, same ▸ means⟩
  unfold Writer.escape
  split
  · exact .inl (letter '"' rfl ‹_›)
  rename_i quote
  split
  · exact .inl (letter '\\' rfl ‹_›)
  rename_i backslash
  split
  · exact .inl (letter 'n' rfl ‹_›)
  split
  · exact .inl (letter 'r' rfl ‹_›)
  split
  · exact .inl (letter 't' rfl ‹_›)
  split
  · exact .inl (control 'b' rfl ‹_›)
  split
  · exact .inl (control 'f' rfl ‹_›)
  split
  · rename_i visible
    exact .inr (.inl ⟨rfl, by simpa using quote, by simpa using backslash, visible⟩)
  split
  · rename_i small
    exact .inr (.inr (.inl ⟨rfl, small⟩))
  · rename_i large
    exact .inr (.inr (.inr ⟨rfl, Nat.le_of_not_lt large⟩))

/-- An escaped character is read as its code units. -/
theorem units?_escape (c : Char) (text : List Char) :
    units? (Writer.escape c ++ text) = prepend (unitsOf c) (units? text) := by
  rcases escape_cases c with ⟨d, written, means⟩ | ⟨written, quote, backslash, visible, ascii⟩ | ⟨written, small⟩ |
    ⟨written, large⟩
  · rw [written, unitsOf_small (unescape?_small means)]
    exact units?_letter means text
  · rw [written, unitsOf_small (by omega)]
    exact units?_plain quote backslash visible text
  · rw [written, unitsOf_small small]
    exact units?_escapeUnit small text
  · have bounds := toNat_bounds c
    rw [written, unitsOf, if_neg (by omega), List.append_assoc, units?_escapeUnit (by omega),
      units?_escapeUnit (by omega)]
    cases units? text <;> rfl

theorem units?_string (s rest : List Char) :
    units? (s.flatMap Writer.escape ++ '"' :: rest) = some (s.flatMap unitsOf, rest) := by
  induction s with
  | nil => rfl
  | cons c s ih =>
    rw [List.flatMap_cons, List.append_assoc, units?_escape, ih]
    rfl

/-! ## Characters -/

theorem single_toNat (c : Char) : joinUnits.single c.toNat = c := by
  have bounds := toNat_bounds c
  rw [joinUnits.single, if_neg (by omega), Char.ofNat_toNat]

/-- A unit that begins no pair is a character of its own. -/
theorem joinUnits_cons {unit : Nat} (alone : unit < 0xD800 ∨ 0xE000 ≤ unit) (units : List Nat) :
    joinUnits (unit :: units) = joinUnits.single unit :: joinUnits units := by
  cases units with
  | nil => rfl
  | cons next units => rw [joinUnits, if_neg (by omega)]

theorem joinUnits_unitsOf (s : List Char) : joinUnits (s.flatMap unitsOf) = s := by
  induction s with
  | nil => rfl
  | cons c s ih =>
    have bounds := toNat_bounds c
    rw [List.flatMap_cons]
    by_cases small : c.toNat < 0x10000
    · rw [unitsOf_small small, List.singleton_append, joinUnits_cons (by omega), single_toNat, ih]
    · rw [unitsOf, if_neg small, List.cons_append, List.singleton_append, joinUnits, if_pos (by omega), ih]
      have code : 0x10000 + (0xD800 + (c.toNat - 0x10000) / 0x400 - 0xD800) * 0x400 +
          (0xDC00 + (c.toNat - 0x10000) % 0x400 - 0xDC00) = c.toNat := by omega
      rw [code, Char.ofNat_toNat]

/-- A string is read back behind its opening quote. -/
theorem string?_string (s : String) (rest : List Char) :
    string? (s.toList.flatMap Writer.escape ++ '"' :: rest) = some (s, rest) := by
  rw [string?, units?_string]
  simp only [Option.map_some, joinUnits_unitsOf, String.ofList_toList]

end Reader
end TextClassifier.Json
