import TextClassifier.Package
import TextClassifier.Proofs.JsonRoundTrip
import TextClassifier.Proofs.Utf8Texts

/-!
# Files of written values

Written values consist of ASCII characters other than zero (`plain_value`). Their bytes therefore show
neither a byte order mark nor units of more bits, and a value is read back from its file (`read_jsonBytes`).
-/
namespace TextClassifier
open Json Text Utf8

namespace Json.Encoding

/-- Bytes of ASCII characters other than zero show no encoding but UTF-8. -/
theorem detect_plain {bytes : Bytes} (plain : ∀ b ∈ bytes, 0 < b.toNat ∧ b.toNat < 0x80) :
    detect bytes = (.utf8, 0) := by
  have zero : ∀ b ∈ bytes, b ≠ 0 := by
    rintro b listed rfl
    exact absurd (plain 0 listed).1 (by decide)
  have unmarked : (marks.find? fun e => e.1.isPrefixOf bytes) = none := by
    have high : ∀ e ∈ marks, e.1.any (fun b => 0x80 ≤ b.toNat) = true := by decide
    refine List.find?_eq_none.mpr fun e listed begins => ?_
    obtain ⟨b, inside, above⟩ := List.any_eq_true.mp (high e listed)
    have below := (plain b ((List.isPrefixOf_iff_prefix.mp begins).subset inside)).2
    exact absurd (of_decide_eq_true above) (by omega)
  have utf8 : detectUnmarked bytes = .utf8 := by
    unfold detectUnmarked
    split
    · rename_i a b c d rest
      rw [if_neg (zero a (by simp)), if_neg (zero b (by simp))]
    · rename_i a b
      rw [if_neg (zero a (by simp)), if_neg (zero b (by simp))]
    · rfl
  rw [detect, unmarked, utf8]

/-- Bytes of ASCII characters spell no surrogates. -/
theorem replaceSurrogates_plain {bytes : Bytes} (plain : ∀ b ∈ bytes, b.toNat < 0x80) :
    replaceSurrogates bytes = bytes := by
  induction bytes using replaceSurrogates.induct with
  | case1 a b c rest spelled ih =>
    have small := plain a List.mem_cons_self
    rw [spelled.1] at small
    exact absurd small (by decide)
  | case2 a b c rest other ih =>
    rw [replaceSurrogates, if_neg other, ih fun d listed => plain d (List.mem_cons_of_mem _ listed)]
  | case3 bytes short => rw [replaceSurrogates.eq_2 bytes short]

end Json.Encoding

namespace Json.Writer

/-! ## Characters of written values -/

theorem plain_visible {s : List Char} (visible : ∀ c ∈ s, Number.Visible c) : ∀ c ∈ s, Plain c := by
  intro c listed
  obtain ⟨above, below⟩ := visible c listed
  exact ⟨by omega, by omega⟩

theorem plain_hexDigit : ∀ n < 16, Plain (hexDigit n) := by decide

theorem plain_hexDigits (width n : Nat) : ∀ c ∈ hexDigits width n, Plain c := by
  induction width generalizing n with
  | zero => simp [hexDigits]
  | succ width ih =>
    intro c listed
    rcases List.mem_append.mp listed with front | last
    · exact ih _ c front
    · rw [List.mem_singleton.mp last]
      exact plain_hexDigit _ (Nat.mod_lt _ (by decide))

theorem plain_escapeUnit (unit : Nat) : ∀ c ∈ escapeUnit unit, Plain c := by
  simp only [escapeUnit, List.forall_mem_cons]
  exact ⟨by decide, by decide, plain_hexDigits 4 unit⟩

theorem plain_unescape {letter : Char} {unit : Nat} (means : Reader.unescape? letter = some unit) : Plain letter := by
  unfold Reader.unescape? at means
  split at means <;> first | decide | cases means

theorem plain_escape (c : Char) : ∀ d ∈ escape c, Plain d := by
  rcases Reader.escape_cases c with ⟨d, written, means⟩ | ⟨written, -, -, visible, ascii⟩ | ⟨written, -⟩ | ⟨written, -⟩
  · rw [written]
    simp only [List.forall_mem_cons]
    exact ⟨by decide, plain_unescape means, by simp⟩
  · rw [written, List.forall_mem_singleton]
    exact ⟨by omega, by omega⟩
  · rw [written]
    exact plain_escapeUnit _
  · rw [written]
    exact List.forall_mem_append.mpr ⟨plain_escapeUnit _, plain_escapeUnit _⟩

theorem plain_string (s : String) : ∀ c ∈ string s, Plain c := by
  intro c listed
  simp only [string, List.cons_append, List.mem_cons, List.mem_append, List.mem_flatMap, List.not_mem_nil,
    or_false] at listed
  rcases listed with rfl | ⟨d, -, escaped⟩ | rfl
  · decide
  · exact plain_escape d c escaped
  · decide

theorem plain_newline (depth : Nat) : ∀ c ∈ newline depth, Plain c := by
  intro c listed
  rcases List.mem_cons.mp listed with rfl | blank
  · decide
  · rw [List.eq_of_mem_replicate blank]
    decide

mutual

/-- A value is written in ASCII, without zeros. -/
theorem plain_value (depth : Nat) (v : Value) : ∀ c ∈ value depth v, Plain c := by
  match v with
  | .null => exact Number.forall_of_all (s := "null".toList) (by decide)
  | .bool true => exact Number.forall_of_all (s := "true".toList) (by decide)
  | .bool false => exact Number.forall_of_all (s := "false".toList) (by decide)
  | .int n => exact plain_visible fun c => Number.visible_intText
  | .float x => exact plain_visible (Reader.visible_number x)
  | .str s => exact plain_string s
  | .array [] => exact Number.forall_of_all (s := ['[', ']']) (by decide)
  | .array (v :: vs) =>
    simp only [value, List.forall_mem_append, List.forall_mem_cons]
    exact ⟨⟨⟨⟨⟨by decide, plain_newline _⟩, plain_value _ v⟩, plain_items _ vs⟩, plain_newline _⟩, by decide,
      List.forall_mem_nil _⟩
  | .object [] => exact Number.forall_of_all (s := ['\x7b', '\x7d']) (by decide)
  | .object ((k, v) :: ms) =>
    have colon : Plain ':' ∧ Plain ' ' ∧ ∀ c ∈ [], Plain c := ⟨by decide, by decide, List.forall_mem_nil _⟩
    simp only [value, List.forall_mem_append, List.forall_mem_cons]
    exact ⟨⟨⟨⟨⟨⟨⟨by decide, plain_newline _⟩, plain_string k⟩, colon⟩, plain_value _ v⟩, plain_members _ ms⟩,
      plain_newline _⟩, by decide, List.forall_mem_nil _⟩

theorem plain_items (depth : Nat) (vs : List Value) : ∀ c ∈ items depth vs, Plain c := by
  match vs with
  | [] => simp [items]
  | v :: vs =>
    simp only [items, List.forall_mem_append, List.forall_mem_cons]
    exact ⟨⟨⟨by decide, plain_newline _⟩, plain_value _ v⟩, plain_items _ vs⟩

theorem plain_members (depth : Nat) (ms : List (String × Value)) : ∀ c ∈ members depth ms, Plain c := by
  match ms with
  | [] => simp [members]
  | (k, v) :: ms =>
    have colon : Plain ':' ∧ Plain ' ' ∧ ∀ c ∈ [], Plain c := ⟨by decide, by decide, List.forall_mem_nil _⟩
    simp only [members, List.forall_mem_append, List.forall_mem_cons]
    exact ⟨⟨⟨⟨⟨by decide, plain_newline _⟩, plain_string k⟩, colon⟩, plain_value _ v⟩, plain_members _ ms⟩

end

end Json.Writer

/-! ## Files -/

theorem Json.Encoding.decode_encode {s : List Char} (plain : ∀ c ∈ s, Plain c) :
    decode (Utf8.encode s) = .ok s := by
  have bytes : ∀ b ∈ Utf8.encode s, 0 < b.toNat ∧ b.toNat < 0x80 := by
    intro b listed
    obtain ⟨c, member, encoded⟩ := List.mem_flatMap.mp listed
    rw [Utf8.encodeChar_plain (plain c member), List.mem_singleton] at encoded
    rw [encoded, Utf8.toNat_toUInt8_plain (plain c member)]
    exact plain c member
  rw [decode, detect_plain bytes]
  dsimp only
  rw [List.drop_zero, replaceSurrogates_plain fun b listed => (bytes b listed).2]
  exact Utf8.decodeFrom_encode 0 s

/-- A value that a text can hold is read back from its file. -/
theorem Package.read_jsonBytes {v : Value} (writable : v.Writable) : Encoding.read (jsonBytes v) = .ok v := by
  have decoded : Encoding.decode (jsonBytes v) = .ok (Writer.write v) :=
    Encoding.decode_encode (Writer.plain_value 0 v)
  rw [Encoding.read, decoded]
  dsimp only
  rw [Reader.read_write writable]

end TextClassifier
