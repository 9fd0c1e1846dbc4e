import TextClassifier.Attempt
import TextClassifier.Text.Utf8

/-!
# Bytes of characters and bytes of texts

The byte sequences that stand for a character are given by a grammar (`Spells`), apart from the decoder and
from the encoder. Both agree with it, so that bytes are decoded to a text exactly if they are the bytes of
the text (`decode_eq_ok_iff`).
-/
namespace TextClassifier.Text.Utf8

/-! ## The bytes of a character -/

/-- A byte behind the lead byte of a character. -/
def Continues (b : UInt8) : Prop := 0x80 ≤ b.toNat ∧ b.toNat ≤ 0xBF

/-- The bytes of a character and its number: the fewest that hold it, and none for a surrogate. -/
inductive Spells : Bytes → Nat → Prop
  | one {a : UInt8} (small : a.toNat < 0x80) : Spells [a] a.toNat
  | two {a b : UInt8} (low : 0xC2 ≤ a.toNat) (high : a.toNat < 0xE0) (second : Continues b) :
      Spells [a, b] ((a.toNat - 0xC0) * 64 + (b.toNat - 0x80))
  | three {a b c : UInt8} (low : 0xE0 ≤ a.toNat) (high : a.toNat < 0xF0) (second : Continues b)
      (third : Continues c) (least : a.toNat = 0xE0 → 0xA0 ≤ b.toNat) (greatest : a.toNat = 0xED → b.toNat ≤ 0x9F) :
      Spells [a, b, c] (((a.toNat - 0xE0) * 64 + (b.toNat - 0x80)) * 64 + (c.toNat - 0x80))
  | four {a b c d : UInt8} (low : 0xF0 ≤ a.toNat) (high : a.toNat < 0xF5) (second : Continues b)
      (third : Continues c) (fourth : Continues d) (least : a.toNat = 0xF0 → 0x90 ≤ b.toNat)
      (greatest : a.toNat = 0xF4 → b.toNat ≤ 0x8F) :
      Spells [a, b, c, d]
        ((((a.toNat - 0xF0) * 64 + (b.toNat - 0x80)) * 64 + (c.toNat - 0x80)) * 64 + (d.toNat - 0x80))

variable {position : Nat} {o : Open} {a b c d : UInt8} {bytes rest spelling : Bytes} {text : List Char} {n m : Nat}

theorem Spells.of_eq (spelled : Spells spelling n) (same : n = m) : Spells spelling m := same ▸ spelled

theorem toNat_toUInt8 (small : n < 0x100) : n.toUInt8.toNat = n := by
  rw [Nat.toUInt8, UInt8.toNat_ofNat']
  omega

theorem toUInt8_eq (same : n = b.toNat) : n.toUInt8 = b := by
  subst same
  exact UInt8.ofNat_toNat

theorem continues_toUInt8 (n : Nat) : Continues (0x80 + n % 64).toUInt8 := by
  rw [Continues, toNat_toUInt8 (by omega)]
  omega

/-- The bytes of a character spell its code point. -/
theorem spells_encodeChar (c : Char) : Spells (encodeChar c) c.toNat := by
  have valid : c.toNat < 0xD800 ∨ 0xDFFF < c.toNat ∧ c.toNat < 0x110000 := c.valid
  have tail : ∀ n, (0x80 + n % 64).toUInt8.toNat = 0x80 + n % 64 := fun n => toNat_toUInt8 (by omega)
  have last := continues_toUInt8 c.toNat
  simp only [encodeChar]
  split
  · have lead : c.toNat.toUInt8.toNat = c.toNat := toNat_toUInt8 (by omega)
    exact (Spells.one (by omega)).of_eq lead
  split
  · have lead : (0xC0 + c.toNat / 64).toUInt8.toNat = 0xC0 + c.toNat / 64 := toNat_toUInt8 (by omega)
    refine (Spells.two (by omega) (by omega) last).of_eq ?_
    rw [lead, tail]
    omega
  have third := continues_toUInt8 (c.toNat / 64)
  split
  · have lead : (0xE0 + c.toNat / 4096).toUInt8.toNat = 0xE0 + c.toNat / 4096 := toNat_toUInt8 (by omega)
    have second := tail (c.toNat / 64)
    refine (Spells.three (by omega) (by omega) third last (by omega) (by omega)).of_eq ?_
    rw [lead, tail, tail]
    omega
  · have lead : (0xF0 + c.toNat / 262144).toUInt8.toNat = 0xF0 + c.toNat / 262144 := toNat_toUInt8 (by omega)
    have second := tail (c.toNat / 4096)
    refine (Spells.four (by omega) (by omega) (continues_toUInt8 (c.toNat / 4096)) third last (by omega)
      (by omega)).of_eq ?_
    rw [lead, tail, tail, tail]
    omega

/-- Bytes that spell a code point are those of its character. -/
theorem encodeChar_of_spells (spelled : Spells spelling n) : encodeChar (Char.ofNat n) = spelling := by
  have number : n < 0xD800 ∨ 0xDFFF < n ∧ n < 0x110000 → (Char.ofNat n).toNat = n := by
    intro valid
    rw [Char.ofNat, dif_pos valid]
    rfl
  have tail : ∀ {b : UInt8} {n : Nat}, Continues b → n % 64 = b.toNat - 0x80 → (0x80 + n % 64).toUInt8 = b := by
    intro b n continued same
    have := continued.1
    exact toUInt8_eq (by omega)
  cases spelled with
  | @one a small =>
    simp only [encodeChar, number (.inl (by omega)), if_pos small]
    rw [toUInt8_eq rfl]
  | @two a b low high second =>
    have bounds := second
    unfold Continues at bounds
    simp only [encodeChar]
    rw [number (by omega), if_neg (by omega), if_pos (by omega), tail second (by omega), toUInt8_eq (b := a) (by omega)]
  | @three a b c low high second third least greatest =>
    have bounds := And.intro second third
    unfold Continues at bounds
    simp only [encodeChar]
    rw [number (by omega), if_neg (by omega), if_neg (by omega), if_pos (by omega), tail second (by omega),
      tail third (by omega), toUInt8_eq (b := a) (by omega)]
  | @four a b c d low high second third fourth least greatest =>
    have bounds := And.intro second (And.intro third fourth)
    unfold Continues at bounds
    simp only [encodeChar]
    rw [number (by omega), if_neg (by omega), if_neg (by omega), if_neg (by omega), tail second (by omega),
      tail third (by omega), tail fourth (by omega), toUInt8_eq (b := a) (by omega)]

/-- An ASCII byte stands for itself and for no other character. -/
theorem Spells.ascii (spelled : Spells spelling n) (listed : b ∈ spelling) (small : b.toNat < 0x80) :
    spelling = [b] ∧ n = b.toNat := by
  cases spelled with
  | one _ =>
    rw [List.mem_singleton.mp listed]
    exact ⟨rfl, rfl⟩
  | two low high second =>
    have bounds := second.1
    simp only [List.mem_cons, List.not_mem_nil, or_false] at listed
    rcases listed with rfl | rfl <;> omega
  | three low high second third =>
    have bounds := And.intro second.1 third.1
    simp only [List.mem_cons, List.not_mem_nil, or_false] at listed
    rcases listed with rfl | rfl | rfl <;> omega
  | four low high second third fourth =>
    have bounds := And.intro second.1 (And.intro third.1 fourth.1)
    simp only [List.mem_cons, List.not_mem_nil, or_false] at listed
    rcases listed with rfl | rfl | rfl | rfl <;> omega

theorem encodeChar_newline : encodeChar '\n' = [0x0A] := by decide

theorem newline_of_mem {c : Char} (listed : 0x0A ∈ encodeChar c) : c = '\n' := by
  have number := ((spells_encodeChar c).ascii listed (by decide)).2
  rw [← Char.ofNat_toNat c, number]
  rfl

/-! ## Decoding step by step -/

/-- A byte that may come next in an open character. -/
def Open.Takes (o : Open) (b : UInt8) : Prop := o.least.toNat ≤ b.toNat ∧ b.toNat ≤ o.greatest.toNat

/-- An open character with one more of its bytes. -/
def Open.next (o : Open) (b : UInt8) : Open :=
  ⟨o.value * 64 + (b.toNat - 0x80), o.missing - 1, 0x80, 0xBF, o.lead, o.taken + 1⟩

theorem Open.takes_next_iff : (o.next a).Takes b ↔ Continues b := Iff.rfl

theorem decodeFrom_last (takes : o.Takes b) (last : o.missing = 1) (rest : Bytes) :
    decodeFrom position (some o) (b :: rest) =
      (decodeFrom (position + 1) none rest).map (Char.ofNat (o.next b).value :: ·) := by
  rw [decodeFrom]
  exact (if_pos takes).trans (if_pos last)

theorem decodeFrom_more (takes : o.Takes b) (more : o.missing ≠ 1) (rest : Bytes) :
    decodeFrom position (some o) (b :: rest) = decodeFrom (position + 1) (some (o.next b)) rest := by
  rw [decodeFrom]
  exact (if_pos takes).trans (if_neg more)

/-- A character that is open has a next byte if it is decoded. -/
theorem exists_next (decoded : decodeFrom position (some o) bytes = .ok text) :
    ∃ b rest, bytes = b :: rest ∧ o.Takes b := by
  cases bytes with
  | nil => cases decoded
  | cons b rest =>
    refine ⟨b, rest, rfl, ?_⟩
    rw [decodeFrom] at decoded
    split at decoded
    · rename_i takes
      exact takes
    · cases decoded

/-- What lead bytes begin, told by their numbers. -/
theorem begin?_eq (a : UInt8) : begin? a =
    if a.toNat < 0xC2 then none
    else if a.toNat < 0xE0 then some ⟨a.toNat - 0xC0, 1, 0x80, 0xBF, a, 1⟩
    else if a.toNat < 0xF0 then
      some ⟨a.toNat - 0xE0, 2, if a = 0xE0 then 0xA0 else 0x80, if a = 0xED then 0x9F else 0xBF, a, 1⟩
    else if a.toNat < 0xF5 then
      some ⟨a.toNat - 0xF0, 3, if a = 0xF0 then 0x90 else 0x80, if a = 0xF4 then 0x8F else 0xBF, a, 1⟩
    else none := rfl

theorem takes_three_iff {k j : Nat} :
    Open.Takes ⟨n, k, if a = 0xE0 then 0xA0 else 0x80, if a = 0xED then 0x9F else 0xBF, a, j⟩ b ↔
      Continues b ∧ (a.toNat = 0xE0 → 0xA0 ≤ b.toNat) ∧ (a.toNat = 0xED → b.toNat ≤ 0x9F) := by
  have first : a = 0xE0 ↔ a.toNat = 0xE0 := UInt8.toNat_inj.symm
  have last : a = 0xED ↔ a.toNat = 0xED := UInt8.toNat_inj.symm
  rw [Open.Takes, Continues, ← first, ← last]
  by_cases least : a = 0xE0 <;> by_cases greatest : a = 0xED <;> simp [least, greatest] <;> omega

theorem takes_four_iff {k j : Nat} :
    Open.Takes ⟨n, k, if a = 0xF0 then 0x90 else 0x80, if a = 0xF4 then 0x8F else 0xBF, a, j⟩ b ↔
      Continues b ∧ (a.toNat = 0xF0 → 0x90 ≤ b.toNat) ∧ (a.toNat = 0xF4 → b.toNat ≤ 0x8F) := by
  have first : a = 0xF0 ↔ a.toNat = 0xF0 := UInt8.toNat_inj.symm
  have last : a = 0xF4 ↔ a.toNat = 0xF4 := UInt8.toNat_inj.symm
  rw [Open.Takes, Continues, ← first, ← last]
  by_cases least : a = 0xF0 <;> by_cases greatest : a = 0xF4 <;> simp [least, greatest] <;> omega

theorem decodeFrom_ascii (small : a.toNat < 0x80) (rest : Bytes) :
    decodeFrom position none (a :: rest) = (decodeFrom (position + 1) none rest).map (Char.ofNat a.toNat :: ·) := by
  rw [decodeFrom]
  exact if_pos (UInt8.lt_iff_toNat_lt.mpr small)

theorem decodeFrom_begin (above : 0x80 ≤ a.toNat) (begun : begin? a = some o) (rest : Bytes) :
    decodeFrom position none (a :: rest) = decodeFrom (position + 1) (some o) rest := by
  have other : ¬ a < 0x80 := fun small => absurd (UInt8.lt_iff_toNat_lt.mp small) (Nat.not_lt.mpr above)
  rw [decodeFrom, if_neg other, begun]

/-- A character is decoded from its bytes, whatever stands behind them. -/
theorem decodeFrom_spelling (spelled : Spells spelling n) (position : Nat) (rest : Bytes) :
    decodeFrom position none (spelling ++ rest) =
      (decodeFrom (position + spelling.length) none rest).map (Char.ofNat n :: ·) := by
  cases spelled with
  | one small => exact decodeFrom_ascii small rest
  | @two a b low high second =>
    have begun := begin?_eq a
    rw [if_neg (by omega), if_pos (by omega)] at begun
    have takes : Open.Takes ⟨a.toNat - 0xC0, 1, 0x80, 0xBF, a, 1⟩ b := second
    rw [List.cons_append, decodeFrom_begin (by omega) begun, List.cons_append, decodeFrom_last takes rfl]
    rfl
  | @three a b c low high second third least greatest =>
    have begun := begin?_eq a
    rw [if_neg (by omega), if_neg (by omega), if_pos (by omega)] at begun
    have takes := (takes_three_iff (n := a.toNat - 0xE0) (k := 2) (j := 1)).mpr ⟨second, least, greatest⟩
    rw [List.cons_append, decodeFrom_begin (by omega) begun, List.cons_append,
      decodeFrom_more takes (show 2 ≠ 1 by decide), List.cons_append,
      decodeFrom_last (Open.takes_next_iff.mpr third) rfl]
    rfl
  | @four a b c d low high second third fourth least greatest =>
    have begun := begin?_eq a
    rw [if_neg (by omega), if_neg (by omega), if_neg (by omega), if_pos (by omega)] at begun
    have takes := (takes_four_iff (n := a.toNat - 0xF0) (k := 3) (j := 1)).mpr ⟨second, least, greatest⟩
    rw [List.cons_append, decodeFrom_begin (by omega) begun, List.cons_append,
      decodeFrom_more takes (show 3 ≠ 1 by decide), List.cons_append,
      decodeFrom_more (Open.takes_next_iff.mpr third), List.cons_append,
      decodeFrom_last (Open.takes_next_iff.mpr fourth) rfl]
    · rfl
    · exact (show 2 ≠ 1 by decide)

/-- Bytes that are decoded begin with those of a character. -/
theorem exists_spelling (decoded : decodeFrom position none (a :: rest) = .ok text) :
    ∃ spelling n later, Spells spelling n ∧ a :: rest = spelling ++ later := by
  by_cases small : a.toNat < 0x80
  · exact ⟨[a], _, rest, .one small, rfl⟩
  cases begun : begin? a with
  | none =>
    have other : ¬ a < 0x80 := fun below => small (UInt8.lt_iff_toNat_lt.mp below)
    rw [decodeFrom, if_neg other, begun] at decoded
    cases decoded
  | some o =>
    rw [decodeFrom_begin (by omega) begun] at decoded
    obtain ⟨b, rest, rfl, second⟩ := exists_next decoded
    rw [begin?_eq] at begun
    split at begun
    · cases begun
    split at begun
    · obtain rfl := Option.some.inj begun
      exact ⟨[a, b], _, rest, .two (by omega) (by omega) second, rfl⟩
    split at begun
    · obtain rfl := Option.some.inj begun
      rw [decodeFrom_more second (show 2 ≠ 1 by decide)] at decoded
      obtain ⟨c, rest, rfl, third⟩ := exists_next decoded
      obtain ⟨second, least, greatest⟩ := takes_three_iff.mp second
      exact ⟨[a, b, c], _, rest, .three (by omega) (by omega) second third least greatest, rfl⟩
    split at begun
    · obtain rfl := Option.some.inj begun
      rw [decodeFrom_more second (show 3 ≠ 1 by decide)] at decoded
      obtain ⟨c, rest, rfl, third⟩ := exists_next decoded
      rw [decodeFrom_more third (show 2 ≠ 1 by decide)] at decoded
      obtain ⟨d, rest, rfl, fourth⟩ := exists_next decoded
      obtain ⟨second, least, greatest⟩ := takes_four_iff.mp second
      exact ⟨[a, b, c, d], _, rest, .four (by omega) (by omega) second third fourth least greatest, rfl⟩
    · cases begun

/-! ## Texts -/

theorem decodeFrom_encode (position : Nat) (text : List Char) : decodeFrom position none (encode text) = .ok text := by
  induction text generalizing position with
  | nil => rfl
  | cons c text ih =>
    rw [encode_cons, decodeFrom_spelling (spells_encodeChar c), ih, Char.ofNat_toNat]
    rfl

/-- A text that is decoded has the bytes that it was decoded from. -/
theorem encode_of_decodeFrom (decoded : decodeFrom position none bytes = .ok text) : encode text = bytes := by
  generalize size : bytes.length = k
  induction k using Nat.strongRecOn generalizing position bytes text with
  | ind k ih =>
    cases bytes with
    | nil =>
      cases decoded
      rfl
    | cons a rest =>
      obtain ⟨spelling, n, later, spelled, split⟩ := exists_spelling decoded
      have nonempty : 0 < spelling.length := by cases spelled <;> simp
      rw [split, decodeFrom_spelling spelled, map_ok_iff] at decoded
      obtain ⟨tail, decoded, rfl⟩ := decoded
      have shorter : later.length < k := by
        have lengths := congrArg List.length split
        rw [List.length_append] at lengths
        omega
      rw [encode_cons, encodeChar_of_spells spelled, ih _ shorter decoded rfl, split]

/-- Bytes are decoded to a text exactly if they are its bytes. -/
theorem decode_eq_ok_iff : decode bytes = .ok text ↔ bytes = encode text := by
  constructor
  · exact fun decoded => (encode_of_decodeFrom decoded).symm
  · rintro rfl
    exact decodeFrom_encode 0 text

end TextClassifier.Text.Utf8
