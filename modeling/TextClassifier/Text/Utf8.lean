import TextClassifier.Text.Malformed

/-!
# UTF-8

Strict decoding, one byte at a time: a lead byte says how many bytes must follow and bounds the
first of them, so that no character has two spellings and no surrogate has any. A failure reports
the lead byte together with the bytes that continued it, the longest beginning of a character.
-/
namespace TextClassifier.Text.Utf8

/-- A character that has begun: what is read of it and what must follow. -/
structure Open where
  /-- The bits read so far. -/
  value : Nat
  /-- The number of bytes that must still follow. -/
  missing : Nat
  /-- The least byte that may come next. -/
  least : UInt8
  /-- The greatest byte that may come next. -/
  greatest : UInt8
  /-- The lead byte. -/
  lead : UInt8
  /-- The number of bytes read. -/
  taken : Nat
  deriving DecidableEq, Repr

/-- The character that a lead byte above the ASCII range begins. -/
def begin? (b : UInt8) : Option Open :=
  if b < 0xC2 then none
  else if b < 0xE0 then some ⟨b.toNat - 0xC0, 1, 0x80, 0xBF, b, 1⟩
  else if b < 0xF0 then
    some ⟨b.toNat - 0xE0, 2, if b = 0xE0 then 0xA0 else 0x80, if b = 0xED then 0x9F else 0xBF, b, 1⟩
  else if b < 0xF5 then
    some ⟨b.toNat - 0xF0, 3, if b = 0xF0 then 0x90 else 0x80, if b = 0xF4 then 0x8F else 0xBF, b, 1⟩
  else none

/-- The report on a character that ends before its last byte; `position` is behind what was read. -/
def Open.malformed (o : Open) (position : Nat) (defect : Defect) : Malformed :=
  ⟨"utf-8", o.lead, position - o.taken, o.taken, defect⟩

/-- Decodes from `position` on, inside the character that is open, if one is. -/
def decodeFrom (position : Nat) : Option Open → Bytes → Except Malformed (List Char)
  | none, [] => .ok []
  | some o, [] => .error (o.malformed position .unexpectedEnd)
  | none, b :: rest =>
    if b < 0x80 then
      (decodeFrom (position + 1) none rest).map (Char.ofNat b.toNat :: ·)
    else match begin? b with
      | some o => decodeFrom (position + 1) (some o) rest
      | none => .error ⟨"utf-8", b, position, 1, .invalidStart⟩
  | some o, b :: rest =>
    if o.least ≤ b ∧ b ≤ o.greatest then
      let value := o.value * 64 + (b.toNat - 0x80)
      if o.missing = 1 then
        (decodeFrom (position + 1) none rest).map (Char.ofNat value :: ·)
      else
        decodeFrom (position + 1) (some ⟨value, o.missing - 1, 0x80, 0xBF, o.lead, o.taken + 1⟩) rest
    else .error (o.malformed position .invalidContinuation)

/-- The characters of a byte sequence, or the first bytes that are none. -/
def decode (bytes : Bytes) : Except Malformed (List Char) := decodeFrom 0 none bytes

/-- The bytes of one character. -/
def encodeChar (c : Char) : Bytes :=
  let n := c.toNat
  if n < 0x80 then [n.toUInt8]
  else if n < 0x800 then [(0xC0 + n / 64).toUInt8, (0x80 + n % 64).toUInt8]
  else if n < 0x10000 then
    [(0xE0 + n / 4096).toUInt8, (0x80 + n / 64 % 64).toUInt8, (0x80 + n % 64).toUInt8]
  else
    [(0xF0 + n / 262144).toUInt8, (0x80 + n / 4096 % 64).toUInt8, (0x80 + n / 64 % 64).toUInt8,
      (0x80 + n % 64).toUInt8]

def encode (s : List Char) : Bytes := s.flatMap encodeChar

@[simp] theorem encode_cons (c : Char) (s : List Char) :
    encode (c :: s) = encodeChar c ++ encode s := by simp [encode]

@[simp] theorem encode_append (s t : List Char) : encode (s ++ t) = encode s ++ encode t := by
  simp [encode]

/-! ## Plain characters -/

/-- An ASCII character other than zero. -/
def Plain (c : Char) : Prop := 0 < c.toNat ∧ c.toNat < 0x80

instance (c : Char) : Decidable (Plain c) := inferInstanceAs (Decidable (_ ∧ _))

theorem encodeChar_plain {c : Char} (plain : Plain c) : encodeChar c = [c.toNat.toUInt8] := if_pos plain.2

theorem toNat_toUInt8_plain {c : Char} (plain : Plain c) : c.toNat.toUInt8.toNat = c.toNat := by
  have small := plain.2
  rw [Nat.toUInt8, UInt8.toNat_ofNat']
  omega

end TextClassifier.Text.Utf8
