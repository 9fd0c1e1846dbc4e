import TextClassifier.Fault
import TextClassifier.Json.Reader
import TextClassifier.Text.Utf8

/-!
# The encoding of JSON files

A file without a byte order mark tells its encoding by where its first zero bytes are, since JSON
begins with two ASCII characters. UTF-8 is assumed unless the bytes show 16 or 32 bit units.
-/
namespace TextClassifier.Json.Encoding
open TextClassifier Text

inductive Scheme where
  | utf8
  | utf16 (bigEndian : Bool)
  | utf32 (bigEndian : Bool)
  deriving DecidableEq, Repr

/-- The byte order marks, with the encodings that they stand for. Longer marks come first. -/
def marks : List (Bytes × Scheme) :=
  [([0x00, 0x00, 0xFE, 0xFF], .utf32 true), ([0xFF, 0xFE, 0x00, 0x00], .utf32 false), ([0xEF, 0xBB, 0xBF], .utf8),
    ([0xFE, 0xFF], .utf16 true), ([0xFF, 0xFE], .utf16 false)]

/-- The encoding of a file without a byte order mark. -/
def detectUnmarked (bytes : Bytes) : Scheme :=
  match bytes with
  | a :: b :: c :: d :: _ =>
    if a = 0 then (if b = 0 then .utf32 true else .utf16 true)
    else if b = 0 then (if c = 0 ∧ d = 0 then .utf32 false else .utf16 false)
    else .utf8
  | [a, b] => if a = 0 then .utf16 true else if b = 0 then .utf16 false else .utf8
  | _ => .utf8

/-- The encoding of a file, and the length of the byte order mark that it begins with. -/
def detect (bytes : Bytes) : Scheme × Nat :=
  match marks.find? fun (mark, _) => mark.isPrefixOf bytes with
  | some (mark, scheme) => (scheme, mark.length)
  | none => (detectUnmarked bytes, 0)

/-- The number that bytes spell, the first being the most significant. -/
def bigEndianValue (bytes : Bytes) : Nat := bytes.foldl (fun n b => n * 256 + b.toNat) 0

/-- The name of an encoding by the bits of a unit and the order of its bytes. -/
def unitName (bits : String) (bigEndian : Bool) : String :=
  "utf-" ++ bits ++ (if bigEndian then "-be" else "-le")

/-- The 16-bit units of bytes that begin at an offset. -/
def units16 (bigEndian : Bool) (position : Nat) : Bytes → Except Malformed (List Nat)
  | [] => .ok []
  | [a] => .error ⟨unitName "16" bigEndian, a, position, 1, .truncated⟩
  | a :: b :: rest =>
    (units16 bigEndian (position + 2) rest).map
      (bigEndianValue (if bigEndian then [a, b] else [b, a]) :: ·)

/-- The 32-bit units of bytes that begin at an offset. -/
def units32 (bigEndian : Bool) (position : Nat) : Bytes → Except Malformed (List Nat)
  | [] => .ok []
  | a :: b :: c :: d :: rest =>
    let unit := bigEndianValue (if bigEndian then [a, b, c, d] else [d, c, b, a])
    if 0x10FFFF < unit then .error ⟨unitName "32" bigEndian, a, position, 4, .aboveRange⟩
    else (units32 bigEndian (position + 4) rest).map (unit :: ·)
  | a :: rest => .error ⟨unitName "32" bigEndian, a, position, rest.length + 1, .truncated⟩

/-- Bytes with a replacement character, which is as long, for every surrogate that UTF-8 would spell if it were a
character. -/
def replaceSurrogates : Bytes → Bytes
  | a :: b :: c :: rest =>
    if a = 0xED ∧ 0xA0 ≤ b ∧ b < 0xC0 ∧ 0x80 ≤ c ∧ c < 0xC0 then
      0xEF :: 0xBF :: 0xBD :: replaceSurrogates rest
    else a :: replaceSurrogates (b :: c :: rest)
  | bytes => bytes

/-- The text of a JSON file, without a byte order mark. Surrogates may stand in it by themselves. -/
def decode (bytes : Bytes) : Except Malformed (List Char) :=
  match detect bytes with
  | (.utf8, mark) => Utf8.decode (replaceSurrogates (bytes.drop mark))
  | (.utf16 bigEndian, mark) =>
    (units16 bigEndian mark (bytes.drop mark)).map Reader.joinUnits
  | (.utf32 bigEndian, mark) =>
    (units32 bigEndian mark (bytes.drop mark)).map (·.map Reader.joinUnits.single)

def read (bytes : Bytes) : Except Fault Value :=
  match decode bytes with
  | .error e => .error (.undecodable e)
  | .ok text =>
    match Reader.read text with
    | .ok v => .ok v
    | .error .malformed => .error .notJson
    | .error .tooManyDigits => .error .unusable

end TextClassifier.Json.Encoding
