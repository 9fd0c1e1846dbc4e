import TextClassifier.Proofs.Declarations
import TextClassifier.Proofs.GraphDescriptions
import TextClassifier.Proofs.Traversals

/-!
# The normal form of declarations

A declaration may be spelled in many ways: numbers may be texts or have fractions, a text or an object may stand for
a list, and the signature and the quantization may be left out. Which values declare a tensor, and which tensor, is
said here without the way in which they are read (`Spec.Declares`); that both agree is `Spec.ofValue_ok_iff`. Where an
integer is wanted, numbers lose their fraction towards zero (`Number.Dyadic.truncate_eq`).

Declarations are written in one of these spellings, the normal one (`Spec.IsNormal`), and the values in normal form
are exactly those that reading and writing leave as they are (`Spec.isNormal_iff`). However often an accepted value
is written again and read again, it declares the same tensor (`Spec.ofValue_settles`).
-/
namespace TextClassifier

/-! ## Numbers without their fraction -/

namespace Number

/-- The rational number that a fraction is. -/
def Dyadic.value (d : Dyadic) : ℚ :=
  if d.negative then -(d.mantissa * 2 ^ d.exponent) else d.mantissa * 2 ^ d.exponent

/-- A rational number without its fraction. -/
def whole (q : ℚ) : Int := if 0 ≤ q then ⌊q⌋ else ⌈q⌉

/-- Shifting cuts a fraction off downwards. -/
theorem shift_eq_floor (n : Nat) (k : Int) : (shift n k : Int) = ⌊(n * 2 ^ k : ℚ)⌋ := by
  rw [shift]
  split
  · rename_i up
    obtain ⟨e, rfl⟩ := Int.eq_ofNat_of_zero_le up
    have natural : (n * 2 ^ (e : Int) : ℚ) = ((n * 2 ^ e : Nat) : ℚ) := by simp
    rw [natural, Int.floor_natCast]
    rfl
  · rename_i down
    obtain ⟨e, exponent⟩ := Int.eq_ofNat_of_zero_le (show 0 ≤ -k by omega)
    obtain rfl : k = -e := by omega
    have quotient : (n * 2 ^ (-(e : Int)) : ℚ) = (n : ℚ) / ((2 ^ e : Nat) : ℚ) := by
      rw [zpow_neg, zpow_natCast, div_eq_mul_inv]
      norm_num
    rw [quotient, Rat.floor_natCast_div_natCast, Int.neg_neg, Int.toNat_natCast]
    rfl

theorem Dyadic.truncate_eq (d : Dyadic) : d.truncate = whole d.value := by
  obtain ⟨negative, m, e⟩ := d
  have size : (0 : ℚ) ≤ m * 2 ^ e := by positivity
  cases negative with
  | false =>
    show (shift m e : Int) = whole (m * 2 ^ e)
    rw [whole, if_pos size]
    exact shift_eq_floor m e
  | true =>
    show -(shift m e : Int) = whole (-(m * 2 ^ e))
    rw [shift_eq_floor, whole]
    split
    · rename_i up
      have zero : (m * 2 ^ e : ℚ) = 0 := by linarith
      simp [zero]
    · exact Int.ceil_neg.symm

end Number

/-! ## What values stand for -/

namespace Json.Value
variable {v w : Value} {key : String} {members : List (String × Value)} {items : List Value} {n : Int} {x : Float}

/-- The integer that a value stands for: numbers lose their fraction, and texts spell integers. -/
inductive StandsFor : Value → Int → Prop
  | int (n : Int) : StandsFor (.int n) n
  | yes : StandsFor (.bool true) 1
  | no : StandsFor (.bool false) 0
  | float {x : Float} {d : Number.Dyadic} (finite : Number.Dyadic.ofFloat? x = some d) :
    StandsFor (.float x) (Number.whole d.value)
  | text {s : String} {n : Int} (spelled : Number.readInt? s.toList = some n) : StandsFor (.str s) n

/-- The number that a value measures: integers are rounded unless they are too large, and texts spell numbers. -/
inductive Measures : Value → Float → Prop
  | float (x : Float) : Measures (.float x) x
  | yes : Measures (.bool true) 1
  | no : Measures (.bool false) 0
  | int {n : Int} (finite : (Number.ofInt .binary64 n).isInf = false) :
    Measures (.int n) (Number.ofInt .binary64 n)
  | text {s : String} {x : Float} (spelled : Number.readFloat? s.toList = some x) : Measures (.str s) x

/-- The values that a value enumerates: the items of an array, the characters of a text, the keys of an object. -/
inductive Enumerates : Value → List Value → Prop
  | array (items : List Value) : Enumerates (.array items) items
  | text (s : String) : Enumerates (.str s) (s.toList.map fun c => .str (String.singleton c))
  | object (members : List (String × Value)) : Enumerates (.object members) (members.map fun m => .str m.1)

/-- An object holds a value under a key. -/
def Holds (v : Value) (key : String) (w : Value) : Prop :=
  ∃ members, v = .object members ∧ lookup key members = some w

/-- Under a key there is nothing, or null. -/
def Lacks (v : Value) (key : String) : Prop := ∀ w, v.Holds key w → w = .null

/-- A value is converted to the integer that it stands for. -/
theorem toInt_ok_iff : v.toInt = .ok n ↔ StandsFor v n := by
  constructor
  · intro read
    cases v with
    | int =>
      cases read
      exact .int _
    | bool b =>
      cases b with
      | true =>
        cases read
        exact .yes
      | false =>
        cases read
        exact .no
    | float y =>
      rw [toInt] at read
      split at read
      · rename_i d finite
        cases read
        rw [d.truncate_eq]
        exact .float finite
      · cases read
    | str s =>
      rw [toInt] at read
      split at read
      · rename_i spelled
        cases read
        exact .text spelled
      · cases read
    | _ => cases read
  · intro stands
    cases stands with
    | int | yes | no => rfl
    | @float x d finite =>
      rw [toInt, finite, ← d.truncate_eq]
    | text spelled => rw [toInt, spelled]

/-- A value is converted to the number that it measures. -/
theorem toFloat_ok_iff : v.toFloat = .ok x ↔ Measures v x := by
  constructor
  · intro read
    cases v with
    | float =>
      cases read
      exact .float _
    | bool b =>
      cases b with
      | true =>
        cases read
        exact .yes
      | false =>
        cases read
        exact .no
    | int m =>
      rw [toFloat, floatOfInt] at read
      split at read
      · cases read
      · rename_i finite
        cases read
        exact .int (Bool.eq_false_iff.mpr finite)
    | str s =>
      rw [toFloat] at read
      split at read
      · rename_i spelled
        cases read
        exact .text spelled
      · cases read
    | _ => cases read
  · intro measures
    cases measures with
    | float | yes | no => rfl
    | int finite =>
      rw [toFloat, floatOfInt, finite]
      rfl
    | text spelled => rw [toFloat, spelled]

/-- Going through a value gives what it enumerates. -/
theorem iterate_ok_iff : v.iterate = .ok items ↔ Enumerates v items := by
  constructor
  · intro iterated
    cases v with
    | array =>
      cases iterated
      exact .array _
    | str =>
      cases iterated
      exact .text _
    | object =>
      cases iterated
      exact .object _
    | _ => cases iterated
  · intro enumerates
    cases enumerates <;> rfl

theorem holds_object_iff : Holds (.object members) key w ↔ lookup key members = some w := by
  constructor
  · rintro ⟨_, ⟨⟩, found⟩
    exact found
  · intro found
    exact ⟨members, rfl, found⟩

end Json.Value

/-! ## What values declare -/

namespace Tensor.Spec
open Json Json.Value
variable {v w : Value} {s : Spec} {members : List (String × Value)} {key : String}

/-- Dimensions, each given by one of the values that a value enumerates. -/
def Counts (v : Value) (dims : List Int) : Prop := ∃ items, Enumerates v items ∧ List.Forall₂ StandsFor items dims

/-- A scale and a zero point, given by the two values that a value enumerates. -/
def Quantizes (v : Value) (q : Quantization) : Prop :=
  ∃ scale zeroPoint, Enumerates v [scale, zeroPoint] ∧ Measures scale q.scale ∧ StandsFor zeroPoint q.zeroPoint

/-- What a member declares that may be left out: the default without it, else what its value means. -/
inductive Optionally {α : Type} (v : Value) (key : String) (default : α) (means : Value → α → Prop) : α → Prop
  | absent (absent : v.Lacks key) : Optionally v key default means default
  | given {w : Value} {a : α} (given : v.Holds key w) (meaning : means w a) : Optionally v key default means a

/-- A value declares a tensor, whose shape is fixed unless there is a signature. -/
structure Declares (v : Value) (s : Spec) : Prop where
  name : v.Holds "name" s.name
  type : v.Holds "dtype" (.str s.type.name)
  shape : ∃ dims, v.Holds "shape" dims ∧ Counts dims s.shape
  signature : Optionally v "shape_signature" s.shape Counts s.signature
  quantization : Optionally v "quantization" none (fun w o => ∃ q, Quantizes w q ∧ some q = o) s.quantization

theorem readType_ok_iff {name type : Value} {t : DeclaredType} :
    readType name type = .ok t ↔ type = .str t.name := by
  constructor
  · intro read
    unfold readType at read
    split at read
    · cases read
    split at read
    · split at read
      · rename_i found
        cases read
        have same := List.find?_some found
        rw [beq_iff_eq.mp same]
      · cases read
    · cases read
  · rintro rfl
    exact readType_name name t

theorem readShape_ok_iff {dims : List Int} : readShape v = .ok dims ↔ Counts v dims := by
  simp only [readShape, bind_ok_iff, iterate_ok_iff, mapM_ok_iff, toInt_ok_iff, Counts]

theorem readQuantization_ok_iff {q : Quantization} : readQuantization v = .ok q ↔ Quantizes v q := by
  constructor
  · intro read
    obtain ⟨items, iterated, read⟩ := bind_ok_iff.mp read
    split at read
    · rename_i scale zeroPoint
      obtain ⟨x, measured, read⟩ := bind_ok_iff.mp read
      obtain ⟨n, counted, read⟩ := bind_ok_iff.mp read
      cases read
      exact ⟨scale, zeroPoint, iterate_ok_iff.mp iterated, toFloat_ok_iff.mp measured, toInt_ok_iff.mp counted⟩
    · cases read
  · rintro ⟨scale, zeroPoint, enumerates, measures, stands⟩
    refine bind_ok_iff.mpr ⟨_, iterate_ok_iff.mpr enumerates, ?_⟩
    refine bind_ok_iff.mpr ⟨_, toFloat_ok_iff.mpr measures, ?_⟩
    exact bind_ok_iff.mpr ⟨_, toInt_ok_iff.mpr stands, rfl⟩

/-! ## Reading declarations -/

theorem present?_eq_none_iff : present? (lookup key members) = none ↔ (Value.object members).Lacks key := by
  simp only [Lacks, holds_object_iff]
  unfold present?
  split
  · rename_i null
    simp [null]
  · rename_i other
    constructor
    · intro absent w held
      rw [absent] at held
      cases held
    · intro lacks
      cases found : lookup key members with
      | none => rfl
      | some w =>
        rw [lacks w found] at found
        exact absurd found other

theorem present?_eq_some_iff :
    present? (lookup key members) = some w ↔ (Value.object members).Holds key w ∧ w ≠ .null := by
  rw [holds_object_iff]
  constructor
  · intro present
    refine ⟨present?_some present, ?_⟩
    rintro rfl
    rw [present?_some present] at present
    cases present
  · rintro ⟨held, other⟩
    rw [held]
    unfold present?
    split
    · rename_i null
      cases null
      exact absurd rfl other
    · rfl

theorem not_counts_null (dims : List Int) : ¬ Counts .null dims := by
  rintro ⟨items, enumerates, -⟩
  cases enumerates

theorem not_quantizes_null (q : Quantization) : ¬ Quantizes .null q := by
  rintro ⟨scale, zeroPoint, enumerates, -⟩
  cases enumerates

/-- A member that may be left out is read as what it means, if null means nothing. -/
theorem optionally_iff {α : Type} {default a : α} {means : Value → α → Prop} {read : Value → Except Fault α}
    (reads : ∀ w a, read w = .ok a ↔ means w a) (null : ∀ a, ¬ means .null a) :
    (present? (lookup key members)).elim (.ok default) read = .ok a ↔
      Optionally (.object members) key default means a := by
  constructor
  · intro taken
    cases present : present? (lookup key members) with
    | none =>
      rw [present] at taken
      cases taken
      exact .absent (present?_eq_none_iff.mp present)
    | some w =>
      rw [present] at taken
      exact .given (present?_eq_some_iff.mp present).1 ((reads w a).mp taken)
  · intro declared
    cases declared with
    | absent absent =>
      rw [present?_eq_none_iff.mpr absent]
      rfl
    | @given w _ given meaning =>
      have other : w ≠ .null := by
        rintro rfl
        exact null a meaning
      rw [present?_eq_some_iff.mpr ⟨given, other⟩]
      exact (reads w a).mpr meaning

theorem signature_iff {shape signature : List Int} :
    (present? (lookup "shape_signature" members)).elim (.ok shape) readShape = .ok signature ↔
      Optionally (.object members) "shape_signature" shape Counts signature :=
  optionally_iff (fun _ _ => readShape_ok_iff) not_counts_null

theorem quantization_iff {o : Option Quantization} :
    (present? (lookup "quantization" members)).elim (.ok none) (fun v => (readQuantization v).map some) = .ok o ↔
      Optionally (.object members) "quantization" none (fun w o => ∃ q, Quantizes w q ∧ some q = o) o := by
  apply optionally_iff
  · intro w o
    simp only [map_ok_iff, readQuantization_ok_iff]
  · rintro o ⟨q, quantizes, -⟩
    exact not_quantizes_null q quantizes

/-- A declaration is made of its parts, each of which means what the tensor has. -/
theorem make_ok_iff {name type shape : Value} {signature quantization : Option Value} :
    make name type shape signature quantization = .ok s ↔
      name = s.name ∧ type = .str s.type.name ∧ Counts shape s.shape ∧
        signature.elim (.ok s.shape) readShape = .ok s.signature ∧
        quantization.elim (.ok none) (fun v => (readQuantization v).map some) = .ok s.quantization := by
  rw [make_eq]
  constructor
  · intro made
    obtain ⟨declared, typed, made⟩ := bind_ok_iff.mp made
    obtain ⟨dims, shaped, made⟩ := bind_ok_iff.mp made
    obtain ⟨varying, signed, made⟩ := bind_ok_iff.mp made
    split at made
    · obtain ⟨q, scaled, made⟩ := bind_ok_iff.mp made
      cases made
      exact ⟨rfl, readType_ok_iff.mp typed, readShape_ok_iff.mp shaped, signed, scaled⟩
    · cases made
  · rintro ⟨rfl, typed, counts, signed, scaled⟩
    refine bind_ok_iff.mpr ⟨_, readType_ok_iff.mpr typed, ?_⟩
    refine bind_ok_iff.mpr ⟨_, readShape_ok_iff.mpr counts, ?_⟩
    refine bind_ok_iff.mpr ⟨_, signed, ?_⟩
    rw [dif_pos s.length_signature]
    exact bind_ok_iff.mpr ⟨_, scaled, rfl⟩

/-- A value is accepted exactly if it declares a tensor, and read as what it declares. -/
theorem ofValue_ok_iff : ofValue v = .ok s ↔ Declares v s := by
  constructor
  · intro read
    obtain ⟨name, named, read⟩ := bind_ok_iff.mp read
    obtain ⟨type, typed, read⟩ := bind_ok_iff.mp read
    obtain ⟨shape, shaped, read⟩ := bind_ok_iff.mp read
    obtain ⟨members, object, made⟩ := bind_ok_iff.mp read
    obtain rfl := membersOf_ok_iff.mp object
    obtain ⟨rfl, rfl, counts, signed, scaled⟩ := make_ok_iff.mp made
    exact {
      name := required_ok_iff.mp named
      type := required_ok_iff.mp typed
      shape := ⟨shape, required_ok_iff.mp shaped, counts⟩
      signature := signature_iff.mp signed
      quantization := quantization_iff.mp scaled }
  · intro declares
    obtain ⟨dims, shaped, counts⟩ := declares.shape
    obtain ⟨members, rfl, -⟩ := declares.name
    have made := make_ok_iff.mpr
      ⟨rfl, rfl, counts, signature_iff.mpr declares.signature, quantization_iff.mpr declares.quantization⟩
    refine bind_ok_iff.mpr ⟨_, required_ok_iff.mpr declares.name, ?_⟩
    refine bind_ok_iff.mpr ⟨_, required_ok_iff.mpr declares.type, ?_⟩
    refine bind_ok_iff.mpr ⟨_, required_ok_iff.mpr shaped, ?_⟩
    exact bind_ok_iff.mpr ⟨members, rfl, made⟩

/-! ## Writing declarations -/

/-- The types that can be declared. -/
def typeNames : List String := ["int32", "int64", "float32", "float64", "uint8", "int8"]

/-- The normal form: a type by its name, two lists of integers, as many in one as in the other, and a quantization, if
there is one, as a number with a fraction and an integer. -/
inductive IsNormal : Value → Prop
  | plain {name : Value} {type : String} {shape signature : List Int} (declarable : type ∈ typeNames)
    (agree : signature.length = shape.length) :
    IsNormal (.object [("name", name), ("dtype", .str type), ("shape", .array (shape.map .int)),
      ("shape_signature", .array (signature.map .int))])
  | quantized {name : Value} {type : String} {shape signature : List Int} {scale : Float} {zeroPoint : Int}
    (declarable : type ∈ typeNames) (agree : signature.length = shape.length) :
    IsNormal (.object [("name", name), ("dtype", .str type), ("shape", .array (shape.map .int)),
      ("shape_signature", .array (signature.map .int)), ("quantization", .array [.float scale, .int zeroPoint])])

/-- What a value becomes when it is read and written. -/
def normalize (v : Value) : Except Fault Value := (ofValue v).map toValue

/-- What is read from a value that has been read and written `n` times. -/
def reread : Nat → Value → Except Fault Spec
  | 0, v => ofValue v
  | n + 1, v => normalize v >>= reread n

theorem mem_typeNames_iff {name : String} : name ∈ typeNames ↔ ∃ t : DeclaredType, t.name = name := by
  constructor
  · intro listed
    have known : ∀ name ∈ typeNames, (DeclaredType.ofName? name).any (·.name == name) = true := by decide
    obtain ⟨t, -, same⟩ := Option.any_eq_true _ _ |>.mp (known name listed)
    exact ⟨t, beq_iff_eq.mp same⟩
  · rintro ⟨t, rfl⟩
    cases t <;> decide

/-- The values in normal form are those that are written. -/
theorem isNormal_iff_written : IsNormal w ↔ ∃ s : Spec, s.toValue = w := by
  constructor
  · intro normal
    cases normal with
    | @plain name type shape signature declarable agree =>
      obtain ⟨t, rfl⟩ := mem_typeNames_iff.mp declarable
      exact ⟨⟨name, t, shape, signature, none, agree⟩, rfl⟩
    | @quantized name type shape signature scale zeroPoint declarable agree =>
      obtain ⟨t, rfl⟩ := mem_typeNames_iff.mp declarable
      exact ⟨⟨name, t, shape, signature, some ⟨scale, zeroPoint⟩, agree⟩, rfl⟩
  · rintro ⟨⟨name, type, shape, signature, quantization, agree⟩, rfl⟩
    have declarable : type.name ∈ typeNames := mem_typeNames_iff.mpr ⟨type, rfl⟩
    cases quantization with
    | none => exact .plain declarable agree
    | some q => exact .quantized declarable agree

/-- The values in normal form are exactly those that reading and writing leaves as they are. -/
theorem isNormal_iff : IsNormal w ↔ normalize w = .ok w := by
  rw [isNormal_iff_written]
  constructor
  · rintro ⟨s, rfl⟩
    exact map_ok_iff.mpr ⟨s, ofValue_toValue s, rfl⟩
  · intro same
    obtain ⟨s, -, written⟩ := map_ok_iff.mp same
    exact ⟨s, written⟩

/-- Reading and writing once more changes nothing. -/
theorem reread_succ (n : Nat) (read : ofValue v = .ok s) : reread (n + 1) v = reread n s.toValue := by
  have normalized : normalize v = .ok s.toValue := map_ok_iff.mpr ⟨s, read, rfl⟩
  rw [reread, normalized]
  rfl

theorem reread_eq (n : Nat) (read : ofValue v = .ok s) : reread n v = .ok s := by
  -- The value varies: behind the first round stands the normal form in its place.
  induction n generalizing v with
  | zero => exact read
  | succ n ih =>
    rw [reread_succ n read]
    exact ih (ofValue_toValue s)

theorem Optionally.eq_of_lacks {α : Type} {default a : α} {means : Value → α → Prop}
    (null : ∀ a, ¬ means .null a) (declared : Optionally v key default means a) (absent : v.Lacks key) :
    a = default := by
  cases declared with
  | absent => rfl
  | given given meaning =>
    rw [absent _ given] at meaning
    exact absurd meaning (null a)

/-- A value is accepted exactly if it declares a tensor, and left as it is exactly if it is in normal form. Whatever is
accepted is written in normal form and declares the same tensor however often it is written and read again. Without a
signature the shape is fixed. -/
theorem ofValue_settles (v : Value) (s : Spec) :
    (ofValue v = .ok s ↔ Declares v s) ∧ (normalize v = .ok v ↔ IsNormal v) ∧
    (ofValue v = .ok s → IsNormal s.toValue ∧ ofValue s.toValue = .ok s ∧ (∀ n, reread n v = .ok s) ∧
      (v.Lacks "shape_signature" → s.signature = s.shape)) := by
  refine ⟨ofValue_ok_iff, isNormal_iff.symm, fun accepted => ?_⟩
  have declares : Declares v s := ofValue_ok_iff.mp accepted
  have normal : IsNormal s.toValue := isNormal_iff_written.mpr ⟨s, rfl⟩
  exact ⟨normal, ofValue_toValue s, fun n => reread_eq n accepted, declares.signature.eq_of_lacks not_counts_null⟩

/-- Shapes that are a text, and a text and a fraction in a list, with a scale that is no number. -/
def sampleLoose : Value :=
  .object [("name", .null), ("dtype", .str "int8"), ("shape", .str "12"),
    ("shape_signature", .array [.str " -1_0 ", .float (Float.ofBits 0x4006000000000000)]),
    ("quantization", .array [.str "nan", .bool true])]

/-- The keys of an object as a shape, without a signature. -/
def sampleKeys : Value :=
  .object [("shape", .object [("3", .null), ("4", .null)]), ("shape_signature", .null),
    ("dtype", .str "uint8"), ("name", .str "a")]

/-- Both are accepted, and what is read from them stays the same. -/
theorem ofValue_settles_sample :
    (∃ s : Spec, ofValue sampleLoose = .ok s ∧ s.shape = [1, 2] ∧ s.signature = [-10, 2] ∧
      IsNormal s.toValue ∧ ∀ n, reread n sampleLoose = .ok s) ∧
    sampleKeys.Lacks "shape_signature" ∧
    ∃ s : Spec, ofValue sampleKeys = .ok s ∧ s.shape = [3, 4] ∧ s.signature = s.shape := by
  have loose : ofValue sampleLoose = .ok ⟨.null, .int8, [1, 2], [-10, 2], some ⟨0 / 0, 1⟩, rfl⟩ := by rfl
  have keys : ofValue sampleKeys = .ok ⟨.str "a", .uint8, [3, 4], [3, 4], none, rfl⟩ := by rfl
  have absent : sampleKeys.Lacks "shape_signature" := by
    rintro w ⟨members, ⟨⟩, ⟨⟩⟩
    rfl
  obtain ⟨normal, -, again, -⟩ := (ofValue_settles _ _).2.2 loose
  obtain ⟨-, -, -, fixed⟩ := (ofValue_settles _ _).2.2 keys
  exact ⟨⟨_, loose, rfl, rfl, normal, again⟩, absent, _, keys, rfl, fixed absent⟩

end Tensor.Spec
end TextClassifier
