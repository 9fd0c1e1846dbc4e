import Mathlib
import TextClassifier.Attempt
import TextClassifier.Json.Untyped

/-!
# Faults of untyped values

Whatever an untyped value is used as, the fault is one of few: it is of the wrong kind, it cannot be used, or it
lacks a member. Only numbers add a fault of their own, and only where they are infinite or too large to be near
to a floating-point number.
-/
namespace TextClassifier

/-- The faults of a value that is not what it should be. -/
inductive Fault.OfValue : Fault → Prop
  | unusable : OfValue .unusable
  | mistyped : OfValue .mistyped
  | missingKey (key : String) : OfValue (.missingKey key)
  | stated (text : String) : OfValue (.stated text)

/-! ## Infinite numbers -/

namespace Number

/-- What has no fraction behind it and is a number is infinite. -/
theorem isInf_of_ofFloat? {x : Float} (none : Dyadic.ofFloat? x = none) (number : x.isNaN = false) :
    x.isInf = true := by
  have biased : ((x.toBits >>> 52) &&& 0x7FF).toNat = 0x7FF := by
    rw [Dyadic.ofFloat?] at none
    split at none
    · assumption
    · split at none <;> cases none
  have exponent : @Float.Model.UnpackedFloat.unpackExponent .binary64 x.toModel.toBits.toBitVec = -1#_ := by
    rw [Float.Model.UnpackedFloat.unpackExponent_def, ← BitVec.toNat_inj, BitVec.extractLsb'_toNat,
      Nat.shiftRight_eq_div_pow]
    rw [UInt64.toNat_and, UInt64.toNat_shiftRight, Nat.shiftRight_eq_div_pow] at biased
    exact (Nat.and_two_pow_sub_one_eq_mod _ 11).symm.trans biased
  -- Of all exponents only the greatest is left, and its fraction tells infinities from what is no number.
  have unpacked : x.toModel.unpack.isNaN = false := number
  show x.toModel.unpack.isInf = true
  rw [Float.Model.unpack, Float.Model.UnpackedFloat.unpack] at unpacked ⊢
  simp only [exponent, if_true] at unpacked ⊢
  split at unpacked
  · rename_i fraction
    rw [if_pos fraction]
    rfl
  · cases unpacked

end Number

namespace Json.Value
variable {v : Value} {fault : Fault} {items : List Value}

/-- A number that is infinite. -/
def IsInfinite : Value → Prop
  | .float x => x.isInf = true
  | _ => False

theorem IsInfinite.not_text (infinite : v.IsInfinite) (s : String) : v ≠ .str s := by
  rintro rfl
  cases infinite

/-- An integer that no floating-point number is near to. -/
def ExceedsFloats : Value → Prop
  | .int n => (Number.ofInt .binary64 n).isInf = true
  | _ => False

theorem ExceedsFloats.not_text (exceeds : v.ExceedsFloats) (s : String) : v ≠ .str s := by
  rintro rfl
  cases exceeds

/-! ## Members and items -/

theorem required_ok_iff {key : String} {w : Value} :
    v.required key = .ok w ↔ ∃ members, v = .object members ∧ lookup key members = some w := by
  cases v with
  | object members =>
    rw [required]
    cases found : lookup key members <;> simp [found]
  | _ => simp [required]

theorem required_error {key : String} (failed : v.required key = .error fault) : fault.OfValue := by
  cases v with
  | object members =>
    rw [required] at failed
    cases found : lookup key members with
    | some w => simp [found] at failed
    | none =>
      rw [found] at failed
      cases failed
      exact .missingKey key
  | _ =>
    cases failed
    exact .mistyped

theorem membersOf_ok_iff {members : List (String × Value)} : v.membersOf = .ok members ↔ v = .object members := by
  cases v <;> simp [membersOf]

theorem membersOf_error (failed : v.membersOf = .error fault) : fault = .memberless := by
  cases v <;> cases failed <;> rfl

/-- An item that is no text was listed in an array: texts and objects have texts as their items. -/
theorem array_of_iterate (iterated : v.iterate = .ok items) {w : Value} (listed : w ∈ items)
    (other : ∀ s, w ≠ .str s) : v = .array items := by
  cases v with
  | array held =>
    cases iterated
    rfl
  | str text =>
    cases iterated
    obtain ⟨c, -, rfl⟩ := List.mem_map.mp listed
    exact absurd rfl (other _)
  | object members =>
    cases iterated
    obtain ⟨member, -, rfl⟩ := List.mem_map.mp listed
    exact absurd rfl (other _)
  | _ => cases iterated

theorem iterate_error (failed : v.iterate = .error fault) : fault.OfValue := by
  cases v <;> cases failed <;> exact .mistyped

/-! ## Numbers -/

/-- What is no integer is of another kind or no spelling of one, unless it is infinite. -/
theorem toInt_error (failed : v.toInt = .error fault) : fault.OfValue ∨ fault = .tooLarge ∧ v.IsInfinite := by
  cases v with
  | float x =>
    rw [toInt] at failed
    cases fraction : Number.Dyadic.ofFloat? x with
    | some d => simp [fraction] at failed
    | none =>
      rw [fraction] at failed
      cases number : x.isNaN with
      | true =>
        rw [number] at failed
        cases failed
        exact .inl .unusable
      | false =>
        rw [number] at failed
        cases failed
        exact .inr ⟨rfl, Number.isInf_of_ofFloat? fraction number⟩
  | str s =>
    rw [toInt] at failed
    cases read : Number.readInt? s.toList with
    | some n => simp [read] at failed
    | none =>
      rw [read] at failed
      cases failed
      exact .inl .unusable
  | bool b => cases failed
  | int n => cases failed
  | _ =>
    cases failed
    exact .inl .mistyped

/-- What is no number is of another kind or no spelling of one, unless it exceeds them all. -/
theorem toFloat_error (failed : v.toFloat = .error fault) :
    fault.OfValue ∨ fault = .tooLarge ∧ v.ExceedsFloats := by
  cases v with
  | int n =>
    rw [toFloat, floatOfInt] at failed
    split at failed
    · rename_i exceeds
      cases failed
      exact .inr ⟨rfl, exceeds⟩
    · cases failed
  | str s =>
    rw [toFloat] at failed
    cases read : Number.readFloat? s.toList with
    | some x => simp [read] at failed
    | none =>
      rw [read] at failed
      cases failed
      exact .inl .unusable
  | bool b => cases failed
  | float x => cases failed
  | _ =>
    cases failed
    exact .inl .mistyped

end Json.Value
end TextClassifier
