import TextClassifier.Attempt
import TextClassifier.Tensor.Spec

/-!
# Declarations are read as they are written

A declaration that is written as an untyped value is read back from it (`ofValue_toValue`).
-/
namespace TextClassifier.Tensor.Spec
open Json

theorem readShape_intsValue (ns : List Int) : readShape (intsValue ns) = .ok ns := by
  have read : (ns.map Value.int).mapM Value.toInt = .ok ns := mapM_map_ok fun n _ => rfl
  exact read

theorem readType_name (name : Value) (type : DeclaredType) : readType name (.str type.name) = .ok type := by
  simp [readType, Value.isScalar]

theorem ofValue_toValue (s : Spec) : ofValue s.toValue = .ok s := by
  obtain ⟨name, type, shape, signature, quantization, agree⟩ := s
  have read : ofValue (toValue ⟨name, type, shape, signature, quantization, agree⟩) =
      make name (.str type.name) (intsValue shape) (some (intsValue signature))
        (quantization.map Quantization.toValue) := by
    cases quantization <;> rfl
  rw [read, make, readType_name]
  show (readShape (intsValue shape)).bind _ = _
  rw [readShape_intsValue]
  show (readShape (intsValue signature)).bind _ = _
  rw [readShape_intsValue]
  show (if h : signature.length = shape.length then _ else _) = _
  rw [dif_pos agree]
  cases quantization <;> rfl

end TextClassifier.Tensor.Spec
