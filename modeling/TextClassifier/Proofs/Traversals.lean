import Mathlib.Data.List.Forall2
import TextClassifier.Attempt

/-!
# Traversals with their results

The results of a traversal stand in the order of the items, one for each (`mapM_ok_iff`).
-/
namespace TextClassifier
variable {ε α β : Type} {f : α → Except ε β} {xs : List α} {ys : List β}

/-- A traversal succeeds with one result for each item. -/
theorem mapM_ok_iff : xs.mapM f = .ok ys ↔ List.Forall₂ (fun x y => f x = .ok y) xs ys := by
  constructor
  · intro ran
    induction xs generalizing ys with
    | nil =>
      cases ran
      exact .nil
    | cons x rest ih =>
      rw [List.mapM_cons, bind_ok_iff] at ran
      obtain ⟨y, first, ran⟩ := ran
      obtain ⟨later, tail, ran⟩ := bind_ok_iff.mp ran
      cases ran
      exact .cons first (ih tail)
  · intro related
    induction related with
    | nil => rfl
    | cons first _ ih =>
      rw [List.mapM_cons, first, ih]
      rfl

/-- A traversal succeeds if all items do. -/
theorem exists_mapM (each : ∀ x ∈ xs, ∃ y, f x = .ok y) :
    ∃ ys, xs.mapM f = .ok ys ∧ List.Forall₂ (fun x y => f x = .ok y) xs ys := by
  obtain ⟨ys, ran⟩ := exists_mapM_iff.mpr each
  exact ⟨ys, ran, mapM_ok_iff.mp ran⟩

end TextClassifier
