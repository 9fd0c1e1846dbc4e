import Mathlib.Logic.Relation
import TextClassifier.FailureClass

/-!
# What a class of failures derives from

Classes derive from their parents (`Parent`), and from all that these derive from (`DerivesFrom`). Whoever expects
some classes takes exactly the failures whose class derives from one of them (`isOneOf_iff`).
-/
namespace TextClassifier.FailureClass

/-- The classes that a class is made from. -/
inductive Parent : FailureClass → FailureClass → Prop
  | runtime : Parent .runtime .failure
  | unusable : Parent .unusable .failure
  | mistyped : Parent .mistyped .failure
  | lookup : Parent .lookup .failure
  | memberless : Parent .memberless .failure
  | arithmetic : Parent .arithmetic .failure
  | notPattern : Parent .notPattern .failure
  | outOfMemory : Parent .outOfMemory .failure
  | missingKey : Parent .missingKey .lookup
  | outOfBounds : Parent .outOfBounds .lookup
  | tooLarge : Parent .tooLarge .arithmetic
  | unicode : Parent .unicode .unusable
  | notJson : Parent .notJson .unusable
  | undecodable : Parent .undecodable .unicode
  | derived (name : String) (parent : FailureClass) : Parent (.derived name parent) parent
  | first (name : String) (a b : FailureClass) : Parent (.joined name a b) a
  | second (name : String) (a b : FailureClass) : Parent (.joined name a b) b

/-- A class is another one, or is made from it in some steps. -/
abbrev DerivesFrom : FailureClass → FailureClass → Prop := Relation.ReflTransGen Parent

variable {c d : FailureClass}

theorem mem_lineage_self (c : FailureClass) : c ∈ c.lineage := by
  cases c <;> exact List.mem_cons_self

/-- A class has what its parent derives from in its lineage. -/
theorem lineage_subset (parent : Parent c d) : d.lineage ⊆ c.lineage := by
  cases parent with
  | first name a b => exact List.Subset.trans (List.subset_append_left _ _) (List.subset_cons_self _ _)
  | second name a b => exact List.Subset.trans (List.subset_append_right _ _) (List.subset_cons_self _ _)
  | _ => exact List.subset_cons_self _ _

/-- A lineage behind a class of which each member is reached from a parent. -/
theorem derivesFrom_cons {b : FailureClass} {behind : List FailureClass} (parent : Parent c b)
    (reached : ∀ d ∈ behind, b.DerivesFrom d) : ∀ d ∈ c :: behind, c.DerivesFrom d :=
  List.forall_mem_cons.mpr ⟨.refl, fun d listed => .head parent (reached d listed)⟩

/-- A class derives from all of its lineage: each parent is followed to the class without one. -/
theorem derivesFrom_of_mem (c : FailureClass) : ∀ d ∈ c.lineage, c.DerivesFrom d := by
  have failure : ∀ d ∈ lineage .failure, DerivesFrom .failure d := List.forall_mem_singleton.mpr .refl
  have lookup := derivesFrom_cons .lookup failure
  have unusable := derivesFrom_cons .unusable failure
  have unicode := derivesFrom_cons .unicode unusable
  induction c with
  | failure => exact failure
  | runtime => exact derivesFrom_cons .runtime failure
  | unusable => exact unusable
  | mistyped => exact derivesFrom_cons .mistyped failure
  | lookup => exact lookup
  | missingKey => exact derivesFrom_cons .missingKey lookup
  | outOfBounds => exact derivesFrom_cons .outOfBounds lookup
  | memberless => exact derivesFrom_cons .memberless failure
  | arithmetic => exact derivesFrom_cons .arithmetic failure
  | tooLarge => exact derivesFrom_cons .tooLarge (derivesFrom_cons .arithmetic failure)
  | unicode => exact unicode
  | undecodable => exact derivesFrom_cons .undecodable unicode
  | notJson => exact derivesFrom_cons .notJson unusable
  | notPattern => exact derivesFrom_cons .notPattern failure
  | outOfMemory => exact derivesFrom_cons .outOfMemory failure
  | derived name parent ih => exact derivesFrom_cons (.derived name parent) ih
  | joined name a b first second =>
    refine List.forall_mem_cons.mpr ⟨.refl, List.forall_mem_append.mpr ⟨fun d listed => ?_, fun d listed => ?_⟩⟩
    · exact .head (.first name a b) (first d listed)
    · exact .head (.second name a b) (second d listed)

/-- The lineage of a class is all that it derives from. -/
theorem mem_lineage_iff : d ∈ c.lineage ↔ c.DerivesFrom d := by
  constructor
  · exact derivesFrom_of_mem c d
  · intro derives
    induction derives using Relation.ReflTransGen.head_induction_on with
    | refl => exact mem_lineage_self d
    | head parent _ ih => exact lineage_subset parent ih

/-- Failures are expected by the classes that theirs derives from. -/
theorem isOneOf_iff {expected : List FailureClass} :
    c.isOneOf expected = true ↔ ∃ d ∈ expected, c.DerivesFrom d := by
  simp only [isOneOf, List.any_eq_true, List.contains_iff_mem, mem_lineage_iff]

end TextClassifier.FailureClass
