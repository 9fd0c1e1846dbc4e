import Mathlib.Data.List.Induction
import TextClassifier.Archive
import TextClassifier.Proofs.Tables

/-!
# Entries of archives

Each name of an archive is listed once (`nodup_entries`), with the contents of its last entry
(`lookup_entries`). Where names are distinct, the last entry is the only one (`content?_of_nodup`).
-/
namespace TextClassifier.Archive
open Table
open Text (Bytes)

variable {a : Archive} {table : List (String × Bytes)} {name key : String}

/-! ## Contents -/

theorem content?_cons (name : String) (bytes : Bytes) (a : Archive) (key : String) :
    content? ((name, bytes) :: a) key = (content? a key).or (if key = name then some bytes else none) := by
  rw [content?, List.reverse_cons, List.lookup_append, lookup_cons_eq]
  rfl

theorem content?_append (a : Archive) (name : String) (bytes : Bytes) (key : String) :
    content? (a ++ [(name, bytes)]) key = if key = name then some bytes else content? a key := by
  rw [content?, List.reverse_append, List.reverse_singleton, List.singleton_append, lookup_cons_eq]
  rfl

theorem content?_of_nodup (distinct : (a.map (·.1)).Nodup) (key : String) : content? a key = a.lookup key := by
  induction a with
  | nil => rfl
  | cons e a ih =>
    obtain ⟨name, bytes⟩ := e
    rw [List.map_cons, List.nodup_cons] at distinct
    rw [content?_cons, ih distinct.2, lookup_cons_eq]
    by_cases same : key = name
    · subst same
      simp [lookup_eq_none distinct.1]
    · simp [same]

/-! ## Entries -/

/-- A table with the contents of one more entry. -/
def put (table : List (String × Bytes)) (name : String) (bytes : Bytes) : List (String × Bytes) :=
  if table.any (·.1 == name) then table.map fun e => if e.1 = name then (name, bytes) else e
  else table ++ [(name, bytes)]

theorem entries_append (a : Archive) (name : String) (bytes : Bytes) :
    entries (a ++ [(name, bytes)]) = put (entries a) name bytes := by
  rw [entries, List.foldl_append]
  rfl

theorem any_iff : table.any (·.1 == name) = true ↔ name ∈ table.map (·.1) := by simp

/-- What is put under a name that is there takes its place, and any other goes to the end. -/
theorem keys_put (table : List (String × Bytes)) (name : String) (bytes : Bytes) :
    (put table name bytes).map (·.1) =
      if name ∈ table.map (·.1) then table.map (·.1) else table.map (·.1) ++ [name] := by
  rw [put]
  simp only [any_iff]
  split
  · rw [List.map_map]
    refine List.map_congr_left fun e _ => ?_
    rw [Function.comp_apply]
    split
    · rename_i same
      exact same.symm
    · rfl
  · exact List.map_append

theorem lookup_replaced (table : List (String × Bytes)) (name : String) (bytes : Bytes) (key : String) :
    (table.map fun e => if e.1 = name then (name, bytes) else e).lookup key =
      if key = name then (table.lookup key).map fun _ => bytes else table.lookup key := by
  induction table with
  | nil => simp
  | cons e table ih =>
    obtain ⟨k, old⟩ := e
    by_cases here : k = name
    · subst here
      by_cases same : key = k
      · simp [same]
      · simpa [lookup_cons_eq, same] using ih
    · by_cases same : key = k
      · subst same
        simp [here]
      · simpa [here, same, lookup_cons_eq] using ih

/-- What is put under a name is found under it, and all else as before. -/
theorem lookup_put (table : List (String × Bytes)) (name : String) (bytes : Bytes) (key : String) :
    (put table name bytes).lookup key = if key = name then some bytes else table.lookup key := by
  rw [put]
  simp only [any_iff]
  split
  · rename_i listed
    rw [lookup_replaced]
    by_cases same : key = name
    · subst same
      obtain ⟨old, found⟩ := exists_lookup listed
      simp [found]
    · simp [same]
  · rename_i new
    rw [List.lookup_append, lookup_cons_eq, List.lookup_nil]
    by_cases same : key = name
    · subst same
      simp [lookup_eq_none new]
    · simp [same]

theorem nodup_entries (a : Archive) : (a.entries.map (·.1)).Nodup := by
  induction a using List.reverseRecOn with
  | nil => exact List.nodup_nil
  | append_singleton a e ih =>
    rw [entries_append, keys_put]
    exact nodup_adjoined ih

theorem lookup_entries (a : Archive) (name : String) : a.entries.lookup name = a.content? name := by
  induction a using List.reverseRecOn with
  | nil => rfl
  | append_singleton a e ih => rw [entries_append, lookup_put, content?_append, ih]

end TextClassifier.Archive
