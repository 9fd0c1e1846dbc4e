import Mathlib.Data.List.Nodup

/-!
# Tables

A table lists keys with their values and is searched from its front. Where its keys are distinct, the order
of its entries does not matter (`lookup_eq_some_iff`, `perm_of_lookup`).
-/
namespace TextClassifier.Table

variable {β : Type} {table : List (String × β)} {key : String} {value : β}

theorem lookup_eq_none (absent : key ∉ table.map (·.1)) : table.lookup key = none := by
  rw [List.lookup_eq_none_iff]
  intro e listed
  rw [bne_iff_ne]
  rintro rfl
  exact absent (List.mem_map_of_mem listed)

theorem exists_lookup (listed : key ∈ table.map (·.1)) : ∃ value, table.lookup key = some value := by
  refine Option.ne_none_iff_exists'.mp fun absent => ?_
  obtain ⟨e, member, rfl⟩ := List.mem_map.mp listed
  exact absurd rfl (bne_iff_ne.mp (List.lookup_eq_none_iff.mp absent e member))

theorem lookup_cons_eq (name : String) (value : β) (table : List (String × β)) (key : String) :
    ((name, value) :: table).lookup key = if key = name then some value else table.lookup key := by
  rw [List.lookup_cons]
  by_cases same : key = name
  · simp [same]
  · simp [same, beq_eq_false_iff_ne.mpr same]

theorem lookup_filter (keep : String → Bool) (table : List (String × β)) (key : String) :
    (table.filter fun (name, _) => keep name).lookup key = if keep key then table.lookup key else none := by
  induction table with
  | nil => simp
  | cons e table ih =>
    obtain ⟨name, value⟩ := e
    by_cases same : key = name
    · subst same
      cases kept : keep key with
      | true => simp [kept]
      | false => simpa [kept] using ih
    · cases kept : keep name with
      | true => simp [kept, lookup_cons_eq, same, ih]
      | false => simp [kept, lookup_cons_eq, same, ih]

theorem lookup_eq_some_iff (distinct : (table.map (·.1)).Nodup) :
    table.lookup key = some value ↔ (key, value) ∈ table := by
  constructor
  · intro found
    obtain ⟨front, back, rfl, -⟩ := List.lookup_eq_some_iff.mp found
    simp
  · intro listed
    obtain ⟨front, back, rfl⟩ := List.append_of_mem listed
    rw [List.map_append, List.nodup_append] at distinct
    refine List.lookup_eq_some_iff.mpr ⟨front, back, rfl, fun e earlier => bne_iff_ne.mpr ?_⟩
    exact (distinct.2.2 e.1 (List.mem_map_of_mem earlier) key (by simp)).symm

/-- Tables with distinct keys that have the same values are the same but for the order. -/
theorem perm_of_lookup {other : List (String × β)} (distinct : (table.map (·.1)).Nodup)
    (distinct_other : (other.map (·.1)).Nodup) (same : ∀ key, table.lookup key = other.lookup key) :
    table.Perm other := by
  refine (List.perm_ext_iff_of_nodup distinct.of_map distinct_other.of_map).mpr ?_
  rintro ⟨key, value⟩
  rw [← lookup_eq_some_iff distinct, same, lookup_eq_some_iff distinct_other]

/-- A key that is added where it is new. -/
theorem nodup_adjoined {keys : List String} (distinct : keys.Nodup) :
    (if key ∈ keys then keys else keys ++ [key]).Nodup := by
  split
  · exact distinct
  · rename_i new
    rw [← List.concat_eq_append]
    exact List.Nodup.concat new distinct

/-- The first places of names grow with the names. -/
theorem eraseDups_concat (keys : List String) (key : String) : (keys ++ [key]).eraseDups =
    if key ∈ keys.eraseDups then keys.eraseDups else keys.eraseDups ++ [key] := by
  rw [List.eraseDups_append]
  by_cases listed : key ∈ keys
  · simp [listed, List.removeAll]
  · simp [listed, List.removeAll, List.eraseDups_cons]

end TextClassifier.Table
