import Mathlib.Data.List.Induction
import TextClassifier.Json.Encoding
import TextClassifier.Proofs.JsonRoundTrip
import TextClassifier.Proofs.Tables

/-!
# Values that have been read

What is read from a file is a value that a text can hold (`tidy_read`): an integer with too many digits is
refused, and of several members with one key the last is kept.
-/
namespace TextClassifier.Json
open TextClassifier

namespace Value
variable {key : String} {v : Value} {ms : List (String × Value)}

/-! ## Members -/

theorem keys_insert (key : String) (v : Value) (ms : List (String × Value)) :
    (insert key v ms).map (·.1) = if key ∈ ms.map (·.1) then ms.map (·.1) else ms.map (·.1) ++ [key] := by
  induction ms with
  | nil => rfl
  | cons m ms ih =>
    obtain ⟨k, w⟩ := m
    by_cases same : k = key
    · simp [insert, same]
    · have other : key ≠ k := Ne.symm same
      rw [insert, if_neg same, List.map_cons, ih]
      by_cases listed : key ∈ ms.map (·.1)
      · simp [listed, other]
      · simp [listed, other]

theorem nodup_insert (distinct : (ms.map (·.1)).Nodup) : ((insert key v ms).map (·.1)).Nodup := by
  rw [keys_insert]
  exact Table.nodup_adjoined distinct

theorem mem_insert {m : String × Value} (listed : m ∈ insert key v ms) : m = (key, v) ∨ m ∈ ms := by
  induction ms with
  | nil => exact .inl (List.mem_singleton.mp listed)
  | cons n ms ih =>
    obtain ⟨k, w⟩ := n
    rw [insert] at listed
    split at listed
    · rename_i same
      rcases List.mem_cons.mp listed with here | later
      · exact .inl (same ▸ here)
      · exact .inr (List.mem_cons_of_mem _ later)
    · rcases List.mem_cons.mp listed with here | later
      · exact .inr (here ▸ List.mem_cons_self)
      · exact (ih later).imp_right (List.mem_cons_of_mem _)

theorem nodup_ofMembers (ms : List (String × Value)) : ((ofMembers ms).map (·.1)).Nodup := by
  induction ms using List.reverseRecOn with
  | nil => exact List.nodup_nil
  | append_singleton ms m ih =>
    rw [ofMembers, List.foldl_append]
    exact nodup_insert ih

theorem mem_ofMembers {m : String × Value} (listed : m ∈ ofMembers ms) : m ∈ ms := by
  induction ms using List.reverseRecOn with
  | nil => cases listed
  | append_singleton ms n ih =>
    rw [ofMembers, List.foldl_append] at listed
    rcases mem_insert listed with rfl | earlier
    · simp
    · exact List.mem_append_left _ (ih earlier)

end Value

namespace Reader
variable {s rest : List Char} {v : Value}

/-! ## Scalars -/

theorem tidy_number {negative : Bool} (read : number negative s = .ok (v, rest)) : v.Tidy := by
  rw [number_eq, numberBehind] at read
  split at read
  · cases read
  rename_i some_there
  split at read
  · split at read
    · cases read
    · rename_i few
      cases read
      refine Value.tidy_of_fits rfl ?_
      rw [Value.Fits]
      cases digits : Number.digitsValue 0 (wholePart s).1 with
      | none => cases negative <;> simp [Number.natDigits_zero, Number.mostDigits]
      | some n =>
        have bound := Number.length_natDigits_le digits (by simpa using some_there)
        cases negative <;> simp <;> omega
  · cases read
    exact Value.tidy_of_fits rfl trivial

theorem tidy_scalar (read : scalar s = .ok (v, rest)) : v.Tidy := by
  have words_tidy : ∀ entry ∈ words, entry.2.Tidy := by
    simp only [words, List.forall_mem_cons]
    exact ⟨Value.tidy_of_fits rfl trivial, Value.tidy_of_fits rfl trivial, Value.tidy_of_fits rfl trivial,
      Value.tidy_of_fits rfl trivial, Value.tidy_of_fits rfl trivial, Value.tidy_of_fits rfl trivial, by simp⟩
  rw [scalar_eq] at read
  cases found : word? s with
  | some result =>
    obtain ⟨⟨word, w⟩, listed, taken⟩ := List.exists_of_findSome?_eq_some found
    obtain ⟨left, -, rfl⟩ := Option.map_eq_some_iff.mp taken
    rw [found] at read
    cases read
    exact words_tidy _ listed
  | none =>
    rw [found] at read
    dsimp only at read
    split at read
    · exact tidy_number read
    · exact tidy_number read

/-! ## Arrays and objects -/

mutual

/-- A value that is read can be written. -/
theorem tidy_value {fuel : Nat} {s rest : List Char} {v : Value} (read : value fuel s = .ok (v, rest)) : v.Tidy := by
  match fuel with
  | 0 => cases read
  | fuel + 1 =>
    rw [value.eq_def] at read
    dsimp only at read
    split at read
    · split at read
      · cases read
        exact Value.tidy_of_fits rfl trivial
      · cases read
    · split at read
      · cases read
        exact Value.tidy_array_iff.mpr (by simp)
      · obtain ⟨⟨vs, behind⟩, listed, same⟩ := map_ok_iff.mp read
        cases same
        exact Value.tidy_array_iff.mpr (tidy_items listed)
    · split at read
      · cases read
        exact Value.tidy_object_iff.mpr (by simp)
      · obtain ⟨⟨ms, behind⟩, listed, same⟩ := map_ok_iff.mp read
        cases same
        exact Value.tidy_object_iff.mpr ⟨Value.nodup_ofMembers ms, fun m kept =>
          tidy_members listed m (Value.mem_ofMembers kept)⟩
    · exact tidy_scalar read

theorem tidy_items {fuel : Nat} {s rest : List Char} {vs : List Value} (read : items fuel s = .ok (vs, rest)) :
    ∀ v ∈ vs, v.Tidy := by
  match fuel with
  | 0 => cases read
  | fuel + 1 =>
    rw [items] at read
    split at read
    · cases read
    rename_i v behind first
    split at read
    · cases read
      exact List.forall_mem_singleton.mpr (tidy_value first)
    · obtain ⟨⟨ws, _⟩, later, same⟩ := map_ok_iff.mp read
      cases same
      exact List.forall_mem_cons.mpr ⟨tidy_value first, tidy_items later⟩
    · cases read

theorem tidy_members {fuel : Nat} {s rest : List Char} {ms : List (String × Value)}
    (read : members fuel s = .ok (ms, rest)) : ∀ m ∈ ms, m.2.Tidy := by
  match fuel with
  | 0 => cases read
  | fuel + 1 =>
    rw [members.eq_def] at read
    dsimp only at read
    split at read
    · split at read
      · cases read
      split at read
      · split at read
        · cases read
        rename_i v behind first
        split at read
        · cases read
          exact List.forall_mem_singleton.mpr (tidy_value first)
        · obtain ⟨⟨ns, _⟩, later, same⟩ := map_ok_iff.mp read
          cases same
          exact List.forall_mem_cons.mpr ⟨tidy_value first, tidy_members later⟩
        · cases read
      · cases read
    · cases read

end

theorem tidy_read (found : read s = .ok v) : v.Tidy := by
  rw [read] at found
  split at found
  · cases found
  · rename_i w behind whole
    split at found
    · cases found
      exact tidy_value whole
    · cases found

end Reader

/-- What is read from a file can be held by a text. -/
theorem Encoding.tidy_read {bytes : Text.Bytes} {v : Value} (found : read bytes = .ok v) : v.Tidy := by
  rw [read] at found
  split at found
  · cases found
  split at found
  · rename_i text _ w whole
    cases found
    exact Reader.tidy_read whole
  · cases found
  · cases found

end TextClassifier.Json
