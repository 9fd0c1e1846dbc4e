import TextClassifier.Proofs.Tables
import TextClassifier.Vocabulary

/-!
# Ids of a vocabulary

The table of a vocabulary gives each token the id that it had last (`id?_ofTable`), so the ids of a
vocabulary file are numbers of its lines (`id?_ofLines`), and no two tokens share one
(`id?_ofLines_injective`).
-/
namespace TextClassifier.Vocabulary
open Table

/-- An inserted token has its new id, and all others keep theirs. -/
theorem lookup_insert (token sought : String) (id : Int) (entries : List (String × Int)) :
    (insert token id entries).lookup sought =
      if sought = token then some id else entries.lookup sought := by
  induction entries with
  | nil => rw [insert, lookup_cons_eq]
  | cons entry rest ih =>
    obtain ⟨t, i⟩ := entry
    by_cases here : t = token
    · subst here
      rw [insert, if_pos rfl, lookup_cons_eq, lookup_cons_eq]
      by_cases same : sought = t
      · simp [same]
      · simp [same]
    · rw [insert, if_neg here, lookup_cons_eq, lookup_cons_eq, ih]
      by_cases same : sought = t
      · subst same
        simp [here]
      · simp [same]

private theorem lookup_foldl_insert (table : List (String × Int)) (sought : String) :
    ∀ entries : List (String × Int),
      (table.foldl (fun entries (token, id) => insert token id entries) entries).lookup sought =
        (table.reverse.lookup sought).or (entries.lookup sought) := by
  induction table with
  | nil => simp
  | cons entry rest ih =>
    intro entries
    obtain ⟨token, id⟩ := entry
    rw [List.foldl_cons, ih, lookup_insert, List.reverse_cons, List.lookup_append, Option.or_assoc]
    by_cases same : sought = token
    · simp [same]
    · simp [lookup_cons_eq, same]

/-- The last entry of a token gives its id. -/
theorem id?_ofTable (table : List (String × Int)) (token : String) :
    (ofTable table).id? token = table.reverse.lookup token := by
  have looked := lookup_foldl_insert table token []
  simpa [ofTable, id?] using looked

/-- The numbered tokens are the lines that are not blank, with their places. -/
theorem mem_numbered {lines : List (List Char)} {token : String} {id : Int} :
    (token, id) ∈ numbered lines ↔
      ∃ i line, lines[i]? = some line ∧ line ≠ [] ∧ String.ofList line = token ∧ id = (i : Nat) := by
  simp only [numbered, List.mem_map, List.mem_filter, List.mem_zipIdx_iff_getElem?, Prod.exists,
    Prod.mk.injEq]
  constructor
  · rintro ⟨line, i, ⟨at_i, filled⟩, rfl, rfl⟩
    exact ⟨i, line, at_i, by simpa using filled, rfl, rfl⟩
  · rintro ⟨i, line, at_i, filled, rfl, rfl⟩
    exact ⟨line, i, ⟨at_i, by simpa using filled⟩, rfl, rfl⟩

/-- An id is the number of a line that holds its token. -/
theorem id?_ofLines {lines : List (List Char)} {token : String} {id : Int}
    (found : (ofLines lines).id? token = some id) :
    ∃ i line, lines[i]? = some line ∧ line ≠ [] ∧ String.ofList line = token ∧ id = (i : Nat) := by
  rw [ofLines, id?_ofTable, List.lookup_eq_some_iff] at found
  obtain ⟨before, after, split, -⟩ := found
  have member : (token, id) ∈ (numbered lines).reverse := by
    rw [split]
    simp
  exact mem_numbered.mp (List.mem_reverse.mp member)

theorem id?_ofLines_bounds {lines : List (List Char)} {token : String} {id : Int}
    (found : (ofLines lines).id? token = some id) : 0 ≤ id ∧ id < lines.length := by
  obtain ⟨i, line, at_i, -, -, rfl⟩ := id?_ofLines found
  obtain ⟨inside, -⟩ := List.getElem?_eq_some_iff.mp at_i
  exact ⟨by omega, by omega⟩

/-- Tokens with one id are one token. -/
theorem id?_ofLines_injective {lines : List (List Char)} {token other : String} {id : Int}
    (first : (ofLines lines).id? token = some id) (second : (ofLines lines).id? other = some id) :
    token = other := by
  obtain ⟨i, line, at_i, -, rfl, rfl⟩ := id?_ofLines first
  obtain ⟨j, line', at_j, -, rfl, same⟩ := id?_ofLines second
  rw [show i = j by omega, at_j, Option.some.injEq] at at_i
  rw [at_i]

end TextClassifier.Vocabulary
