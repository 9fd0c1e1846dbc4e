import TextClassifier.Proofs.VocabularyTables

/-!
# Vocabularies as lines

A vocabulary whose ids are not negative has a line for each of them, and every token is put into one
(`exists_toLines`), as long as there is memory for the lines.
-/
namespace TextClassifier.Vocabulary

variable {v : Vocabulary} {memory : Option Nat} {lines : Array String} {token : String} {id : Int}

theorem place_ok (natural : 0 ≤ id) (inside : id < lines.size) :
    place lines token id = .ok (lines.setIfInBounds id.toNat token) := by
  have positive : ¬ id < 0 := Int.not_lt.mpr natural
  simp [place, positive, natural, inside]

/-- Tokens whose ids are places of lines can all be placed. -/
theorem foldlM_place {entries : List (String × Int)} {lines : Array String}
    (inside : ∀ e ∈ entries, 0 ≤ e.2 ∧ e.2 < lines.size) :
    ∃ placed, entries.foldlM (fun lines (token, id) => place lines token id) lines = .ok placed ∧
      placed.size = lines.size := by
  induction entries generalizing lines with
  | nil => exact ⟨lines, rfl, rfl⟩
  | cons e entries ih =>
    obtain ⟨token, id⟩ := e
    obtain ⟨here, later⟩ := List.forall_mem_cons.mp inside
    have size : (lines.setIfInBounds id.toNat token).size = lines.size := Array.size_setIfInBounds
    obtain ⟨placed, rest, same⟩ := ih (size.symm ▸ later)
    refine ⟨placed, ?_, same.trans size⟩
    rw [List.foldlM_cons]
    exact bind_ok_iff.mpr ⟨_, place_ok here.1 here.2, rest⟩

theorem lt_lineCount {e : String × Int} (listed : e ∈ v.entries) : e.2 < v.lineCount := by
  have member : e.2 ∈ v.entries.map (·.2) := List.mem_map_of_mem listed
  rw [lineCount]
  cases greatest : (v.entries.map (·.2)).max? with
  | none =>
    rw [List.max?_eq_none_iff.mp greatest] at member
    cases member
  | some most =>
    have below : e.2 ≤ most := (List.max?_eq_some_iff.mp greatest).2 e.2 member
    dsimp only
    omega

theorem natural_ofLines (lines : List (List Char)) : ∀ e ∈ (ofLines lines).entries, 0 ≤ e.2 := by
  rintro ⟨token, id⟩ listed
  exact (id?_ofLines_bounds (mem_entries_iff.mp listed)).1

/-- There is memory for the lines of a vocabulary. -/
structure HasRoom (memory : Option Nat) (v : Vocabulary) : Prop where
  word : 8 * v.lineCount < 0x8000000000000000
  memory : ∀ limit ∈ memory, 8 * v.lineCount < limit

/-- With memory for the lines, a vocabulary of natural ids has them. -/
theorem exists_toLines (natural : ∀ e ∈ v.entries, 0 ≤ e.2) (room : v.HasRoom memory) :
    ∃ lines, v.toLines memory = .ok lines ∧ lines.length = v.lineCount := by
  have count : Number.fitsSigned 64 v.lineCount = true := Number.fitsSigned_natCast (by have := room.word; omega)
  have bytes : Number.fitsSigned 64 (8 * v.lineCount) = true := by
    exact_mod_cast Number.fitsSigned_natCast room.word
  have free : memory.any (· ≤ 8 * v.lineCount) = false := by
    cases limited : memory with
    | none => rfl
    | some limit =>
      have enough := room.memory limit limited
      simpa using enough
  have inside : ∀ e ∈ v.entries, 0 ≤ e.2 ∧ e.2 < (Array.replicate v.lineCount "").size := by
    intro e listed
    rw [Array.size_replicate]
    exact ⟨natural e listed, lt_lineCount listed⟩
  obtain ⟨placed, written, size⟩ := foldlM_place inside
  refine ⟨placed.toList, ?_, ?_⟩
  · rw [toLines, count, bytes, free, written]
    rfl
  · rw [Array.length_toList, size, Array.size_replicate]

end TextClassifier.Vocabulary
