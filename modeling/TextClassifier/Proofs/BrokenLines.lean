import TextClassifier.Proofs.FileLines

/-!
# Lines of texts

How a text falls into lines, at every line break, with a carriage return and the line feed behind it as one
(`Splits`). There is one way only (`Splits.unique`). It makes no difference whether carriage returns have become line
feeds before (`splits_brokenLines`).
-/
namespace TextClassifier.Text

variable {s rest line stop : List Char} {lines others : List (List Char)} {c : Char}

/-! ## Ways to split a text -/

/-- The characters that end a line: line feed, vertical tab, form feed and carriage return, the separators of files,
groups and records, next line, and the separators of lines and paragraphs. -/
def EndsLine (c : Char) : Prop :=
  0x0A ≤ c.toNat ∧ c.toNat ≤ 0x0D ∨ 0x1C ≤ c.toNat ∧ c.toNat ≤ 0x1E ∨ c.toNat ∈ [0x85, 0x2028, 0x2029]

theorem breaksLine_iff : breaksLine c = true ↔ EndsLine c := by
  simp only [breaksLine, EndsLine, List.contains_iff_mem, List.mem_cons, List.not_mem_nil, or_false]
  omega

theorem not_breaksLine (whole : ∀ c ∈ line, ¬ EndsLine c) : ∀ c ∈ line, breaksLine c = false :=
  fun c listed => Bool.eq_false_iff.mpr fun breaks => whole c listed (breaksLine_iff.mp breaks)

/-- What ends a line, before the rest of a text. -/
inductive Break : List Char → List Char → Prop
  | pair (rest : List Char) : Break ['\r', '\n'] rest
  | single {c : Char} {rest : List Char} (ends : EndsLine c) (alone : c = '\r' → rest.head? ≠ some '\n') :
    Break [c] rest

/-- A text falls into lines. A last line that nothing ends is not empty. -/
inductive Splits : List Char → List (List Char) → Prop
  | none : Splits [] []
  | last {line : List Char} (filled : line ≠ []) (whole : ∀ c ∈ line, ¬ EndsLine c) : Splits line [line]
  | line {line stop rest : List Char} {lines : List (List Char)} (whole : ∀ c ∈ line, ¬ EndsLine c)
      (ends : Break stop rest) (more : Splits rest lines) : Splits (line ++ (stop ++ rest)) (line :: lines)

theorem Break.cons (ends : Break stop rest) : ∃ c more, stop = c :: more ∧ EndsLine c := by
  cases ends with
  | pair => exact ⟨'\r', ['\n'], rfl, breaksLine_iff.mp rfl⟩
  | single ends => exact ⟨_, [], rfl, ends⟩

theorem takeWhile_break (whole : ∀ c ∈ line, ¬ EndsLine c) (ends : Break stop rest) :
    (line ++ (stop ++ rest)).takeWhile (!breaksLine ·) = line := by
  obtain ⟨c, more, rfl, breaks⟩ := ends.cons
  rw [List.takeWhile_append_of_pos (by simpa using not_breaksLine whole)]
  simp [breaksLine_iff.mpr breaks]

theorem Break.unique {other further : List Char} (first : Break stop rest) (second : Break other further)
    (same : stop ++ rest = other ++ further) : stop = other ∧ rest = further := by
  cases first with
  | pair =>
    cases second with
    | pair => exact ⟨rfl, by simpa using same⟩
    | single ends alone =>
      simp only [List.cons_append, List.nil_append, List.cons.injEq] at same
      exact absurd (same.2 ▸ rfl) (alone same.1.symm)
  | single ends alone =>
    cases second with
    | pair =>
      simp only [List.cons_append, List.nil_append, List.cons.injEq] at same
      exact absurd (same.2 ▸ rfl) (alone same.1)
    | single => simpa using same

theorem Splits.inversion (splits : Splits s lines) : (s = [] ∧ lines = []) ∨
    (s ≠ [] ∧ (∀ c ∈ s, ¬ EndsLine c) ∧ lines = [s]) ∨
    ∃ line stop rest more, s = line ++ (stop ++ rest) ∧ (∀ c ∈ line, ¬ EndsLine c) ∧ Break stop rest ∧
      Splits rest more ∧ lines = line :: more := by
  cases splits with
  | none => exact .inl ⟨rfl, rfl⟩
  | last filled whole => exact .inr (.inl ⟨filled, whole, rfl⟩)
  | line whole ends more => exact .inr (.inr ⟨_, _, _, _, rfl, whole, ends, more, rfl⟩)

/-- A line that something ends holds a line break. -/
theorem Break.exists_mem (ends : Break stop rest) (line : List Char) :
    ∃ c ∈ line ++ (stop ++ rest), EndsLine c := by
  obtain ⟨c, more, rfl, breaks⟩ := ends.cons
  exact ⟨c, by simp, breaks⟩

/-- A text falls into lines in one way only. -/
theorem Splits.unique (first : Splits s lines) (second : Splits s others) : lines = others := by
  induction first generalizing others with
  | none =>
    rcases second.inversion with ⟨-, rfl⟩ | ⟨filled, -⟩ | ⟨line, stop, rest, more, split, -, ends, -⟩
    · rfl
    · exact absurd rfl filled
    · obtain ⟨c, listed, -⟩ := ends.exists_mem line
      rw [← split] at listed
      cases listed
  | last filled whole =>
    rcases second.inversion with ⟨empty, -⟩ | ⟨-, -, rfl⟩ | ⟨line, stop, rest, more, split, -, ends, -⟩
    · exact absurd empty filled
    · rfl
    · obtain ⟨c, listed, breaks⟩ := ends.exists_mem line
      exact absurd breaks (whole c (split ▸ listed))
  | @line line stop rest lines whole ends more ih =>
    obtain ⟨c, listed, breaks⟩ := ends.exists_mem line
    rcases second.inversion with ⟨empty, -⟩ | ⟨-, unbroken, -⟩ | ⟨other, stop', rest', more', split, whole', ends', further, rfl⟩
    · rw [empty] at listed
      cases listed
    · exact absurd breaks (unbroken c listed)
    · obtain rfl : line = other := by
        rw [← takeWhile_break whole ends, split, takeWhile_break whole' ends']
      obtain ⟨-, rfl⟩ := ends.unique ends' (List.append_cancel_left split)
      rw [ih further]

/-! ## Lines behind a line break -/

/-- A text is one line, or something ends its first line. -/
theorem exists_break (s : List Char) : (∀ c ∈ s, ¬ EndsLine c) ∨
    ∃ line stop rest, s = line ++ (stop ++ rest) ∧ (∀ c ∈ line, ¬ EndsLine c) ∧ Break stop rest := by
  induction s with
  | nil => exact .inl (List.forall_mem_nil _)
  | cons c s ih =>
    by_cases ends : EndsLine c
    · by_cases paired : c = '\r' ∧ s.head? = some '\n'
      · obtain ⟨rfl, first⟩ := paired
        obtain ⟨rest, rfl⟩ := List.head?_eq_some_iff.mp first
        exact .inr ⟨[], ['\r', '\n'], rest, rfl, List.forall_mem_nil _, .pair rest⟩
      · exact .inr ⟨[], [c], s, rfl, List.forall_mem_nil _, .single ends fun same first => paired ⟨same, first⟩⟩
    · rcases ih with whole | ⟨line, stop, rest, rfl, whole, stops⟩
      · exact .inl (List.forall_mem_cons.mpr ⟨ends, whole⟩)
      · exact .inr ⟨c :: line, stop, rest, rfl, List.forall_mem_cons.mpr ⟨ends, whole⟩, stops⟩

theorem unifyNewlines_cons (other : c ≠ '\r') (s : List Char) : unifyNewlines (c :: s) = c :: unifyNewlines s := by
  rw [unifyNewlines]
  · exact fun _ same _ => other same
  · exact other

theorem unifyNewlines_append (whole : ∀ c ∈ line, ¬ EndsLine c) (s : List Char) :
    unifyNewlines (line ++ s) = line ++ unifyNewlines s := by
  induction line with
  | nil => rfl
  | cons c line ih =>
    obtain ⟨first, others⟩ := List.forall_mem_cons.mp whole
    have other : c ≠ '\r' := fun same => first (breaksLine_iff.mp (same ▸ rfl))
    rw [List.cons_append, unifyNewlines_cons other, ih others]
    rfl

/-- What ends a line becomes one character that ends it. -/
theorem unifyNewlines_break (ends : Break stop rest) :
    ∃ c, EndsLine c ∧ unifyNewlines (stop ++ rest) = c :: unifyNewlines rest := by
  cases ends with
  | pair => exact ⟨'\n', breaksLine_iff.mp rfl, rfl⟩
  | @single c _ ends alone =>
    by_cases same : c = '\r'
    · subst same
      refine ⟨'\n', breaksLine_iff.mp rfl, ?_⟩
      rw [List.singleton_append, unifyNewlines]
      intro rest' behind
      exact alone rfl (behind ▸ rfl)
    · exact ⟨c, ends, unifyNewlines_cons same rest⟩

theorem dropFinalEmpty_cons {ps : List (List Char)} (more : ps ≠ []) :
    dropFinalEmpty (line :: ps) = line :: dropFinalEmpty ps := by
  obtain ⟨p, rest, rfl⟩ := List.exists_cons_of_ne_nil more
  simp only [dropFinalEmpty, List.getLast?_cons_cons, List.dropLast_cons_cons]
  split
  · rfl
  · rfl

theorem brokenLines_break (whole : ∀ c ∈ line, ¬ EndsLine c) (ends : Break stop rest) :
    brokenLines (unifyNewlines (line ++ (stop ++ rest))) = line :: brokenLines (unifyNewlines rest) := by
  obtain ⟨c, breaks, unified⟩ := unifyNewlines_break ends
  rw [unifyNewlines_append whole, unified, brokenLines, pieces_eq_splitOnP,
    List.splitOnP_append_cons_of_forall_mem (not_breaksLine whole) _ (breaksLine_iff.mpr breaks), ← pieces_eq_splitOnP,
    dropFinalEmpty_cons (pieces_ne_nil _ _)]
  rfl

/-- The lines of a text are those that it falls into. -/
theorem splits_brokenLines (s : List Char) : Splits s (brokenLines (unifyNewlines s)) := by
  generalize size : s.length = n
  induction n using Nat.strongRecOn generalizing s with
  | ind n ih =>
    rcases exists_break s with whole | ⟨line, stop, rest, rfl, whole, ends⟩
    · have unified : unifyNewlines s = s := by
        simpa [unifyNewlines] using unifyNewlines_append whole []
      rw [unified, brokenLines, pieces_eq_splitOnP, List.splitOnP_eq_singleton (not_breaksLine whole)]
      cases s with
      | nil => exact .none
      | cons c s => exact .last (List.cons_ne_nil c s) whole
    · have shorter : rest.length < n := by
        obtain ⟨c, more, rfl, -⟩ := ends.cons
        rw [← size]
        simp only [List.length_append, List.length_cons]
        omega
      rw [brokenLines_break whole ends]
      exact .line whole ends (ih rest.length shorter rest rfl)

end TextClassifier.Text
