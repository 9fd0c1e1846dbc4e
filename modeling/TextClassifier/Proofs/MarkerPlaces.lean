import TextClassifier.Proofs.SequenceLayout

/-!
# Where markers stand

A text cannot write a marker into its sequence. Its subwords are cut out of the text in lower case
(`mem_of_mem_subwords`), so a token with a capital letter is none of them. No two tokens of a vocabulary
file share an id (`Vocabulary.id?_ofLines_injective`), so the id of such a token is no subword's either
(`idOf_subword_ne`), unless it is the id that unknown words take.
-/
namespace TextClassifier
open Tensor

/-! ## Capital letters -/

/-- A capital letter of ASCII. -/
def Text.IsCapital (c : Char) : Prop := 'A' ≤ c ∧ c ≤ 'Z'

instance (c : Char) : Decidable (Text.IsCapital c) := inferInstanceAs (Decidable ('A' ≤ c ∧ c ≤ 'Z'))

theorem Text.isCapital_iff (c : Char) : IsCapital c ↔ 65 ≤ c.toNat ∧ c.toNat ≤ 90 := Iff.rfl

theorem Text.not_isCapital_asciiLower (c : Char) : ¬ IsCapital (asciiLower c) := by
  by_cases capital : 'A' ≤ c ∧ c ≤ 'Z'
  · obtain ⟨low, -⟩ := (isCapital_iff c).mp capital
    rw [isCapital_iff, toNat_asciiLower capital]
    omega
  · rw [asciiLower, if_neg capital]
    exact capital

/-! ## Subwords -/

namespace Tokenizer

/-- Pieces are made of the characters of their text. -/
theorem mem_of_mem_between {text : Array Char} {spans : List Pattern.Span} : ∀ {start : Nat} {piece : List Char},
    piece ∈ between text start spans → ∀ c ∈ piece, c ∈ text := by
  have extracted : ∀ first last, ∀ c ∈ (text.extract first last).toList, c ∈ text := by
    intro first last c member
    rw [Array.toList_extract, List.extract_eq_take_drop] at member
    exact Array.mem_toList_iff.mp (List.mem_of_mem_drop (List.mem_of_mem_take member))
  induction spans with
  | nil =>
    intro start piece listed
    rw [between] at listed
    split at listed
    · rw [List.mem_singleton.mp listed]
      exact extracted start text.size
    · cases listed
  | cons span rest ih =>
    intro start piece listed
    rw [between] at listed
    split at listed
    · exact ih listed
    split at listed
    · rcases List.mem_cons.mp listed with rfl | later
      · exact extracted start span.first
      · exact ih later
    · exact ih listed

theorem mem_of_mem_tokenize {t : Tokenizer} {text : List Char} {subword : String}
    (listed : subword ∈ t.tokenize text) : ∀ c ∈ subword.toList, c ∈ text := by
  obtain ⟨piece, cut, rfl⟩ := List.mem_map.mp listed
  intro c member
  rw [String.toList_ofList] at member
  simpa using mem_of_mem_between cut c member

end Tokenizer

namespace Sequence
variable {t : Tokenizer} {m : Markers} {lines : List (List Char)} {text token : String} {id : Int}

/-- Subwords have no capital letters. -/
theorem not_isCapital_of_mem_subwords {subword : String} (listed : subword ∈ subwords t text) :
    ∀ c ∈ subword.toList, ¬ Text.IsCapital c := by
  intro c member
  obtain ⟨original, -, rfl⟩ := List.mem_map.mp (Tokenizer.mem_of_mem_tokenize listed c member)
  exact Text.not_isCapital_asciiLower original

/-- The id of a token with a capital letter is no subword's, unless unknown words take it. -/
theorem idOf_subword_ne (parsed : t.vocabulary = .ofLines lines) (known : t.id? token = some id)
    (capital : ∃ c ∈ token.toList, Text.IsCapital c) (padding : id ≠ m.padId) {subword : String}
    (listed : subword ∈ subwords t text) : idOf t m subword ≠ id := by
  rw [Tokenizer.id?, parsed] at known
  rw [idOf, Tokenizer.id?, parsed]
  cases found : (Vocabulary.ofLines lines).id? subword with
  | none => exact fun same => padding same.symm
  | some other =>
    rw [Option.getD_some]
    rintro rfl
    obtain ⟨c, member, isCapital⟩ := capital
    rw [Vocabulary.id?_ofLines_injective known found] at member
    exact not_isCapital_of_mem_subwords listed c member isCapital

namespace LaidOut
variable {words : List String} {kept places : Nat} {s : Sequence}

/-- Exactly the places up to the second marker are marked as tokens. -/
theorem mask_iff (laid : LaidOut t m words kept places s) (i : Nat) :
    s.mask.cells[i]? = some 1 ↔ i ≤ kept + 1 := by
  rw [laid.mask]
  by_cases inside : i < kept + 2
  · rw [List.getElem?_append_left (by simpa using inside), List.getElem?_replicate, if_pos inside]
    simp only [true_iff]
    omega
  · rw [List.getElem?_append_right (by simpa using inside), List.getElem?_replicate]
    split <;> simp <;> omega

/-- What an id stands for: a marker, a subword that is kept, or padding. -/
theorem id_cases (laid : LaidOut t m words kept places s) {i : Nat} (found : s.ids.cells[i]? = some id) :
    i = 0 ∧ id = idOf t m m.classification ∨
    (0 < i ∧ i < kept + 1) ∧ (∃ word ∈ words, id = idOf t m word) ∨
    i = kept + 1 ∧ id = idOf t m m.separator ∨
    kept + 1 < i ∧ id = m.padId := by
  have inside : i < places := by
    obtain ⟨inside, -⟩ := List.getElem?_eq_some_iff.mp found
    rwa [s.ids.length_cells, laid.shapes.1, cellCount, cellCount, Nat.mul_one] at inside
  rcases Nat.lt_trichotomy i (kept + 1) with before | rfl | behind
  · cases i with
    | zero =>
      rw [laid.classification, Option.some.injEq] at found
      exact .inl ⟨rfl, found.symm⟩
    | succ i =>
      obtain ⟨word, listed, at_i⟩ := laid.subword i (by omega)
      rw [at_i, Option.some.injEq] at found
      exact .inr (.inl ⟨⟨by omega, before⟩, word, List.mem_of_getElem? listed, found.symm⟩)
  · rw [laid.separator, Option.some.injEq] at found
    exact .inr (.inr (.inl ⟨rfl, found.symm⟩))
  · rw [laid.padding i (by omega) inside, Option.some.injEq] at found
    exact .inr (.inr (.inr ⟨behind, found.symm⟩))

/-- A token with a capital letter only has its id at the place of a marker, unless unknown words take
it. -/
theorem marker_cases (parsed : t.vocabulary = .ofLines lines)
    (laid : LaidOut t m (subwords t text) kept places s) (known : t.id? token = some id)
    (capital : ∃ c ∈ token.toList, Text.IsCapital c) (padding : id ≠ m.padId) {i : Nat}
    (found : s.ids.cells[i]? = some id) :
    i = 0 ∧ id = idOf t m m.classification ∨ i = kept + 1 ∧ id = idOf t m m.separator := by
  rcases laid.id_cases found with first | ⟨-, word, listed, same⟩ | second | ⟨-, same⟩
  · exact .inl first
  · exact absurd same.symm (idOf_subword_ne parsed known capital padding listed)
  · exact .inr second
  · exact absurd same padding

end LaidOut

/-- The default markers, with an id for padding. -/
def Markers.default (padId : Int) : Markers :=
  ⟨Tokenizer.classificationToken, Tokenizer.separatorToken, padId⟩

/-- The ids of the default markers stand at the first place only and at the last place only that the mask
marks, unless padding has their ids too. No other token with a capital letter has its id between
them. -/
structure KeepsMarkers (t : Tokenizer) (padId : Int) (s : Sequence) (last : Nat) : Prop where
  mask : ∀ i, s.mask.cells[i]? = some 1 ↔ i ≤ last
  markers : ∀ first second, t.id? Tokenizer.classificationToken = some first →
    t.id? Tokenizer.separatorToken = some second → first ≠ padId → second ≠ padId →
    (∀ i, s.ids.cells[i]? = some first ↔ i = 0) ∧ ∀ i, s.ids.cells[i]? = some second ↔ i = last
  capitals : ∀ token id, t.id? token = some id → (∃ c ∈ token.toList, Text.IsCapital c) → id ≠ padId →
    ∀ i, 0 < i → i < last → s.ids.cells[i]? ≠ some id

/-- In a sequence that is laid out, markers stand first and last, and no capitalised token stands anywhere else. -/
theorem keepsMarkers_of_laidOut {kept places : Nat} {padId : Int} {s : Sequence}
    (parsed : t.vocabulary = .ofLines lines)
    (laid : LaidOut t (.default padId) (subwords t text) kept places s) :
    KeepsMarkers t padId s (kept + 1) := by
  refine ⟨laid.mask_iff, ?_, ?_⟩
  · intro first second first_known second_known first_used second_used
    have first_id : idOf t (.default padId) Tokenizer.classificationToken = first := by
      rw [idOf, first_known, Option.getD_some]
    have second_id : idOf t (.default padId) Tokenizer.separatorToken = second := by
      rw [idOf, second_known, Option.getD_some]
    have differ : first ≠ second := by
      rintro rfl
      rw [Tokenizer.id?, parsed] at first_known second_known
      exact absurd (Vocabulary.id?_ofLines_injective first_known second_known) (by decide)
    refine ⟨fun i => ⟨fun found => ?_, ?_⟩, fun i => ⟨fun found => ?_, ?_⟩⟩
    · rcases laid.marker_cases parsed first_known ⟨'C', by decide, by decide⟩ first_used found with
        ⟨here, -⟩ | ⟨-, same⟩
      · exact here
      · exact absurd (same.trans second_id) differ
    · rintro rfl
      exact laid.classification.trans (congrArg some first_id)
    · rcases laid.marker_cases parsed second_known ⟨'S', by decide, by decide⟩ second_used found with
        ⟨-, same⟩ | ⟨here, -⟩
      · exact absurd (same.trans first_id).symm differ
      · exact here
    · rintro rfl
      exact laid.separator.trans (congrArg some second_id)
  · intro token id known capital padding i behind before found
    rcases laid.marker_cases parsed known capital padding found with ⟨here, -⟩ | ⟨here, -⟩
    · omega
    · omega

/-- A sequence is laid out for the subwords of its text. -/
theorem laidOut_of_ofText {mode : ShapeMode} {number : Option Int} {s : Sequence}
    (built : ofText t m mode number text = .ok s) :
    ∃ kept places, LaidOut t m (subwords t text) kept places s := by
  obtain ⟨length, allowed, encoded⟩ := bind_ok_iff.mp built
  obtain ⟨rfl, -⟩ := encode_ok encoded
  exact ⟨_, _, laidOut_ofSubwords length (Length.hasRoom_of_ofMode allowed) _⟩

/-- Whatever a text spells, its sequence keeps the places of the markers. There is a sequence for every
length that is not refused, as long as all ids are integers of 32 bits. -/
theorem ofText_keepsMarkers (parsed : t.vocabulary = .ofLines lines) (padId : Int) (mode : ShapeMode)
    (number : Option Int) (text : String) :
    (∀ s, ofText t (.default padId) mode number text = .ok s → ∃ last, KeepsMarkers t padId s last) ∧
    (isInt32 padId = true → lines.length < 0x80000000 → (∀ fault, ¬ Length.Refused mode number fault) →
      ∃ s, ofText t (.default padId) mode number text = .ok s) := by
  constructor
  · intro s built
    obtain ⟨kept, places, laid⟩ := laidOut_of_ofText built
    exact ⟨kept + 1, keepsMarkers_of_laidOut parsed laid⟩
  · intro pad few allowed
    cases chosen : Length.ofMode mode number with
    | error fault => exact absurd ((Length.ofMode_error_iff mode number fault).mp chosen) (allowed fault)
    | ok length =>
      refine ⟨ofSubwords t (.default padId) length (subwords t text), ?_⟩
      rw [ofText, chosen]
      exact encode_eq parsed few pad length text

/-- A text that spells both markers, and a vocabulary that repeats one of them. -/
theorem ofText_keepsMarkers_spelled : ∃ t s,
    Tokenizer.ofPattern (.str " ") (.ofLines ["[SEP]".toList, "[CLS]".toList, "[SEP]".toList, ['a']]) = .ok t ∧
    ofText t (.default 7) .fixed (some 5) "[SEP] a [CLS] [SEP]" = .ok s ∧ s.ids.cells = [1, 7, 3, 7, 2] ∧
    ∃ last, KeepsMarkers t 7 s last := by
  obtain ⟨t, made, computed⟩ := exists_ok_of_map
    (r := Tokenizer.ofPattern (.str " ") (.ofLines ["[SEP]".toList, "[CLS]".toList, "[SEP]".toList, ['a']]))
    (f := fun t => (ofText t (.default 7) .fixed (some 5) "[SEP] a [CLS] [SEP]").toOption.map (·.ids.cells))
    (y := some [1, 7, 3, 7, 2]) (by decide +kernel)
  obtain ⟨s, built, ids⟩ := exists_ok_of_map computed
  have keeps := ofText_keepsMarkers (Tokenizer.vocabulary_ofPattern made) 7 .fixed (some 5) "[SEP] a [CLS] [SEP]"
  exact ⟨t, s, made, built, ids, keeps.1 s built⟩

end Sequence
end TextClassifier
