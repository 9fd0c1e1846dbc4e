import TextClassifier.Proofs.VocabularyIds
import TextClassifier.Sequence

/-!
# The layout of sequences

What stands at each place of a sequence: the id of the first marker, the ids of the subwords that
are kept, the id of the second marker and padding. The arrays are described place by place
(`LaidOut`), and also as what writing the tokens one after another leaves (`writeTokens`), where no
write falls outside of them.
-/
namespace TextClassifier
open Tensor

namespace Length

/-- The number of subwords that are kept of `n`. -/
def kept (n : Nat) : Length → Nat
  | .fixed length => min n (length - least)
  | .dynamic => n

/-- The markers have room. -/
def HasRoom : Length → Prop
  | .fixed length => least ≤ length
  | .dynamic => True

theorem budget_eq {length : Length} (room : length.HasRoom) (n : Nat) :
    length.budget n = length.kept n + 2 := by
  cases length with
  | fixed places =>
    have enough : 2 ≤ places := room
    simp only [budget, kept, least]
    omega
  | dynamic => rfl

theorem kept_le {length : Length} (n : Nat) : length.kept n ≤ n := by
  cases length with
  | fixed places => exact Nat.min_le_left _ _
  | dynamic => exact Nat.le_refl n

theorem kept_add_two_le {length : Length} (room : length.HasRoom) (n : Nat) :
    length.kept n + 2 ≤ length.places n := by
  cases length with
  | fixed places =>
    have enough : 2 ≤ places := room
    simp only [kept, Length.places, least]
    omega
  | dynamic => exact Nat.le_refl _

/-- What makes a length unusable: none is given where one must be, the markers have no room, or no
array is that long. -/
inductive Refused : ShapeMode → Option Int → Fault → Prop
  | absent : Refused .fixed none (.stated "Static sequences need max_seq_len >= 2, got None")
  | short {n : Int} : n < 2 → Refused .fixed (some n)
      (.stated ("Static sequences need max_seq_len >= 2, got " ++ Number.intText n))
  | long {n : Int} : (tooMany : Int) ≤ n → Refused .fixed (some n) .unusable

private theorem ofMode_some (n : Int) : ofMode .fixed (some n) =
    if n < 2 then .error (.stated ("Static sequences need max_seq_len >= 2, got " ++ Number.intText n))
    else if (tooMany : Int) ≤ n then .error .unusable
    else .ok (.fixed n.toNat) := rfl

theorem ofMode_fixed {n : Nat} (enough : 2 ≤ n) (few : n < tooMany) :
    ofMode .fixed (some n) = .ok (.fixed n) := by
  rw [ofMode_some, if_neg (by omega), if_neg (by omega), Int.toNat_natCast]

/-- A length that is not refused leaves the markers room. -/
theorem hasRoom_of_ofMode {mode : ShapeMode} {number : Option Int} {length : Length}
    (allowed : ofMode mode number = .ok length) : length.HasRoom := by
  cases mode with
  | dynamic =>
    cases allowed
    trivial
  | fixed =>
    cases number with
    | none => cases allowed
    | some n =>
      rw [ofMode_some] at allowed
      split at allowed
      · cases allowed
      split at allowed
      · cases allowed
      cases allowed
      show 2 ≤ n.toNat
      omega

/-- A length is refused for a fault exactly if one of the rules says so. -/
theorem ofMode_error_iff (mode : ShapeMode) (number : Option Int) (fault : Fault) :
    ofMode mode number = .error fault ↔ Refused mode number fault := by
  constructor
  · intro refused
    cases mode with
    | dynamic => simp [ofMode] at refused
    | fixed =>
      cases number with
      | none =>
        cases refused
        exact .absent
      | some n =>
        rw [ofMode_some] at refused
        by_cases short : n < 2
        · rw [if_pos short] at refused
          cases refused
          exact .short short
        · rw [if_neg short] at refused
          by_cases long : (tooMany : Int) ≤ n
          · rw [if_pos long] at refused
            cases refused
            exact .long long
          · simp [long] at refused
  · intro refused
    cases refused with
    | absent => rfl
    | short short => rw [ofMode_some, if_pos short]
    | long long =>
      have enough : (2 : Int) ≤ tooMany := by decide
      rw [ofMode_some, if_neg (by omega), if_pos long]

end Length

theorem Tokenizer.vocabulary_ofPattern {pattern : Json.Value} {vocabulary : Vocabulary} {t : Tokenizer}
    (made : ofPattern pattern vocabulary = .ok t) : t.vocabulary = vocabulary := by
  unfold ofPattern at made
  split at made
  · cases made
    rfl
  · cases made

namespace Sequence
variable {t : Tokenizer} {m : Markers}

/-! ## Padding -/

theorem padded_nil (places : Nat) (fill : Int) : padded places fill [] = List.replicate places fill := rfl

theorem length_padded {places : Nat} {values : List Int} (fill : Int) (fits : values.length ≤ places) :
    (padded places fill values).length = places := by
  simp only [padded, List.length_append, List.length_replicate]
  omega

theorem getElem?_padded_left {i places : Nat} {values : List Int} (fill : Int) (inside : i < values.length) :
    (padded places fill values)[i]? = values[i]? := by
  rw [padded, List.getElem?_append_left inside]

theorem getElem?_padded_right {i places : Nat} {values : List Int} (fill : Int)
    (behind : values.length ≤ i) (inside : i < places) : (padded places fill values)[i]? = some fill := by
  rw [padded, List.getElem?_append_right behind, List.getElem?_replicate, if_pos (by omega)]

/-- The place behind the values takes another value. -/
theorem set_padded {places : Nat} (fill value : Int) (values : List Int) (more : values.length < places) :
    (padded places fill values).set values.length value = padded places fill (values ++ [value]) := by
  obtain ⟨missing, count⟩ : ∃ k, places - values.length = k + 1 :=
    ⟨places - values.length - 1, by omega⟩
  have left : places - (values ++ [value]).length = missing := by
    simp only [List.length_append, List.length_singleton]
    omega
  rw [padded, padded, count, left, List.replicate_succ, List.set_append_right _ _ (Nat.le_refl _),
    Nat.sub_self, List.set_cons_zero, List.append_assoc, List.singleton_append]

/-- Padding counts as values, as long as there is any. -/
theorem padded_append_fill {places : Nat} (fill : Int) (values : List Int) (more : values.length < places) :
    padded places fill (values ++ [fill]) = padded places fill values := by
  obtain ⟨missing, count⟩ : ∃ k, places - values.length = k + 1 :=
    ⟨places - values.length - 1, by omega⟩
  have left : places - (values ++ [fill]).length = missing := by
    simp only [List.length_append, List.length_singleton]
    omega
  rw [padded, padded, count, left, List.replicate_succ, List.append_assoc, List.singleton_append]

/-! ## Writing tokens -/

/-- Tokens written one after another from a place on, each into the ids, if it has one, and into the
mask. A place outside of the arrays cannot be written. -/
def writeTokens (t : Tokenizer) : Nat → List String → List Int → List Int → Except Fault (List Int × List Int)
  | _, [], ids, mask => .ok (ids, mask)
  | i, token :: rest, ids, mask =>
    if i < ids.length ∧ i < mask.length then
      writeTokens t (i + 1) rest (match t.id? token with
        | some id => ids.set i id
        | none => ids) (mask.set i 1)
    else .error .outOfBounds

private theorem write_id {places : Nat} (token : String) (values : List Int) (more : values.length < places) :
    (match t.id? token with
      | some id => (padded places m.padId values).set values.length id
      | none => padded places m.padId values) =
    padded places m.padId (values ++ [idOf t m token]) := by
  unfold idOf
  cases t.id? token with
  | some id => exact set_padded m.padId id values more
  | none => exact (padded_append_fill m.padId values more).symm

/-- Tokens are written one behind the other, over the padding. -/
theorem writeTokens_padded (places : Nat) (rest : List String) : ∀ done : List String,
    done.length + rest.length ≤ places →
    writeTokens t done.length rest (padded places m.padId (done.map (idOf t m)))
        (padded places 0 (done.map fun _ => 1)) =
      .ok (padded places m.padId ((done ++ rest).map (idOf t m)),
        padded places 0 ((done ++ rest).map fun _ => 1)) := by
  induction rest with
  | nil =>
    intro done _
    rw [writeTokens, List.append_nil]
  | cons token rest ih =>
    intro done fits
    simp only [List.length_cons] at fits
    have inside : done.length < (padded places m.padId (done.map (idOf t m))).length ∧
        done.length < (padded places 0 (done.map fun _ => 1)).length := by
      rw [length_padded _ (by simp; omega), length_padded _ (by simp; omega)]
      omega
    have more : ∀ f : String → Int, (done.map f).length < places := by
      intro f
      rw [List.length_map]
      omega
    have ids := write_id (t := t) (m := m) token (done.map (idOf t m)) (more _)
    have mask := set_padded 0 1 (done.map fun _ => 1) (more _)
    rw [List.length_map] at ids mask
    have tail := ih (done ++ [token]) (by simp; omega)
    rw [List.length_append, List.length_singleton, List.map_append, List.map_append,
      List.append_assoc] at tail
    rw [writeTokens, if_pos inside, ids, mask]
    exact tail

/-! ## Every place -/

/-- What stands where in the sequence of subwords: `kept` of them between the markers, in arrays of
`places`. -/
structure LaidOut (t : Tokenizer) (m : Markers) (subwords : List String) (kept places : Nat)
    (s : Sequence) : Prop where
  shapes : s.ids.shape = [places] ∧ s.mask.shape = [places] ∧ s.segmentIds.shape = [places]
  room : kept + 2 ≤ places
  classification : s.ids.cells[0]? = some (idOf t m m.classification)
  subword : ∀ i < kept, ∃ token, subwords[i]? = some token ∧ s.ids.cells[i + 1]? = some (idOf t m token)
  separator : s.ids.cells[kept + 1]? = some (idOf t m m.separator)
  padding : ∀ i, kept + 2 ≤ i → i < places → s.ids.cells[i]? = some m.padId
  mask : s.mask.cells = List.replicate (kept + 2) 1 ++ List.replicate (places - (kept + 2)) 0
  segmentIds : s.segmentIds.cells = List.replicate places 0
  tokenCount : s.tokenCount = (kept + 2 : Nat)
  written : writeTokens t 0 (m.classification :: subwords.take kept ++ [m.separator])
    (List.replicate places m.padId) (List.replicate places 0) = .ok (s.ids.cells, s.mask.cells)

private theorem tokens_eq {length : Length} (room : length.HasRoom) (subwords : List String) :
    tokens m length subwords =
      m.classification :: subwords.take (length.kept subwords.length) ++ [m.separator] := by
  rw [tokens, Length.budget_eq room, Nat.add_sub_cancel]

private theorem length_kept (length : Length) (subwords : List String) :
    (subwords.take (length.kept subwords.length)).length = length.kept subwords.length := by
  rw [List.length_take]
  exact Nat.min_eq_left (Length.kept_le _)

private theorem foldl_add_replicate (value : Int) (count : Nat) : ∀ start : Int,
    (List.replicate count value).foldl (· + ·) start = start + count * value := by
  induction count with
  | zero => intro start; simp
  | succ count ih =>
    intro start
    rw [List.replicate_succ, List.foldl_cons, ih]
    have step : ((count + 1 : Nat) : Int) * value = count * value + value := by
      rw [Int.natCast_add, Int.add_mul]
      simp
    omega

private theorem ids_token (length : Length) (subwords : List String) {i : Nat}
    (inside : i < (tokens m length subwords).length) :
    (ofSubwords t m length subwords).ids.cells[i]? = (tokens m length subwords)[i]?.map (idOf t m) := by
  have mapped : i < ((tokens m length subwords).map (idOf t m)).length := by simpa using inside
  rw [← List.getElem?_map]
  exact getElem?_padded_left m.padId mapped

/-- The sequence of subwords is laid out: markers around those that are kept, and padding behind. -/
theorem laidOut_ofSubwords (length : Length) (room : length.HasRoom) (subwords : List String) :
    LaidOut t m subwords (length.kept subwords.length) (length.places subwords.length)
      (ofSubwords t m length subwords) := by
  have fits := Length.kept_add_two_le room subwords.length
  have taken := length_kept length subwords
  have listed := tokens_eq (m := m) room subwords
  have at_place := fun i => ids_token (t := t) (m := m) length subwords (i := i)
  have filled : (ofSubwords t m length subwords).mask.cells =
      padded (length.places subwords.length) 0 ((tokens m length subwords).map fun _ => 1) := rfl
  have counted : (tokens m length subwords).length = length.kept subwords.length + 2 := by
    rw [listed, List.length_append, List.length_cons, taken, List.length_singleton]
  have mask : (ofSubwords t m length subwords).mask.cells =
      List.replicate (length.kept subwords.length + 2) 1 ++
        List.replicate (length.places subwords.length - (length.kept subwords.length + 2)) 0 := by
    rw [filled, padded, List.map_const', List.length_replicate, counted]
  rw [counted] at at_place
  refine ⟨⟨?_, ?_, ?_⟩, fits, ?_, ?_, ?_, ?_, mask, rfl, ?_, ?_⟩
  · show [_] = [_]
    rw [length_padded _ (by simpa [counted] using fits)]
  · show [_] = [_]
    rw [length_padded _ (by simpa [counted] using fits)]
  · show [_] = [_]
    rw [List.length_replicate]
  · rw [at_place 0 (by omega), listed]
    rfl
  · intro i inside
    have kept : i < subwords.length := Nat.lt_of_lt_of_le inside (Length.kept_le _)
    refine ⟨subwords[i], List.getElem?_eq_getElem kept, ?_⟩
    rw [at_place (i + 1) (by omega), listed, List.cons_append, List.getElem?_cons_succ,
      List.getElem?_append_left (by omega), List.getElem?_take_of_lt inside,
      List.getElem?_eq_getElem kept]
    rfl
  · rw [at_place _ (by omega), listed, List.cons_append, List.getElem?_cons_succ,
      List.getElem?_append_right (by omega), taken, Nat.sub_self]
    rfl
  · intro i behind inside
    exact getElem?_padded_right m.padId (by simpa [counted] using behind) inside
  · rw [tokenCount, mask, List.foldl_append, foldl_add_replicate, foldl_add_replicate]
    omega
  · have written := writeTokens_padded (t := t) (m := m) (length.places subwords.length)
      (tokens m length subwords) [] (by simpa [counted] using fits)
    rw [List.map_nil, List.map_nil, padded_nil, padded_nil, List.nil_append] at written
    rw [← listed]
    exact written

/-! ## Ids of 32 bits -/

/-- An encoded text is the sequence of its subwords, with ids of 32 bits. -/
theorem encode_ok {length : Length} {text : String} {q : Sequence} (encoded : encode t m length text = .ok q) :
    q = ofSubwords t m length (subwords t text) ∧ ∀ id ∈ q.ids.cells, isInt32 id = true := by
  simp only [encode] at encoded
  split at encoded
  · rename_i held
    cases encoded
    rw [Bool.and_eq_true, List.all_eq_true] at held
    exact ⟨rfl, held.2⟩
  · cases encoded

theorem isInt32_iff (n : Int) : isInt32 n = true ↔ -0x80000000 ≤ n ∧ n < 0x80000000 := by
  have limit : ((Number.signedLimit 32 : Nat) : Int) = 0x80000000 := by decide
  simp only [isInt32, Number.fitsSigned, Bool.and_eq_true, decide_eq_true_eq, limit]

/-- With padding of 32 bits, only the id of a token in the vocabulary can have more. -/
theorem encode_error_iff (pad : isInt32 m.padId = true) {length : Length} {text : String} {fault : Fault} :
    encode t m length text = .error fault ↔ fault = .tooLarge ∧
      ∃ token ∈ tokens m length (subwords t text), ∃ id, t.id? token = some id ∧ isInt32 id = false := by
  have held : (ofSubwords t m length (subwords t text)).ids.cells.all isInt32 = true ↔
      ∀ token ∈ tokens m length (subwords t text), ∀ id, t.id? token = some id → isInt32 id = true := by
    rw [List.all_eq_true]
    constructor
    · intro all token listed id known
      have taken := all (idOf t m token) (List.mem_append_left _ (List.mem_map_of_mem listed))
      rwa [idOf, known] at taken
    · intro each id member
      rcases List.mem_append.mp member with taken | padding
      · obtain ⟨token, listed, rfl⟩ := List.mem_map.mp taken
        cases known : t.id? token with
        | none => rwa [idOf, known]
        | some id =>
          rw [idOf, known]
          exact each token listed id known
      · rw [List.eq_of_mem_replicate padding]
        exact pad
  cases all : (ofSubwords t m length (subwords t text)).ids.cells.all isInt32 with
  | true =>
    have run : encode t m length text = .ok (ofSubwords t m length (subwords t text)) := by
      simp only [encode, pad, all, Bool.and_true, if_true]
    rw [run]
    refine ⟨fun failed => (by cases failed), ?_⟩
    rintro ⟨-, token, listed, id, known, wide⟩
    rw [held.mp all token listed id known] at wide
    cases wide
  | false =>
    have run : encode t m length text = .error .tooLarge := by
      simp only [encode, pad, all, Bool.and_false, Bool.false_eq_true, if_false]
    have wide : ¬ ∀ token ∈ tokens m length (subwords t text), ∀ id, t.id? token = some id → isInt32 id = true := by
      rw [← held, all]
      exact Bool.false_ne_true
    push Not at wide
    obtain ⟨token, listed, id, known, wide⟩ := wide
    rw [run]
    refine ⟨fun failed => ?_, fun ⟨cause, _⟩ => congrArg Except.error cause.symm⟩
    exact ⟨(Except.error.inj failed).symm, token, listed, id, known, Bool.eq_false_iff.mpr wide⟩

section
variable {lines : List (List Char)} (parsed : t.vocabulary = .ofLines lines)
  (few : lines.length < 0x80000000)
include parsed few

/-- Short vocabularies have ids of 32 bits. -/
theorem isInt32_of_id? {token : String} {id : Int} (known : t.id? token = some id) : isInt32 id = true := by
  have numbered : (Vocabulary.ofLines lines).id? token = some id := by
    rw [← parsed]
    exact known
  obtain ⟨low, high⟩ := Vocabulary.id?_ofLines_bounds numbered
  rw [isInt32_iff]
  omega

/-- Every text has a sequence. -/
theorem encode_eq (pad : isInt32 m.padId = true) (length : Length) (text : String) :
    encode t m length text = .ok (ofSubwords t m length (subwords t text)) := by
  cases encoded : encode t m length text with
  | ok q => rw [(encode_ok encoded).1]
  | error fault =>
    obtain ⟨-, token, -, id, known, wide⟩ := (encode_error_iff pad).mp encoded
    rw [isInt32_of_id? parsed few known] at wide
    cases wide

end

/-- Every text is laid out between its markers, as long as it takes with a dynamic length and in as
many places as are asked for with a fixed one. A length is refused if it is missing, leaves the
markers no room or is one that no array has, and nothing else fails. -/
theorem ofText_laidOut {lines : List (List Char)} (parsed : t.vocabulary = .ofLines lines)
    (few : lines.length < 0x80000000) (pad : isInt32 m.padId = true) (text : String) :
    (∀ number, ∃ s, ofText t m .dynamic number text = .ok s ∧
      LaidOut t m (subwords t text) (subwords t text).length ((subwords t text).length + 2) s) ∧
    (∀ places : Nat, 2 ≤ places → places < Length.tooMany →
      ∃ s, ofText t m .fixed (some places) text = .ok s ∧
        LaidOut t m (subwords t text) (min (subwords t text).length (places - 2)) places s) ∧
    ∀ mode number fault, ofText t m mode number text = .error fault ↔ Length.Refused mode number fault := by
  have built := encode_eq parsed few pad
  refine ⟨?_, ?_, ?_⟩
  · intro number
    have laid := laidOut_ofSubwords (t := t) (m := m) .dynamic trivial (subwords t text)
    exact ⟨_, built .dynamic text, laid⟩
  · intro places enough few
    have laid := laidOut_ofSubwords (t := t) (m := m) (.fixed places) enough (subwords t text)
    refine ⟨_, ?_, laid⟩
    rw [ofText, Length.ofMode_fixed enough few]
    exact built (.fixed places) text
  · intro mode number fault
    rw [← Length.ofMode_error_iff]
    cases made : Length.ofMode mode number with
    | error cause => simp [ofText, made, bind, Except.bind]
    | ok length => simp [ofText, made, bind, Except.bind, built]

/-- A text that is cut to fit: three places leave one of its two words between the markers. -/
theorem ofText_laidOut_cut : ∃ t, Tokenizer.ofPattern (.str " ") (.ofLines [['a'], ['b']]) = .ok t ∧
    ∃ s, ofText t ⟨"[CLS]", "b", -1⟩ .fixed (some 3) "A b" = .ok s ∧
      LaidOut t ⟨"[CLS]", "b", -1⟩ (subwords t "A b") (min (subwords t "A b").length 1) 3 s := by
  obtain ⟨t, made⟩ := exists_ok (r := Tokenizer.ofPattern (.str " ") (.ofLines [['a'], ['b']])) (by decide +kernel)
  refine ⟨t, made, ?_⟩
  exact (ofText_laidOut (m := ⟨"[CLS]", "b", -1⟩) (Tokenizer.vocabulary_ofPattern made) (by decide)
    (by decide) "A b").2.1 3 (by decide) (by decide)

/-- No array has that many places, although the markers had room in it. -/
theorem ofText_unaddressable : ∃ t,
    Tokenizer.ofPattern (.str " ") (.ofLines [['a'], "[CLS]".toList, "[SEP]".toList]) = .ok t ∧
    2 ≤ 0x2000000000000000 ∧
    ofText t ⟨"[CLS]", "[SEP]", 0⟩ .fixed (some 0x2000000000000000) "a" = .error .unusable := by
  obtain ⟨t, made⟩ := exists_ok
    (r := Tokenizer.ofPattern (.str " ") (.ofLines [['a'], "[CLS]".toList, "[SEP]".toList])) (by decide +kernel)
  exact ⟨t, made, by decide, rfl⟩

end Sequence
end TextClassifier
