import TextClassifier.Proofs.EscapingErrors
import TextClassifier.Proofs.GraphInputs
import TextClassifier.Proofs.IntegerFloats
import TextClassifier.Proofs.MarkerPlaces

/-!
# Ids as the graph sees them

An input keeps the ids of a text if its type has room for them. Types of 32 and 64 bits have room for every id
of a vocabulary with fewer than 2 ^ 24 lines, also those of numbers with a fraction; a type of 8 bits wraps
larger ids around (`DeclaredType.kept`). Construction accepts it all the same, so that the graph can see other
ids than the text has (`Classifier.graph_sees`, `Classifier.graph_sees_wrapped`). The mask and the segment ids
always get through.
-/
namespace TextClassifier
open Json Tensor Package

/-! ## Elements as integers -/

namespace Tensor

/-- An element stands for an integer. -/
def Element.Is : Element → Int → Prop
  | .int m, n => m = n
  | .real x, n => Number.equalsInt x n = true
  | .bool b, n => (if b then 1 else 0) = n

/-- The elements of a buffer stand for the integers of an array. -/
def Buffer.Shows (b : Buffer) (values : List Int) : Prop := List.Forall₂ Element.Is b.elements values

namespace DeclaredType

/-- What a type keeps of an id: types of 8 bits wrap it around. -/
def kept : DeclaredType → Int → Int
  | .uint8, n => n % 256
  | .int8, n => n.bmod 256
  | _, n => n

/-- The least id that a type has no room for; for wide types this is where ids need not end up exact. -/
def idLimit : DeclaredType → Int
  | .uint8 => 256
  | .int8 => 128
  | _ => 2 ^ 24

theorem idLimit_cases (type : DeclaredType) :
    128 ≤ type.idLimit ∧ (type ≠ .uint8 → type ≠ .int8 → type.idLimit = 2 ^ 24) := by
  cases type <;> decide

end DeclaredType

/-- An id becomes what its type keeps of it. -/
theorem Element.is_convert_iff {n : Nat} (small : n < 2 ^ 24) (type : DeclaredType) (m : Int) :
    ((Element.int n).convert type.element).Is m ↔ type.kept n = m := by
  have held : isInt32 n = true := (Sequence.isInt32_iff n).mpr (by omega)
  have bits : Number.wordCount 8 = 256 := by decide
  cases type with
  | int32 => rw [convert_int held (.inl rfl)]; rfl
  | int64 => rw [convert_int held (.inr rfl)]; rfl
  | float32 => exact Number.equalsInt_ofInt_iff (f := .binary32) (by decide) (by decide) (by decide) small
  | float64 =>
    exact Number.equalsInt_ofInt_iff (f := .binary64) (by decide) (by decide) (by decide)
      (Nat.lt_trans small (by decide))
  | uint8 =>
    show Number.wrap 8 false n = m ↔ _
    rw [Number.wrap, if_neg (by decide), bits]
    rfl
  | int8 =>
    show Number.wrap 8 true n = m ↔ _
    rw [Number.wrap, if_pos rfl, bits]
    rfl

theorem DeclaredType.kept_eq_iff {n : Nat} (small : n < 2 ^ 24) (type : DeclaredType) :
    type.kept n = n ↔ (n : Int) < type.idLimit := by
  cases type with
  | uint8 => simp only [kept, idLimit]; omega
  | int8 => simp only [kept, idLimit, Int.bmod]; omega
  | int32 | int64 | float32 | float64 => simp only [kept, idLimit, true_iff]; omega

end Tensor

/-! ## Rows -/

section Rows
variable {s : Slot} {g : Grid Int} {n : Nat} {b : Buffer}

/-- A row shows what the type of its input keeps of an array. -/
theorem HoldsRow.shows_kept (holds : HoldsRow s g n b) (small : ∀ v ∈ g.cells, 0 ≤ v ∧ v < 2 ^ 24) :
    b.Shows (g.cells.map s.type.kept) := by
  rw [Buffer.Shows, holds.elements, List.forall₂_map_left_iff, List.forall₂_map_right_iff, List.forall₂_same]
  intro v listed
  obtain ⟨low, high⟩ := small v listed
  obtain ⟨k, rfl⟩ := Int.eq_ofNat_of_zero_le low
  exact (Element.is_convert_iff (by omega) s.type _).mpr rfl

/-- A row shows an array as it is if the type of its input has room for all of it, and only then. -/
theorem HoldsRow.shows_iff (holds : HoldsRow s g n b) (small : ∀ v ∈ g.cells, 0 ≤ v ∧ v < 2 ^ 24) :
    b.Shows g.cells ↔ ∀ v ∈ g.cells, v < s.type.idLimit := by
  rw [Buffer.Shows, holds.elements, List.forall₂_map_left_iff, List.forall₂_same]
  refine forall₂_congr fun v listed => ?_
  obtain ⟨low, high⟩ := small v listed
  obtain ⟨k, rfl⟩ := Int.eq_ofNat_of_zero_le low
  rw [Element.is_convert_iff (by omega), DeclaredType.kept_eq_iff (by omega)]

end Rows

/-! ## What the graph sees -/

/-- The buffer of the first input of a name is as stated, given the type of that input. -/
def AtInput (c : Classifier) (args : List Buffer) (name : String) (stated : DeclaredType → Buffer → Prop) : Prop :=
  ∃ i s b, FirstNamed c.package.metadata.inputs name i ∧ c.engine.inputs[i]? = some s ∧ args[i]? = some b ∧
    stated s.type b

/-- The graph sees the mask and the segment ids of a sequence, and what the type of the input keeps of the ids.
These are the ids unless the type has 8 bits, and even then if it has room for them. -/
structure Sees (c : Classifier) (q : Sequence) (args : List Buffer) : Prop where
  mask : AtInput c args c.options.maskName fun _ b => b.Shows q.mask.cells
  segmentIds : AtInput c args c.options.segmentIdsName fun _ b => b.Shows q.segmentIds.cells
  ids : AtInput c args c.options.idsName fun type b => b.Shows (q.ids.cells.map type.kept) ∧
    (type ≠ .uint8 → type ≠ .int8 → b.Shows q.ids.cells) ∧
    (b.Shows q.ids.cells ↔ ∀ id ∈ q.ids.cells, id < type.idLimit)

/-- There is one first input of a name, so its buffer is not at once as stated and otherwise. -/
theorem AtInput.not {c : Classifier} {args : List Buffer} {name : String} {stated other : DeclaredType → Buffer → Prop}
    (at_ : AtInput c args name stated) (excluded : ∀ s ∈ c.engine.inputs, ∀ b, stated s.type b → ¬ other s.type b) :
    ¬ AtInput c args name other := by
  obtain ⟨i, s, b, named, found, given, holds⟩ := at_
  rintro ⟨j, t, d, namedToo, foundToo, givenToo, opposite⟩
  obtain rfl := named.place_unique namedToo
  rw [found, Option.some.injEq] at foundToo
  rw [given, Option.some.injEq] at givenToo
  subst foundToo givenToo
  exact excluded s (List.mem_of_getElem? found) b holds opposite

theorem PresentedAs.atInput {c : Classifier} {args : List Buffer} {n : Nat} {name : String} {g : Grid Int}
    {stated : DeclaredType → Buffer → Prop} (presented : PresentedAs c args n name g)
    (holds : ∀ s b, HoldsRow s g n b → stated s.type b) : AtInput c args name stated := by
  obtain ⟨i, s, b, named, found, given, row⟩ := presented
  exact ⟨i, s, b, named, found, given, holds s b row⟩

namespace Classifier
variable {p : Package} {o : Options} {c : Classifier} {q : Sequence} {text : String}

/-! ## Ids of a text -/

/-- The ids of a text are numbers of lines of the vocabulary, or zero. -/
theorem ids_bounds {lines : List (List Char)} (parsed : c.tokenizer.vocabulary = .ofLines lines)
    (few : lines.length < 2 ^ 24) (pad : c.markers.padId = 0) (room : c.layout.length.HasRoom)
    (encoded : c.encode text = .ok q) : ∀ id ∈ q.ids.cells, 0 ≤ id ∧ id < 2 ^ 24 := by
  have ofToken : ∀ token, 0 ≤ Sequence.idOf c.tokenizer c.markers token ∧
      Sequence.idOf c.tokenizer c.markers token < 2 ^ 24 := by
    intro token
    rw [Sequence.idOf, Tokenizer.id?, parsed, pad]
    cases found : (Vocabulary.ofLines lines).id? token with
    | none => decide
    | some id =>
      obtain ⟨low, high⟩ := Vocabulary.id?_ofLines_bounds found
      rw [Option.getD_some]
      omega
  intro id member
  obtain ⟨i, found⟩ := List.getElem?_of_mem member
  rcases (laidOut_encode room encoded).id_cases found with
    ⟨-, rfl⟩ | ⟨-, word, -, rfl⟩ | ⟨-, rfl⟩ | ⟨-, rfl⟩
  · exact ofToken _
  · exact ofToken word
  · exact ofToken _
  · rw [pad]
    decide

/-- What is presented to a graph it sees: all of the mask and the segment ids, and of the ids what their type keeps. -/
theorem sees_of_presented {args : List Buffer} (presented : Presented c q (c.placesOf text) args)
    (room : c.layout.length.HasRoom) (encoded : c.encode text = .ok q)
    (small : ∀ id ∈ q.ids.cells, 0 ≤ id ∧ id < 2 ^ 24) : Sees c q args := by
  have laid := laidOut_encode room encoded
  have bits : ∀ g : Grid Int, (∀ v ∈ g.cells, v = 0 ∨ v = 1) → ∀ s b, HoldsRow s g (c.placesOf text) b →
      b.Shows g.cells := by
    intro g binary s b row
    rw [row.shows_iff fun v listed => by rcases binary v listed with rfl | rfl <;> decide]
    intro v listed
    have limit := (DeclaredType.idLimit_cases s.type).1
    rcases binary v listed with rfl | rfl <;> omega
  refine ⟨presented.mask.atInput (bits q.mask ?_), presented.segmentIds.atInput (bits q.segmentIds ?_),
    presented.ids.atInput fun s b row => ⟨row.shows_kept small, fun first second => ?_, row.shows_iff small⟩⟩
  · intro v listed
    rw [laid.mask] at listed
    rcases List.mem_append.mp listed with token | padding
    · exact .inr (List.eq_of_mem_replicate token)
    · exact .inl (List.eq_of_mem_replicate padding)
  · intro v listed
    rw [laid.segmentIds] at listed
    exact .inl (List.eq_of_mem_replicate listed)
  · rw [row.shows_iff small, (DeclaredType.idLimit_cases s.type).2 first second]
    exact fun id listed => (small id listed).2

/-! ## Classifications -/

/-- A classifier is new and has resolved the inputs of its names, however it was made. -/
theorem Built.resolved (built : Built p o c) : c.package = p ∧ c.options = o ∧
    InputLayout.Resolved o p.metadata.inputs c.engine.inputs c.layout := by
  cases built with
  | own made =>
    have parts := madeOf made
    exact ⟨parts.package, parts.options, parts.resolved⟩
  | around started made =>
    obtain ⟨fresh, -⟩ := Engine.fresh_ofSpecs started
    have parts := madeWith made
    obtain rfl := parts.engine
    exact ⟨parts.package, parts.options, parts.resolved fresh⟩

/-- A text gets into the engine of a used classifier as into that of a new one, if there is memory for it. -/
theorem New.feed_after (new : c.New) (encoded : c.encode text = .ok q)
    (free : c.layout.blocked (c.placesOf text) c.engine = none) (history : List String) :
    ∃ fed, feed c.layout q (c.after history).engine = ⟨.ok (), fed⟩ ∧
      fed.inputs = c.layout.load q c.engine.inputs := by
  obtain ⟨e, used, served⟩ := new.after_served history
  have places := hasPlaces_encode new.hasRoom encoded
  have unblocked := (InputLayout.blocked_congr served.memory served.inputs).trans free
  obtain ⟨fed, -⟩ := served.ready.feed_ok places (placesOf_fixed c text) unblocked
  exact ⟨_, by rw [used]; exact fed, served.load_eq q⟩

/-- There is no memory for a text in an input, whose length would have to change. -/
def Cramped (c : Classifier) (text : String) (fault : Fault) : Prop :=
  c.layout.length = .dynamic ∧ ∃ i ∈ c.layout.places, ∃ s, c.engine.inputs[i]? = some s ∧
    Buffer.allocate c.engine.memory s.type.element [1, (c.placesOf text : Int)] = .error fault

/-- However a classifier has been used, its graph is run on a text's sequence, of which it sees the mask, the
segment ids and what the type of the input keeps of the ids, unless memory has no room for the text. -/
theorem graph_sees (built : Built p o c) (valid : o.Valid) (pad : o.padId = 0) {lines : List (List Char)}
    (parsed : c.tokenizer.vocabulary = .ofLines lines) (few : lines.length < 2 ^ 24) (history : List String)
    (text : String) :
    (∃ q fed, c.encode text = .ok q ∧ feed c.layout q (c.after history).engine = ⟨.ok (), fed⟩ ∧
      Sees c q (fed.inputs.map (·.buffer)) ∧
      ((c.after history).classify text).result = c.answer (c.engine.graph (fed.inputs.map (·.buffer)))) ∨
    ∃ fault, c.Cramped text fault ∧ ((c.after history).classify text).result = .error (.fault fault) := by
  obtain ⟨new, -⟩ := built.parts
  obtain ⟨package, options, resolved⟩ := built.resolved
  have zero : c.markers.padId = 0 := by rw [markers, options, pad]
  have held : isInt32 c.markers.padId = true := by rw [zero]; decide
  obtain ⟨q, encoded⟩ : ∃ q, c.encode text = .ok q :=
    ⟨_, Sequence.encode_eq parsed (by omega) held c.layout.length text⟩
  rw [new.classify_after history text]
  cases blocked : c.layout.blocked (c.placesOf text) c.engine with
  | some fault =>
    exact .inr ⟨fault, new.ready.blocked_eq_some_iff.mp blocked, by simp only [reply, encoded, blocked]⟩
  | none =>
    obtain ⟨fed, run, inputs⟩ := new.feed_after encoded blocked history
    have small := ids_bounds parsed few zero new.hasRoom encoded
    refine .inl ⟨q, fed, encoded, run, ?_, by simp only [reply, encoded, blocked, inputs]⟩
    rw [inputs]
    exact sees_of_presented (new.presented_load package options resolved valid encoded) new.hasRoom encoded small

/-- A vocabulary file with 128 empty lines in front of its one token. -/
def lateToken : Text.Bytes := List.replicate 128 10 ++ [97]

/-- A package whose inputs have 8 bits and whose one token has an id that these do not hold. -/
def byteSample : Package where
  metadata := {
    inputs := [⟨.str "segment_ids", .str "", []⟩, ⟨.str "ids", .str "", []⟩, ⟨.str "mask", .str "", []⟩]
    units := [sampleUnit] }
  graph := .object [
    ("inputs", .array [sampleTensor "a" "int8" [1, 4] [1, 4], sampleTensor "b" "int8" [1, 4] [1, 4],
      sampleTensor "c" "int8" [1, 4] [1, 4]]),
    ("outputs", .array [sampleTensor "probability" "float32" [1, 2] [1, 2]])]
  model := []
  files := [("vocab.txt", lateToken)]

def lateLines : List (List Char) := List.replicate 128 [] ++ [['a']]

private theorem exists_byteSample : ∃ c, (ofPackage sampleRuntime byteSample {}).result = .ok c ∧
    c.tokenizer.vocabulary = .ofLines lateLines ∧ c.layout.length = .fixed 4 ∧
    (∀ s ∈ c.engine.inputs, s.type = .int8) ∧ ∃ q, c.encode "a" = .ok q ∧ 128 ∈ q.ids.cells := by
  obtain ⟨c, made, facts⟩ := exists_ok_of_map (r := (ofPackage sampleRuntime byteSample {}).result)
    (f := fun c => (decide (c.tokenizer.vocabulary = .ofLines lateLines), decide (c.layout.length = .fixed 4),
      c.engine.inputs.all (·.type == .int8), (c.encode "a").toOption.map (·.ids.cells)))
    (y := (true, true, true, some [0, 128, 0, 0])) (by decide +kernel)
  simp only [Prod.mk.injEq, decide_eq_true_eq, List.all_eq_true, beq_iff_eq] at facts
  obtain ⟨parsed, length, types, ids⟩ := facts
  obtain ⟨q, encoded, cells⟩ := exists_ok_of_map ids
  exact ⟨c, made, parsed, length, types, q, encoded, by simp [cells]⟩

/-- A used classifier of the package. -/
theorem graph_sees_sample : ∃ c q fed, (ofPackage sampleRuntime byteSample {}).result = .ok c ∧
    c.tokenizer.vocabulary = .ofLines lateLines ∧ lateLines.length < 2 ^ 24 ∧
    feed c.layout q (c.after ["", "b a a a"]).engine = ⟨.ok (), fed⟩ ∧ Sees c q (fed.inputs.map (·.buffer)) := by
  obtain ⟨c, made, parsed, length, -⟩ := exists_byteSample
  have few : lateLines.length < 2 ^ 24 := by simp [lateLines]
  rcases graph_sees (.own made) (by decide +kernel) rfl parsed few ["", "b a a a"] "a" with
    ⟨q, fed, -, run, sees, -⟩ | ⟨fault, ⟨dynamic, -⟩, -⟩
  · exact ⟨c, q, fed, made, parsed, few, run, sees⟩
  · rw [length] at dynamic
    cases dynamic

/-- The package is accepted, and its graph does not see the id of the token. -/
theorem graph_sees_wrapped : ∃ c q fed, (ofPackage sampleRuntime byteSample {}).result = .ok c ∧
    c.tokenizer.vocabulary = .ofLines lateLines ∧ lateLines.length < 2 ^ 24 ∧ c.encode "a" = .ok q ∧
    feed c.layout q c.engine = ⟨.ok (), fed⟩ ∧
    ¬ AtInput c (fed.inputs.map (·.buffer)) c.options.idsName fun _ b => b.Shows q.ids.cells := by
  obtain ⟨c, made, parsed, length, types, q, encoded, late⟩ := exists_byteSample
  have few : lateLines.length < 2 ^ 24 := by simp [lateLines]
  have making := madeOf made
  have free : c.layout.blocked (c.placesOf "a") c.engine = none := by simp only [InputLayout.blocked, length]
  obtain ⟨fed, run, inputs⟩ := making.new.feed_after encoded free []
  have zero : c.markers.padId = 0 := by rw [markers, making.options]
  have sees := sees_of_presented (presented_load making (by decide +kernel) encoded) making.new.hasRoom encoded
    (ids_bounds parsed few zero making.new.hasRoom encoded)
  refine ⟨c, q, fed, made, parsed, few, encoded, run, ?_⟩
  rw [inputs]
  refine sees.ids.not fun s listed b holds shown => ?_
  have fits := holds.2.2.mp shown 128 late
  rw [types s listed] at fits
  exact absurd fits (by decide)

end Classifier
end TextClassifier
