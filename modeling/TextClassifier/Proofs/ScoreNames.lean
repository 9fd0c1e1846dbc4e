import TextClassifier.Classifier
import TextClassifier.Proofs.FiniteFloats
import TextClassifier.Proofs.RowMajorOrder
import TextClassifier.Proofs.Utf8Texts
import TextClassifier.Proofs.VocabularyTables

/-!
# Scores and the names of their classes

A score tensor gives one category for each of its elements, in row-major order. The score is the element or what it
stands for as a quantized integer, and the name is the line of the label file at its place, or the place itself where
that line is empty or absent (`categories_of_tensor`). What is no label file leaves all names to the places.
-/
namespace TextClassifier
open Json Tensor Package Text

/-! ## Elements and their scores -/

namespace Tensor

/-- The elements that a buffer of a type holds. -/
def Element.OfType : ElementType → Element → Prop
  | .float16, e | .bfloat16, e | .float32, e | .float64, e | .complex64, e | .complex128, e => ∃ x, e = .real x
  | .uint8, e => ∃ n, e = .int n ∧ 0 ≤ n ∧ n < 256
  | .int8, e => ∃ n, e = .int n ∧ -128 ≤ n ∧ n < 128
  | .int16, e | .int32, e | .int64, e => ∃ n, e = .int n
  | .bool, e => ∃ b, e = .bool b

theorem Element.convert_ofType (e : Element) (type : ElementType) : Element.OfType type (e.convert type) := by
  cases type with
  | uint8 =>
    refine ⟨_, rfl, ?_⟩
    show 0 ≤ e.toInt 64 % 256 ∧ e.toInt 64 % 256 < 256
    omega
  | int8 =>
    refine ⟨_, rfl, ?_⟩
    show -128 ≤ (e.toInt 32).bmod 256 ∧ (e.toInt 32).bmod 256 < 128
    have low := Int.le_bmod (x := e.toInt 32) (m := 256) (by decide)
    have high := Int.bmod_lt (x := e.toInt 32) (m := 256) (by decide)
    omega
  | _ => exact ⟨_, rfl⟩

/-- A buffer whose elements are of its type. -/
def Buffer.Typed (b : Buffer) : Prop := ∀ e ∈ b.elements, Element.OfType b.type e

/-- Each element stands at the index of its place. -/
theorem Buffer.exists_index {b : Buffer} {i : Nat} {e : Element} (here : b.elements[i]? = some e) :
    ∃ index, (indices b.shape)[i]? = some index ∧ b.toValue.at? index = some (Buffer.cell e) := by
  have cells := congrArg (·[i]?) (Grid.map_at?_indices Buffer.cell b.grid)
  simp only [List.getElem?_map] at cells
  have shown : (b.grid.cells[i]?).map (fun x => some (Buffer.cell x)) = some (some (Buffer.cell e)) := by
    rw [show b.grid.cells[i]? = some e from here, Option.map_some]
  rw [shown] at cells
  exact Option.map_eq_some_iff.mp cells

/-- Converted elements are of the type of their buffer. -/
theorem Buffer.typed_ofGrid (type : ElementType) (g : Grid Element) : (Buffer.ofGrid type g).Typed := by
  intro e listed
  obtain ⟨source, -, rfl⟩ := List.mem_map.mp listed
  exact source.convert_ofType type

end Tensor

namespace Category

/-- A tensor of numbers with a fraction. -/
def IsReal (s : Slot) : Prop := s.buffer.type = .float16 ∨ s.buffer.type = .float32 ∨ s.buffer.type = .float64

/-- A tensor of integers of eight bits that stand for other numbers. -/
def IsQuantized (s : Slot) (q : Quantization) : Prop :=
  (s.buffer.type = .uint8 ∨ s.buffer.type = .int8) ∧ s.quantization = some q

/-- The score that an element of a tensor gives. -/
inductive ScoreOf (s : Slot) : Element → Float → Prop
  | itself {x : Float} (real : IsReal s) : ScoreOf s (.real x) x
  | quantized {q : Quantization} {n : Int} (quantized : IsQuantized s q) :
    ScoreOf s (.int n) (q.scale * Number.ofInt .binary64 (n - q.zeroPoint))

/-- A tensor of a type that scores are made of. -/
def IsScored (s : Slot) : Prop := IsReal s ∨ ∃ q, IsQuantized s q

/-- The scores of a tensor, element by element. -/
def Scores (s : Slot) (score : Element → Float) : Prop :=
  scores s = .ok (s.buffer.elements.map score) ∧ ∀ e ∈ s.buffer.elements, ScoreOf s e (score e)

theorem scores_real {s : Slot} (real : IsReal s) (typed : s.buffer.Typed) : Scores s plainScore := by
  constructor
  · unfold scores
    rcases real with type | type | type <;> rw [type]
  · intro e listed
    have held := typed e listed
    obtain ⟨x, rfl⟩ : ∃ x, e = .real x := by rcases real with type | type | type <;> exact (type ▸ held :)
    exact .itself real

theorem int_of_quantized {s : Slot} {q : Quantization} (quantized : IsQuantized s q) {e : Element}
    (held : Element.OfType s.buffer.type e) : ∃ n, e = .int n ∧ -128 ≤ n ∧ n < 256 := by
  obtain ⟨type | type, -⟩ := quantized
  · rw [type] at held
    obtain ⟨n, rfl, low, high⟩ := held
    exact ⟨n, rfl, by omega, high⟩
  · rw [type] at held
    obtain ⟨n, rfl, low, high⟩ := held
    exact ⟨n, rfl, low, by omega⟩

/-- An integer of eight bits stays far below the limit of 64 bits when the zero point is taken away. -/
theorem dequantized_ok {q : Quantization} {n : Int} (narrow : -128 ≤ n ∧ n < 256) (zero : q.zeroPoint.natAbs < 2 ^ 63) :
    dequantized q (.int n) = .ok (q.scale * Number.ofInt .binary64 (n - q.zeroPoint)) := by
  have small : (n - q.zeroPoint).natAbs < 2 ^ 64 := by omega
  show (Value.floatOfInt (n - q.zeroPoint) >>= fun x => Except.ok (q.scale * x)) = _
  rw [Value.floatOfInt_ok small]
  rfl

/-- The scores of a quantized tensor are its integers without the zero point, times the scale. -/
theorem scores_quantized {s : Slot} {q : Quantization} (quantized : IsQuantized s q) (typed : s.buffer.Typed)
    (zero : q.zeroPoint.natAbs < 2 ^ 63) :
    Scores s fun e => q.scale * Number.ofInt .binary64 (e.toInt 64 - q.zeroPoint) := by
  constructor
  · have told : s.buffer.elements.mapM (dequantized q) =
        .ok (s.buffer.elements.map fun e => q.scale * Number.ofInt .binary64 (e.toInt 64 - q.zeroPoint)) := by
      apply mapM_ok
      intro e listed
      obtain ⟨n, rfl, narrow⟩ := int_of_quantized quantized (typed e listed)
      exact dequantized_ok narrow zero
    obtain ⟨type | type, known⟩ := quantized
    · simp only [scores, type, known, told]
      rfl
    · simp only [scores, type, known, told]
      rfl
  · intro e listed
    obtain ⟨n, rfl, -⟩ := int_of_quantized quantized (typed e listed)
    exact .quantized quantized

theorem exists_scores {s : Slot} (scored : IsScored s) (typed : s.buffer.Typed)
    (zero : ∀ q, s.quantization = some q → q.zeroPoint.natAbs < 2 ^ 63) : ∃ score, Scores s score := by
  obtain real | ⟨q, quantized⟩ := scored
  · exact ⟨_, scores_real real typed⟩
  · exact ⟨_, scores_quantized quantized typed (zero q quantized.2)⟩

theorem scores_unscored {s : Slot} (unscored : ¬ IsScored s) :
    scores s = .error (.output (.scoreType s.name s.buffer.type)) := by
  unfold scores
  split
  · next type => exact absurd (.inl (.inr (.inl type))) unscored
  · next type => exact absurd (.inl (.inr (.inr type))) unscored
  · next type => exact absurd (.inl (.inl type)) unscored
  · next q type known => exact absurd (.inr ⟨q, .inl type, known⟩) unscored
  · next q type known => exact absurd (.inr ⟨q, .inr type, known⟩) unscored
  · rfl

/-! ## Names -/

/-- The name of the class at a place: the line there, or the place where that line is empty or absent. -/
inductive NamedAt (lines : List String) (i : Nat) : String → Prop
  | line {line : String} (found : lines[i]? = some line) (filled : line ≠ "") : NamedAt lines i line
  | place (blank : ∀ line, lines[i]? = some line → line = "") : NamedAt lines i (toString i)

/-- The name of a class is its line, or else its index. -/
theorem namedAt_nameOf (lines : List String) (i : Nat) : NamedAt lines i (nameOf lines i) := by
  unfold nameOf
  cases found : lines[i]? with
  | none =>
    refine .place ?_
    intro line there
    rw [found] at there
    cases there
  | some line =>
    by_cases empty : line = ""
    · subst empty
      refine .place ?_
      intro line there
      rw [found] at there
      exact (Option.some.inj there).symm
    · have filled : line.isEmpty = false := by simpa [String.isEmpty_iff] using empty
      simp only [filled]
      exact .line found empty

theorem getElem?_ofScores (labels : List String) (scored : List Float) (i : Nat) :
    (ofScores labels scored)[i]? = (scored[i]?).map fun score => ⟨nameOf labels i, score⟩ := by
  rw [ofScores, List.getElem?_map, List.getElem?_zipIdx, Option.map_map, Nat.zero_add]
  rfl

end Category

namespace Classifier
variable {p : Package} {o : Options}

/-- The bytes of a file by a name of any kind: only names that are texts can have some. -/
def bytesUnder? (p : Package) : Value → Option Bytes
  | .str name => p.file? name
  | _ => none

/-- The bytes of the label file that the metadata declares, if the package has it. -/
def labelBytes? (p : Package) (o : Options) : Option Bytes :=
  (labelFile? p.metadata o.outputIndex).bind fun file => bytesUnder? p file.name

/-- The lines of a label file: there are none if it is missing or no UTF-8. -/
inductive LabelLines : Option Bytes → List String → Prop
  | lines (text : List Char) : LabelLines (some (Utf8.encode text)) (Vocabulary.fileLines text)
  | missing : LabelLines none []
  | undecodable {bytes : Bytes} (other : ∀ text, bytes ≠ Utf8.encode text) : LabelLines (some bytes) []

/-- The bytes of a label file determine its lines. -/
theorem LabelLines.unique {content : Option Bytes} {lines others : List String} (first : LabelLines content lines)
    (second : LabelLines content others) : lines = others := by
  cases first with
  | lines text =>
    generalize same : some (Utf8.encode text) = content at second
    cases second with
    | lines other =>
      have decoded : Utf8.decode (Utf8.encode text) = .ok text := Utf8.decode_eq_ok_iff.mpr rfl
      rw [Option.some.inj same, Utf8.decode_eq_ok_iff.mpr rfl] at decoded
      rw [Except.ok.inj decoded]
    | missing => cases same
    | undecodable other => exact absurd (Option.some.inj same).symm (other text)
  | missing =>
    cases second with
    | missing => rfl
  | undecodable other =>
    generalize same : some _ = content at second
    cases second with
    | lines text => exact absurd (Option.some.inj same) (other text)
    | missing => cases same
    | undecodable _ => rfl

theorem contentsOf_scalar {name : Value} (scalar : name.isScalar = true) :
    contentsOf p name = .ok (bytesUnder? p name) := by
  cases name with
  | array items => cases scalar
  | object members => cases scalar
  | _ => rfl

theorem labelLines_of_labels (bytes : Bytes) :
    LabelLines (some bytes) ((Package.labels bytes).toOption.getD []) := by
  unfold Package.labels
  cases decoded : Utf8.decode bytes with
  | ok text =>
    obtain rfl := Utf8.decode_eq_ok_iff.mp decoded
    have lines := LabelLines.lines text
    rw [Vocabulary.fileLines_eq] at lines
    exact lines
  | error malformed =>
    refine .undecodable ?_
    intro text written
    rw [Utf8.decode_eq_ok_iff.mpr written] at decoded
    cases decoded

theorem result_loadLabels_found {file : AssociatedFile} {bytes : Bytes}
    (declared : labelFile? p.metadata o.outputIndex = some file) (contents : contentsOf p file.name = .ok (some bytes)) :
    (loadLabels p o).result = .ok (Package.labels bytes).toOption := by
  simp only [loadLabels, declared, Attempt.result_bind, Attempt.result_of]
  refine bind_ok_iff.mpr ⟨some bytes, mapError_ok_iff.mpr contents, ?_⟩
  cases read : Package.labels bytes <;> simp only [read] <;> rfl

/-- Labels are loaded whatever the label file holds, as long as its name can be looked up. -/
theorem loadLabels_ok (scalar : ∀ file, labelFile? p.metadata o.outputIndex = some file → file.name.isScalar = true) :
    ∃ labels, (loadLabels p o).result = .ok labels ∧ LabelLines (labelBytes? p o) (labels.getD []) := by
  cases declared : labelFile? p.metadata o.outputIndex with
  | none =>
    refine ⟨none, ?_, ?_⟩
    · rw [loadLabels, declared]
      rfl
    · rw [labelBytes?, declared]
      exact .missing
  | some file =>
    have contents : contentsOf p file.name = .ok (labelBytes? p o) := by
      rw [contentsOf_scalar (scalar file declared), labelBytes?, declared]
      rfl
    cases content : labelBytes? p o with
    | none =>
      rw [content] at contents
      refine ⟨none, ?_, .missing⟩
      simp only [loadLabels, declared, contents, Attempt.result_bind, Attempt.result_of]
      rfl
    | some bytes =>
      rw [content] at contents
      exact ⟨_, result_loadLabels_found declared contents, labelLines_of_labels bytes⟩

end Classifier

/-! ## Categories -/

/-- What holds of the category at a place for the element at the index of that place. -/
structure Category.Of (s : Slot) (lines : List String) (i : Nat) (index : List Nat) (c : Category) : Prop where
  element : ∃ e, s.buffer.toValue.at? index = some (Buffer.cell e) ∧ Category.ScoreOf s e c.score
  name : Category.NamedAt lines i c.name

open Classifier Category in
/-- A tensor whose type scores are made of gives a category for each index under its shape, in row-major order: its
score is that of the element at the index, and its name is that of its place. A tensor of any other type gives none.
The label file may hold anything. -/
theorem categories_of_tensor (p : Package) (o : Options) (s : Slot)
    (scalar : ∀ file, labelFile? p.metadata o.outputIndex = some file → file.name.isScalar = true)
    (typed : s.buffer.Typed) (zero : ∀ q, s.quantization = some q → q.zeroPoint.natAbs < 2 ^ 63) :
    ∃ labels lines, (loadLabels p o).result = .ok labels ∧ LabelLines (labelBytes? p o) lines ∧
      (IsScored s → ∃ categories, Category.ofTensor labels s = .ok categories ∧
        categories.length = cellCount s.buffer.shape ∧
        ∀ i c, categories[i]? = some c → ∃ index, (indices s.buffer.shape)[i]? = some index ∧ Category.Of s lines i index c) ∧
      (¬ IsScored s → Category.ofTensor labels s = .error (.output (.scoreType s.name s.buffer.type)) ∧
        (OutputError.scoreType s.name s.buffer.type).code = .invalidOutputTensorType) := by
  obtain ⟨labels, loaded, lines⟩ := loadLabels_ok scalar
  refine ⟨labels, labels.getD [], loaded, lines, ?_, ?_⟩
  · intro scored
    obtain ⟨score, told, each⟩ := exists_scores scored typed zero
    refine ⟨ofScores (labels.getD []) (s.buffer.elements.map score), ?_, ?_, ?_⟩
    · rw [Category.ofTensor, told]
      rfl
    · rw [ofScores, List.length_map, List.length_zipIdx, List.length_map]
      exact s.buffer.grid.length_cells
    · intro i c listed
      rw [getElem?_ofScores, List.getElem?_map, Option.map_map, Option.map_eq_some_iff] at listed
      obtain ⟨e, here, rfl⟩ := listed
      obtain ⟨index, placed, found⟩ := Buffer.exists_index here
      exact ⟨index, placed, ⟨e, found, each e (List.mem_of_getElem? here)⟩, namedAt_nameOf _ i⟩
  · intro unscored
    refine ⟨?_, rfl⟩
    rw [Category.ofTensor, scores_unscored unscored]
    rfl

/-- A package with a label file of three lines, one of them empty. -/
def labelSample : Package where
  metadata := { outputs := [{ name := .str "scores", files := [⟨.str "labels.txt", .str "TENSOR_AXIS_LABELS", .str ""⟩] }] }
  graph := .null
  model := []
  files := [("labels.txt", Utf8.encode "good\r\n\nbad\n".toList)]

def scoreSample : Slot where
  name := .str "scores"
  type := .int8
  shape := [2, 2]
  signature := [2, 2]
  quantization := some ⟨0.5, 3⟩
  buffer := .ofGrid .int8 ⟨[2, 2], [.int 1, .int (-128), .int 127, .int 3], rfl⟩

/-- The second class has an empty line and the fourth has none. -/
theorem categories_of_tensor_sample : ∃ labels categories, (Classifier.loadLabels labelSample {}).result = .ok labels ∧
    Category.ofTensor labels scoreSample = .ok categories ∧ categories.length = 4 ∧
    (∀ c, categories[1]? = some c → c.name = "1") ∧ ∀ c, categories[2]? = some c → c.name = "bad" := by
  have scalar : ∀ file, Classifier.labelFile? labelSample.metadata ({} : Options).outputIndex = some file →
      file.name.isScalar = true := by
    intro file declared
    cases declared
    rfl
  obtain ⟨labels, lines, loaded, read, scored, -⟩ := categories_of_tensor labelSample {} scoreSample scalar
    (Buffer.typed_ofGrid _ _) (by rintro q known; cases known; decide)
  obtain ⟨categories, made, count, each⟩ := scored (.inr ⟨_, .inr rfl, rfl⟩)
  have known : lines = ["good", "", "bad"] := read.unique (.lines "good\r\n\nbad\n".toList)
  subst known
  refine ⟨labels, categories, loaded, made, count, ?_, ?_⟩
  · intro c second
    obtain ⟨index, -, -, named⟩ := each 1 c second
    generalize c.name = name at named
    cases named with
    | line found filled => cases found; exact absurd rfl filled
    | place => rfl
  · intro c third
    obtain ⟨index, -, -, named⟩ := each 2 c third
    generalize c.name = name at named
    cases named with
    | line found => cases found; rfl
    | place blank => exact absurd (blank "bad" rfl) (by decide)

end TextClassifier
