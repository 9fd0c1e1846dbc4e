import Mathlib
import TextClassifier.Proofs.ExportedPackage
import TextClassifier.Proofs.GraphInputs

/-!
# One model with a fixed and with a dynamic length

A text that fits a fixed length has the same sequence as with a dynamic length, extended by padding
(`encode_fits`), and one that does not fit keeps its first places and ends with the separator (`encode_cut`).
Two classifiers of one model that is exported both ways therefore agree on all texts that fit
(`classify_regimes`), as long as the graph does not see the padding.
-/
namespace TextClassifier
open Json Tensor Package

/-! ## Sequences -/

namespace Sequence
variable {t : Tokenizer} {m : Markers} {places : Nat} {subwords : List String} {text : String} {q w : Sequence}

/-- A sequence with as many more places of zeros in all of its arrays. -/
def extended (more : Nat) (q : Sequence) : Sequence :=
  ⟨.ofList (q.ids.cells ++ List.replicate more 0), .ofList (q.mask.cells ++ List.replicate more 0),
    .ofList (q.segmentIds.cells ++ List.replicate more 0)⟩

/-- A sequence keeps the first places of another one, all of them tokens, and ends with the separator. -/
structure CutOf (t : Tokenizer) (m : Markers) (places : Nat) (w q : Sequence) : Prop where
  ids : q.ids.cells = w.ids.cells.take (places - 1) ++ [idOf t m m.separator]
  mask : q.mask.cells = List.replicate places 1
  segmentIds : q.segmentIds.cells = List.replicate places 0

theorem padded_eq {fill : Int} {values : List Int} (full : values.length = places) :
    padded places fill values = values := by
  rw [padded, full, Nat.sub_self, List.replicate_zero, List.append_nil]

private theorem tokens_dynamic (m : Markers) (subwords : List String) :
    tokens m .dynamic subwords = m.classification :: subwords ++ [m.separator] := by
  rw [tokens, Length.budget, Nat.add_sub_cancel, List.take_length]

private theorem length_dynamic (m : Markers) (subwords : List String) :
    (tokens m .dynamic subwords).length = subwords.length + 2 := by
  rw [tokens_dynamic]
  simp

/-- With a dynamic length nothing is padded. -/
theorem cells_dynamic (t : Tokenizer) (m : Markers) (subwords : List String) :
    (ofSubwords t m .dynamic subwords).ids.cells = (tokens m .dynamic subwords).map (idOf t m) ∧
      (ofSubwords t m .dynamic subwords).mask.cells = (tokens m .dynamic subwords).map (fun _ => 1) ∧
      (ofSubwords t m .dynamic subwords).segmentIds.cells = List.replicate (subwords.length + 2) 0 := by
  refine ⟨padded_eq ?_, padded_eq ?_, rfl⟩
  · rw [List.length_map, length_dynamic]
    rfl
  · rw [List.length_map, length_dynamic]
    rfl

/-- Where there is room, a fixed length only extends a sequence. -/
theorem ofSubwords_fits (pad : m.padId = 0) (fits : subwords.length + 2 ≤ places) :
    ofSubwords t m (.fixed places) subwords =
      (ofSubwords t m .dynamic subwords).extended (places - (subwords.length + 2)) := by
  obtain ⟨ids, mask, segmentIds⟩ := cells_dynamic t m subwords
  have same : tokens m (.fixed places) subwords = tokens m .dynamic subwords := by
    rw [tokens, tokens, Length.budget, Length.budget, Nat.min_eq_right fits]
  have padding : List.replicate places (0 : Int) =
      List.replicate (subwords.length + 2) 0 ++ List.replicate (places - (subwords.length + 2)) 0 := by
    rw [List.replicate_append_replicate, Nat.add_sub_cancel' fits]
  rw [extended, ids, mask, segmentIds, ofSubwords, same, pad]
  simp only [Length.places, padded, List.length_map, length_dynamic, padding]

/-- Where there is none, a fixed length cuts a sequence in front of the last marker. -/
theorem ofSubwords_cut (room : 2 ≤ places) (long : places < subwords.length + 2) :
    CutOf t m places (ofSubwords t m .dynamic subwords) (ofSubwords t m (.fixed places) subwords) := by
  have cut : tokens m (.fixed places) subwords = (tokens m .dynamic subwords).take (places - 1) ++ [m.separator] := by
    obtain ⟨kept, rfl⟩ : ∃ kept, places = kept + 2 := ⟨places - 2, by omega⟩
    have fewer : kept ≤ subwords.length := by omega
    rw [tokens_dynamic, tokens, Length.budget, Nat.min_eq_left (by omega), Nat.add_sub_cancel]
    show _ = (m.classification :: (subwords ++ [m.separator])).take (kept + 1) ++ _
    rw [List.take_succ_cons, List.take_append_of_le_length fewer]
  have counted : (tokens m (.fixed places) subwords).length = places := by
    rw [cut, List.length_append, List.length_take, length_dynamic, List.length_singleton]
    omega
  obtain ⟨ids, -, -⟩ := cells_dynamic t m subwords
  refine ⟨?_, ?_, rfl⟩
  · show padded places m.padId ((tokens m (.fixed places) subwords).map (idOf t m)) = _
    rw [padded_eq (by rw [List.length_map, counted]), ids, cut, List.map_append, List.map_take]
    rfl
  · show padded places 0 ((tokens m (.fixed places) subwords).map fun _ => 1) = _
    rw [padded_eq (by rw [List.length_map, counted]), List.map_const', counted]

/-- A text that fits has the same sequence with both lengths, up to padding, or none. -/
theorem encode_fits (pad : m.padId = 0) (fits : (Sequence.subwords t text).length + 2 ≤ places) :
    encode t m (.fixed places) text =
      (encode t m .dynamic text).map (extended (places - ((Sequence.subwords t text).length + 2))) := by
  have zero : isInt32 0 = true := by decide
  rw [encode, encode, ofSubwords_fits pad fits]
  simp only [extended, Grid.cells_ofList, List.all_append, List.all_replicate, zero, pad]
  by_cases held : (ofSubwords t m .dynamic (Sequence.subwords t text)).ids.cells.all isInt32 = true
  · simp [held, Except.map, extended]
  · simp [held, Except.map]

/-- A text that does not fit has the cut sequence. -/
theorem encode_cut (pad : m.padId = 0) (room : 2 ≤ places) (long : places < (Sequence.subwords t text).length + 2)
    (encoded : encode t m .dynamic text = .ok w) :
    ∃ q, encode t m (.fixed places) text = .ok q ∧ CutOf t m places w q := by
  obtain ⟨rfl, held⟩ := encode_ok encoded
  have cut := ofSubwords_cut (t := t) (m := m) room long
  refine ⟨_, ?_, cut⟩
  have zero : isInt32 m.padId = true := by
    rw [pad]
    decide
  have all : (ofSubwords t m (.fixed places) (Sequence.subwords t text)).ids.cells.all isInt32 = true := by
    rw [List.all_eq_true, cut.ids]
    intro id member
    rcases List.mem_append.mp member with taken | last
    · exact held id (List.mem_of_mem_take taken)
    · -- The separator stands at the end of the longer sequence, too.
      apply held id
      rw [(cells_dynamic t m _).1, tokens_dynamic, List.map_append]
      exact List.mem_append_right _ last
  simp [encode, zero, all]

end Sequence

/-! ## Rows -/

/-- Integers in one row, converted to a type. -/
def Tensor.Buffer.row (type : ElementType) (values : List Int) : Buffer :=
  .ofGrid type (Grid.ofList (values.map Element.int)).row

/-- The three arrays of a sequence as rows of a type. -/
def Sequence.rows (type : ElementType) (q : Sequence) : List Buffer :=
  [.row type q.ids.cells, .row type q.mask.cells, .row type q.segmentIds.cells]

/-- The result of a graph for three rows of integers does not change when zeros are put behind them. -/
def Graph.IgnoresPadding (graph : Graph) : Prop :=
  ∀ (q : Sequence) (n more : Nat), q.HasPlaces n → graph ((q.extended more).rows .int32) = graph (q.rows .int32)

theorem Sequence.rows_extended_zero (type : ElementType) (q : Sequence) : (q.extended 0).rows type = q.rows type := by
  simp only [rows, extended, List.replicate_zero, List.append_nil, Grid.cells_ofList]

theorem Graph.extended_eq {graph : Graph} {q : Sequence} {n more : Nat} (places : q.HasPlaces n)
    (blind : more = 0 ∨ graph.IgnoresPadding) : graph ((q.extended more).rows .int32) = graph (q.rows .int32) := by
  rcases blind with rfl | blind
  · rw [Sequence.rows_extended_zero]
  · exact blind q n more places

/-- Where there is memory for a row, there is memory for a shorter one. -/
theorem Tensor.Buffer.allocate_shorter {memory : Option Nat} {type : ElementType} {n k : Nat} {b : Buffer}
    (made : allocate memory type [1, (n : Int)] = .ok b) (fits : k ≤ n) :
    ∃ b, allocate memory type [1, (k : Int)] = .ok b := by
  obtain ⟨words, -, -, room, -⟩ := allocate_ok_iff.mp made
  have wide := (Number.fitsSigned_64_iff _).mp (words n (by simp))
  refine ⟨_, allocate_ok_iff.mpr ⟨?_, by simp, isCountable_pair (by decide) (by simp; omega), fun limit member => ?_,
    rfl⟩⟩
  · simp only [List.forall_mem_cons]
    exact ⟨by decide, Number.fitsSigned_natCast (by omega), List.forall_mem_nil _⟩
  · have bytes : byteCount type [1, k] ≤ byteCount type [1, n] := by
      simpa [byteCount, cellCount] using Nat.mul_le_mul_right type.bytes fits
    exact Nat.lt_of_le_of_lt (by simpa using bytes) (room limit member)

namespace Classifier
variable {r : Runtime} {m : Model} {s : ExportSettings} {p q : Package} {type : DeclaredType} {c d : Classifier}
  {text : String}

/-! ## Answers -/

theorem scoreTensor_only (t : Slot) (metadata : List TensorMetadata) (name : Value) :
    Category.scoreTensor [t] metadata name = .ok t := by
  have named : (tensorNamed? [t] metadata name).getD t = t := by
    unfold tensorNamed?
    split
    · rfl
    · cases findTensor? metadata name with
      | none => rfl
      | some i => cases i <;> rfl
  rw [Category.scoreTensor, named]

/-- A run of an engine with one output. -/
theorem invoke_only {e : Engine} {t : Slot} (outputs : e.outputs = [t]) (allocated : e.allocated = true) :
    e.invoke.result = match e.produce with
      | .error cause => .error cause
      | .ok [.tensor b] => .ok [t.setResult b]
      | .ok [.other] => .error (.fault .memberless)
      | .ok given => .error (.resource (.outputCount given.length 1)) := by
  simp only [Engine.invoke, allocated, outputs, Bool.not_true, Bool.false_eq_true, if_false]
  cases e.produce with
  | error cause => rfl
  | ok given => rcases given with _ | ⟨_ | b, _ | ⟨next, rest⟩⟩ <;> simp [Engine.setResults]

/-- Only the name and the quantization of a single output and the labels matter for an answer. -/
theorem answer_congr {t u : Slot} (first : c.engine.outputs = [t]) (second : d.engine.outputs = [u])
    (name : t.name = u.name) (quantization : t.quantization = u.quantization) (labels : c.labels = d.labels)
    (returned : Except GraphFailure Returned) : c.answer returned = d.answer returned := by
  have interpreted : ∀ b : Buffer, c.interpret [t.setResult b] = d.interpret [u.setResult b] := by
    intro b
    have scores : Category.scores (t.setResult b) = Category.scores (u.setResult b) := by
      simp only [Category.scores, Slot.setResult, name, quantization]
    rw [interpret, interpret, scoreTensor_only, scoreTensor_only]
    show Category.ofTensor _ _ = Category.ofTensor _ _
    rw [Category.ofTensor, Category.ofTensor, scores, labels]
  have here := invoke_only (e := { c.engine with graph := fun _ => returned, allocated := true }) first rfl
  have there := invoke_only (e := { d.engine with graph := fun _ => returned, allocated := true }) second rfl
  have produced : Engine.produce { c.engine with graph := fun _ => returned, allocated := true } =
      Engine.produce { d.engine with graph := fun _ => returned, allocated := true } := rfl
  simp only [answer, here, there, produced]
  split
  · rfl
  · exact interpreted _
  · rfl
  · rfl

/-! ## Classifiers of exported models -/

theorem tokenizerOf_congr (files : p.files = q.files) (u : ProcessUnit) : tokenizerOf u p = tokenizerOf u q := by
  simp only [tokenizerOf, Descriptor.tokenizer, Package.file?, files]

theorem loadLabels_congr (metadata : p.metadata = q.metadata) (files : p.files = q.files) (o : Options) :
    loadLabels p o = loadLabels q o := by
  simp only [loadLabels, contentsOf, Package.file?, metadata, files]

/-- Tokenizer and labels come from metadata and files alone. -/
theorem MadeOf.alike {o : Options} (first : MadeOf r p o c) (second : MadeOf r q o d)
    (metadata : p.metadata = q.metadata) (files : p.files = q.files) :
    c.tokenizer = d.tokenizer ∧ c.labels = d.labels := by
  obtain ⟨unit, described, tokenized⟩ := first.tokenizer
  obtain ⟨other, found, made⟩ := second.tokenizer
  obtain rfl : unit = other := by
    rw [metadata, found] at described
    exact (Option.some.inj described).symm
  rw [tokenizerOf_congr files, made] at tokenized
  have labels := first.labels
  rw [loadLabels_congr metadata files, second.labels] at labels
  exact ⟨(Except.ok.inj tokenized).symm, (Except.ok.inj labels).symm⟩

/-- The inputs of an exported model hold a sequence in rows. -/
theorem buffers_load (exported : Export.Made r m s type c) (w : Sequence) :
    (c.layout.load w c.engine.inputs).map (·.buffer) = w.rows type.element := by
  obtain ⟨a, b, g, listed, each⟩ := exported.inputs
  have types : a.type = type ∧ b.type = type ∧ g.type = type := by
    refine ⟨(each a ?_).1, (each b ?_).1, (each g ?_).1⟩ <;> simp
  rw [exported.layout, listed]
  show [(a.filled (w.ids.map .int)).buffer, (b.filled (w.mask.map .int)).buffer,
    (g.filled (w.segmentIds.map .int)).buffer] = _
  simp only [Slot.filled, types]
  rfl

/-- Where an input can have a row of `n` places, a sequence of as many gets into the engine. -/
theorem blocked_eq_none (made : MadeOf r p {} c) (exported : Export.Made r m s type c) {n : Nat}
    (row : ∃ b, Buffer.allocate r.memory type.element [1, (n : Int)] = .ok b) :
    c.layout.blocked n c.engine = none := by
  apply (ready made).blocked_eq_none_of_rows
  intro _ i _ t found
  obtain ⟨a, b, g, listed, each⟩ := exported.inputs
  rw [exported.memory, (each t (listed ▸ List.mem_of_getElem? found)).1]
  exact row

/-- A text is encoded as a sequence that gets into the engine, and the result is what the graph's result
for the rows of this sequence becomes. -/
structure RunsOn (graph : Graph) (c : Classifier) (text : String) (w : Sequence) : Prop where
  encoded : c.encode text = .ok w
  fed : ∃ e, feed c.layout w c.engine = ⟨.ok (), e⟩ ∧ e.graph = graph ∧ e.inputs.map (·.buffer) = w.rows .int32
  result : (c.classify text).result = c.answer (graph (w.rows .int32))

theorem answer_after {o : Options} (made : MadeOf r p o c) (history : List String)
    (returned : Except GraphFailure Returned) : (c.after history).answer returned = c.answer returned := by
  obtain ⟨e, used, served⟩ := after_served made history
  have same := Engine.invoke_congr (e := { e with graph := fun _ => returned, allocated := true })
    (f := { c.engine with graph := fun _ => returned, allocated := true }) rfl served.outputs rfl
  rw [used]
  exact congrArg (· >>= c.interpret) same

/-- Whatever was classified before, a text that is not held back is run on. -/
theorem runsOn_after (made : MadeOf r p {} c) (exported : Export.Made r m s .int32 c) {w : Sequence}
    (encoded : c.encode text = .ok w) (free : c.layout.blocked (c.placesOf text) c.engine = none)
    (history : List String) : RunsOn c.engine.graph (c.after history) text w := by
  obtain ⟨e, used, served⟩ := after_served made history
  have places := hasPlaces_encode (hasRoom made) encoded
  have unblocked : c.layout.blocked (c.placesOf text) e = none :=
    (InputLayout.blocked_congr served.memory served.inputs).trans free
  obtain ⟨fed, -⟩ := served.ready.feed_ok places (placesOf_fixed c text) unblocked
  have loaded := (congrArg (List.map (·.buffer)) (served.load_eq w)).trans (buffers_load exported w)
  refine ⟨by rw [used]; exact encoded, ?_, ?_⟩
  · rw [used]
    exact ⟨_, fed, served.graph, loaded⟩
  · rw [classify_after made, answer_after made, reply]
    simp only [encoded, free]
    rw [buffers_load exported]
    rfl

/-- Two classifiers of one model, the first with a fixed length and the second with a dynamic one. -/
structure Twins (c d : Classifier) (places : Nat) : Prop where
  fixed : c.layout.length = .fixed places
  dynamic : d.layout.length = .dynamic
  tokenizer : c.tokenizer = d.tokenizer
  markers : c.markers = d.markers
  pad : d.markers.padId = 0
  answer : ∀ returned, c.answer returned = d.answer returned
  /-- There is memory for the longest sequence of the first, and so for all that are not longer. -/
  free : ∀ n ≤ places, c.layout.blocked n c.engine = none ∧ d.layout.blocked n d.engine = none

section
variable {places : Nat} {probe : Int} {tokens : Tokens}
  (fixed : (Export.package m tokens { s with dynamic := false, length := places }).result = .ok p)
  (dynamic : (Export.package m tokens { s with dynamic := true, length := probe }).result = .ok q)
  (first : MadeOf r p {} c) (second : MadeOf r q {} d)
include fixed dynamic first second

theorem exists_exported : ∃ type, Export.inputType s = .ok type ∧
    Export.Made r m { s with dynamic := false, length := places } type c ∧
    Export.Made r m { s with dynamic := true, length := probe } type d ∧
    p.metadata = q.metadata ∧ p.files = q.files := by
  obtain ⟨type, lines, _, packed⟩ := Export.exists_packed fixed
  obtain ⟨other, listed, _, again⟩ := Export.exists_packed dynamic
  obtain rfl : type = other := Except.ok.inj (packed.typed.symm.trans again.typed)
  obtain rfl : lines = listed := Except.ok.inj (packed.listed.symm.trans again.listed)
  refine ⟨type, packed.typed, packed.made first, again.made second, ?_, ?_⟩
  · rw [packed.holds, again.holds]
    rfl
  · rw [packed.holds, again.holds]
    rfl

/-- Both exports make classifiers that differ in the length of their sequences only. -/
theorem twins : Twins c d places := by
  obtain ⟨type, -, here, there, metadata, files⟩ := exists_exported fixed dynamic first second
  obtain ⟨tokenizer, labels⟩ := first.alike second metadata files
  obtain ⟨t, shown, name, quantization⟩ := here.output
  obtain ⟨u, exposed, other, further⟩ := there.output
  refine ⟨?_, ?_, tokenizer, ?_, ?_, ?_, ?_⟩
  · rw [here.layout]
    exact congrArg Length.fixed (Int.toNat_natCast places)
  · rw [there.layout]
    rfl
  · rw [Classifier.markers, Classifier.markers, first.options, second.options]
  · rw [Classifier.markers, second.options]
  · exact answer_congr shown exposed (name.trans other.symm) (quantization.trans further.symm) labels
  · intro n fits
    obtain ⟨a, b, g, listed, each⟩ := here.inputs
    obtain ⟨same, shape, -, fresh⟩ := each a List.mem_cons_self
    have longest := fresh.buffer
    rw [same, shape] at longest
    have row := Buffer.allocate_shorter longest fits
    exact ⟨blocked_eq_none first here row, blocked_eq_none second there row⟩

/-- Both run on what they encode: the first always, and the second where memory has room for it. -/
theorem runsOn_twins {graph : Graph} (type : s.inputType = "int32") (loaded : r.load m.bytes = .ok graph)
    (text : String) :
    (∀ v history, c.encode text = .ok v → RunsOn graph (c.after history) text v) ∧
    ∀ w past, d.encode text = .ok w →
      d.placesOf text ≤ places ∨ r.HasRoomFor (d.placesOf text) → RunsOn graph (d.after past) text w := by
  have alike := twins fixed dynamic first second
  obtain ⟨kind, typed, here, there, -, -⟩ := exists_exported fixed dynamic first second
  obtain rfl : DeclaredType.int32 = kind := by
    rw [Export.inputType, type] at typed
    exact Except.ok.inj typed
  constructor
  · intro v history encoded
    obtain rfl : graph = c.engine.graph := Except.ok.inj (loaded.symm.trans here.graph)
    refine runsOn_after first here encoded ?_ history
    rw [placesOf_fixed c text places alike.fixed]
    exact (alike.free places (Nat.le_refl _)).1
  · intro w past encoded room
    obtain rfl : graph = d.engine.graph := Except.ok.inj (loaded.symm.trans there.graph)
    refine runsOn_after second there encoded ?_ past
    rcases room with fits | enough
    · exact (alike.free _ fits).2
    · exact (ready second).blocked_eq_none there.memory fun _ => enough

end

namespace Twins
variable {places : Nat} {w : Sequence} (alike : Twins c d places)
include alike

theorem encode_fits (fits : (Sequence.subwords d.tokenizer text).length + 2 ≤ places) :
    c.encode text = (d.encode text).map
      (Sequence.extended (places - ((Sequence.subwords d.tokenizer text).length + 2))) := by
  rw [encode, encode, alike.fixed, alike.dynamic, alike.tokenizer, alike.markers]
  exact Sequence.encode_fits alike.pad fits

theorem encode_cut (room : 2 ≤ places) (long : places < (Sequence.subwords d.tokenizer text).length + 2)
    (encoded : d.encode text = .ok w) :
    ∃ v, c.encode text = .ok v ∧ Sequence.CutOf d.tokenizer d.markers places w v := by
  rw [encode, alike.dynamic] at encoded
  rw [encode, alike.fixed, alike.tokenizer, alike.markers]
  exact Sequence.encode_cut alike.pad room long encoded

theorem placesOf_dynamic (text : String) :
    d.placesOf text = (Sequence.subwords d.tokenizer text).length + 2 := by
  rw [placesOf, alike.dynamic]
  rfl

end Twins

/-- One model, exported with a fixed length and with a dynamic one, gives two classifiers that agree on
all texts that fit the fixed length, whatever each of them has classified before, if the graph ignores
padding or there is none. On a longer text the first one runs the graph on the first places of what the
second one runs it on, and on the separator behind them. -/
theorem classify_regimes {tokens : Tokens} {graph : Graph} {places : Nat} {probe : Int}
    (type : s.inputType = "int32") (room : 2 ≤ places)
    (fixed : (Export.package m tokens { s with dynamic := false, length := places }).result = .ok p)
    (dynamic : (Export.package m tokens { s with dynamic := true, length := probe }).result = .ok q)
    (loaded : r.load m.bytes = .ok graph)
    (first : (ofPackage r p {}).result = .ok c) (second : (ofPackage r q {}).result = .ok d)
    (history past : List String) (text : String) :
    ((Sequence.subwords d.tokenizer text).length + 2 ≤ places →
      (Sequence.subwords d.tokenizer text).length + 2 = places ∨ graph.IgnoresPadding →
      ((c.after history).classify text).result = ((d.after past).classify text).result) ∧
    (∀ w, d.encode text = .ok w →
      ((Sequence.subwords d.tokenizer text).length + 2 ≤ places ∨
          r.HasRoomFor ((Sequence.subwords d.tokenizer text).length + 2) →
        RunsOn graph (d.after past) text w) ∧
      ((Sequence.subwords d.tokenizer text).length + 2 ≤ places →
        RunsOn graph (c.after history) text
          (w.extended (places - ((Sequence.subwords d.tokenizer text).length + 2)))) ∧
      (places < (Sequence.subwords d.tokenizer text).length + 2 →
        ∃ v, RunsOn graph (c.after history) text v ∧ Sequence.CutOf d.tokenizer d.markers places w v)) ∧
    ∀ lines, d.tokenizer.vocabulary = .ofLines lines → lines.length < 0x80000000 →
      ∃ w, d.encode text = .ok w := by
  have here := madeOf first
  have there := madeOf second
  have alike := twins fixed dynamic here there
  obtain ⟨runs_fixed, runs_dynamic⟩ := runsOn_twins fixed dynamic here there type loaded text
  rw [alike.placesOf_dynamic] at runs_dynamic
  refine ⟨?_, ?_, ?_⟩
  · intro fits blind
    have encoded_fixed := alike.encode_fits fits
    cases encoded : d.encode text with
    | error fault =>
      rw [encoded] at encoded_fixed
      rw [classify_after here, classify_after there, reply, reply, encoded, encoded_fixed]
      rfl
    | ok w =>
      rw [encoded] at encoded_fixed
      have same := Graph.extended_eq (hasPlaces_encode (hasRoom there) encoded)
        (blind.imp_left fun full => Nat.sub_eq_zero_of_le (Nat.le_of_eq full.symm))
      rw [(runs_fixed _ history encoded_fixed).result, (runs_dynamic w past encoded (.inl fits)).result,
        answer_after here, answer_after there, alike.answer, same]
  · intro w encoded
    refine ⟨runs_dynamic w past encoded, ?_, ?_⟩
    · intro fits
      apply runs_fixed
      rw [alike.encode_fits fits, encoded]
      rfl
    · intro long
      obtain ⟨v, cut_encoded, cut⟩ := alike.encode_cut room long encoded
      exact ⟨v, runs_fixed v history cut_encoded, cut⟩
  · intro lines parsed few
    have pad : isInt32 d.markers.padId = true := by
      rw [alike.pad]
      decide
    exact ⟨_, Sequence.encode_eq parsed few pad d.layout.length text⟩

/-- A graph whose only score is the sum of the ids. -/
def sampleSum : Graph
  | ids :: _ => .ok (.tensor ⟨.float32, .ofList [.real (.ofInt (ids.elements.map (·.toInt 64)).sum)]⟩)
  | [] => .ok (.sequence [])

theorem sampleSum_ignoresPadding : sampleSum.IgnoresPadding := by
  intro w n more _
  have elements : ∀ values : List Int, (Buffer.row .int32 values).elements =
      values.map fun value => (Element.int value).convert .int32 := by
    intro values
    show (values.map Element.int).map _ = _
    rw [List.map_map]
    rfl
  have zero : ((Element.int 0).convert .int32).toInt 64 = 0 := by decide
  simp [Sequence.rows, sampleSum, Sequence.extended, elements, zero]

/-- A model that sums up ids, and the tokens of its vocabulary. -/
def sampleModel : Model := ⟨sampleSum, [], none⟩

/-- What the model is exported by, with a blank between words. -/
def sampleSettings : ExportSettings := { labels := some ["sum"], pattern := " " }

def sumRuntime : Runtime := { load := fun _ => .ok sampleSum }

/-- Two words fit into five places, and four words do not. -/
theorem classify_regimes_sample : ∃ p q c d,
    (Export.package sampleModel (.listed ["[CLS]", "[SEP]", "a", "b"])
      { sampleSettings with dynamic := false, length := 5 }).result = .ok p ∧
    (Export.package sampleModel (.listed ["[CLS]", "[SEP]", "a", "b"])
      { sampleSettings with dynamic := true }).result = .ok q ∧
    (ofPackage sumRuntime p {}).result = .ok c ∧ (ofPackage sumRuntime q {}).result = .ok d ∧
    ((c.after ["a b a b a"]).classify "b A").result = ((d.after [""]).classify "b A").result ∧
    ∃ v, RunsOn sampleSum (c.after ["b"]) "a b a b" v ∧ v.ids.cells = [0, 2, 3, 2, 1] := by
  obtain ⟨p, fixed, made⟩ := exists_ok_of_map
    (r := (Export.package sampleModel (.listed ["[CLS]", "[SEP]", "a", "b"])
      { sampleSettings with dynamic := false, length := 5 }).result)
    (f := fun p => (ofPackage sumRuntime p {}).result.isOk) (y := true) (by decide +kernel)
  obtain ⟨c, first⟩ := exists_ok made
  obtain ⟨q, dynamic, made⟩ := exists_ok_of_map
    (r := (Export.package sampleModel (.listed ["[CLS]", "[SEP]", "a", "b"])
      { sampleSettings with dynamic := true }).result)
    (f := fun q => (ofPackage sumRuntime q {}).result.toOption.map fun d =>
      (["b A", "a b a b"].map fun text => (Sequence.subwords d.tokenizer text).length,
        (d.encode "a b a b").toOption.map (·.ids.cells), Sequence.idOf d.tokenizer d.markers d.markers.separator))
    (y := some ([2, 4], some [0, 2, 3, 2, 3, 1], 1)) (by decide +kernel)
  obtain ⟨d, second, facts⟩ := exists_ok_of_map made
  simp only [List.map_cons, List.map_nil, Prod.mk.injEq, List.cons.injEq, and_true] at facts
  obtain ⟨⟨two, four⟩, encoded, separator⟩ := facts
  obtain ⟨w, encoded, cells⟩ := exists_ok_of_map encoded
  refine ⟨p, q, c, d, fixed, dynamic, first, second, ?_, ?_⟩
  · exact (classify_regimes rfl (by decide) fixed dynamic rfl first second ["a b a b a"] [""] "b A").1
      (by rw [two]; decide) (.inr sampleSum_ignoresPadding)
  · obtain ⟨-, regimes, -⟩ :=
      classify_regimes rfl (by decide) fixed dynamic rfl first second ["b"] [] "a b a b"
    obtain ⟨v, runs, cut⟩ := (regimes w encoded).2.2 (by rw [four]; decide)
    refine ⟨v, runs, ?_⟩
    rw [cut.ids, cells, separator]
    rfl

end Classifier
end TextClassifier
