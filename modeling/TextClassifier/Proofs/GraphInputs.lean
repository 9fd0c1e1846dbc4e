import TextClassifier.Proofs.Reuse

/-!
# What a graph is run on

The graph of a classifier always runs on the three arrays of the text, each in the input of its name
and converted to the type of that input, and on zeros in all other inputs (`Presented`). Whatever has
been classified before, nothing fails on the way there.
-/
namespace TextClassifier
open Json Tensor Package

/-! ## Conversion -/

theorem Number.wrap_signed_of_bounds {bits : Nat} {n : Int} (low : -(wordCount bits / 2) ≤ n)
    (high : n < (wordCount bits + 1) / 2) : wrap bits true n = n := by
  rw [wrap, if_pos rfl]
  exact Int.bmod_eq_of_le low high

/-- Integers of 32 bits stay what they are in tensors of 32 and of 64 bits. -/
theorem Tensor.Element.convert_int {n : Int} (held : isInt32 n = true) {type : DeclaredType}
    (wide : type = .int32 ∨ type = .int64) : (Element.int n).convert type.element = .int n := by
  have bounds := (Sequence.isInt32_iff n).mp held
  have words : Number.wordCount 32 = 0x100000000 ∧ Number.wordCount 64 = 0x10000000000000000 := by decide
  rcases wide with rfl | rfl
  · show Element.int (Number.wrap 32 true n) = _
    rw [Number.wrap_signed_of_bounds (by rw [words.1]; omega) (by rw [words.1]; omega)]
  · show Element.int (Number.wrap 64 true n) = _
    rw [Number.wrap_signed_of_bounds (by rw [words.2]; omega) (by rw [words.2]; omega)]

/-! ## Memory for a row -/

/-- Arrays of one row can have `n` places of any type that can be declared. -/
structure Runtime.HasRoomFor (r : Runtime) (n : Nat) : Prop where
  word : n < 0x8000000000000000
  memory : ∀ limit ∈ r.memory, 8 * n < limit

theorem Tensor.Buffer.allocate_row {r : Runtime} {n : Nat} (room : r.HasRoomFor n) (type : DeclaredType) :
    allocate r.memory type.element [1, (n : Int)] = .ok (zeros type.element [1, n]) := by
  refine allocate_ok_iff.mpr ⟨?_, by simp, isCountable_pair (by decide) room.word, fun limit member => ?_, by simp⟩
  · simp only [List.forall_mem_cons]
    exact ⟨by decide, Number.fitsSigned_natCast room.word, List.forall_mem_nil _⟩
  · have width : type.element.bytes ≤ 8 := by cases type <;> decide
    have bytes : n * type.element.bytes ≤ n * 8 := Nat.mul_le_mul_left n width
    have enough := room.memory limit member
    simp [byteCount, cellCount]
    omega

theorem InputLayout.Ready.blocked_eq_none {l : InputLayout} {e : Engine} {r : Runtime} {n : Nat}
    (ready : l.Ready e) (memory : e.memory = r.memory) (room : l.mode = .dynamic → r.HasRoomFor n) :
    l.blocked n e = none := by
  apply ready.blocked_eq_none_of_rows
  intro length i _ s _
  have dynamic : l.mode = .dynamic := by simp [mode, length]
  rw [memory]
  exact ⟨_, Buffer.allocate_row (room dynamic) s.type⟩

/-! ## The inputs of the graph -/

/-- A buffer holds an array in one row of `n` places, converted to the type of a tensor. -/
structure HoldsRow (s : Slot) (g : Grid Int) (n : Nat) (b : Buffer) : Prop where
  type : b.type = s.type.element
  shape : b.shape = [1, n]
  elements : b.elements = g.cells.map fun value => (Element.int value).convert s.type.element
  same : s.type = .int32 ∨ s.type = .int64 → b.elements = g.cells.map .int

/-- The buffer of the first input of a name holds an array in one row of `n` places. -/
def PresentedAs (c : Classifier) (args : List Buffer) (n : Nat) (name : String) (g : Grid Int) : Prop :=
  ∃ i s b, FirstNamed c.package.metadata.inputs name i ∧ c.engine.inputs[i]? = some s ∧
    args[i]? = some b ∧ HoldsRow s g n b

/-- What a graph is run on: a sequence of `n` places in the inputs of its names, and zeros in all other
inputs. -/
structure Presented (c : Classifier) (q : Sequence) (n : Nat) (args : List Buffer) : Prop where
  count : args.length = c.engine.inputs.length
  ids : PresentedAs c args n c.options.idsName q.ids
  mask : PresentedAs c args n c.options.maskName q.mask
  segmentIds : PresentedAs c args n c.options.segmentIdsName q.segmentIds
  others : ∀ i s, (∀ name ∈ c.options.inputNames, ¬ FirstNamed c.package.metadata.inputs name i) →
    c.engine.inputs[i]? = some s → args[i]? = some (.zeros s.type.element (s.shape.map Int.toNat))

namespace Classifier
variable {r : Runtime} {p : Package} {o : Options} {c : Classifier} {q : Sequence} {text : String}

/-- The arrays of a sequence hold integers of 32 bits. -/
theorem isInt32_of_encode (room : c.layout.length.HasRoom) (encoded : c.encode text = .ok q) :
    (∀ v ∈ q.ids.cells, isInt32 v = true) ∧ (∀ v ∈ q.mask.cells, isInt32 v = true) ∧
      ∀ v ∈ q.segmentIds.cells, isInt32 v = true := by
  have laid := laidOut_encode room encoded
  refine ⟨(Sequence.encode_ok encoded).2, ?_, ?_⟩
  · intro v member
    rw [laid.mask] at member
    rcases List.mem_append.mp member with token | padding
    · rw [List.eq_of_mem_replicate token]
      decide
    · rw [List.eq_of_mem_replicate padding]
      decide
  · intro v member
    rw [laid.segmentIds] at member
    rw [List.eq_of_mem_replicate member]
    decide

theorem holdsRow_filled {g : Grid Int} {n : Nat} (s : Slot) (shape : g.shape = [n])
    (held : ∀ v ∈ g.cells, isInt32 v = true) : HoldsRow s g n (s.filled (g.map .int)).buffer := by
  refine ⟨rfl, ?_, ?_, ?_⟩
  · show [1, (g.map Element.int).size] = _
    rw [Grid.size_map, Grid.size_eq_of_shape shape]
  · show (g.cells.map Element.int).map _ = _
    rw [List.map_map]
    rfl
  · intro wide
    show (g.cells.map Element.int).map _ = _
    rw [List.map_map]
    exact List.map_congr_left fun v member => Element.convert_int (held v member) wide

theorem presentedAs_load (package : c.package = p)
    (resolved : InputLayout.Resolved o p.metadata.inputs c.engine.inputs c.layout) {i : Nat} {g : Grid Int}
    {name : String} (listed : i ∈ c.layout.places) (named : FirstNamed p.metadata.inputs name i)
    (row : c.layout.rowAt q i = some g) (shape : g.shape = [c.placesOf text])
    (held : ∀ v ∈ g.cells, isInt32 v = true) :
    PresentedAs c ((c.layout.load q c.engine.inputs).map (·.buffer)) (c.placesOf text) name g := by
  obtain ⟨s, found, -⟩ := resolved.rows i listed
  refine ⟨i, s, (s.filled (g.map .int)).buffer, package ▸ named, found, ?_, holdsRow_filled s shape held⟩
  rw [List.getElem?_map, InputLayout.getElem?_load, found, row]
  rfl

/-- With the sequence of a text in them, inputs are as the graph is to see them. -/
theorem New.presented_load (new : c.New) (package : c.package = p) (options : c.options = o)
    (resolved : InputLayout.Resolved o p.metadata.inputs c.engine.inputs c.layout) (valid : o.Valid)
    (encoded : c.encode text = .ok q) :
    Presented c q (c.placesOf text) ((c.layout.load q c.engine.inputs).map (·.buffer)) := by
  have listed := c.layout.mem_places
  obtain ⟨ids, mask, segmentIds⟩ := hasPlaces_encode new.hasRoom encoded
  obtain ⟨idsHeld, maskHeld, segmentIdsHeld⟩ := isInt32_of_encode new.hasRoom encoded
  obtain ⟨idsRow, maskRow, segmentIdsRow⟩ := InputLayout.rowAt_places (resolved.distinct valid.names) q
  refine ⟨by simp [InputLayout.load], ?_, ?_, ?_, ?_⟩
  · rw [options]
    exact presentedAs_load package resolved listed.1 resolved.ids idsRow ids idsHeld
  · rw [options]
    exact presentedAs_load package resolved listed.2.1 resolved.mask maskRow mask maskHeld
  · rw [options]
    exact presentedAs_load package resolved listed.2.2 resolved.segmentIds segmentIdsRow segmentIds segmentIdsHeld
  · intro i s unnamed found
    rw [package, options] at unnamed
    have other := resolved.not_placed unnamed
    have fresh := new.ready.others i s other found
    rw [List.getElem?_map, InputLayout.getElem?_load, found, InputLayout.rowAt_eq_none other,
      ← Buffer.eq_zeros_of_allocate fresh.buffer]
    rfl

theorem presented_load (made : MadeOf r p o c) (valid : o.Valid) (encoded : c.encode text = .ok q) :
    Presented c q (c.placesOf text) ((c.layout.load q c.engine.inputs).map (·.buffer)) :=
  made.new.presented_load made.package made.options made.resolved valid encoded

/-- However a classifier has been used, a text gets into its engine without failing, and the graph is
run on the text's sequence in the inputs of its names and on zeros in all other inputs. Only where
lengths may change, memory must have room for the text. -/
theorem classify_presents (valid : o.Valid) (made : (ofPackage r p o).result = .ok c)
    (pad : isInt32 o.padId = true) {lines : List (List Char)} (parsed : c.tokenizer.vocabulary = .ofLines lines)
    (few : lines.length < 0x80000000) (history : List String) (text : String)
    (room : c.layout.mode = .dynamic → r.HasRoomFor (c.placesOf text)) :
    (∀ n, c.layout.fixedLength? = some n → c.placesOf text = n) ∧
    (c.layout.mode = .dynamic → c.placesOf text = (Sequence.subwords c.tokenizer text).length + 2) ∧
    ∃ q fed, Sequence.encode c.tokenizer c.markers c.layout.length text = .ok q ∧
      feed c.layout q (c.after history).engine = ⟨.ok (), fed⟩ ∧ fed.allocated = true ∧
      Presented c q (c.placesOf text) (fed.inputs.map (·.buffer)) ∧
      ((c.after history).classify text).result = c.answer (c.engine.graph (fed.inputs.map (·.buffer))) := by
  have making := madeOf made
  obtain ⟨e, used, served⟩ := after_served making history
  obtain ⟨-, memory⟩ := Engine.fresh_ofPackage making.engine
  have held : isInt32 c.markers.padId = true := by
    rw [markers, making.options]
    exact pad
  obtain ⟨q, encoded⟩ : ∃ q, c.encode text = .ok q :=
    ⟨_, Sequence.encode_eq parsed few held c.layout.length text⟩
  have places := hasPlaces_encode (hasRoom making) encoded
  have free := (ready making).blocked_eq_none memory room
  have loaded := served.load_eq q
  have unblocked : c.layout.blocked (c.placesOf text) e = none :=
    (InputLayout.blocked_congr served.memory served.inputs).trans free
  obtain ⟨fed, -⟩ := served.ready.feed_ok places (placesOf_fixed c text) unblocked
  refine ⟨?_, ?_, _, _, encoded, by rw [used]; exact fed, rfl, ?_, ?_⟩
  · intro n fixed
    apply placesOf_fixed c text
    cases length : c.layout.length with
    | dynamic => simp [InputLayout.fixedLength?, length] at fixed
    | fixed m =>
      simp only [InputLayout.fixedLength?, length, Option.some.injEq] at fixed
      rw [fixed]
  · intro dynamic
    cases length : c.layout.length with
    | dynamic => simp only [placesOf, length, Length.places]
    | fixed m => simp [InputLayout.mode, length] at dynamic
  · show Presented c _ _ ((c.layout.load q e.inputs).map (·.buffer))
    rw [loaded]
    exact presented_load making valid encoded
  · rw [classify_after making]
    simp only [reply, encoded, free]
    rw [← loaded]

/-- A text with an unknown word, after a longer text and an empty one. -/
theorem classify_presents_sample : ∃ c, (ofPackage sampleRuntime sample {}).result = .ok c ∧
    ∃ q fed, feed c.layout q (c.after ["a b a b", ""]).engine = ⟨.ok (), fed⟩ ∧
      Presented c q 5 (fed.inputs.map (·.buffer)) := by
  obtain ⟨c, made⟩ := exists_ok (r := (ofPackage sampleRuntime sample {}).result) (by decide +kernel)
  have facts : (ofPackage sampleRuntime sample {}).result.toOption.map
      (fun c => (c.tokenizer.vocabulary, c.placesOf "B c a")) = some (.ofLines [['a'], ['b']], 5) := by
    decide +kernel
  rw [made] at facts
  obtain ⟨parsed, places⟩ := Prod.mk.inj (Option.some.inj facts)
  have room : sampleRuntime.HasRoomFor (c.placesOf "B c a") := by
    rw [places]
    exact ⟨by decide, fun limit member => by cases member⟩
  obtain ⟨-, -, q, fed, -, run, -, presented, -⟩ := classify_presents (by decide +kernel) made (by decide) parsed
    (by decide) ["a b a b", ""] "B c a" fun _ => room
  rw [places] at presented
  exact ⟨c, made, q, fed, run, presented⟩

end Classifier
end TextClassifier
