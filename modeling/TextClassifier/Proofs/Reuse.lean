import TextClassifier.Proofs.Feeding
import TextClassifier.Proofs.SequenceLayout

/-!
# Using a classifier again

A classification changes the buffers and shapes of the layout's inputs and of the outputs, and nothing
else (`Engine.Served`), however it ends. The next classification overwrites them all, so that its result can
be told from the new classifier alone (`reply`, `classify_after`): what has been classified before does
not matter.
-/
namespace TextClassifier
open Json Tensor Package

/-- An engine has been used with a layout since it was made. -/
structure Engine.Served (l : InputLayout) (new used : Engine) : Prop where
  graph : used.graph = new.graph
  memory : used.memory = new.memory
  inputs : l.frame used.inputs = l.frame new.inputs
  outputs : used.outputs.map Slot.emptied = new.outputs.map Slot.emptied
  ready : l.Ready used

/-- Nothing of what the inputs held before is left once a sequence is in them. -/
theorem Engine.Served.load_eq {l : InputLayout} {new used : Engine} (served : Served l new used) (q : Sequence) :
    l.load q used.inputs = l.load q new.inputs := by
  rw [← InputLayout.load_frame, served.inputs, InputLayout.load_frame]

namespace Classifier

/-- A classifier after texts have been classified, whatever came of them. -/
def after (c : Classifier) (history : List String) : Classifier :=
  history.foldl (fun c text => (c.classify text).classifier) c

/-- What a classifier makes of what its graph returns. -/
def answer (c : Classifier) (returned : Except GraphFailure Returned) : Except Error (List Category) := do
  let e : Engine := { c.engine with graph := fun _ => returned, allocated := true }
  c.interpret (← e.invoke.result)

/-- The number of places that a text takes. -/
def placesOf (c : Classifier) (text : String) : Nat :=
  c.layout.length.places (Sequence.subwords c.tokenizer text).length

/-- The result of a classification, told from a classifier that has not been used. -/
def reply (c : Classifier) (text : String) : Except Error (List Category) :=
  match c.encode text with
  | .error fault => .error (.fault fault)
  | .ok q =>
    match c.layout.blocked (c.placesOf text) c.engine with
    | some fault => .error (.fault fault)
    | none => c.answer (c.engine.graph ((c.layout.load q c.engine.inputs).map (·.buffer)))

variable {r : Runtime} {p : Package} {o : Options} {c : Classifier} {e : Engine}

/-! ## A new classifier -/

/-- A classifier whose engine is new and has rows in the inputs of the layout. -/
structure New (c : Classifier) : Prop where
  fresh : c.engine.Fresh
  rows : ∀ i ∈ c.layout.places, ∃ s, c.engine.inputs[i]? = some s ∧ c.layout.Takes s

theorem MadeOf.new (made : MadeOf r p o c) : c.New :=
  ⟨(Engine.fresh_ofPackage made.engine).1, made.resolved.rows⟩

theorem New.hasRoom (new : c.New) : c.layout.length.HasRoom := by
  obtain ⟨s, -, takes⟩ := new.rows c.layout.ids c.layout.mem_places.1
  cases length : c.layout.length with
  | dynamic => trivial
  | fixed n =>
    rw [InputLayout.Takes, length] at takes
    exact takes.2.2

/-- A new engine is ready: its buffers are as long as its shapes say. -/
theorem New.ready (new : c.New) : c.layout.Ready c.engine := by
  refine ⟨?_, ?_, fun _ _ => new.fresh.allocated⟩
  · intro i listed
    obtain ⟨s, found, takes⟩ := new.rows i listed
    refine ⟨s, found, ?_⟩
    cases length : c.layout.length with
    | dynamic =>
      simp only [InputLayout.Takes, InputLayout.TakesNext, length] at takes ⊢
      exact takes
    | fixed n =>
      simp only [InputLayout.Takes, InputLayout.TakesNext, length] at takes ⊢
      refine ⟨takes.1, ?_⟩
      rw [Buffer.eq_zeros_of_allocate (new.fresh.inputs s (List.mem_of_getElem? found)).buffer, takes.1]
      simp [Buffer.zeros, cellCount]
  · intro i s _ found
    exact new.fresh.inputs s (List.mem_of_getElem? found)

theorem New.served (new : c.New) : Engine.Served c.layout c.engine c.engine :=
  ⟨rfl, rfl, rfl, rfl, new.ready⟩

theorem hasRoom (made : MadeOf r p o c) : c.layout.length.HasRoom := made.new.hasRoom

theorem ready (made : MadeOf r p o c) : c.layout.Ready c.engine := made.new.ready

/-! ## One classification -/

/-- The sequence of a text is laid out in as many places as the text takes. -/
theorem laidOut_encode (room : c.layout.length.HasRoom) {text : String} {q : Sequence}
    (encoded : c.encode text = .ok q) :
    Sequence.LaidOut c.tokenizer c.markers (Sequence.subwords c.tokenizer text)
      (c.layout.length.kept (Sequence.subwords c.tokenizer text).length) (c.placesOf text) q := by
  obtain ⟨rfl, -⟩ := Sequence.encode_ok encoded
  exact Sequence.laidOut_ofSubwords c.layout.length room _

theorem hasPlaces_encode (room : c.layout.length.HasRoom) {text : String} {q : Sequence}
    (encoded : c.encode text = .ok q) : q.HasPlaces (c.placesOf text) :=
  (laidOut_encode room encoded).shapes

theorem placesOf_fixed (c : Classifier) (text : String) :
    ∀ n, c.layout.length = .fixed n → c.placesOf text = n := by
  intro n length
  simp only [placesOf, length, Length.places]

/-- A run on a sequence that is in the engine. -/
theorem run_of_feed {q : Sequence} {f : Engine} (fed : feed c.layout q e = ⟨.ok (), f⟩) :
    (run { c with engine := e } q).result = f.invoke.result >>= c.interpret ∧
      (run { c with engine := e } q).engine = f.invoke.engine := by
  show ((feed c.layout q e).andThen _).result = _ ∧ ((feed c.layout q e).andThen _).engine = _
  rw [fed, Engine.Outcome.andThen_ok]
  rcases f.invoke with ⟨_ | outputs, g⟩
  · exact ⟨rfl, rfl⟩
  · exact ⟨rfl, rfl⟩

/-- A classification of a used classifier has the result of a new one, and leaves it as used. -/
theorem classify_served (room : c.layout.length.HasRoom) (served : Engine.Served c.layout c.engine e)
    (text : String) :
    (classify { c with engine := e } text).result = c.reply text ∧
      ∃ f, (classify { c with engine := e } text).classifier = { c with engine := f } ∧
        Engine.Served c.layout c.engine f := by
  have same : encode { c with engine := e } text = c.encode text := rfl
  rw [classify, same, reply]
  cases encoded : c.encode text with
  | error fault => exact ⟨rfl, e, rfl, served⟩
  | ok q =>
    have places := hasPlaces_encode room encoded
    rw [← InputLayout.blocked_congr served.memory served.inputs]
    cases reason : c.layout.blocked (c.placesOf text) e with
    | some fault =>
      obtain ⟨inputs, flag, fed, kept, ready⟩ := served.ready.feed_blocked places reason
      have run : run { c with engine := e } q = ⟨.error (.fault fault), { e with inputs, allocated := flag }⟩ := by
        show (feed c.layout q e).andThen _ = _
        rw [fed, Engine.Outcome.andThen_error]
      refine ⟨congrArg Engine.Outcome.result run, { e with inputs, allocated := flag }, ?_, ?_⟩
      · exact congrArg (fun outcome => { c with engine := outcome.engine }) run
      · exact ⟨served.graph, served.memory, kept.trans served.inputs, served.outputs, ready⟩
    | none =>
      obtain ⟨fed, ready⟩ := served.ready.feed_ok places (placesOf_fixed c text) reason
      obtain ⟨result, engine⟩ := run_of_feed fed
      have loaded := served.load_eq q
      obtain ⟨outputs, left, emptied⟩ :=
        Engine.invoke_engine { e with inputs := c.layout.load q e.inputs, allocated := true }
      refine ⟨?_, { e with inputs := c.layout.load q e.inputs, outputs, allocated := true }, ?_, ?_⟩
      · have given : e.graph ((c.layout.load q e.inputs).map (·.buffer)) =
            c.engine.graph ((c.layout.load q c.engine.inputs).map (·.buffer)) := by
          rw [served.graph, loaded]
        exact result.trans (congrArg (· >>= c.interpret) (Engine.invoke_congr given served.outputs rfl))
      · exact congrArg (fun engine => { c with engine }) (engine.trans left)
      · refine ⟨served.graph, served.memory, ?_, emptied.trans served.outputs, ?_⟩
        · exact (InputLayout.frame_load _ _ _).trans served.inputs
        · exact ⟨ready.rows, ready.others, ready.allocated⟩

/-! ## Many classifications -/

theorem New.after_served (new : c.New) (history : List String) :
    ∃ e, c.after history = { c with engine := e } ∧ Engine.Served c.layout c.engine e := by
  have run : ∀ (history : List String) (e : Engine), Engine.Served c.layout c.engine e →
      ∃ f, after { c with engine := e } history = { c with engine := f } ∧ Engine.Served c.layout c.engine f := by
    intro history
    induction history with
    | nil => exact fun e served => ⟨e, rfl, served⟩
    | cons text history ih =>
      intro e served
      obtain ⟨-, f, step, served⟩ := classify_served new.hasRoom served text
      obtain ⟨g, rest, served⟩ := ih f served
      refine ⟨g, ?_, served⟩
      rw [← rest, ← step]
      rfl
  exact run history c.engine new.served

theorem New.classify_after (new : c.New) (history : List String) (text : String) :
    ((c.after history).classify text).result = c.reply text := by
  obtain ⟨e, used, served⟩ := new.after_served history
  rw [used]
  exact (classify_served new.hasRoom served text).1

theorem after_served (made : MadeOf r p o c) (history : List String) :
    ∃ e, c.after history = { c with engine := e } ∧ Engine.Served c.layout c.engine e :=
  made.new.after_served history

theorem classify_after (made : MadeOf r p o c) (history : List String) (text : String) :
    ((c.after history).classify text).result = c.reply text :=
  made.new.classify_after history text

/-- Texts that only differ in the case of ASCII letters are the same to a classifier. -/
theorem reply_congr (c : Classifier) {text other : String}
    (same : asciiLower text.toList = asciiLower other.toList) : c.reply text = c.reply other := by
  have subwords : Sequence.subwords c.tokenizer text = Sequence.subwords c.tokenizer other := by
    rw [Sequence.subwords, Sequence.subwords, same]
  simp only [reply, encode, Sequence.encode, placesOf, subwords]

/-- Two classifiers of one package and one set of options give the same result for texts that only
differ in the case of ASCII letters, whatever each of them has classified before. -/
theorem classify_forgets {c d : Classifier} (first : (ofPackage r p o).result = .ok c)
    (second : (ofPackage r p o).result = .ok d) (history past : List String) {text other : String}
    (same : asciiLower text.toList = asciiLower other.toList) :
    ((c.after history).classify text).result = ((d.after past).classify other).result := by
  have twins : c = d := Except.ok.inj (first.symm.trans second)
  subst twins
  rw [classify_after (madeOf first), classify_after (madeOf first), reply_congr c same]

/-- A classifier that has seen a longer text and an empty one, and one that has seen nothing. -/
theorem classify_forgets_sample : ∃ c, (ofPackage sampleRuntime sample {}).result = .ok c ∧
    ((c.after ["a b a b", ""]).classify "B a").result = ((c.after []).classify "b A").result := by
  obtain ⟨c, made⟩ := exists_ok (r := (ofPackage sampleRuntime sample {}).result) (by decide +kernel)
  exact ⟨c, made, classify_forgets made made ["a b a b", ""] [] (by decide)⟩

end Classifier
end TextClassifier
