import TextClassifier.Proofs.FailureClasses
import TextClassifier.Proofs.Reuse

/-!
# Errors that get out of a classification

A classification is to end with categories or with an error about the output or about resources. A run
reports as such that its graph fails with a class that it expects, or that there are more or fewer results than
are declared (`Reported`). Whatever else a graph does wrong passes through the run as it is (`Uncaught`). There
are also texts that do not get as far as the graph (`HeldBack`) and quantized scores that are out of range.
This is all that escapes (`Escapes`, `classify_escapes`), and for a graph that fails with such classes and
returns tensors only, nothing does (`promised_of_orderly`).
-/
namespace TextClassifier
open Json Tensor Package

/-! ## Runs -/

/-- A failure of one of the classes that a run expects of its graph. -/
def GraphFailure.OfRun (failure : GraphFailure) : Prop :=
  failure.kind.DerivesFrom .runtime ∨ failure.kind.DerivesFrom .unusable ∨ failure.kind.DerivesFrom .mistyped ∨
    failure.kind.DerivesFrom .outOfBounds

namespace Engine
variable {slots outputs : List Slot} {given : List Given} {behaviour : Except GraphFailure Returned}

theorem setResults_tensors {buffers : List Buffer} (count : buffers.length = slots.length) :
    setResults slots (buffers.map .tensor) = (none, List.zipWith Slot.setResult slots buffers) := by
  induction slots generalizing buffers with
  | nil =>
    rw [List.length_eq_zero_iff.mp count]
    rfl
  | cons s slots ih =>
    cases buffers with
    | nil => cases count
    | cons b buffers =>
      rw [List.map_cons, setResults, ih (Nat.succ.inj count)]
      rfl

theorem setResults_other (count : given.length ≤ slots.length) (other : .other ∈ given) :
    ∃ left, setResults slots given = (some .memberless, left) := by
  induction slots generalizing given with
  | nil =>
    rw [List.length_eq_zero_iff.mp (Nat.le_zero.mp count)] at other
    cases other
  | cons s slots ih =>
    cases given with
    | nil => cases other
    | cons first rest =>
      cases first with
      | other => exact ⟨s :: slots, rfl⟩
      | tensor b =>
        have behind : .other ∈ rest := by simpa using other
        obtain ⟨left, failed⟩ := ih (Nat.le_of_succ_le_succ count) behind
        refine ⟨s.setResult b :: left, ?_⟩
        rw [setResults, failed]

theorem tensors_or_other (given : List Given) :
    (∃ buffers : List Buffer, given = buffers.map .tensor) ∨ .other ∈ given := by
  induction given with
  | nil => exact .inl ⟨[], rfl⟩
  | cons first rest ih =>
    cases first with
    | other => exact .inr List.mem_cons_self
    | tensor b =>
      rcases ih with ⟨buffers, rfl⟩ | behind
      · exact .inl ⟨b :: buffers, rfl⟩
      · exact .inr (List.mem_cons_of_mem _ behind)

theorem runError_of_ofRun {failure : GraphFailure} (expected : failure.OfRun) :
    runError failure = .resource (.executionFailed failure.wording) := by
  have known : failure.kind.isOneOf [.runtime, .unusable, .mistyped, .outOfBounds] = true := by
    simpa [FailureClass.isOneOf_iff, GraphFailure.OfRun] using expected
  rw [runError, if_pos known]

theorem runError_of_not_ofRun {failure : GraphFailure} (other : ¬ failure.OfRun) :
    runError failure = .graph failure := by
  have unknown : ¬ failure.kind.isOneOf [.runtime, .unusable, .mistyped, .outOfBounds] = true := by
    simpa [FailureClass.isOneOf_iff, GraphFailure.OfRun] using other
  rw [runError, if_neg unknown]

/-- What a run makes errors of its own. -/
inductive Reported (declared : Nat) : Except GraphFailure Returned → ResourceError → Prop
  | failed {failure : GraphFailure} (expected : failure.OfRun) :
      Reported declared (.error failure) (.executionFailed failure.wording)
  | miscounted {returned : Returned} {given : List Given} (values : returned.values = .ok given)
      (count : given.length ≠ declared) : Reported declared (.ok returned) (.outputCount given.length declared)

/-- What passes through a run, and what comes out then: failures of other classes, a value that cannot be taken
apart, and as many values as are declared, but not all of them tensors. -/
inductive Uncaught (declared : Nat) : Except GraphFailure Returned → Error → Prop
  | foreign {failure : GraphFailure} (other : ¬ failure.OfRun) :
      Uncaught declared (.error failure) (.graph failure)
  | whole {returned : Returned} {fault : Fault} (values : returned.values = .error fault) :
      Uncaught declared (.ok returned) (.fault fault)
  | unlike {returned : Returned} {given : List Given} (values : returned.values = .ok given)
      (count : given.length = declared) (other : .other ∈ given) :
      Uncaught declared (.ok returned) (.fault .memberless)

/-- How a run ends. -/
inductive Ran (outputs : List Slot) : Except GraphFailure Returned → Except Error (List Slot) → Prop
  | reported {behaviour : Except GraphFailure Returned} {cause : ResourceError}
      (reported : Reported outputs.length behaviour cause) : Ran outputs behaviour (.error (.resource cause))
  | uncaught {behaviour : Except GraphFailure Returned} {cause : Error}
      (uncaught : Uncaught outputs.length behaviour cause) : Ran outputs behaviour (.error cause)
  | stored {returned : Returned} {buffers : List Buffer} (values : returned.values = .ok (buffers.map .tensor))
      (count : buffers.length = outputs.length) :
      Ran outputs (.ok returned) (.ok (List.zipWith Slot.setResult outputs buffers))

/-- A run ends as what its graph does decides. -/
theorem invoke_eq_iff {e : Engine} (allocated : e.allocated = true) {result : Except Error (List Slot)} :
    e.invoke.result = result ↔ Ran e.outputs (e.graph (e.inputs.map (·.buffer))) result := by
  unfold invoke produce
  simp only [allocated, Bool.not_true, Bool.false_eq_true, if_false]
  generalize e.graph (e.inputs.map (·.buffer)) = behaviour
  constructor
  · rintro rfl
    cases behaviour with
    | error failure =>
      by_cases expected : failure.OfRun
      · simp only [runError_of_ofRun expected]
        exact .reported (.failed expected)
      · simp only [runError_of_not_ofRun expected]
        exact .uncaught (.foreign expected)
    | ok returned =>
      cases values : returned.values with
      | error fault =>
        simp only [values, Except.mapError]
        exact .uncaught (.whole values)
      | ok given =>
        simp only [values, Except.mapError]
        by_cases count : given.length = e.outputs.length
        · rw [if_neg (not_not_intro count)]
          rcases tensors_or_other given with ⟨buffers, rfl⟩ | other
          · rw [List.length_map] at count
            rw [setResults_tensors count]
            exact .stored values count
          · obtain ⟨left, failed⟩ := setResults_other (Nat.le_of_eq count) other
            rw [failed]
            exact .uncaught (.unlike values count other)
        · rw [if_pos count]
          exact .reported (.miscounted values count)
  · intro ran
    cases ran with
    | reported reported =>
      cases reported with
      | failed expected => simp only [runError_of_ofRun expected]
      | miscounted values count => simp only [values, Except.mapError, if_pos count]
    | uncaught uncaught =>
      cases uncaught with
      | foreign other => simp only [runError_of_not_ofRun other]
      | whole values => simp only [values, Except.mapError]
      | unlike values count other =>
        obtain ⟨left, failed⟩ := setResults_other (Nat.le_of_eq count) other
        simp only [values, Except.mapError, if_neg (not_not_intro count), failed]
    | stored values count =>
      simp only [values, Except.mapError, List.length_map, if_neg (not_not_intro count), setResults_tensors count]

end Engine

/-! ## Scores -/

namespace Category

/-- A quantized score is out of range once its zero point is taken off. -/
def Overflows (s : Slot) : Prop :=
  (s.buffer.type = .uint8 ∨ s.buffer.type = .int8) ∧
    ∃ q, s.quantization = some q ∧ ∃ x ∈ s.buffer.elements, dequantized q x = .error .tooLarge

theorem dequantized_error {q : Quantization} {x : Element} {fault : Fault}
    (failed : dequantized q x = .error fault) : fault = .tooLarge := by
  unfold dequantized Value.floatOfInt at failed
  dsimp only at failed
  split at failed
  · cases failed
    rfl
  · cases failed

theorem mapM_dequantized_cases {s : Slot} {q : Quantization} (known : s.quantization = some q)
    (narrow : s.buffer.type = .uint8 ∨ s.buffer.type = .int8) :
    (∃ scored, s.buffer.elements.mapM (dequantized q) = .ok scored) ∧ ¬ Overflows s ∨
      s.buffer.elements.mapM (dequantized q) = .error .tooLarge ∧ Overflows s := by
  cases run : s.buffer.elements.mapM (dequantized q) with
  | ok scored =>
    refine .inl ⟨⟨scored, rfl⟩, ?_⟩
    rintro ⟨-, other, same, x, listed, failed⟩
    rw [known, Option.some.injEq] at same
    obtain ⟨score, made⟩ := ok_of_mapM run x listed
    rw [← same, made] at failed
    cases failed
  | error fault =>
    obtain ⟨x, listed, failed⟩ := exists_of_mapM_error run
    obtain rfl := dequantized_error failed
    exact .inr ⟨rfl, narrow, q, known, x, listed, failed⟩

/-- Scores are told unless their type is not one for scores or one of them is out of range. -/
theorem scores_cases (s : Slot) :
    (∃ scored, scores s = .ok scored) ∧ ¬ Overflows s ∨
      scores s = .error (.output (.scoreType s.name s.buffer.type)) ∧ ¬ Overflows s ∨
      scores s = .error (.fault .tooLarge) ∧ Overflows s := by
  have plain : s.buffer.type ≠ .uint8 → s.buffer.type ≠ .int8 → ¬ Overflows s := by
    rintro unsigned signed ⟨type | type, -⟩
    · exact unsigned type
    · exact signed type
  unfold scores
  split
  · rename_i type
    exact .inl ⟨⟨_, rfl⟩, plain (by simp [type]) (by simp [type])⟩
  · rename_i type
    exact .inl ⟨⟨_, rfl⟩, plain (by simp [type]) (by simp [type])⟩
  · rename_i type
    exact .inl ⟨⟨_, rfl⟩, plain (by simp [type]) (by simp [type])⟩
  · rename_i q type known
    rcases mapM_dequantized_cases known (.inl type) with ⟨⟨scored, told⟩, inside⟩ | ⟨failed, outside⟩
    · exact .inl ⟨⟨scored, by rw [told]; rfl⟩, inside⟩
    · exact .inr (.inr ⟨by rw [failed]; rfl, outside⟩)
  · rename_i q type known
    rcases mapM_dequantized_cases known (.inr type) with ⟨⟨scored, told⟩, inside⟩ | ⟨failed, outside⟩
    · exact .inl ⟨⟨scored, by rw [told]; rfl⟩, inside⟩
    · exact .inr (.inr ⟨by rw [failed]; rfl, outside⟩)
  · rename_i unsigned signed
    refine .inr (.inl ⟨rfl, ?_⟩)
    rintro ⟨type | type, q, known, -⟩
    · exact unsigned q type known
    · exact signed q type known

end Category

/-! ## Classifications -/

namespace Classifier
variable {c : Classifier} {text : String} {behaviour : Except GraphFailure Returned} {e : Error}

theorem interpret_single (c : Classifier) (s : Slot) : c.interpret [s] = Category.ofTensor c.labels s := by
  have chosen : (tensorNamed? [s] c.package.metadata.outputs (.str c.options.scoreName)).getD s = s := by
    cases found : tensorNamed? [s] c.package.metadata.outputs (.str c.options.scoreName) with
    | none => rfl
    | some t =>
      rw [tensorNamed?] at found
      split at found
      · cases found
      obtain ⟨i, -, there⟩ := Option.bind_eq_some_iff.mp found
      exact List.mem_singleton.mp (List.mem_of_getElem? there)
  show Category.ofTensor c.labels (Option.getD _ s) = _
  rw [chosen]

theorem interpret_other (c : Classifier) {outputs : List Slot} (count : outputs.length ≠ 1) :
    c.interpret outputs = .error (.output (.outputCount outputs.length)) := by
  match outputs with
  | [] => rfl
  | [_] => exact absurd rfl count
  | _ :: _ :: _ => rfl

/-- The only result of a graph is a quantized one with a score out of range. -/
structure Unscored (c : Classifier) (behaviour : Except GraphFailure Returned) (s : Slot) (b : Buffer) : Prop where
  declared : c.engine.outputs = [s]
  returned : ∃ returned, behaviour = .ok returned ∧ returned.values = .ok [.tensor b]
  overflows : Category.Overflows (s.setResult b)

/-- Outputs give categories or an error of the classifier's own, unless the scores exceed all numbers. -/
theorem interpret_cases (c : Classifier) (outputs : List Slot) :
    (∃ categories, c.interpret outputs = .ok categories) ∨
      (∃ cause, c.interpret outputs = .error (.output cause)) ∨ ∃ s, outputs = [s] ∧ Category.Overflows s := by
  by_cases count : outputs.length = 1
  · obtain ⟨s, rfl⟩ := List.length_eq_one_iff.mp count
    rw [interpret_single, Category.ofTensor]
    rcases Category.scores_cases s with ⟨⟨scored, told⟩, -⟩ | ⟨failed, -⟩ | ⟨-, outside⟩
    · exact .inl ⟨_, by rw [told]; rfl⟩
    · exact .inr (.inl ⟨_, by rw [failed]; rfl⟩)
    · exact .inr (.inr ⟨s, rfl, outside⟩)
  · exact .inr (.inl ⟨_, c.interpret_other count⟩)

theorem interpret_overflows (c : Classifier) {s : Slot} (outside : Category.Overflows s) :
    c.interpret [s] = .error (.fault .tooLarge) := by
  rw [interpret_single, Category.ofTensor]
  rcases Category.scores_cases s with ⟨-, inside⟩ | ⟨-, inside⟩ | ⟨failed, -⟩
  · exact absurd outside inside
  · exact absurd outside inside
  · rw [failed]
    rfl

theorem answer_of_ran {result : Except Error (List Slot)} (ran : Engine.Ran c.engine.outputs behaviour result) :
    c.answer behaviour = result >>= c.interpret := by
  let used : Engine := { c.engine with graph := fun _ => behaviour, allocated := true }
  have ended : used.invoke.result = result := (Engine.invoke_eq_iff rfl).mpr ran
  rw [← ended]
  rfl

theorem exists_ran (c : Classifier) (behaviour : Except GraphFailure Returned) :
    ∃ result, Engine.Ran c.engine.outputs behaviour result ∧ c.answer behaviour = result >>= c.interpret := by
  let used : Engine := { c.engine with graph := fun _ => behaviour, allocated := true }
  have ran : Engine.Ran used.outputs behaviour used.invoke.result := (Engine.invoke_eq_iff rfl).mp rfl
  exact ⟨_, ran, rfl⟩

/-- What a graph does that gets out of a classification as an error of no kind of its own. -/
inductive Passes (c : Classifier) (behaviour : Except GraphFailure Returned) : Error → Prop
  | uncaught {cause : Error} (uncaught : Engine.Uncaught c.engine.outputs.length behaviour cause) :
      Passes c behaviour cause
  | unscored {s : Slot} {b : Buffer} (unscored : c.Unscored behaviour s b) :
      Passes c behaviour (.fault .tooLarge)

theorem status?_of_passes (passes : c.Passes behaviour e) : e.status? = none := by
  cases passes with
  | uncaught uncaught => cases uncaught <;> rfl
  | unscored => rfl

theorem answer_of_passes (passes : c.Passes behaviour e) : c.answer behaviour = .error e := by
  cases passes with
  | uncaught uncaught => exact answer_of_ran (.uncaught uncaught)
  | @unscored s b unscored =>
    obtain ⟨declared, ⟨returned, rfl, values⟩, outside⟩ := unscored
    have ran : Engine.Ran c.engine.outputs (.ok returned) (.ok (List.zipWith Slot.setResult c.engine.outputs [b])) :=
      .stored values (by rw [declared]; rfl)
    rw [answer_of_ran ran, declared]
    exact c.interpret_overflows outside

/-- An answer that is an error is one of the outputs, one that a run reports, or one that passes. -/
theorem answer_error (failed : c.answer behaviour = .error e) :
    (∃ cause, e = .output cause) ∨
      (∃ cause, e = .resource cause ∧ Engine.Reported c.engine.outputs.length behaviour cause) ∨
      c.Passes behaviour e := by
  obtain ⟨result, ran, answered⟩ := c.exists_ran behaviour
  rw [answered] at failed
  cases ran with
  | reported reported =>
    cases failed
    exact .inr (.inl ⟨_, rfl, reported⟩)
  | uncaught uncaught =>
    cases failed
    exact .inr (.inr (.uncaught uncaught))
  | @stored returned buffers values count =>
    replace failed : c.interpret (List.zipWith Slot.setResult c.engine.outputs buffers) = .error e := failed
    rcases c.interpret_cases (List.zipWith Slot.setResult c.engine.outputs buffers) with
      ⟨categories, told⟩ | ⟨cause, mismatched⟩ | ⟨s, single, outside⟩
    · rw [told] at failed
      cases failed
    · rw [mismatched] at failed
      cases failed
      exact .inl ⟨cause, rfl⟩
    · have lengths := congrArg List.length single
      rw [List.length_zipWith, count, Nat.min_self] at lengths
      obtain ⟨t, declared⟩ := List.length_eq_one_iff.mp lengths
      obtain ⟨b, rfl⟩ := List.length_eq_one_iff.mp (count.trans lengths)
      rw [declared, List.zipWith_cons_cons, List.zipWith_nil_left, List.singleton_inj] at single
      rw [declared, List.zipWith_cons_cons, List.zipWith_nil_left, single, c.interpret_overflows outside] at failed
      cases failed
      exact .inr (.inr (.unscored ⟨declared, ⟨returned, rfl, values⟩, single ▸ outside⟩))

/-! ## Texts -/

/-- Why a text does not get as far as the graph: one of its tokens has an id of more than 32 bits, or an input
cannot have a row of as many places. -/
inductive HeldBack (c : Classifier) (text : String) : Fault → Prop
  | wide {token : String} {id : Int}
      (taken : token ∈ Sequence.tokens c.markers c.layout.length (Sequence.subwords c.tokenizer text))
      (known : c.tokenizer.id? token = some id) (wide : isInt32 id = false) : HeldBack c text .tooLarge
  | cramped {q : Sequence} {i : Nat} {s : Slot} {fault : Fault} (encoded : c.encode text = .ok q)
      (dynamic : c.layout.length = .dynamic) (listed : i ∈ c.layout.places) (found : c.engine.inputs[i]? = some s)
      (refused : Buffer.allocate c.engine.memory s.type.element [1, (c.placesOf text : Int)] = .error fault) :
      HeldBack c text fault

/-- The graph is run on `args` for a text. -/
structure Reaches (c : Classifier) (text : String) (args : List Buffer) : Prop where
  free : ∀ fault, ¬ c.HeldBack text fault
  loaded : ∃ q, c.encode text = .ok q ∧ args = (c.layout.load q c.engine.inputs).map (·.buffer)

/-- The errors of a classification that are of no kind of its own. -/
inductive Escapes (c : Classifier) (text : String) : Error → Prop
  | heldBack {fault : Fault} (held : c.HeldBack text fault) : Escapes c text (.fault fault)
  | passes {args : List Buffer} {e : Error} (reaches : c.Reaches text args)
      (passes : c.Passes (c.engine.graph args) e) : Escapes c text e

section
variable (new : c.New) (pad : isInt32 c.options.padId = true)
include new pad

theorem reply_of_heldBack {fault : Fault} (held : c.HeldBack text fault) : c.reply text = .error (.fault fault) := by
  cases held with
  | wide taken known wide =>
    have failed : c.encode text = .error .tooLarge :=
      (Sequence.encode_error_iff (m := c.markers) pad).mpr ⟨rfl, _, taken, _, known, wide⟩
    rw [reply, failed]
  | cramped encoded dynamic listed found refused =>
    have blocked := new.ready.blocked_eq_some_iff.mpr ⟨dynamic, _, listed, _, found, refused⟩
    simp only [reply, encoded, blocked]

/-- A text is held back by a fault, or the graph is run for it. -/
theorem heldBack_or_reaches (text : String) :
    (∃ fault, c.HeldBack text fault) ∨
      ∃ args, c.Reaches text args ∧ c.reply text = c.answer (c.engine.graph args) := by
  by_cases held : ∃ fault, c.HeldBack text fault
  · exact .inl held
  push Not at held
  cases encoded : c.encode text with
  | error fault =>
    obtain ⟨-, token, taken, id, known, wide⟩ := (Sequence.encode_error_iff (m := c.markers) pad).mp encoded
    exact absurd (.wide taken known wide) (held .tooLarge)
  | ok q =>
    cases blocked : c.layout.blocked (c.placesOf text) c.engine with
    | some fault =>
      obtain ⟨dynamic, i, listed, s, found, refused⟩ := new.ready.blocked_eq_some_iff.mp blocked
      exact absurd (.cramped encoded dynamic listed found refused) (held fault)
    | none => exact .inr ⟨_, ⟨held, q, encoded, rfl⟩, by simp only [reply, encoded, blocked]⟩

theorem reply_of_reaches {args : List Buffer} (reaches : c.Reaches text args) :
    c.reply text = c.answer (c.engine.graph args) := by
  rcases heldBack_or_reaches new pad text with ⟨fault, held⟩ | ⟨others, ⟨-, q, encoded, rfl⟩, answered⟩
  · exact absurd held (reaches.free fault)
  · obtain ⟨-, p, same, rfl⟩ := reaches
    rw [encoded] at same
    cases same
    exact answered

/-- What a classification fails with: an output that is not as expected, something that its run reports, or
something that escapes. -/
theorem reply_error (failed : c.reply text = .error e) :
    (∃ cause, e = .output cause) ∨
      (∃ cause args, e = .resource cause ∧ c.Reaches text args ∧
        Engine.Reported c.engine.outputs.length (c.engine.graph args) cause) ∨
      c.Escapes text e := by
  rcases heldBack_or_reaches new pad text with ⟨fault, held⟩ | ⟨args, reaches, answered⟩
  · rw [reply_of_heldBack new pad held] at failed
    cases failed
    exact .inr (.inr (.heldBack held))
  · rw [answered] at failed
    rcases answer_error failed with output | ⟨cause, rfl, reported⟩ | passes
    · exact .inl output
    · exact .inr (.inl ⟨cause, args, rfl, reaches, reported⟩)
    · exact .inr (.inr (.passes reaches passes))

theorem reply_of_escapes (escapes : c.Escapes text e) : c.reply text = .error e := by
  cases escapes with
  | heldBack held => exact reply_of_heldBack new pad held
  | passes reaches passes => rw [reply_of_reaches new pad reaches, answer_of_passes passes]

end

theorem status?_of_escapes (escapes : c.Escapes text e) : e.status? = none := by
  cases escapes with
  | heldBack => rfl
  | passes _ passes => exact status?_of_passes passes

/-- A classifier of a package, with the package's own engine or with another new one. -/
inductive Built (p : Package) (o : Options) (c : Classifier) : Prop
  | own {r : Runtime} (made : (ofPackage r p o).result = .ok c)
  | around {graph : Graph} {memory : Option Nat} {inputs outputs : List Spec} {e : Engine}
      (started : Engine.ofSpecs graph memory inputs outputs = .ok e) (made : (ofEngine p e o).result = .ok c)

variable {p : Package} {o : Options}

theorem Built.parts (built : Built p o c) : c.New ∧ c.options = o := by
  cases built with
  | own made =>
    have parts := madeOf made
    exact ⟨parts.new, parts.options⟩
  | around started made =>
    obtain ⟨fresh, -⟩ := Engine.fresh_ofSpecs started
    have parts := madeWith made
    obtain rfl := parts.engine
    exact ⟨⟨fresh, (parts.resolved fresh).rows⟩, parts.options⟩

/-- What a classification is to end with: categories, or an error about the output or about resources. -/
inductive Promised : Except Error (List Category) → Prop
  | named (categories : List Category) : Promised (.ok categories)
  | output (cause : OutputError) : Promised (.error (.output cause))
  | resource (cause : ResourceError) : Promised (.error (.resource cause))

instance : DecidablePred Promised
  | .ok categories => isTrue (.named categories)
  | .error (.output cause) => isTrue (.output cause)
  | .error (.resource cause) => isTrue (.resource cause)
  | .error (.configuration _) => isFalse nofun
  | .error (.fault _) => isFalse nofun
  | .error (.graph _) => isFalse nofun

/-- A reply is one that is promised exactly if nothing escapes. -/
theorem promised_iff (new : c.New) (pad : isInt32 c.options.padId = true) (text : String) :
    Promised (c.reply text) ↔ ∀ e, ¬ c.Escapes text e := by
  constructor
  · intro promised e escapes
    rw [reply_of_escapes new pad escapes] at promised
    have foreign := status?_of_escapes escapes
    cases promised with
    | output => cases foreign
    | resource => cases foreign
  · intro free
    cases replied : c.reply text with
    | ok categories => exact .named categories
    | error e =>
      rcases reply_error new pad replied with ⟨cause, rfl⟩ | ⟨cause, _, rfl, -⟩ | escapes
      · exact .output cause
      · exact .resource cause
      · exact absurd escapes (free e)

/-- A classification keeps its promise exactly if nothing escapes. What escapes comes out of it, whatever has
been classified before, and nothing else that is of no kind of its own. Errors about resources are those that
its run reports. -/
theorem classify_escapes (built : Built p o c) (pad : isInt32 o.padId = true) (history : List String) (text : String) :
    (Promised ((c.after history).classify text).result ↔ ∀ e, ¬ c.Escapes text e) ∧
    (∀ e, ((c.after history).classify text).result = .error e ∧ e.status? = none ↔ c.Escapes text e) ∧
    ∀ cause, ((c.after history).classify text).result = .error (.resource cause) ↔
      ∃ args, c.Reaches text args ∧ Engine.Reported c.engine.outputs.length (c.engine.graph args) cause := by
  obtain ⟨new, rfl⟩ := built.parts
  rw [new.classify_after history text]
  refine ⟨promised_iff new pad text, fun e => ⟨?_, ?_⟩, fun cause => ⟨?_, ?_⟩⟩
  · rintro ⟨failed, foreign⟩
    rcases reply_error new pad failed with ⟨_, rfl⟩ | ⟨_, _, rfl, -⟩ | escapes
    · cases foreign
    · cases foreign
    · exact escapes
  · intro escapes
    exact ⟨reply_of_escapes new pad escapes, status?_of_escapes escapes⟩
  · intro failed
    rcases reply_error new pad failed with ⟨_, other⟩ | ⟨_, args, same, reaches, reported⟩ | escapes
    · cases other
    · cases same
      exact ⟨args, reaches, reported⟩
    · cases status?_of_escapes escapes
  · rintro ⟨args, reaches, reported⟩
    rw [reply_of_reaches new pad reaches]
    exact answer_of_ran (.reported reported)

/-- A runtime in which every graph does the same, whatever it is run on. -/
def constantRuntime (behaviour : Except GraphFailure Returned) : Runtime where
  load := fun _ => .ok fun _ => behaviour

/-- A graph that fails for a missing key, which its run does not expect. -/
theorem classify_escapes_sample : ∃ c e,
    (ofPackage (constantRuntime (.error ⟨.missingKey, "boom"⟩)) sample {}).result = .ok c ∧
    c.Escapes "a b" e ∧ ((c.after ["b"]).classify "a b").result = .error e := by
  obtain ⟨c, made, broken⟩ := exists_ok_of_map
    (r := (ofPackage (constantRuntime (.error ⟨.missingKey, "boom"⟩)) sample {}).result)
    (f := fun c => decide (Promised ((c.after ["b"]).classify "a b").result)) (y := false) (by decide +kernel)
  obtain ⟨promised, escapes, -⟩ := classify_escapes (.own made) (by decide) ["b"] "a b"
  have found : ¬ ∀ e, ¬ c.Escapes "a b" e := fun free => of_decide_eq_false broken (promised.mpr free)
  push Not at found
  obtain ⟨e, escaping⟩ := found
  exact ⟨c, e, made, escaping, ((escapes e).mpr escaping).1⟩

/-- A graph that returns a value that is neither a tensor nor a sequence of them. -/
theorem classify_breaksPromise : ∃ c,
    (ofPackage (constantRuntime (.ok (.plain .null))) sample {}).result = .ok c ∧
    isInt32 ({} : Options).padId = true ∧ ¬ Promised (c.classify "a b").result := by
  obtain ⟨c, made, broken⟩ := exists_ok_of_map
    (r := (ofPackage (constantRuntime (.ok (.plain .null))) sample {}).result)
    (f := fun c => decide (Promised (c.classify "a b").result)) (y := false) (by decide +kernel)
  exact ⟨c, made, by decide, of_decide_eq_false broken⟩

/-! ## Graphs that keep to what a run expects -/

/-- A graph fails with classes that a run expects, and returns tensors only. -/
structure Orderly (g : Graph) : Prop where
  failures : ∀ args failure, g args = .error failure → failure.OfRun
  tensors : ∀ args returned, g args = .ok returned →
    ∃ buffers : List Buffer, returned.values = .ok (buffers.map .tensor)

theorem not_uncaught_of_orderly {g : Graph} (orderly : Orderly g) {declared : Nat} {args : List Buffer} :
    ¬ Engine.Uncaught declared (g args) e := by
  intro uncaught
  generalize behaves : g args = behaviour at uncaught
  cases uncaught with
  | foreign other => exact other (orderly.failures args _ behaves)
  | whole values =>
    obtain ⟨buffers, given⟩ := orderly.tensors args _ behaves
    rw [given] at values
    cases values
  | unlike values count other =>
    obtain ⟨buffers, given⟩ := orderly.tensors args _ behaves
    rw [given] at values
    cases values
    simp at other

/-- With such a graph and no quantized outputs, a text that gets as far as the graph keeps the promise. -/
theorem promised_of_orderly (built : Built p o c) (pad : isInt32 o.padId = true) (orderly : Orderly c.engine.graph)
    (plain : ∀ s ∈ c.engine.outputs, s.quantization = none) (history : List String) {text : String}
    (free : ∀ fault, ¬ c.HeldBack text fault) : Promised ((c.after history).classify text).result := by
  obtain ⟨new, rfl⟩ := built.parts
  rw [new.classify_after history text, promised_iff new pad]
  intro e escapes
  cases escapes with
  | heldBack held => exact free _ held
  | passes reaches passes =>
    cases passes with
    | uncaught uncaught => exact not_uncaught_of_orderly orderly uncaught
    | @unscored s b unscored =>
      obtain ⟨-, q, quantized, -⟩ := unscored.overflows
      have declared : s ∈ c.engine.outputs := by
        rw [unscored.declared]
        exact List.mem_singleton_self s
      have none_declared : (s.setResult b).quantization = none := plain s declared
      rw [none_declared] at quantized
      cases quantized

end Classifier
end TextClassifier
