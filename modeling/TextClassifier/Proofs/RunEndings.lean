import TextClassifier.Proofs.EscapingErrors
import TextClassifier.Proofs.ExportedLoading
import TextClassifier.Proofs.FileRuns
import TextClassifier.Proofs.PackageReading

/-!
# How runs end

A run that is not interactive ends with a status as long as nothing breaks it. What breaks it is a length that is
too small for the markers, a package of which no classifier is made although it is not called wrong, a text that does
not get as far as the graph, and a graph that fails in a way that its run does not expect (`Breaks`). A model that
cannot be loaded otherwise is reported, and the status is one (`run_ends`).
-/
namespace TextClassifier.CommandLine
open Json Text

/-! ## What a run finds -/

/-- A path that leads nowhere, or to a file. -/
def Plain (fs : Files) (path : String) : Prop :=
  fs.exists? path = .ok false ∨ ∃ bytes, fs.read (Files.tidy path) = .ok bytes

/-- What the file of a model holds: an export, whose output has dimensions of 64 bits, or no package at all. -/
inductive HoldsModel (unpack : Bytes → Option Archive) (bytes : Bytes) : Prop
  | saved {m : Model} {tokens : Tokens} {x : ExportSettings} {p : Package} {b : Archive}
    (exported : (Export.package m tokens x).result = .ok p)
    (words : ∀ inputs output, m.graph inputs = .ok (.tensor output) → ∀ d ∈ output.shape, d < 0x8000000000000000)
    (unpacked : unpack bytes = some b) (same : ∀ name, b.content? name = p.toArchive.content? name) :
    HoldsModel unpack bytes
  | refused {cause : Error} (refused : (Package.read (unpack bytes)).result = .error cause) :
    HoldsModel unpack bytes

/-- What a run meets that is not interactive: its paths are plain, its model is an export, and its output can be
written. -/
structure Ordinary (s : Surroundings) (a : Arguments) : Prop where
  notInteractive : a.interactive = false
  model : Plain s.files a.modelPath
  held : ∀ bytes, s.files.read a.modelPath = .ok bytes → HoldsModel s.unpack bytes
  input : ∀ path, given? a.inputFile = some path → Plain s.files path
  output : ∀ path, given? a.outputFile = some path → ∀ bytes, ∃ written, s.files.write path bytes = .ok written

/-- A classifier is made of the model, with the options of a run. -/
structure Loads (s : Surroundings) (a : Arguments) (c : Classifier) : Prop where
  present : s.files.exists? a.modelPath = .ok true
  made : ∃ o, optionsOf a = .ok o ∧ (Classifier.ofFile s.unpack s.runtime s.files a.modelPath o).result = .ok c

/-- What is said about a model that cannot be loaded. -/
inductive Rejects (s : Surroundings) (a : Arguments) : String → Prop
  | absent (absent : s.files.exists? a.modelPath = .ok false) : Rejects s a ("Model file not found: " ++ a.modelPath)
  | refused {o : Options} {cause : ConfigurationError} (present : s.files.exists? a.modelPath = .ok true)
    (options : optionsOf a = .ok o)
    (refused : (Classifier.ofFile s.unpack s.runtime s.files a.modelPath o).result = .error (.configuration cause)) :
    Rejects s a ("Failed to load model: [" ++ cause.code.name ++ "] " ++ cause.message)

/-- The texts that a run is asked to classify: those of a file, or one. -/
inductive Asked (s : Surroundings) (a : Arguments) : List String → Prop
  | file {path : String} {bytes : Bytes} {texts : List String} (input : given? a.inputFile = some path)
    (present : s.files.read (Files.tidy path) = .ok bytes) (read : textsOf path bytes = .ok texts) : Asked s a texts
  | text {text : String} (noFile : given? a.inputFile = none) (given : given? a.text = some text) : Asked s a [text]

/-- The first text that cannot be classified among those that a run is asked for. -/
structure StopsAt (s : Surroundings) (a : Arguments) (c : Classifier) (text : String) : Prop where
  loads : Loads s a c
  first : ∃ front back, Asked s a (front ++ text :: back) ∧
    ∀ earlier ∈ front, ∃ categories, (c.classify earlier).result = .ok categories

/-- All texts that a run is asked to classify are classified. -/
structure Completes (s : Surroundings) (a : Arguments) (c : Classifier) (texts : List String) : Prop where
  loads : Loads s a c
  asked : Asked s a texts
  classified : ∀ text ∈ texts, ∃ categories, (c.classify text).result = .ok categories

/-- What ends a run without a status. -/
inductive Breaks (s : Surroundings) (a : Arguments) : Error → Prop
  | short {n : Int} (present : s.files.exists? a.modelPath = .ok true) (asked : a.length = some n) (short : n < 2) :
    Breaks s a (.fault (.stated ("max_seq_len must leave room for two markers, got " ++ Number.intText n)))
  | unmade {p : Package} {cause : Error} (present : s.files.exists? a.modelPath = .ok true)
    (room : ∀ n ∈ a.length, 2 ≤ n) (read : (Package.load s.unpack s.files a.modelPath).result = .ok p)
    (unmade : Export.Unmade s.runtime p cause) : Breaks s a cause
  | heldBack {c : Classifier} {text : String} {fault : Fault} (stops : StopsAt s a c text)
    (held : c.HeldBack text fault) : Breaks s a (.fault fault)
  | uncaught {c : Classifier} {text : String} {args : List Tensor.Buffer} {cause : Error} (stops : StopsAt s a c text)
    (reaches : c.Reaches text args)
    (uncaught : Engine.Uncaught c.engine.outputs.length (c.engine.graph args) cause) : Breaks s a cause

section
variable {s : Surroundings} {words : List String} {a : Arguments} {c : Classifier} {o : Options} {path text : String}
  {texts : List String} {bytes : Bytes} {cause : Error}

/-! ## Options -/

theorem optionsOf_short {n : Int} (asked : a.length = some n) (short : n < 2) :
    optionsOf a = .error (.stated ("max_seq_len must leave room for two markers, got " ++ Number.intText n)) := by
  simp only [optionsOf, asked, Settings.options, Settings.check, Settings.atLeast, Settings.less, short]
  rfl

theorem optionsOf_room (room : ∀ n ∈ a.length, 2 ≤ n) : optionsOf a = .ok { length := a.length } := by
  have valid : Options.Valid { length := a.length } :=
    ⟨room, Int.le_refl 0, Int.le_refl 0, by simp [Options.inputNames]⟩
  rw [← Options.options_settings valid, optionsOf]
  cases a.length with
  | none => rfl
  | some n => rfl

theorem optionsOf_ok (options : optionsOf a = .ok o) : (∀ n ∈ a.length, 2 ≤ n) ∧ o = { length := a.length } := by
  have room : ∀ n ∈ a.length, 2 ≤ n := by
    intro n asked
    by_contra short
    rw [optionsOf_short asked (Int.not_le.mp short)] at options
    cases options
  rw [optionsOf_room room] at options
  cases options
  exact ⟨room, rfl⟩

/-! ## Loading -/

theorem exists_of_plain (plain : Plain s.files path) :
    s.files.exists? path = .ok false ∨ s.files.exists? path = .ok true := by
  rcases plain with absent | ⟨bytes, found⟩
  · exact .inl absent
  · exact .inr (Files.exists_of_read found)

theorem Loads.source (loads : Loads s a c) : ∃ p, (Package.load s.unpack s.files a.modelPath).result = .ok p ∧
    Classifier.MadeOf s.runtime p { length := a.length } c := by
  obtain ⟨o, options, made⟩ := loads.made
  obtain ⟨-, rfl⟩ := optionsOf_ok options
  cases loaded : (Package.load s.unpack s.files a.modelPath).result with
  | error cause =>
    rw [ofFile_refused loaded] at made
    cases made
  | ok p =>
    rw [ofFile_result loaded] at made
    exact ⟨p, rfl, Classifier.madeOf made⟩

/-- A package that cannot be loaded is called wrong. -/
theorem configuration_of_load (failed : (Package.load s.unpack s.files path).result = .error cause) :
    ∃ reason, cause = .configuration reason := by
  rw [Package.load] at failed
  split at failed
  · rw [Package.result_read] at failed
    obtain ⟨reason, same, -⟩ := Package.refused_of_error failed
    exact ⟨reason, same⟩
  · cases failed
    exact ⟨_, rfl⟩

/-- A package that is loaded carries what was exported. -/
theorem Ordinary.carries {p : Package} (ordinary : Ordinary s a)
    (loaded : (Package.load s.unpack s.files a.modelPath).result = .ok p) :
    ∃ m x type lines output, Export.Carries m x type lines output p ∧ Export.Worded x output := by
  rw [Package.load] at loaded
  cases found : s.files.read a.modelPath with
  | error failure =>
    rw [found] at loaded
    cases loaded
  | ok bytes =>
    rw [found] at loaded
    dsimp only at loaded
    cases ordinary.held bytes found with
    | refused refused =>
      rw [refused] at loaded
      cases loaded
    | @saved m tokens x q b exported words unpacked same =>
      obtain ⟨type, lines, output, packed⟩ := Export.exists_packed exported
      have natural := packed.words words
      have saveable := packed.saveable natural
      rw [unpacked, Package.result_read, Package.ofArchive_ok_iff.mpr (saveable.holds packed.numbersReadBack same)] at loaded
      cases loaded
      exact ⟨m, x, type, lines, output, packed.carries.again _ (saveable.lookup_filesOf same), packed.worded natural⟩

/-- What loading a model comes to, where there is one and the length has room for the markers. -/
theorem Ordinary.loading_cases (ordinary : Ordinary s a) (present : s.files.exists? a.modelPath = .ok true)
    (room : ∀ n ∈ a.length, 2 ≤ n) :
    (∃ c, Loads s a c) ∨ (∃ text, Rejects s a text) ∨ ∃ cause, Breaks s a cause := by
  have options := optionsOf_room room
  cases loaded : (Package.load s.unpack s.files a.modelPath).result with
  | error cause =>
    obtain ⟨reason, rfl⟩ := configuration_of_load loaded
    exact .inr (.inl ⟨_, .refused present options (ofFile_refused loaded)⟩)
  | ok p =>
    obtain ⟨m, x, type, lines, output, carries, worded⟩ := ordinary.carries loaded
    rcases carries.ofPackage_cases (r := s.runtime) (o := { length := a.length }) worded rfl rfl with
      ⟨c, made⟩ | ⟨cause, refused⟩ | ⟨cause, -, unmade⟩
    · exact .inl ⟨c, present, _, options, (ofFile_result loaded).trans made⟩
    · exact .inr (.inl ⟨_, .refused present options ((ofFile_result loaded).trans refused)⟩)
    · exact .inr (.inr ⟨cause, .unmade present room loaded unmade⟩)

/-- Whatever the paths and the length are, a classifier is made, or the model is rejected, or the run breaks. -/
theorem Ordinary.cases (ordinary : Ordinary s a) :
    (∃ c, Loads s a c) ∨ (∃ text, Rejects s a text) ∨ ∃ cause, Breaks s a cause := by
  rcases exists_of_plain ordinary.model with absent | present
  · exact .inr (.inl ⟨_, .absent absent⟩)
  · by_cases room : ∀ n ∈ a.length, 2 ≤ n
    · exact ordinary.loading_cases present room
    · push Not at room
      obtain ⟨n, asked, short⟩ := room
      exact .inr (.inr ⟨_, .short present asked short⟩)

/-! ## Texts -/

theorem Loads.classify_result (loads : Loads s a c) (text : String) : (c.classify text).result = c.reply text := by
  obtain ⟨p, -, made⟩ := loads.source
  exact Classifier.classify_after made [] text

theorem Loads.new (loads : Loads s a c) : c.New := by
  obtain ⟨p, -, made⟩ := loads.source
  exact made.new

theorem Loads.pad (loads : Loads s a c) : isInt32 c.options.padId = true := by
  obtain ⟨p, -, made⟩ := loads.source
  rw [made.options]
  rfl

/-- An error of a text is the classifier's own, or it breaks the run. -/
theorem breaks_of_failed (ordinary : Ordinary s a) (stops : StopsAt s a c text)
    (failed : (c.classify text).result = .error cause) : cause.IsOwn ∨ Breaks s a cause := by
  have loads := stops.loads
  rw [loads.classify_result] at failed
  rcases Classifier.reply_error loads.new loads.pad failed with ⟨_, rfl⟩ | ⟨_, _, rfl, -⟩ | escapes
  · exact .inl (.output _)
  · exact .inl (.resource _)
  · cases escapes with
    | heldBack held => exact .inr (.heldBack stops held)
    | passes reaches passes =>
      cases passes with
      | uncaught uncaught => exact .inr (.uncaught stops reaches uncaught)
      | @unscored t b unscored =>
        -- The scores of an export are not quantized.
        obtain ⟨p, loaded, made⟩ := loads.source
        obtain ⟨m, x, type, lines, output, carries, -⟩ := ordinary.carries loaded
        have declared : t ∈ c.engine.outputs := by
          rw [unscored.declared]
          exact List.mem_singleton_self t
        obtain ⟨-, q, quantized, -⟩ := unscored.overflows
        have plain : (t.setResult b).quantization = none := carries.unquantized made.engine t declared
        rw [plain] at quantized
        cases quantized

/-- Among texts, there is a first one that fails, or all are classified. -/
theorem first_or_all (c : Classifier) (texts : List String) :
    (∃ front text back cause, texts = front ++ text :: back ∧
      (∀ earlier ∈ front, ∃ categories, (c.classify earlier).result = .ok categories) ∧
      (c.classify text).result = .error cause) ∨
      ∀ text ∈ texts, ∃ categories, (c.classify text).result = .ok categories := by
  cases all : texts.mapM fun text => (c.classify text).result with
  | error cause =>
    obtain ⟨front, text, back, split, before, failed⟩ := exists_first_of_mapM_error all
    exact .inl ⟨front, text, back, cause, split, before, failed⟩
  | ok results => exact .inr fun text listed => ok_of_mapM all text listed

/-! ## Endings -/

theorem Breaks.foreign (breaks : Breaks s a cause) : ¬ cause.IsOwn := by
  cases breaks with
  | short => exact nofun
  | unmade present room read unmade => cases unmade <;> exact nofun
  | heldBack => exact nofun
  | @uncaught c text args cause stops reaches uncaught =>
    have foreign : cause.status? = none := Classifier.status?_of_passes (c := c) (.uncaught uncaught)
    rw [Error.isOwn_iff]
    rintro ⟨code, message, own⟩
    rw [foreign] at own
    cases own

/-- Errors are reported at all levels. -/
theorem error_mem_atLeast {log : List Record} (level : Level) (reported : ⟨.error, text⟩ ∈ log) :
    ⟨.error, text⟩ ∈ atLeast level log := by
  have rank : level.rank ≤ Level.error.rank := by cases level <;> decide
  exact List.mem_filter.mpr ⟨reported, decide_eq_true rank⟩

section
variable (read : Arguments.read words = .ok a)
include read

/-- Without a model, that is reported and the status is one. -/
theorem shown_absent (absent : s.files.exists? a.modelPath = .ok false) :
    (run s words).shown = (.status 1, "", s.files) ∧
      ⟨.error, "Model file not found: " ++ a.modelPath⟩ ∈ (run s words).log := by
  rw [run, read]
  dsimp only
  rw [runArguments, ifPresent, absent]
  refine ⟨rfl, error_mem_atLeast a.level ?_⟩
  simp [Effects.report, Effects.finish]

/-- A length without room for the markers ends a run without a status. -/
theorem ending_short {n : Int} (present : s.files.exists? a.modelPath = .ok true) (asked : a.length = some n)
    (short : n < 2) : (run s words).ending =
      .escaped (.error (.fault (.stated ("max_seq_len must leave room for two markers, got " ++ Number.intText n)))) := by
  rw [run, read]
  dsimp only
  rw [runArguments, ifPresent, present]
  dsimp only
  rw [optionsOf_short asked short]
  rfl

/-- A model that is not loaded is reported, as far as the error is the classifier's own. -/
theorem run_unloaded (present : s.files.exists? a.modelPath = .ok true) (options : optionsOf a = .ok o)
    (failed : (Classifier.ofFile s.unpack s.runtime s.files a.modelPath o).result = .error cause) :
    (run s words).shown = (endingOf cause, "", s.files) ∧
      ∀ line, cause.line? = some line → ⟨.error, "Failed to load model: " ++ line⟩ ∈ (run s words).log := by
  rw [run, read]
  dsimp only
  rw [runArguments, ifPresent, present]
  dsimp only
  rw [options]
  dsimp only
  rw [failed]
  refine ⟨shown_fail _ _ cause, ?_⟩
  intro line own
  apply error_mem_atLeast
  simp [fail, own, Effects.report, Effects.finish]

theorem run_rejects (rejects : Rejects s a text) :
    (run s words).shown = (.status 1, "", s.files) ∧ ⟨.error, text⟩ ∈ (run s words).log := by
  cases rejects with
  | absent absent => exact shown_absent read absent
  | refused present options refused =>
    obtain ⟨shown, reported⟩ := run_unloaded read present options refused
    exact ⟨shown, reported _ rfl⟩

section
variable (ordinary : Ordinary s a) (loads : Loads s a c)
include ordinary loads

theorem ending_loads : ∃ log, (run s words).ending = (match given? a.inputFile with
    | some path => runFile ⟨"", log, s.files⟩ a c path
    | none =>
      match given? a.text with
      | some text => runText ⟨"", log, s.files⟩ a c text
      | none => (⟨"" ++ s.help ++ "\n", log, s.files⟩ : Effects).finish (.status 1)).ending := by
  obtain ⟨o, options, made⟩ := loads.made
  refine ⟨(Classifier.ofFile s.unpack s.runtime s.files a.modelPath o).log, ?_⟩
  rw [run_loaded read loads.present options made, runLoaded, ordinary.notInteractive]
  rfl

theorem onFile (input : given? a.inputFile = some path) (present : s.files.read (Files.tidy path) = .ok bytes) :
    OnFile s words a c path bytes :=
  ⟨read, ordinary.notInteractive, input, present, loads.present, loads.made⟩

/-- A run on one text ends as its classification does. -/
theorem ending_text (noFile : given? a.inputFile = none) (given : given? a.text = some text) :
    (run s words).ending = match (c.classify text).result with
      | .error cause => endingOf cause
      | .ok _ => .status 0 := by
  obtain ⟨log, ending⟩ := ending_loads read ordinary loads
  rw [ending, noFile, given]
  dsimp only
  rw [runText]
  cases (c.classify text).result with
  | error cause => exact congrArg Prod.fst (shown_fail _ _ cause)
  | ok categories =>
    dsimp only
    cases saved : given? a.outputFile with
    | none => rfl
    | some target =>
      obtain ⟨written, wrote⟩ := ordinary.output target saved (Utf8.encode (Writer.write (Report.toValue text categories)))
      dsimp only
      rw [save]
      dsimp only [Effects.report]
      rw [wrote]
      rfl

/-- If all texts are classified, the status is zero. -/
theorem ending_classified (asked : Asked s a texts)
    (each : ∀ text ∈ texts, ∃ categories, (c.classify text).result = .ok categories) :
    (run s words).ending = .status 0 := by
  cases asked with
  | text noFile given =>
    obtain ⟨categories, classified⟩ := each _ (List.mem_singleton_self _)
    rw [ending_text read ordinary loads noFile given, classified]
  | @file path bytes texts input present told =>
    obtain ⟨entries, all, -⟩ := exists_mapM (exists_entryOf each)
    have shown := shown_run (onFile read ordinary loads input present)
    simp only [showing, told, all] at shown
    cases saved : given? a.outputFile with
    | none =>
      rw [saved] at shown
      exact congrArg Prod.fst shown
    | some target =>
      obtain ⟨written, wrote⟩ := ordinary.output target saved (Utf8.encode (Writer.write (.array entries)))
      rw [saved] at shown
      simp only [wrote] at shown
      exact congrArg Prod.fst shown

/-- A run that is asked for no text ends with the status one. -/
theorem ending_unasked (unasked : ∀ texts, ¬ Asked s a texts) : (run s words).ending = .status 1 := by
  obtain ⟨log, ending⟩ := ending_loads read ordinary loads
  cases input : given? a.inputFile with
  | some path =>
    rcases ordinary.input path input with absent | ⟨bytes, present⟩
    · rw [ending, input]
      dsimp only
      rw [runFile, ifPresent, absent]
      rfl
    · cases told : textsOf path bytes with
      | ok texts => exact absurd (.file input present told) (unasked texts)
      | error fault =>
        have shown := shown_run (onFile read ordinary loads input present)
        rw [told] at shown
        exact congrArg Prod.fst shown
  | none =>
    cases given : given? a.text with
    | some text => exact absurd (.text input given) (unasked [text])
    | none =>
      rw [ending, input, given]
      rfl

end

/-- The first text that fails decides how a run ends. -/
theorem ending_stopsAt (ordinary : Ordinary s a) (stops : StopsAt s a c text)
    (failed : (c.classify text).result = .error cause) : (run s words).ending = endingOf cause := by
  obtain ⟨front, back, asked, before⟩ := stops.first
  generalize split : front ++ text :: back = texts at asked
  cases asked with
  | @text single noFile given =>
    obtain ⟨rfl, rfl, rfl⟩ : front = [] ∧ text = single ∧ back = [] := by
      cases front with
      | nil => simpa using split
      | cons first front => simp at split
    rw [ending_text read ordinary stops.loads noFile given, failed]
  | file input present told =>
    have shown := shown_run (onFile read ordinary stops.loads input present)
    rw [told, ← split, showing_first before failed] at shown
    exact congrArg Prod.fst shown

/-- A run ends with what breaks it. -/
theorem ending_of_breaks (ordinary : Ordinary s a) (breaks : Breaks s a cause) :
    (run s words).ending = .escaped (.error cause) := by
  rw [← endingOf_foreign breaks.foreign]
  cases breaks with
  | short present asked short => exact ending_short read present asked short
  | unmade present room loaded unmade =>
    obtain ⟨m, x, type, lines, output, carries, worded⟩ := ordinary.carries loaded
    have failed := (ofFile_result loaded).trans (unmade.result (o := { length := a.length }) carries worded rfl)
    exact congrArg Prod.fst (run_unloaded read present (optionsOf_room room) failed).1
  | heldBack stops held =>
    have loads := stops.loads
    refine ending_stopsAt read ordinary stops ?_
    rw [loads.classify_result, Classifier.reply_of_heldBack loads.new loads.pad held]
  | uncaught stops reaches uncaught =>
    have loads := stops.loads
    refine ending_stopsAt read ordinary stops ?_
    rw [loads.classify_result, Classifier.reply_of_reaches loads.new loads.pad reaches]
    exact Classifier.answer_of_passes (.uncaught uncaught)

/-- Something breaks a run, or it classifies all texts, or it is refused. -/
theorem ending_cases (ordinary : Ordinary s a) :
    (∃ cause, Breaks s a cause) ∨ (∃ c texts, Completes s a c texts) ∧ (run s words).ending = .status 0 ∨
      (run s words).ending = .status 1 := by
  rcases ordinary.cases with ⟨c, loads⟩ | ⟨text, rejects⟩ | ⟨fault, breaks⟩
  · by_cases asked : ∃ texts, Asked s a texts
    · obtain ⟨texts, asked⟩ := asked
      rcases first_or_all c texts with ⟨front, text, back, cause, rfl, before, failed⟩ | each
      · have stops : StopsAt s a c text := ⟨loads, front, back, asked, before⟩
        rcases breaks_of_failed ordinary stops failed with own | breaks
        · rw [ending_stopsAt read ordinary stops failed, endingOf_own own]
          exact .inr (.inr rfl)
        · exact .inl ⟨cause, breaks⟩
      · exact .inr (.inl ⟨⟨c, texts, loads, asked, each⟩, ending_classified read ordinary loads asked each⟩)
    · push Not at asked
      exact .inr (.inr (ending_unasked read ordinary loads asked))
  · exact .inr (.inr (congrArg Prod.fst (run_rejects read rejects).1))
  · exact .inl ⟨_, breaks⟩

/-- A run that is not interactive ends without a status exactly if something breaks it, and with the status zero exactly
if it classifies all texts that it is asked for. Otherwise the status is one, and if the model cannot be loaded, that is
an error in the log. -/
theorem run_ends (ordinary : Ordinary s a) :
    (∀ escape, (run s words).ending = .escaped escape ↔ ∃ cause, escape = .error cause ∧ Breaks s a cause) ∧
    ((run s words).ending = .status 0 ↔ ∃ c texts, Completes s a c texts) ∧
    ((∀ cause, ¬ Breaks s a cause) → (run s words).ending = .status 0 ∨ (run s words).ending = .status 1) ∧
    ((∀ c, ¬ Loads s a c) → (∀ cause, ¬ Breaks s a cause) → ∃ text, Rejects s a text ∧
      (run s words).shown = (.status 1, "", s.files) ∧ ⟨.error, text⟩ ∈ (run s words).log) := by
  refine ⟨fun escape => ⟨?_, ?_⟩, ⟨?_, ?_⟩, ?_, ?_⟩
  · intro ending
    rcases ending_cases read ordinary with ⟨cause, breaks⟩ | ⟨-, done⟩ | refused
    · rw [ending_of_breaks read ordinary breaks] at ending
      cases ending
      exact ⟨cause, rfl, breaks⟩
    · rw [done] at ending
      cases ending
    · rw [refused] at ending
      cases ending
  · rintro ⟨cause, rfl, breaks⟩
    exact ending_of_breaks read ordinary breaks
  · intro ending
    rcases ending_cases read ordinary with ⟨cause, breaks⟩ | ⟨completes, -⟩ | refused
    · rw [ending_of_breaks read ordinary breaks] at ending
      cases ending
    · exact completes
    · rw [refused] at ending
      cases ending
  · rintro ⟨c, texts, loads, asked, each⟩
    exact ending_classified read ordinary loads asked each
  · intro whole
    rcases ending_cases read ordinary with ⟨cause, breaks⟩ | ⟨-, done⟩ | refused
    · exact absurd breaks (whole cause)
    · exact .inl done
    · exact .inr refused
  · intro unloaded whole
    rcases ordinary.cases with ⟨c, loads⟩ | ⟨text, rejects⟩ | ⟨fault, breaks⟩
    · exact absurd loads (unloaded c)
    · exact ⟨text, rejects, run_rejects read rejects⟩
    · exact absurd breaks (whole _)

end

end

/-! ## Runs on an export -/

theorem holdsModel_sample : HoldsModel Zip.read? (Zip.write samplePackage.toArchive) := by
  have words : ∀ inputs output, Package.sampleModel.graph inputs = .ok (.tensor output) →
      ∀ d ∈ output.shape, d < 0x8000000000000000 := by
    intro inputs output given
    cases given
    decide
  exact .saved packed_samplePackage.exported words unpacked_samplePackage fun _ => rfl

theorem ordinary_sample {model : Bytes} (holds : HoldsModel Zip.read? model) {a : Arguments}
    (path : a.modelPath = "m") (notInteractive : a.interactive = false) (printed : a.outputFile = none)
    (input : ∀ path, given? a.inputFile = some path → Plain (sampleFiles model) path) :
    Ordinary (sampleSurroundings model) a := by
  have found : (sampleFiles model).read "m" = .ok model := by cbv
  have tidied : (sampleFiles model).read (Files.tidy "m") = .ok model := by cbv
  refine ⟨notInteractive, path ▸ .inr ⟨model, tidied⟩, ?_, input, ?_⟩
  · intro bytes read
    rw [path] at read
    obtain rfl := Except.ok.inj (found.symm.trans read)
    exact holds
  · intro target saved
    rw [printed] at saved
    cases saved

/-- The run on the texts of a file classifies them all, and nothing breaks it. -/
theorem run_ends_sample : ∃ a, Arguments.read sampleWords = .ok a ∧
    Ordinary (sampleSurroundings (Zip.write samplePackage.toArchive)) a ∧
    (run (sampleSurroundings (Zip.write samplePackage.toArchive)) sampleWords).ending = .status 0 ∧
    ∀ cause, ¬ Breaks (sampleSurroundings (Zip.write samplePackage.toArchive)) a cause := by
  have holds := holdsModel_sample
  have opened := read_samplePackage
  generalize Zip.write samplePackage.toArchive = model at holds opened
  obtain ⟨c, classified, on⟩ := exists_onFile_sample opened
  have input : ∀ path, given? (some "t") = some path → Plain (sampleFiles model) path := by
    intro path input
    cases input
    exact .inr ⟨_, on.present⟩
  have ordinary : Ordinary (sampleSurroundings model) ⟨"m", none, none, some "t", none, false, .info⟩ :=
    ordinary_sample holds rfl rfl rfl input
  obtain ⟨texts, read, rfl⟩ := exists_ok_of_map (r := textsOf "t" (Utf8.encode "A b\r\n \nc".toList)) (f := id)
    (y := ["A b", "c"]) (by decide +kernel)
  obtain ⟨breaking, completing, -, -⟩ := run_ends on.words ordinary
  have done := completing.mpr ⟨c, _, ⟨on.model, on.loaded⟩, .file on.input on.present read, fun text listed =>
    ⟨_, classified text listed⟩⟩
  refine ⟨_, on.words, ordinary, done, ?_⟩
  intro cause breaks
  have ending := (breaking (.error cause)).mpr ⟨cause, rfl, breaks⟩
  rw [done] at ending
  cases ending

def shortWords : List String := ["--model_path", "m", "--max_seq_len", "1", "--text", "A b"]

/-- A length of one ends a run without a status. -/
theorem run_unended : ∃ a, Arguments.read shortWords = .ok a ∧
    Ordinary (sampleSurroundings (Zip.write samplePackage.toArchive)) a ∧
    (run (sampleSurroundings (Zip.write samplePackage.toArchive)) shortWords).ending =
      .escaped (.error (.fault (.stated "max_seq_len must leave room for two markers, got 1"))) := by
  have holds := holdsModel_sample
  generalize Zip.write samplePackage.toArchive = model at holds
  obtain ⟨a, read, rfl⟩ := exists_ok_of_map (r := Arguments.read shortWords) (f := id)
    (y := ⟨"m", some 1, some "A b", none, none, false, .info⟩) (by decide +kernel)
  have present : (sampleFiles model).exists? "m" = .ok true := by cbv
  have noFile : ∀ path, given? none = some path → Plain (sampleFiles model) path := by
    intro path input
    cases input
  exact ⟨_, read, ordinary_sample holds rfl rfl rfl noFile, ending_short read present rfl (by decide)⟩

end TextClassifier.CommandLine
