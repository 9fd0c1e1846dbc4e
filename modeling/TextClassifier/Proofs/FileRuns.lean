import Mathlib
import TextClassifier.CommandLine.Run
import TextClassifier.Proofs.BrokenLines
import TextClassifier.Proofs.ExportAcceptance
import TextClassifier.Proofs.IntegerFloats
import TextClassifier.Proofs.Reports
import TextClassifier.Proofs.Reuse
import TextClassifier.Proofs.Traversals

/-!
# Runs on a file of texts

A run classifies the texts of a file one after another with one classifier, and each as if it were the first
(`classifyAll_after`). What comes out can therefore be told from the texts alone (`shown_run`): either all
results are written as one list, or nothing is (`run_onFile`).
-/
namespace TextClassifier

/-! ## Written files -/

namespace Files
variable {fs written : Files} {path name : String} {bytes : Text.Bytes}

/-- A path leads to a name: of a file that is there, or of one that can be made. -/
def LeadsTo (fs : Files) (path name : String) : Prop :=
  (∃ old, fs.locate path = .ok (.file name old)) ∨ fs.locate path = .ok (.free name)

theorem find?_put (fs : Files) (name : String) (bytes : Text.Bytes) (other : String) :
    (fs.put name bytes).find? other = if other = name then some bytes else fs.find? other := by
  have others := Table.lookup_filter (· != name) fs.contents other
  rw [find?, put, Table.lookup_cons_eq]
  split
  · rfl
  · rename_i differs
    rw [others, if_pos (bne_iff_ne.mpr differs)]
    rfl

/-- What is written stands in the file that the path leads to, and the other files stay. -/
theorem write_ok (wrote : fs.write path bytes = .ok written) : ∃ name, fs.LeadsTo path name ∧
    written.find? name = some bytes ∧ ∀ other, other ≠ name → written.find? other = fs.find? other := by
  have put : ∀ name, (fs.put name bytes).find? name = some bytes ∧
      ∀ other, other ≠ name → (fs.put name bytes).find? other = fs.find? other := by
    intro name
    refine ⟨?_, fun other differs => ?_⟩
    · rw [find?_put, if_pos rfl]
    · rw [find?_put, if_neg differs]
  rw [write] at wrote
  generalize (if path.endsWith "/" && tidy path != "/" then unslashed path else path) = bare at wrote
  split at wrote
  · cases wrote
  · rename_i name old located
    split at wrote
    · rename_i same
      cases wrote
      exact ⟨name, .inl ⟨old, same ▸ located⟩, put name⟩
    · cases wrote
  · rename_i name located
    split at wrote
    · rename_i same
      cases wrote
      exact ⟨name, .inr (same ▸ located), put name⟩
    · cases wrote
  · cases wrote

theorem exists_of_read (found : fs.read (tidy path) = .ok bytes) : fs.exists? path = .ok true := by
  rw [read] at found
  rw [exists?]
  split at found
  · rename_i located
    rw [located]
  · cases found
  · cases found
  · cases found

end Files

/-! ## Errors of the classifier's own -/

namespace Error
variable {e : Error}

/-- The errors that the classifier speaks of: those of a model package, of an output, and of the engine. -/
inductive IsOwn : Error → Prop
  | configuration (cause : ConfigurationError) : IsOwn (.configuration cause)
  | output (cause : OutputError) : IsOwn (.output cause)
  | resource (cause : ResourceError) : IsOwn (.resource cause)

theorem isOwn_iff : e.IsOwn ↔ ∃ code message, e.status? = some (code, message) := by
  constructor
  · rintro (cause | cause | cause) <;> exact ⟨_, _, rfl⟩
  · rintro ⟨code, message, own⟩
    cases e with
    | configuration cause => exact .configuration cause
    | output cause => exact .output cause
    | resource cause => exact .resource cause
    | fault cause => cases own
    | graph failure => cases own

/-- The line for an error of the classifier's own begins with the name of its code. -/
theorem line?_of_status? {code : StatusCode} {message : String} (own : e.status? = some (code, message)) :
    e.line? = some ("[" ++ code.name ++ "] " ++ message) := by
  rw [line?, own]
  rfl

theorem line?_of_not_isOwn (foreign : ¬ e.IsOwn) : e.line? = none := by
  cases e with
  | configuration cause => exact absurd (.configuration cause) foreign
  | output cause => exact absurd (.output cause) foreign
  | resource cause => exact absurd (.resource cause) foreign
  | fault cause => rfl
  | graph failure => rfl

end Error

namespace CommandLine
open Json Text

/-! ## All texts of a file -/

/-- A text with its categories, by a classifier that has not been used. -/
def entryOf (c : Classifier) (text : String) : Except Error Value :=
  (c.classify text).result.map (Report.toValue text)

section
variable {r : Runtime} {p : Package} {o : Options} {c : Classifier}

/-- Texts are classified as each would be first, whatever was classified before. -/
theorem classifyAll_after (made : Classifier.MadeOf r p o c) (history texts : List String) :
    (classifyAll (c.after history) texts).1 = texts.mapM (entryOf c) := by
  induction texts generalizing history with
  | nil => rfl
  | cons text texts ih =>
    have first : ((c.after history).classify text).result = (c.classify text).result :=
      (Classifier.classify_after made history text).trans (Classifier.classify_after made [] text).symm
    have behind : c.after (history ++ [text]) = ((c.after history).classify text).classifier := by
      simp [Classifier.after]
    have rest := ih (history ++ [text])
    rw [behind] at rest
    rw [classifyAll, List.mapM_cons, entryOf]
    dsimp only
    rw [first]
    cases (c.classify text).result with
    | error e => rfl
    | ok categories =>
      dsimp only
      rw [rest]
      cases texts.mapM (entryOf c) with
      | error e => rfl
      | ok entries => rfl

theorem exists_entryOf {texts : List String}
    (classified : ∀ text ∈ texts, ∃ categories, (c.classify text).result = .ok categories) :
    ∀ text ∈ texts, ∃ entry, entryOf c text = .ok entry := by
  intro text listed
  obtain ⟨categories, done⟩ := classified text listed
  exact ⟨_, map_ok_iff.mpr ⟨categories, done, rfl⟩⟩

end

/-! ## What a run shows -/

/-- How a run ends, what it prints, and the files behind it. -/
def Outcome.shown (o : Outcome) : Ending × String × Files := (o.ending, o.output, o.files)

/-- How a run ends with an error. -/
def endingOf (e : Error) : Ending := if e.line?.isSome then .status 1 else .escaped (.error e)

theorem endingOf_own {e : Error} (own : e.IsOwn) : endingOf e = .status 1 := by
  obtain ⟨code, message, status⟩ := Error.isOwn_iff.mp own
  rw [endingOf, Error.line?_of_status? status]
  rfl

theorem endingOf_foreign {e : Error} (foreign : ¬ e.IsOwn) : endingOf e = .escaped (.error e) := by
  rw [endingOf, Error.line?_of_not_isOwn foreign]
  rfl

/-- What a run shows that classifies the texts of a file. -/
def showing (files : Files) (a : Arguments) (c : Classifier) (texts : Except Fault (List String)) :
    Ending × String × Files :=
  match texts with
  | .error _ => (.status 1, "", files)
  | .ok texts =>
    match texts.mapM (entryOf c) with
    | .error e => (endingOf e, "", files)
    | .ok entries =>
      let json := Writer.write (.array entries)
      match given? a.outputFile with
      | none => (.status 0, String.ofList json ++ "\n", files)
      | some target =>
        match files.write target (Utf8.encode json) with
        | .ok written => (.status 0, "", written)
        | .error e => (.escaped (.file e), "", files)

/-- Without success nothing is printed, and no file is changed. -/
theorem showing_unsuccessful {files : Files} {a : Arguments} {c : Classifier} {texts : Except Fault (List String)}
    (unsuccessful : (showing files a c texts).1 ≠ .status 0) : (showing files a c texts).2 = ("", files) := by
  unfold showing at unsuccessful ⊢
  split
  · rfl
  split
  · rfl
  · rename_i texts entries all
    simp only [all] at unsuccessful
    dsimp only
    split
    · rename_i printed
      simp only [printed] at unsuccessful
      exact absurd rfl unsuccessful
    · rename_i target saved
      simp only [saved] at unsuccessful
      split
      · rename_i written wrote
        simp only [wrote] at unsuccessful
        exact absurd rfl unsuccessful
      · rfl

/-- The first text that fails decides what is shown. -/
theorem showing_first {files : Files} {a : Arguments} {c : Classifier} {front back : List String} {text : String}
    {e : Error} (before : ∀ earlier ∈ front, ∃ categories, (c.classify earlier).result = .ok categories)
    (failed : (c.classify text).result = .error e) :
    showing files a c (.ok (front ++ text :: back)) = (endingOf e, "", files) := by
  have first : entryOf c text = .error e := map_error_iff.mpr failed
  simp only [showing, mapM_error (exists_entryOf before) first]

/-- A run is asked for the texts of a file and finds the file and a model that can be loaded. -/
structure OnFile (s : Surroundings) (words : List String) (a : Arguments) (c : Classifier) (path : String)
    (bytes : Bytes) : Prop where
  words : Arguments.read words = .ok a
  notInteractive : a.interactive = false
  input : given? a.inputFile = some path
  present : s.files.read (Files.tidy path) = .ok bytes
  model : s.files.exists? a.modelPath = .ok true
  loaded : ∃ o, optionsOf a = .ok o ∧
    (Classifier.ofFile s.unpack s.runtime s.files a.modelPath o).result = .ok c

section
variable {s : Surroundings} {words : List String} {a : Arguments} {c : Classifier} {path : String}
  {bytes : Bytes} {fx : Effects}

theorem shown_fail (fx : Effects) (text : String) (e : Error) :
    (fail fx text e).shown = (endingOf e, fx.output, fx.files) := by
  rw [fail, endingOf]
  cases e.line? with
  | none => rfl
  | some line => rfl

theorem shown_save (fx : Effects) (path : String) (text : List Char) :
    (save fx path text).shown = match fx.files.write path (Utf8.encode text) with
      | .ok written => (.status 0, fx.output, written)
      | .error e => (.escaped (.file e), fx.output, fx.files) := by
  rw [save]
  cases fx.files.write path (Utf8.encode text) with
  | ok written => rfl
  | error e => rfl

section
variable {unpack : Bytes → Option Archive} {r : Runtime} {files : Files} {p : Package} {o : Options}

theorem ofFile_result (loaded : (Package.load unpack files path).result = .ok p) :
    (Classifier.ofFile unpack r files path o).result = (Classifier.ofPackage r p o).result := by
  simp only [Classifier.ofFile, Attempt.result_bind, loaded]
  rfl

theorem ofFile_refused {cause : Error} (refused : (Package.load unpack files path).result = .error cause) :
    (Classifier.ofFile unpack r files path o).result = .error cause := by
  simp only [Classifier.ofFile, Attempt.result_bind, refused]
  rfl

theorem ofFile_ok (found : files.read path = .ok bytes) (opened : (Package.read (unpack bytes)).result = .ok p)
    (made : (Classifier.ofPackage r p o).result = .ok c) :
    (Classifier.ofFile unpack r files path o).result = .ok c := by
  have loaded : (Package.load unpack files path).result = .ok p := by
    rw [Package.load, found]
    exact opened
  rw [ofFile_result loaded, made]

theorem madeOf_ofFile (loaded : (Classifier.ofFile unpack r files path o).result = .ok c) :
    ∃ p, Classifier.MadeOf r p o c := by
  simp only [Classifier.ofFile, Attempt.result_bind] at loaded
  obtain ⟨-, -, loaded⟩ := bind_ok_iff.mp loaded
  obtain ⟨p, -, loaded⟩ := bind_ok_iff.mp loaded
  exact ⟨p, Classifier.madeOf loaded⟩

end

theorem OnFile.made (on : OnFile s words a c path bytes) : ∃ p o, Classifier.MadeOf s.runtime p o c := by
  obtain ⟨o, -, loaded⟩ := on.loaded
  obtain ⟨p, made⟩ := madeOf_ofFile loaded
  exact ⟨p, o, made⟩

/-- What is wrong with an input file makes it unusable. -/
theorem kind_textsOf {fault : Fault} (failed : textsOf path bytes = .error fault) :
    fault.kind.isOneOf [.unusable] = true := by
  rw [textsOf] at failed
  rcases bind_error_iff.mp failed with undecoded | ⟨text, -, failed⟩
  · obtain ⟨malformed, -, rfl⟩ := mapError_error_iff.mp undecoded
    rfl
  · dsimp only at failed
    split at failed
    · rw [jsonTexts] at failed
      split at failed
      · cases failed
        rfl
      · cases failed
        rfl
      · split at failed
        · cases failed
        · cases failed
          rfl
    · cases failed

/-- The classification of a file shows what its texts say that it shows. -/
theorem shown_runFile (on : OnFile s words a c path bytes) (log : List Record) :
    (runFile ⟨"", log, s.files⟩ a c path).shown = showing s.files a c (textsOf path bytes) := by
  obtain ⟨p, o, made⟩ := on.made
  rw [runFile, ifPresent, Files.exists_of_read on.present]
  dsimp only
  rw [on.present]
  dsimp only
  cases read : textsOf path bytes with
  | error fault =>
    show (failReading _ fault).shown = _
    rw [failReading, if_pos (kind_textsOf read)]
    rfl
  | ok texts =>
    have all : (classifyAll c texts).1 = texts.mapM (entryOf c) := classifyAll_after made [] texts
    dsimp only [showing]
    rw [← all]
    cases classified : classifyAll c texts with
    | mk results further =>
      dsimp only
      cases results with
      | error e => exact shown_fail _ _ e
      | ok entries =>
        dsimp only
        cases given? a.outputFile with
        | none =>
          show (Ending.status 0, "" ++ _ ++ "\n", s.files) = _
          rw [String.empty_append]
        | some target => exact shown_save _ target _

/-- Once the model is loaded, a run does what is asked for. -/
theorem run_loaded {o : Options} (read : Arguments.read words = .ok a) (present : s.files.exists? a.modelPath = .ok true)
    (options : optionsOf a = .ok o)
    (loaded : (Classifier.ofFile s.unpack s.runtime s.files a.modelPath o).result = .ok c) : run s words =
      let outcome := runLoaded s ⟨"", (Classifier.ofFile s.unpack s.runtime s.files a.modelPath o).log, s.files⟩ a c
      { outcome with log := atLeast a.level outcome.log } := by
  rw [run, read]
  dsimp only
  rw [runArguments, ifPresent, present]
  dsimp only
  rw [options]
  dsimp only
  rw [loaded]
  rfl

theorem shown_run (on : OnFile s words a c path bytes) :
    (run s words).shown = showing s.files a c (textsOf path bytes) := by
  obtain ⟨o, options, loaded⟩ := on.loaded
  rw [run_loaded on.words on.model options loaded, runLoaded, on.notInteractive, on.input]
  exact shown_runFile on _

/-- The texts of a file of lines: those that are not blank, of the only lines that the text falls into. -/
theorem textsOf_lines {texts : List String} (named : path.endsWith ".json" = false)
    (read : textsOf path bytes = .ok texts) : ∃ text lines, Utf8.decode bytes = .ok text ∧
      (∀ others, Splits text others ↔ others = lines) ∧
      texts = (lines.filter fun line => !line.all isBlank).map String.ofList := by
  obtain ⟨text, decoded, read⟩ := bind_ok_iff.mp read
  rw [named] at read
  cases read
  have splits := splits_brokenLines text
  exact ⟨text, _, mapError_ok_iff.mp decoded, fun others => ⟨fun other => other.unique splits, fun same => same ▸ splits⟩,
    rfl⟩

/-- A list of strings holds nothing but them. -/
theorem strings?_eq {v : Value} {texts : List String} (listed : strings? v = some texts) :
    v = .array (texts.map .str) := by
  cases v with
  | array items =>
    rw [strings?] at listed
    congr
    induction items generalizing texts with
    | nil =>
      cases listed
      rfl
    | cons v items ih =>
      rw [List.mapM_cons, Option.bind_eq_bind, Option.bind_eq_some_iff] at listed
      obtain ⟨text, found, listed⟩ := listed
      obtain ⟨others, rest, same⟩ := Option.bind_eq_some_iff.mp listed
      cases same
      cases v with
      | str s =>
        cases found
        rw [List.map_cons, ← ih rest]
      | _ => cases found
  | _ => cases listed

/-- The texts of a JSON file: the strings of its list. -/
theorem textsOf_json {texts : List String} (named : path.endsWith ".json" = true)
    (read : textsOf path bytes = .ok texts) : ∃ text, Utf8.decode bytes = .ok text ∧
      Reader.read (unifyNewlines text) = .ok (.array (texts.map .str)) := by
  obtain ⟨text, decoded, read⟩ := bind_ok_iff.mp read
  refine ⟨text, mapError_ok_iff.mp decoded, ?_⟩
  rw [if_pos named, jsonTexts] at read
  split at read
  · cases read
  · cases read
  · rename_i v found
    split at read
    · rename_i strings listed
      cases read
      rw [found, strings?_eq listed]
    · cases read

/-- A run on a file writes all or nothing. It fails with the first text that fails, and where none fails it
writes one list with an entry for each text, in order, with the categories that a new classifier gives it. The
list is read back from what is written, as far as the scores are. The texts of a JSON file are the strings of its
list, and those of any other file its lines that are not blank, where a carriage return with the line feed behind it
ends one line. -/
theorem run_onFile (on : OnFile s words a c path bytes) :
    ((run s words).ending ≠ .status 0 → (run s words).output = "" ∧ (run s words).files = s.files) ∧
    (∀ fault, textsOf path bytes = .error fault → (run s words).shown = (.status 1, "", s.files)) ∧
    ∀ texts, textsOf path bytes = .ok texts →
      (∀ front text back e, texts = front ++ text :: back →
        (∀ earlier ∈ front, ∃ categories, (c.classify earlier).result = .ok categories) →
        (c.classify text).result = .error e →
        (e.IsOwn → (run s words).shown = (.status 1, "", s.files)) ∧
        (¬ e.IsOwn → (run s words).shown = (.escaped (.error e), "", s.files))) ∧
      ((∀ text ∈ texts, ∃ categories, (c.classify text).result = .ok categories) →
        ∃ entries, List.Forall₂ (fun text entry => ∃ categories, (c.classify text).result = .ok categories ∧
            entry = .object [("text", .str text), ("categories", .array (categories.map fun k =>
              .object [("label", .str k.name), ("score", .float k.score)]))]) texts entries ∧
          ((∀ text ∈ texts, ∀ categories, (c.classify text).result = .ok categories →
              ∀ k ∈ categories, Value.ReadsBack k.score) →
            Reader.read (Writer.write (.array entries)) = .ok (.array entries)) ∧
          (given? a.outputFile = none → (run s words).shown =
            (.status 0, String.ofList (Writer.write (.array entries)) ++ "\n", s.files)) ∧
          ∀ target written, given? a.outputFile = some target →
            s.files.write target (Utf8.encode (Writer.write (.array entries))) = .ok written →
            (run s words).shown = (.status 0, "", written) ∧ ∃ name, s.files.LeadsTo target name ∧
              written.find? name = some (Utf8.encode (Writer.write (.array entries))) ∧
              ∀ other, other ≠ name → written.find? other = s.files.find? other) ∧
      (path.endsWith ".json" = true → ∃ text, Utf8.decode bytes = .ok text ∧
        Reader.read (unifyNewlines text) = .ok (.array (texts.map .str))) ∧
      (path.endsWith ".json" = false → ∃ text lines, Utf8.decode bytes = .ok text ∧
        (∀ others, Splits text others ↔ others = lines) ∧
        texts = (lines.filter fun line => !line.all isBlank).map String.ofList) := by
  have shown := shown_run on
  refine ⟨?_, ?_, fun texts read => ⟨?_, ?_, fun named => textsOf_json named read, fun named => textsOf_lines named read⟩⟩
  · intro unsuccessful
    have ending : (run s words).ending = (showing s.files a c (textsOf path bytes)).1 := congrArg Prod.fst shown
    have rest : ((run s words).output, (run s words).files) = (showing s.files a c (textsOf path bytes)).2 :=
      congrArg Prod.snd shown
    rw [showing_unsuccessful (ending ▸ unsuccessful)] at rest
    exact Prod.mk.inj rest
  · intro fault failed
    rw [shown, failed]
    rfl
  · intro front text back e split before failed
    have ended : (run s words).shown = (endingOf e, "", s.files) := by
      rw [shown, read, split, showing_first before failed]
    exact ⟨fun own => by rw [ended, endingOf_own own], fun foreign => by rw [ended, endingOf_foreign foreign]⟩
  · intro each
    obtain ⟨entries, all, related⟩ := exists_mapM (exists_entryOf each)
    refine ⟨entries, related.imp ?_, ?_, ?_, ?_⟩
    · intro text entry made
      obtain ⟨categories, classified, rfl⟩ := map_ok_iff.mp made
      exact ⟨categories, classified, rfl⟩
    · intro numbers
      refine Reader.read_write (Value.writable_array fun entry listed => ?_)
      obtain ⟨text, asked, made⟩ := mem_of_mapM all entry listed
      obtain ⟨categories, classified, rfl⟩ := map_ok_iff.mp made
      exact Report.writable_toValue text (numbers text asked categories classified)
    · intro printed
      rw [shown, read]
      simp only [showing, all, printed]
    · intro target written saved wrote
      refine ⟨?_, Files.write_ok wrote⟩
      rw [shown, read]
      simp only [showing, all, saved, wrote]

end

/-! ## A run on two texts -/

/-- The sample of a model as it is exported. -/
def samplePackage : Package :=
  ⟨Export.metadata Export.sampleSettings, Export.graphDescription Export.sampleSettings .float32 (.zeros .float32 [1, 2]),
    Package.sampleModel.bytes, Export.files Export.sampleSettings ["a", "b"]⟩

def sampleRead : Package := { samplePackage with files := Package.filesOf samplePackage.toArchive }

theorem packed_samplePackage : Export.Packed Package.sampleModel (.listed ["a", "b"]) Export.sampleSettings .float32
    ["a", "b"] (.zeros .float32 [1, 2]) samplePackage := by
  obtain ⟨inputs, shown⟩ := exists_ok (r := Export.exampleInputs none .float32 2) (by decide +kernel)
  exact ⟨rfl, rfl, rfl, inputs, shown, rfl⟩

theorem unpacked_samplePackage : Zip.read? (Zip.write samplePackage.toArchive) = some samplePackage.toArchive := by
  have fits : Zip.Fits samplePackage.toArchive := by decide +kernel
  exact Zip.read?_write fits

theorem read_samplePackage : (Package.read (Zip.read? (Zip.write samplePackage.toArchive))).result = .ok sampleRead := by
  have packed := packed_samplePackage
  have held := (packed.saveable (by decide)).holds packed.numbersReadBack fun _ => rfl
  rw [unpacked_samplePackage, Package.result_read]
  exact Package.ofArchive_ok_iff.mpr held

/-- The files that a run on the sample finds: a model, and two texts with a blank line between them. -/
def sampleFiles (model : Bytes) : Files := ⟨[("m", model), ("t", Utf8.encode "A b\r\n \nc".toList)], []⟩

/-- The words that ask for the texts of the sample. -/
def sampleWords : List String := ["--model_path", "m", "--input_file", "t"]

def sampleSurroundings (model : Bytes) : Surroundings := ⟨sampleFiles model, [], Zip.read?, Export.sampleRuntime, ""⟩

/-- The categories of every text of the sample. The second class has no name of its own. -/
def sampleCategories : List Category := [⟨"a", 0⟩, ⟨"1", 0⟩]

theorem categories_ext {ks ls : List Category}
    (same : ks.map (fun k => (k.name, k.score.toBits)) = ls.map fun k => (k.name, k.score.toBits)) : ks = ls := by
  refine List.map_injective_iff.mpr ?_ same
  rintro ⟨name, score⟩ ⟨other, further⟩ same
  obtain ⟨names, bits⟩ := Prod.mk.inj same
  rw [show name = other from names, show score = further from Number.eq_of_toBits bits]

theorem exists_classifier_sample : ∃ c, (Classifier.ofPackage Export.sampleRuntime sampleRead {}).result = .ok c ∧
    ∀ text ∈ ["A b", "Quit", "c"], (c.classify text).result = .ok sampleCategories := by
  obtain ⟨c, made, classified⟩ := exists_ok_of_map
    (r := (Classifier.ofPackage Export.sampleRuntime sampleRead {}).result)
    (f := fun c => ["A b", "Quit", "c"].all fun text => (c.classify text).result.toOption.map
      (fun ks : List Category => ks.map fun k => (k.name, k.score.toBits)) == some [("a", 0), ("1", 0)])
    (y := true) (by decide +kernel)
  refine ⟨c, made, fun text listed => ?_⟩
  obtain ⟨ks, done, same⟩ := exists_ok_of_map (eq_of_beq (List.all_eq_true.mp classified text listed))
  rw [done, show ks = sampleCategories from categories_ext same]

theorem exists_onFile_sample {model : Bytes} (opened : (Package.read (Zip.read? model)).result = .ok sampleRead) :
    ∃ c, (∀ text ∈ ["A b", "c"], (c.classify text).result = .ok sampleCategories) ∧
      OnFile (sampleSurroundings model) sampleWords ⟨"m", none, none, some "t", none, false, .info⟩ c "t"
        (Utf8.encode "A b\r\n \nc".toList) := by
  obtain ⟨c, made, classified⟩ := exists_classifier_sample
  have found : (sampleFiles model).read "m" = .ok model := by cbv
  have present : (sampleFiles model).exists? "m" = .ok true := by cbv
  have texts : (sampleFiles model).read (Files.tidy "t") = .ok (Utf8.encode "A b\r\n \nc".toList) := by cbv
  obtain ⟨a, read, rfl⟩ := exists_ok_of_map (r := Arguments.read sampleWords) (f := id)
    (y := ⟨"m", none, none, some "t", none, false, .info⟩) (by decide +kernel)
  exact ⟨c, fun text listed => classified text (List.Sublist.subset (by decide) listed), read, rfl, rfl, texts, present,
    {}, rfl, ofFile_ok found opened made⟩

/-- Two texts give two entries, and the list of them is read back. -/
theorem run_onFile_sample :
    let categories := Value.array [.object [("label", .str "a"), ("score", .float 0)],
      .object [("label", .str "1"), ("score", .float 0)]]
    let list := Value.array [.object [("text", .str "A b"), ("categories", categories)],
      .object [("text", .str "c"), ("categories", categories)]]
    (run (sampleSurroundings (Zip.write samplePackage.toArchive)) sampleWords).shown =
      (.status 0, String.ofList (Writer.write list) ++ "\n", sampleFiles (Zip.write samplePackage.toArchive)) ∧
      Reader.read (Writer.write list) = .ok list := by
  obtain ⟨c, classified, on⟩ := exists_onFile_sample read_samplePackage
  obtain ⟨texts, read, rfl⟩ := exists_ok_of_map (r := textsOf "t" (Utf8.encode "A b\r\n \nc".toList)) (f := id)
    (y := ["A b", "c"]) (by decide +kernel)
  obtain ⟨entries, related, back, printed, -⟩ := ((run_onFile on).2.2 _ read).2.1 fun text listed =>
    ⟨_, classified text listed⟩
  obtain _ | ⟨first, _ | ⟨second, _ | _⟩⟩ := related
  obtain ⟨categories, done, rfl⟩ := first
  cases (classified "A b" (by simp)).symm.trans done
  obtain ⟨categories, done, rfl⟩ := second
  cases (classified "c" (by simp)).symm.trans done
  refine ⟨printed rfl, back ?_⟩
  intro text listed categories done
  cases (classified text listed).symm.trans done
  have zero : Value.ReadsBack 0 := rfl
  simpa [sampleCategories] using zero

end CommandLine
end TextClassifier
