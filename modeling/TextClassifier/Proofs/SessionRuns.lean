import TextClassifier.Proofs.FileRuns

/-!
# Interactive runs

A session answers one line after another with one classifier, and each as if it were the first
(`round_after`): neither the results nor the records of a classification tell what was classified before. A session
whose lines do not all run out therefore shows an answer for each line before the one that ends it, and nothing of the
lines behind it (`run_inSession`).
-/
namespace TextClassifier

/-! ## Stripped lines -/

namespace Text
variable {line text : List Char}

/-- A text without the blanks around it. -/
structure Strips (line text : List Char) : Prop where
  around : ∃ front back, line = front ++ text ++ back ∧ ∀ c ∈ front ++ back, isBlank c = true
  first : ∀ c, text.head? = some c → isBlank c = false
  last : ∀ c, text.getLast? = some c → isBlank c = false

theorem dropWhile_blanks {blanks : List Char} (blank : ∀ c ∈ blanks, isBlank c = true) (rest : List Char) :
    (blanks ++ rest).dropWhile isBlank = rest.dropWhile isBlank :=
  List.dropWhile_append_of_pos blank

theorem dropWhile_eq_self (first : ∀ c, text.head? = some c → isBlank c = false) (rest : List Char)
    (filled : text ≠ []) : (text ++ rest).dropWhile isBlank = text ++ rest := by
  cases text with
  | nil => exact absurd rfl filled
  | cons c text => exact List.dropWhile_cons_of_neg (by simp [first c rfl])

/-- What is stripped is what trimming leaves. -/
theorem Strips.trim_eq (strips : Strips line text) : trim line = text := by
  obtain ⟨⟨front, back, rfl, blank⟩, first, last⟩ := strips
  have before : ∀ c ∈ front, isBlank c = true := fun c member => blank c (List.mem_append_left _ member)
  have behind : ∀ c ∈ back.reverse, isBlank c = true := fun c member =>
    blank c (List.mem_append_right _ (List.mem_reverse.mp member))
  rw [trim, List.append_assoc, dropWhile_blanks before]
  by_cases empty : text = []
  · subst empty
    have gone : back.dropWhile isBlank = [] := by
      simpa using dropWhile_blanks (fun c member => behind c (List.mem_reverse.mpr member)) []
    rw [List.nil_append, gone]
    rfl
  · have final : ∀ c, text.reverse.head? = some c → isBlank c = false := by
      intro c found
      rw [List.head?_reverse] at found
      exact last c found
    have reversed := dropWhile_eq_self final [] (by simpa using empty)
    rw [List.append_nil] at reversed
    rw [dropWhile_eq_self first back empty, List.reverse_append, dropWhile_blanks behind, reversed, List.reverse_reverse]

theorem isBlank_of_head?_dropWhile (line : List Char) {c : Char} (found : (line.dropWhile isBlank).head? = some c) :
    isBlank c = false := by
  have kept := List.head?_dropWhile_not isBlank line
  rw [found] at kept
  simpa using kept

/-- Trimming strips a line. -/
theorem strips_trim (line : List Char) : Strips line (trim line) := by
  have split : line.dropWhile isBlank =
      trim line ++ ((line.dropWhile isBlank).reverse.takeWhile isBlank).reverse := by
    rw [trim, ← List.reverse_append, List.takeWhile_append_dropWhile, List.reverse_reverse]
  refine ⟨⟨line.takeWhile isBlank, ((line.dropWhile isBlank).reverse.takeWhile isBlank).reverse, ?_, ?_⟩, ?_, ?_⟩
  · rw [List.append_assoc, ← split, List.takeWhile_append_dropWhile]
  · intro c member
    rcases List.mem_append.mp member with front | back
    · exact List.mem_takeWhile_imp front
    · exact List.mem_takeWhile_imp (List.mem_reverse.mp back)
  · intro c found
    apply isBlank_of_head?_dropWhile line
    rw [split, List.head?_append, found]
    rfl
  · intro c found
    rw [trim, List.getLast?_reverse] at found
    exact isBlank_of_head?_dropWhile _ found

theorem strips_iff : Strips line text ↔ trim line = text :=
  ⟨Strips.trim_eq, fun same => same ▸ strips_trim line⟩

end Text

/-! ## The records of a used classifier -/

namespace Classifier
variable {r : Runtime} {p : Package} {o : Options} {c : Classifier} {e : Engine}

/-- A used classifier takes or refuses a sequence as a new one does. -/
theorem isOk_feed_served (new : c.New) (served : Engine.Served c.layout c.engine e) {text : String} {q : Sequence}
    (encoded : c.encode text = .ok q) :
    (feed c.layout q e).result.isOk = (feed c.layout q c.engine).result.isOk := by
  have places := hasPlaces_encode new.hasRoom encoded
  have same := InputLayout.blocked_congr (n := c.placesOf text) served.memory served.inputs
  cases reason : c.layout.blocked (c.placesOf text) e with
  | some fault =>
    obtain ⟨_, _, used, -⟩ := served.ready.feed_blocked places reason
    obtain ⟨_, _, first, -⟩ := new.ready.feed_blocked places (same.symm.trans reason)
    rw [used, first]
  | none =>
    rw [(served.ready.feed_ok places (placesOf_fixed c text) reason).1,
      (new.ready.feed_ok places (placesOf_fixed c text) (same.symm.trans reason)).1]

theorem log_served (new : c.New) (served : Engine.Served c.layout c.engine e) (text : String) :
    (classify { c with engine := e } text).log = (c.classify text).log := by
  have same : encode { c with engine := e } text = c.encode text := rfl
  rw [classify, classify, same]
  cases encoded : c.encode text with
  | error fault => rfl
  | ok q =>
    have taken := isOk_feed_served new served encoded
    dsimp only
    cases used : (feed c.layout q e).result <;> cases first : (feed c.layout q c.engine).result <;>
      simp_all [Except.isOk, Except.toBool]

theorem classify_log_after (made : MadeOf r p o c) (history : List String) (text : String) :
    ((c.after history).classify text).log = (c.classify text).log := by
  obtain ⟨e, used, served⟩ := after_served made history
  rw [used]
  exact log_served made.new served text

end Classifier

/-! ## Rounds -/

namespace CommandLine

namespace Session
open Text
variable {r : Runtime} {p : Package} {o : Options} {c : Classifier} {line : List Char}

/-- A line that ends a session: the word for it, in any case, with blanks around it. -/
def Quits (line : List Char) : Prop := ∃ text, Strips line text ∧ text.map Text.asciiLower = "quit".toList

/-- The answer to a line by a classifier that has not been used. -/
inductive Answers (c : Classifier) (line : List Char) : String → Prop
  | blank (strips : Strips line []) : Answers c line "Please enter some text.\n"
  | categories {text : List Char} {categories : List Category} {shown : List String} (strips : Strips line text)
    (filled : text ≠ []) (classified : (c.classify (String.ofList text)).result = .ok categories)
    (each : List.Forall₂ (fun (k, i) shown => ∃ score, Number.ShowsPlaces 5 k.score score ∧
      shown = "category[" ++ toString i ++ "]: '" ++ k.name ++ "' : '" ++ score ++ "'") categories.zipIdx shown) :
    Answers c line ("\n".intercalate shown ++ "\n")
  | failure {text : List Char} {e : Error} {code : StatusCode} {message : String} (strips : Strips line text)
    (filled : text ≠ []) (failed : (c.classify (String.ofList text)).result = .error e)
    (own : e.status? = some (code, message)) :
    Answers c line ("Error during classification: [" ++ code.name ++ "] " ++ message ++ "\n")

/-- The texts that are classified: the lines without the blanks around them, as far as anything is left. -/
def classified (lines : List (List Char)) : List String := ((lines.map trim).filter (· ≠ [])).map String.ofList

/-- If the text of a line cannot be classified, the error is the classifier's own. -/
def Answerable (c : Classifier) (line : List Char) : Prop :=
  ∀ text e, Strips line text → text ≠ [] → (c.classify (String.ofList text)).result = .error e → e.IsOwn

theorem classified_blank (blank : trim line = []) : classified [line] = [] := by
  simp [classified, blank]

theorem classified_filled (filled : trim line ≠ []) : classified [line] = [String.ofList (trim line)] := by
  simp [classified, filled]

theorem classified_append (front back : List (List Char)) :
    classified (front ++ back) = classified front ++ classified back := by
  simp [classified]

theorem quits_iff : Quits line ↔ isQuit (trim line) = true := by
  rw [isQuit, beq_iff_eq]
  constructor
  · rintro ⟨text, strips, same⟩
    rw [strips.trim_eq, same]
  · intro same
    exact ⟨trim line, strips_trim line, same⟩

/-- A round of a used classifier answers as a new one, and leaves the classifier behind the text, if there is one. -/
theorem round_after (made : Classifier.MadeOf r p o c) (history : List String) (goesOn : ¬ Quits line)
    (answerable : Answerable c line) : ∃ answer, Answers c line answer ∧ round (c.after history) line =
      ⟨answer, (classified [line]).flatMap fun text => (c.classify text).log,
        .again (c.after (history ++ classified [line]))⟩ := by
  have strips := strips_trim line
  rw [quits_iff] at goesOn
  rw [round, if_neg goesOn]
  by_cases blank : trim line = []
  · refine ⟨_, .blank (strips_iff.mpr blank), ?_⟩
    rw [blank, classified_blank blank, List.append_nil]
    rfl
  · have kept : ¬ (trim line).isEmpty = true := by simpa using blank
    have same : ((c.after history).classify (String.ofList (trim line))).result =
        (c.classify (String.ofList (trim line))).result :=
      (Classifier.classify_after made history _).trans (Classifier.classify_after made [] _).symm
    have log := Classifier.classify_log_after made history (String.ofList (trim line))
    have behind : c.after (history ++ classified [line]) =
        ((c.after history).classify (String.ofList (trim line))).classifier := by
      rw [classified_filled blank]
      simp [Classifier.after]
    rw [if_neg kept, answer, behind, classified_filled blank, List.flatMap_singleton, ← log, same]
    cases ended : (c.classify (String.ofList (trim line))).result with
    | ok categories =>
      obtain ⟨shown, each, lines⟩ := Report.lines_eq categories
      refine ⟨_, .categories strips blank ended each, ?_⟩
      rw [← lines]
    | error e =>
      obtain ⟨code, message, own⟩ := Error.isOwn_iff.mp (answerable _ e strips blank ended)
      refine ⟨_, .failure strips blank ended own, ?_⟩
      simp only [Error.line?_of_status? own, String.append_assoc]
      rfl

/-! ## Sessions -/

/-- What a session shows and reports behind what it has shown and reported before. -/
def behind (output : String) (log : List Record) (session : String × List Record × Ending) :
    String × List Record × Ending :=
  (output ++ session.1, log ++ session.2.1, session.2.2)

/-- Up to its last round, a session shows an answer for each line and goes on with the classifier behind all texts. -/
theorem run_append (made : Classifier.MadeOf r p o c) (lines : List (List Char)) (history : List String)
    (goesOn : ∀ line ∈ lines, ¬ Quits line) (answerable : ∀ line ∈ lines, Answerable c line) :
    ∃ answers, List.Forall₂ (Answers c) lines answers ∧ ∀ rest, run (c.after history) (lines ++ rest) =
      behind (String.join (answers.map (prompt ++ ·))) ((classified lines).flatMap fun text => (c.classify text).log)
        (run (c.after (history ++ classified lines)) rest) := by
  induction lines generalizing history with
  | nil =>
    refine ⟨[], .nil, ?_⟩
    intro rest
    simp [classified, behind]
  | cons line lines ih =>
    obtain ⟨here, later⟩ := List.forall_mem_cons.mp goesOn
    obtain ⟨first, others⟩ := List.forall_mem_cons.mp answerable
    obtain ⟨answer, answered, rounded⟩ := round_after made history here first
    obtain ⟨answers, related, goes⟩ := ih (history ++ classified [line]) later others
    refine ⟨answer :: answers, .cons answered related, ?_⟩
    intro rest
    have together : classified (line :: lines) = classified [line] ++ classified lines := classified_append [line] lines
    rw [List.cons_append, run, rounded, together]
    simp only [goes rest, behind, List.append_assoc, List.flatMap_append, List.map_cons, String.join_cons, String.append_assoc]

theorem run_quit (c : Classifier) (quits : Quits line) (rest : List (List Char)) :
    run c (line :: rest) = (prompt, [], .quit) := by
  rw [run, round, if_pos (quits_iff.mp quits)]
  simp

/-- The first line that ends a session. -/
theorem exists_first {lines : List (List Char)} (quits : ∃ line ∈ lines, Quits line) :
    ∃ front line back, lines = front ++ line :: back ∧ Quits line ∧ ∀ earlier ∈ front, ¬ Quits earlier := by
  obtain ⟨line, listed, ends⟩ := quits
  induction lines with
  | nil => cases listed
  | cons first lines ih =>
    by_cases here : Quits first
    · exact ⟨[], first, lines, rfl, here, List.forall_mem_nil _⟩
    · rcases List.mem_cons.mp listed with rfl | listed
      · exact absurd ends here
      · obtain ⟨front, line, back, rfl, ends, before⟩ := ih listed
        exact ⟨first :: front, line, back, rfl, ends, List.forall_mem_cons.mpr ⟨here, before⟩⟩

/-- The lines in front of the first that ends a session are those up to it. -/
theorem takeWhile_first {front back : List (List Char)} (ends : Quits line)
    (before : ∀ earlier ∈ front, ¬ Quits earlier) :
    (front ++ line :: back).takeWhile (fun line => !isQuit (trim line)) = front := by
  have goesOn : ∀ earlier ∈ front, (!isQuit (trim earlier)) = true := by
    intro earlier listed
    simpa [quits_iff] using before earlier listed
  rw [List.takeWhile_append_of_pos goesOn, List.takeWhile_cons_of_neg (by simp [quits_iff.mp ends]), List.append_nil]

end Session

/-- A run is asked for a session and finds a model that can be loaded. -/
structure InSession (s : Surroundings) (words : List String) (a : Arguments) (o : Options) (c : Classifier) : Prop where
  words : Arguments.read words = .ok a
  interactive : a.interactive = true
  model : s.files.exists? a.modelPath = .ok true
  options : optionsOf a = .ok o
  loaded : (Classifier.ofFile s.unpack s.runtime s.files a.modelPath o).result = .ok c

variable {s : Surroundings} {words : List String} {a : Arguments} {o : Options} {c : Classifier}

theorem InSession.run_eq (within : InSession s words a o c) : run s words =
    let loading := (Classifier.ofFile s.unpack s.runtime s.files a.modelPath o).log
    let outcome := runSession ⟨"", loading, s.files⟩ s.lines c
    { outcome with log := atLeast a.level outcome.log } := by
  rw [run_loaded within.words within.model within.options within.loaded, runLoaded, if_pos within.interactive]

open Session in
/-- A session with a line that ends it answers all lines before that one, each as a new classifier does, and nothing
else: it shows one answer for each of them and its records are those of their texts, in order. It ends with success.
Whatever is entered next meets the classifier behind these texts. -/
theorem run_inSession (within : InSession s words a o c) (quits : ∃ line ∈ s.lines, Quits line)
    (answerable : ∀ line ∈ s.lines, Answerable c line) :
    ∃ front line back answers, s.lines = front ++ line :: back ∧ Quits line ∧ (∀ earlier ∈ front, ¬ Quits earlier) ∧
      List.Forall₂ (Answers c) front answers ∧
      (run s words).shown =
        (.status 0, banner ++ String.join (answers.map (prompt ++ ·)) ++ prompt, s.files) ∧
      (run s words).log = atLeast a.level
        ((Classifier.ofFile s.unpack s.runtime s.files a.modelPath o).log ++
          (classified front).flatMap fun text => (c.classify text).log) ∧
      ∀ others, Session.run c (front ++ others) = behind (String.join (answers.map (prompt ++ ·)))
        ((classified front).flatMap fun text => (c.classify text).log)
        (Session.run (c.after (classified front)) others) := by
  obtain ⟨p, made⟩ := madeOf_ofFile within.loaded
  obtain ⟨front, line, back, entered, ends, before⟩ := exists_first quits
  have inside : ∀ earlier ∈ front, Answerable c earlier := by
    intro earlier listed
    exact answerable earlier (entered ▸ List.mem_append_left _ listed)
  obtain ⟨answers, related, goes⟩ := run_append made front [] before inside
  have session : Session.run c s.lines = (String.join (answers.map (prompt ++ ·)) ++ prompt,
      (classified front).flatMap fun text => (c.classify text).log, .quit) := by
    have whole := goes (line :: back)
    rw [run_quit _ ends] at whole
    rw [entered]
    simpa [Classifier.after, behind] using whole
  refine ⟨front, line, back, answers, entered, ends, before, related, ?_, ?_, goes⟩
  · simp only [within.run_eq, runSession, session, Outcome.shown, Effects.finish, Effects.report]
    rw [String.empty_append, String.append_assoc]
  · simp only [within.run_eq, runSession, session, Effects.finish, Effects.report]

/-- Lines of a session: a text, blanks, the word that ends the session, and a line that comes too late. -/
def sampleLines : List (List Char) := [" A b ".toList, " ".toList, "Quit\t".toList, "c".toList]

def sampleAnswer : String := "category[0]: 'a' : '0.00000'\ncategory[1]: '1' : '0.00000'\n"

theorem answers_sample {c : Classifier} {answer : String} (classified : (c.classify "A b").result = .ok sampleCategories)
    (answers : Session.Answers c " A b ".toList answer) : answer = sampleAnswer := by
  have stripped : Text.trim " A b ".toList = "A b".toList := by decide
  cases answers with
  | blank strips => exact absurd (strips.trim_eq.symm.trans stripped) (by decide)
  | @categories text categories shown strips filled done each =>
    obtain rfl : text = "A b".toList := strips.trim_eq.symm.trans stripped
    cases classified.symm.trans done
    obtain _ | ⟨first, _ | ⟨second, _ | _⟩⟩ := each
    obtain ⟨_, score, rfl⟩ := first
    obtain ⟨_, other, rfl⟩ := second
    rw [← Number.showsPlaces_iff.mp score, ← Number.showsPlaces_iff.mp other]
    decide +kernel
  | @failure text e code message strips filled failed own =>
    obtain rfl : text = "A b".toList := strips.trim_eq.symm.trans stripped
    rw [show String.ofList "A b".toList = "A b" from rfl, classified] at failed
    cases failed

theorem answers_blank {c : Classifier} {line : List Char} {answer : String} (blank : Text.trim line = [])
    (answers : Session.Answers c line answer) : answer = "Please enter some text.\n" := by
  cases answers with
  | blank => rfl
  | categories strips filled | failure strips filled => exact absurd (strips.trim_eq.symm.trans blank) filled

/-- A session answers two of four lines. -/
theorem run_inSession_sample :
    (run { sampleSurroundings (Zip.write samplePackage.toArchive) with lines := sampleLines }
      ["--model_path", "m", "--interactive"]).shown =
      (.status 0, Session.banner ++ (Session.prompt ++ sampleAnswer ++ (Session.prompt ++ "Please enter some text.\n")) ++
        Session.prompt, sampleFiles (Zip.write samplePackage.toArchive)) := by
  generalize opened : Zip.write samplePackage.toArchive = model
  have read : (Package.read (Zip.read? model)).result = .ok sampleRead := opened ▸ read_samplePackage
  obtain ⟨c, made, classified⟩ := exists_classifier_sample
  have found : (sampleFiles model).read "m" = .ok model := by cbv
  have present : (sampleFiles model).exists? "m" = .ok true := by cbv
  obtain ⟨a, words, rfl⟩ := exists_ok_of_map (r := Arguments.read ["--model_path", "m", "--interactive"]) (f := id)
    (y := ⟨"m", none, none, none, none, true, .info⟩) (by decide +kernel)
  have within : InSession { sampleSurroundings model with lines := sampleLines } ["--model_path", "m", "--interactive"]
      ⟨"m", none, none, none, none, true, .info⟩ {} c := ⟨words, rfl, present, rfl, ofFile_ok found read made⟩
  have answerable : ∀ line ∈ sampleLines, Session.Answerable c line := by
    intro line listed text e strips filled failed
    have texts : text = [] ∨ String.ofList text ∈ ["A b", "Quit", "c"] := by
      simp only [sampleLines, List.mem_cons, List.not_mem_nil, or_false] at listed
      rw [← strips.trim_eq]
      rcases listed with rfl | rfl | rfl | rfl <;> decide
    have done := classified _ (texts.resolve_left filled)
    rw [failed] at done
    cases done
  have quits : ∃ line ∈ sampleLines, Session.Quits line :=
    ⟨"Quit\t".toList, by simp [sampleLines], Session.quits_iff.mpr (by decide)⟩
  obtain ⟨front, line, back, answers, entered, ends, before, related, shown, -⟩ := run_inSession within quits answerable
  have two : sampleLines.takeWhile (fun line => !Session.isQuit (Text.trim line)) = front := by
    rw [show sampleLines = front ++ line :: back from entered]
    exact Session.takeWhile_first ends before
  obtain rfl : [" A b ".toList, " ".toList] = front := (show _ = _ by decide).trans two
  obtain _ | ⟨first, _ | ⟨second, _ | _⟩⟩ := related
  rw [shown, answers_sample (classified "A b" (by simp)) first, answers_blank (by decide) second]
  rfl

end CommandLine
end TextClassifier
