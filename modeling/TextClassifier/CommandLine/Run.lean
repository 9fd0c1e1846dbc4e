import TextClassifier.CommandLine.Arguments
import TextClassifier.CommandLine.Session
import TextClassifier.CommandLine.Texts

/-!
# Runs of the command line

A run loads a model and classifies one text, the texts of a file, or what is entered line by line.
It ends with a status or with an error that is not the classifier's own. A file of texts is
classified as a whole: either all results are written or none.
-/
namespace TextClassifier.CommandLine
open Json Text

/-- What a run finds around it. -/
structure Surroundings where
  files : Files
  /-- The lines of the standard input. -/
  lines : List (List Char)
  /-- The entries in the bytes of an archive. -/
  unpack : Bytes → Option Archive
  runtime : Runtime
  /-- The help for the command line. -/
  help : String

/-- An error that ends a run without a status. -/
inductive Escape where
  | error (e : Error)
  | file (e : FileError)
  | endOfInput
  | unusedWords
  deriving Repr

inductive Ending where
  /-- A status of the program. -/
  | status (code : Nat)
  /-- A status that the reading of arguments gives. -/
  | refused (code : Nat)
  | escaped (e : Escape)
  deriving Repr

/-- A run: how it ends, what it prints and reports, and the files behind it. -/
structure Outcome where
  ending : Ending
  output : String
  log : List Record
  files : Files

/-- A step of a run: what it prints and reports, and the files behind it. -/
structure Effects where
  output : String := ""
  log : List Record := []
  files : Files

/-- The outcome of effects with an ending. -/
def Effects.finish (e : Effects) (ending : Ending) : Outcome := ⟨ending, e.output, e.log, e.files⟩

def Effects.report (e : Effects) (records : List Record) : Effects :=
  { e with log := e.log ++ records }

/-- The ending of a run with an error: its line is reported behind a text, unless it is not the
classifier's own. -/
def fail (fx : Effects) (text : String) (e : Error) : Outcome :=
  match e.line? with
  | some line => (fx.report [⟨.error, text ++ line⟩]).finish (.status 1)
  | none => fx.finish (.escaped (.error e))

/-- Writes text to a file and reports it, or ends with why it cannot be written. -/
def save (fx : Effects) (path : String) (text : List Char) : Outcome :=
  match fx.files.write path (Utf8.encode text) with
  | .ok files =>
    ({ fx with files }.report [⟨.info, "Results saved to " ++ path⟩]).finish (.status 0)
  | .error e => fx.finish (.escaped (.file e))

def print (fx : Effects) (line : String) : Outcome :=
  { fx with output := fx.output ++ line ++ "\n" }.finish (.status 0)

/-- A path that is given and not empty. -/
def given? (path : Option String) : Option String := path.filter (· != "")

/-- Goes on if a path leads somewhere; otherwise that is reported behind a text. -/
def ifPresent (fx : Effects) (path text : String) (goOn : Unit → Outcome) : Outcome :=
  match fx.files.exists? path with
  | .ok true => goOn ()
  | .ok false => (fx.report [⟨.error, text ++ path⟩]).finish (.status 1)
  | .error e => fx.finish (.escaped (.file e))

/-- Texts with their categories, up to the first that fails, and all records. -/
def classifyAll (c : Classifier) : List String → Except Error (List Value) × List Record
  | [] => (.ok [], [])
  | text :: rest =>
    let reply := c.classify text
    match reply.result with
    | .error e => (.error e, reply.log)
    | .ok categories =>
      let (results, log) := classifyAll reply.classifier rest
      (results.map (Report.toValue text categories :: ·), reply.log ++ log)

/-- What is said about a fault of an input file. -/
def inputFault : Fault → String
  | .stated text => text
  | _ => "*"

/-- The ending of a run with a fault of an input file: that the file is unusable is reported. -/
def failReading (fx : Effects) (fault : Fault) : Outcome :=
  if fault.kind.isOneOf [.unusable] then
    (fx.report [⟨.error, "Failed to read input file: " ++ inputFault fault⟩]).finish (.status 1)
  else fx.finish (.escaped (.error (.fault fault)))

/-- Classifies the texts of a file. -/
def runFile (fx : Effects) (a : Arguments) (c : Classifier) (path : String) : Outcome :=
  ifPresent fx path "Input file not found: " fun _ =>
    match fx.files.read (Files.tidy path) with
    | .error e => fx.finish (.escaped (.file e))
    | .ok bytes =>
      match textsOf path bytes with
      | .error fault => failReading fx fault
      | .ok texts =>
        let (results, log) := classifyAll c texts
        let fx := fx.report (⟨.info, "Classifying " ++ toString texts.length ++ " texts from " ++
          path⟩ :: log)
        match results with
        | .error e => fail fx "Error during classification: " e
        | .ok results =>
          let json := Writer.write (.array results)
          match given? a.outputFile with
          | some output => save fx output json
          | none => print fx (String.ofList json)

def runText (fx : Effects) (a : Arguments) (c : Classifier) (text : String) : Outcome :=
  let reply := c.classify text
  let fx := fx.report reply.log
  match reply.result with
  | .error e => fail fx "Error during classification: " e
  | .ok categories =>
    match given? a.outputFile with
    | some output => save fx output (Writer.write (Report.toValue text categories))
    | none => print fx (Report.lines categories)

/-- Classifies lines as they are entered. -/
def runSession (fx : Effects) (lines : List (List Char)) (c : Classifier) : Outcome :=
  let (output, log, ending) := Session.run c lines
  let fx := { fx with output := fx.output ++ Session.banner ++ output }.report log
  match ending with
  | .quit => fx.finish (.status 0)
  | .outOfLines => fx.finish (.escaped .endOfInput)
  | .failed e => fx.finish (.escaped (.error e))

/-- Does what is asked for with a classifier. -/
def runLoaded (s : Surroundings) (fx : Effects) (a : Arguments) (c : Classifier) : Outcome :=
  if a.interactive then runSession fx s.lines c
  else match given? a.inputFile with
    | some path => runFile fx a c path
    | none =>
      match given? a.text with
      | some text => runText fx a c text
      | none => { fx with output := fx.output ++ s.help ++ "\n" }.finish (.status 1)

/-- The options of a run. -/
def optionsOf (a : Arguments) : Except Fault Options :=
  let settings : Settings := match a.length with
    | some n => { length := .int n }
    | none => {}
  settings.options

def runArguments (s : Surroundings) (a : Arguments) : Outcome :=
  let fx : Effects := { files := s.files }
  ifPresent fx a.modelPath "Model file not found: " fun _ => match optionsOf a with
    | .error fault => fx.finish (.escaped (.error (.fault fault)))
    | .ok options =>
      let attempt := Classifier.ofFile s.unpack s.runtime s.files a.modelPath options
      let fx := fx.report attempt.log
      match attempt.result with
      | .error e => fail fx "Failed to load model: " e
      | .ok c => runLoaded s fx a c

/-- The records of at least a level. -/
def atLeast (level : Level) (log : List Record) : List Record :=
  log.filter fun r => level.rank ≤ r.level.rank

/-- A run with the words of a command line. -/
def run (s : Surroundings) (words : List String) : Outcome :=
  match Arguments.read words with
  | .error .help => ⟨.refused 0, s.help ++ "\n", [], s.files⟩
  | .error .usage => ⟨.refused 2, "", [], s.files⟩
  | .error .leftOver => ⟨.escaped .unusedWords, "", [], s.files⟩
  | .ok a =>
    let outcome := runArguments s a
    { outcome with log := atLeast a.level outcome.log }

end TextClassifier.CommandLine
