import TextClassifier.Classifier
import TextClassifier.Report

/-!
# Interactive sessions

A session asks for one text after another until the line is the word that ends it. Blank lines are
asked for again. An error of the classifier's own is shown, and the session goes on.
-/
namespace TextClassifier.CommandLine
open Text

namespace Session

def banner : String :=
  let rule := String.ofList (List.replicate 60 '=')
  "\n" ++ rule ++ "\nNL Classifier Interactive Mode\n" ++ rule ++ "\nType 'quit' to exit\n"

/-- What stands before each text. -/
def prompt : String :=
  "\n" ++ String.ofList (List.replicate 40 '-') ++ "\nEnter text to classify: "

/-- Whether a text ends the session. -/
def isQuit (text : List Char) : Bool := text.map Text.asciiLower == "quit".toList

/-- What follows a round. -/
inductive Next where
  /-- Another round, with the classifier as it is then. -/
  | again (c : Classifier)
  /-- The end of the session. -/
  | quit
  /-- An error that is not the classifier's own. -/
  | fail (e : Error)

/-- A round: what it prints and reports, and what follows. -/
structure Round where
  output : String
  log : List Record
  next : Next

/-- The answer to a text that is not blank. -/
def answer (c : Classifier) (text : String) : Round :=
  let reply := c.classify text
  match reply.result with
  | .ok categories =>
    ⟨Report.lines categories ++ "\n", reply.log, .again reply.classifier⟩
  | .error e =>
    match e.line? with
    | some line =>
      ⟨"Error during classification: " ++ line ++ "\n", reply.log, .again reply.classifier⟩
    | none => ⟨"", reply.log, .fail e⟩

def round (c : Classifier) (line : List Char) : Round :=
  let text := trim line
  if isQuit text then ⟨"", [], .quit⟩
  else if text.isEmpty then ⟨"Please enter some text.\n", [], .again c⟩
  else answer c (String.ofList text)

inductive Ending where
  | quit
  /-- The lines have come to an end. -/
  | outOfLines
  | failed (e : Error)

/-- A session over lines: what it prints and reports, and how it ends. -/
def run (c : Classifier) : List (List Char) → String × List Record × Ending
  | [] => (prompt, [], .outOfLines)
  | line :: rest =>
    let r := round c line
    match r.next with
    | .quit => (prompt ++ r.output, r.log, .quit)
    | .fail e => (prompt ++ r.output, r.log, .failed e)
    | .again c =>
      let (output, log, ending) := run c rest
      (prompt ++ r.output ++ output, r.log ++ log, ending)

end Session
end TextClassifier.CommandLine
