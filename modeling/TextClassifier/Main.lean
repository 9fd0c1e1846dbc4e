import TextClassifier.Archive.Zip
import TextClassifier.CommandLine.Run

/-!
# The program

Runs the command line: brings the files that it names, prints what the run prints and reports, and
keeps the files that the run writes. No runtime for compiled models is built in, so a package is
checked up to its graph, which is reported as one that cannot be loaded.
-/
namespace TextClassifier.Program
open CommandLine Text

def help : String := "\n".intercalate
  ["usage: classify --model_path MODEL_PATH [--max_seq_len MAX_SEQ_LEN] [--text TEXT]",
    "                [--input_file INPUT_FILE] [--output_file OUTPUT_FILE]",
    "                [--interactive [INTERACTIVE]] [--log_level LEVEL] [--help]",
    "",
    "options:",
    "  --help, -h       show this help",
    "  --model_path     path to the model package (.nlc zip archive)",
    "  --max_seq_len    expected static sequence length (read from the model if absent)",
    "  --text           text to classify",
    "  --input_file     JSON list of texts, or a text file with one text per line",
    "  --output_file    write results as JSON to this file",
    "  --interactive    read texts from the standard input until 'quit'",
    "  --log_level      least level that is reported: DEBUG, INFO, WARNING or ERROR"]

/-- The runtime for compiled models, of which there is none. -/
def noRuntime : Runtime := ⟨fun _ =>
  .error ⟨.runtime, "no runtime for compiled models is built in"⟩, none⟩

/-- The arguments that a path is read for. -/
def inputPaths (a : Arguments) : List String := a.modelPath :: a.inputFile.toList

/-- Files with what stands at a path: a file, a directory or nothing. -/
def gather (fs : Files) (path : String) : IO Files := do
  match ← (IO.FS.readBinFile (Files.tidy path)).toBaseIO with
  | .ok bytes => return fs.put (Files.tidy path) bytes.data.toList
  | .error (.noFileOrDirectory ..) => return fs
  | .error _ => return { fs with directories := path :: fs.directories }

/-- The directory that a file is to be written into. -/
def directoryOf (path : String) : String :=
  Files.join (Files.parts (Files.tidy path)).dropLast

/-- The files that the arguments name. Whether the output can be written shows when it is. -/
def filesFor (a : Arguments) : IO Files :=
  (inputPaths a).foldlM gather ⟨[], a.outputFile.toList.map directoryOf⟩

/-- The lines of a stream up to its end. -/
partial def linesOf (stream : IO.FS.Stream) : IO (List (List Char)) := do
  let line ← stream.getLine
  if line.isEmpty then return []
  else return line.toList.filter (· != '\n') :: (← linesOf stream)

/-- A run over files and lines. -/
def runWith (files : Files) (lines : List (List Char)) (words : List String) : Outcome :=
  run ⟨files, lines, Zip.read?, noRuntime, help⟩ words

/-- A run; the standard input is read once a session asks for it. -/
def runReading (files : Files) (words : List String) : IO Outcome := do
  let outcome := runWith files [] words
  match outcome.ending with
  | .escaped .endOfInput => return runWith files (← linesOf (← IO.getStdin)) words
  | _ => return outcome

/-- What is said about an error that a run does not handle. -/
def escapeText : Escape → String
  | .error e => e.line?.getD "unexpected failure"
  | .file .absent => "no such file or directory"
  | .file .directory => "is a directory"
  | .file .throughFile => "not a directory"
  | .file .tooLong => "file name too long"
  | .file .noName => "not a file name"
  | .endOfInput => "end of input"
  | .unusedWords => "some arguments are not used"

/-- The status of an ending, with what is still said about it. -/
def report (ending : Ending) : IO UInt32 := do
  match ending with
  | .status code => return code.toUInt32
  | .refused code =>
    if code != 0 then IO.eprintln help
    return code.toUInt32
  | .escaped e =>
    IO.eprintln (escapeText e)
    return 1

/-- Writes the files that a run has changed. -/
def keep (before after : Files) : IO Unit := do
  for (name, bytes) in after.contents do
    if before.find? name != some bytes then
      IO.FS.writeBinFile name ⟨bytes.toArray⟩

/-- Runs the words of a command line. -/
def start (words : List String) : IO UInt32 := do
  let files ← match Arguments.read words with
    | .ok a => filesFor a
    | .error _ => pure ⟨[], []⟩
  let outcome ← runReading files words
  for r in outcome.log do
    IO.eprintln (r.level.name ++ " | " ++ r.text)
  IO.print outcome.output
  keep files outcome.files
  report outcome.ending

end TextClassifier.Program

def main (words : List String) : IO UInt32 := TextClassifier.Program.start words
