import TextClassifier.Json.Encoding
import TextClassifier.Text.Lines

/-!
# Input files

The texts of an input file: the strings of a JSON list if its name says so, and otherwise the lines
that are not all blank, as they stand.
-/
namespace TextClassifier.CommandLine
open Json Text

/-- The strings of a list of strings. -/
def strings? : Value → Option (List String)
  | .array items => items.mapM fun
    | .str s => some s
    | _ => none
  | _ => none

def jsonTexts (path : String) (text : List Char) : Except Fault (List String) :=
  match Reader.read text with
  | .error .malformed => .error .notJson
  | .error .tooManyDigits => .error .unusable
  | .ok v =>
    match strings? v with
    | some texts => .ok texts
    | none => .error (.stated (path ++ " must contain a JSON list of strings"))

def lineTexts (text : List Char) : List String :=
  ((brokenLines text).filter fun line => !line.all isBlank).map String.ofList

/-- The texts of an input file. -/
def textsOf (path : String) (bytes : Bytes) : Except Fault (List String) := do
  let text ← (Utf8.decode bytes).mapError .undecodable
  let text := unifyNewlines text
  if path.endsWith ".json" then jsonTexts path text else .ok (lineTexts text)

end TextClassifier.CommandLine
