import TextClassifier.Category
import TextClassifier.Json.Writer

/-!
# Reports

Categories are shown as lines with five places behind the point, or as an untyped value that holds
the text too and is written as JSON.
-/
namespace TextClassifier.Report
open Json

/-- One category, by its index. -/
def line (c : Category) (i : Nat) : String :=
  "category[" ++ toString i ++ "]: '" ++ c.name ++ "' : '" ++ Number.fixed 5 c.score ++ "'"

def lines (categories : List Category) : String :=
  "\n".intercalate (categories.zipIdx.map fun (c, i) => line c i)

/-- A class with its score, of whatever kind. -/
def entry (name : String) (score : Value) : Value :=
  .object [("label", .str name), ("score", score)]

def ofEntries (text : String) (entries : List Value) : Value :=
  .object [("text", .str text), ("categories", .array entries)]

/-- A text with its categories. -/
def toValue (text : String) (categories : List Category) : Value :=
  ofEntries text (categories.map fun c => entry c.name (.float c.score))

end TextClassifier.Report
