import TextClassifier.Text.Malformed

/-!
# Archives

An archive is a list of named entries. If entries share a name, the last one counts.
-/
namespace TextClassifier
open Text (Bytes)

/-- The entries of an archive, in file order. -/
abbrev Archive := List (String × Bytes)

namespace Archive

/-- The contents of the last entry with a name. -/
def content? (a : Archive) (name : String) : Option Bytes := a.reverse.lookup name

/-- Each name once, with the contents of its last entry. -/
def entries (a : Archive) : List (String × Bytes) :=
  a.foldl (fun table (name, bytes) =>
    if table.any (·.1 == name) then table.map fun e => if e.1 = name then (name, bytes) else e
    else table ++ [(name, bytes)]) []

end Archive

end TextClassifier
