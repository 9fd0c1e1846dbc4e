import TextClassifier.Text.Hex
import TextClassifier.Text.Unprintable

/-!
# Quoted text

How messages show a text they speak about: between single quotes, or between double quotes if it
holds a single quote and no double one. The quote and the backslash stand behind a backslash, and
what has no glyph is shown by an escape.
-/
namespace TextClassifier.Text.Quoted

/-- One character inside the quotes `quote`. -/
def escape (quote c : Char) : List Char :=
  if c == quote || c == '\\' then ['\\', c]
  else if c == '\n' then ['\\', 'n']
  else if c == '\r' then ['\\', 'r']
  else if c == '\t' then ['\\', 't']
  else if isPrintable c then [c]
  else if c.toNat < 0x100 then '\\' :: 'x' :: hexDigits 2 c.toNat
  else if c.toNat < 0x10000 then '\\' :: 'u' :: hexDigits 4 c.toNat
  else '\\' :: 'U' :: hexDigits 8 c.toNat

/-- The quote that a text is put between. -/
def quoteFor (s : List Char) : Char :=
  if s.contains '\'' && !s.contains '"' then '"' else '\''

def quote (s : String) : String :=
  let q := quoteFor s.toList
  String.ofList (q :: s.toList.flatMap (escape q) ++ [q])

end TextClassifier.Text.Quoted
