/-!
# Lines

Three ways to see lines in a text. Vocabulary and label files end a line with a line feed, and one
line feed at the very end opens no further line. Text files first have all their newlines made
line feeds. Their lines then end at every character that breaks a line.
-/
namespace TextClassifier.Text

/-- The pieces between the characters that stop a piece: always one more than there are of those. -/
def pieces (stops : Char → Bool) : List Char → List (List Char)
  | [] => [[]]
  | c :: rest =>
    if stops c then [] :: pieces stops rest
    else match pieces stops rest with
      | [] => [[c]]
      | piece :: more => (c :: piece) :: more

/-- A last piece that is empty was opened by a stop at the very end and is dropped. -/
def dropFinalEmpty (lines : List (List Char)) : List (List Char) :=
  if lines.getLast? = some [] then lines.dropLast else lines

/-- A line without the carriage returns at its end. -/
def dropReturns (line : List Char) : List Char :=
  (line.reverse.dropWhile (· == '\r')).reverse

/-- The lines of a file in which line feeds end lines, without carriage returns before them. -/
def lines (s : List Char) : List (List Char) :=
  (dropFinalEmpty (pieces (· == '\n') s)).map dropReturns

/-- Carriage returns, alone or before a line feed, become line feeds. -/
def unifyNewlines : List Char → List Char
  | '\r' :: '\n' :: rest => '\n' :: unifyNewlines rest
  | '\r' :: rest => '\n' :: unifyNewlines rest
  | c :: rest => c :: unifyNewlines rest
  | [] => []

/-- The characters that break a line: line feed, vertical tab, form feed, carriage return, the
separators of files, groups and records, next line, and the line and paragraph separators. -/
def breaksLine (c : Char) : Bool :=
  [0x0A, 0x0B, 0x0C, 0x0D, 0x1C, 0x1D, 0x1E, 0x85, 0x2028, 0x2029].contains c.toNat

/-- The lines of a text without carriage returns before line feeds, cut at every line break. -/
def brokenLines (s : List Char) : List (List Char) := dropFinalEmpty (pieces breaksLine s)

theorem pieces_ne_nil (stops : Char → Bool) (s : List Char) : pieces stops s ≠ [] := by
  cases s with
  | nil => simp [pieces]
  | cons c rest =>
    simp only [pieces]
    split
    · simp
    · split <;> simp

end TextClassifier.Text
