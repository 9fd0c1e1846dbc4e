import Mathlib.Data.List.DropRight
import TextClassifier.Text.Lines
import TextClassifier.Proofs.Utf8Texts

/-!
# Lines of files

The lines of a file are the pieces between its line feeds, without a last empty one and without the carriage
returns at their ends (`lines_eq`). Carriage returns before the line feeds change none of them
(`lines_withReturns`), and one more line feed at the end adds an empty line at most
(`lines_append_newline`). Lines that are written with line feeds behind them are read back
(`lines_intercalate`).
-/
namespace TextClassifier.Text

variable {stops : Char → Bool} {s : List Char} {front : List (List Char)} {piece line : List Char}

/-! ## Pieces -/

/-- Pieces are what the library splits a list into. -/
theorem pieces_eq_splitOnP (stops : Char → Bool) (s : List Char) : pieces stops s = s.splitOnP stops := by
  induction s with
  | nil => rw [List.splitOnP_nil, pieces]
  | cons c s ih =>
    rw [List.splitOnP_cons_eq_if_modifyHead, pieces, ← ih]
    cases split : pieces stops s with
    | nil => exact absurd split (pieces_ne_nil stops s)
    | cons piece more => rfl

theorem dropFinalEmpty_concat (front : List (List Char)) (piece : List Char) :
    dropFinalEmpty (front ++ [piece]) = if piece = [] then front else front ++ [piece] := by
  simp [dropFinalEmpty]

/-- The last piece is what stands behind the last stop. -/
theorem pieces_append_stop {stop : Char} (stopping : stops stop = true) (s : List Char) :
    pieces stops (s ++ [stop]) = pieces stops s ++ [[]] := by
  induction s with
  | nil => simp [pieces, stopping]
  | cons c s ih =>
    rw [List.cons_append, pieces, pieces, ih]
    split
    · rfl
    · cases split : pieces stops s with
      | nil => exact absurd split (pieces_ne_nil stops s)
      | cons piece more => rfl

/-! ## Lines -/

/-- The lines of a file, by the library's own splitting. -/
theorem lines_eq (s : List Char) :
    lines s = (dropFinalEmpty (s.splitOn '\n')).map (List.rdropWhile (· == '\r')) := by
  rw [lines, pieces_eq_splitOnP]
  rfl

theorem dropReturns_append_return (line : List Char) : dropReturns (line ++ ['\r']) = dropReturns line := by
  simp [dropReturns]

theorem dropReturns_eq_self (ends : line.getLast? ≠ some '\r') : dropReturns line = line := by
  refine List.rdropWhile_eq_self_iff.mpr fun filled last => ends ?_
  rw [List.getLast?_eq_some_getLast filled, beq_iff_eq.mp last]

/-- A text with a carriage return before every line feed. -/
def withReturns (s : List Char) : List Char := s.flatMap fun c => if c = '\n' then ['\r', '\n'] else [c]

/-- With a carriage return before every line feed, all pieces but the last one end in one. -/
theorem pieces_withReturns (s : List Char) : ∃ front last, pieces (· == '\n') s = front ++ [last] ∧
    pieces (· == '\n') (withReturns s) = front.map (· ++ ['\r']) ++ [last] := by
  induction s with
  | nil => exact ⟨[], [], rfl, rfl⟩
  | cons c s ih =>
    obtain ⟨front, last, plain, returned⟩ := ih
    by_cases newline : c = '\n'
    · subst newline
      have written : withReturns ('\n' :: s) = '\r' :: '\n' :: withReturns s := rfl
      refine ⟨[] :: front, last, ?_, ?_⟩
      · simp [pieces, plain]
      · simp [written, pieces, returned]
    · have written : withReturns (c :: s) = c :: withReturns s := by simp [withReturns, newline]
      cases front with
      | nil =>
        refine ⟨[], c :: last, ?_, ?_⟩
        · simp [pieces, newline, plain]
        · simp [written, pieces, newline, returned]
      | cons piece front =>
        refine ⟨(c :: piece) :: front, last, ?_, ?_⟩
        · simp [pieces, newline, plain]
        · simp [written, pieces, newline, returned]

theorem lines_withReturns (s : List Char) : lines (withReturns s) = lines s := by
  obtain ⟨front, last, plain, returned⟩ := pieces_withReturns s
  have same : (front.map (· ++ ['\r'])).map dropReturns = front.map dropReturns := by
    simp [dropReturns_append_return]
  rw [lines, lines, plain, returned, dropFinalEmpty_concat, dropFinalEmpty_concat]
  split
  · exact same
  · rw [List.map_append, List.map_append, same]

theorem lines_append_newline (s : List Char) :
    lines (s ++ ['\n']) = lines s ∨ lines (s ++ ['\n']) = lines s ++ [[]] := by
  obtain ⟨front, last, plain, -⟩ := pieces_withReturns s
  have more : lines (s ++ ['\n']) = (front ++ [last]).map dropReturns := by
    rw [lines, pieces_append_stop rfl, plain, dropFinalEmpty_concat, if_pos rfl]
  rw [more, lines, plain, dropFinalEmpty_concat]
  split
  · rename_i empty
    subst empty
    right
    simp [dropReturns]
  · left
    rfl

/-- Lines that are written are read back but for their carriage returns. No lines at all are written as an
empty one. -/
theorem lines_intercalate {written : List (List Char)} (unbroken : ∀ line ∈ written, '\n' ∉ line) :
    lines (['\n'].intercalate written ++ ['\n']) = if written = [] then [[]] else written.map dropReturns := by
  rw [lines, pieces_append_stop rfl, dropFinalEmpty_concat, if_pos rfl, pieces_eq_splitOnP]
  by_cases none : written = []
  · subst none
    rfl
  · rw [if_neg none]
    exact congrArg _ (List.splitOn_intercalate '\n' unbroken none)

/-! ## Bytes -/

/-- Bytes with a carriage return before every line feed. -/
def bytesWithReturns (bytes : Bytes) : Bytes := bytes.flatMap fun b => if b = 0x0A then [0x0D, 0x0A] else [b]

/-- Carriage returns can be put in before a text is encoded, or behind that. -/
theorem bytesWithReturns_encode (s : List Char) : bytesWithReturns (Utf8.encode s) = Utf8.encode (withReturns s) := by
  induction s with
  | nil => rfl
  | cons c s ih =>
    have step : bytesWithReturns (Utf8.encode (c :: s)) =
        bytesWithReturns (Utf8.encodeChar c) ++ bytesWithReturns (Utf8.encode s) := by
      rw [Utf8.encode_cons]
      exact List.flatMap_append
    rw [step, ih]
    by_cases newline : c = '\n'
    · subst newline
      rw [Utf8.encodeChar_newline]
      rfl
    · have written : withReturns (c :: s) = c :: withReturns s := by simp [withReturns, newline]
      have other : ∀ b ∈ Utf8.encodeChar c, b ≠ 0x0A := by
        rintro b listed rfl
        exact newline (Utf8.newline_of_mem listed)
      rw [written, Utf8.encode_cons, bytesWithReturns, List.flatMap_congr fun b listed => if_neg (other b listed)]
      rw [List.flatMap_singleton']

end TextClassifier.Text
