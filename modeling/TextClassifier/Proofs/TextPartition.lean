import TextClassifier.Proofs.MatchOrder
import TextClassifier.Tokenizer

/-!
# Texts in parts

The matches of a pattern follow one another inside the text (`Pattern.inOrder_spans`). So tokenizing parts the
text: delimiters and subwords take turns, none of the subwords and none of the delimiters between two of them
is empty, each delimiter is one or more matches that touch each other, and every match that is not empty is a
part of one of them (`Tokenizer.tokenize_partition`).
-/
namespace TextClassifier
open Pattern

/-! ## Matches in order -/

namespace Pattern

/-- Spans that follow one another inside a text, from a place on. -/
def InOrder (text : Subject) : Nat → List Span → Prop
  | pos, [] => pos ≤ text.size
  | pos, d :: rest => pos ≤ d.first ∧ d.first ≤ d.last ∧ InOrder text d.last rest

variable {p : Pattern} {text : Subject}

theorem InOrder.mono {spans : List Span} {start pos : Nat} (behind : start ≤ pos) (ordered : InOrder text pos spans) :
    InOrder text start spans := by
  cases spans with
  | nil => exact Nat.le_trans behind ordered
  | cons d rest => exact ⟨Nat.le_trans behind ordered.1, ordered.2⟩

theorem le_size_of_end? {pos last : Nat} (found : p.end? text pos = some last) (nonempty : pos < last) :
    last ≤ text.size := by
  rw [end?] at found
  split at found
  · rw [endWhere?_eq_find?] at found
    obtain ⟨-, inside⟩ := bounds_of_mem_ends (List.mem_of_find?_eq_some found)
    omega
  · cases found

theorem le_size_of_nonemptyEnd? {pos last : Nat} (found : p.nonemptyEnd? text pos = some last)
    (nonempty : pos < last) : last ≤ text.size := by
  rw [nonemptyEnd?, endWhere?_eq_find?] at found
  obtain ⟨-, inside⟩ := bounds_of_mem_ends (List.mem_of_find?_eq_some found)
  omega

/-- Spans come in the order of the text and do not overlap. -/
theorem inOrder_spansFrom (pos : Nat) :
    ∀ start, start ≤ pos → start ≤ text.size → InOrder text start (p.spansFrom text pos) := by
  induction pos using spansFrom.induct p text with
  | case1 pos ended =>
    intro start _ inside
    rw [spansFrom, if_pos ended]
    exact inside
  | case2 pos within missing ih =>
    intro start behind inside
    rw [spansFrom, if_neg within, missing]
    exact ih start (by omega) inside
  | case3 pos within last found nonempty ih =>
    intro start behind inside
    rw [spansFrom, if_neg within, found]
    simp only [if_pos nonempty]
    exact ⟨behind, Nat.le_of_lt nonempty, ih last (Nat.le_refl last) (le_size_of_end? found nonempty)⟩
  | case4 pos within last found empty ih skip more =>
    -- An empty match, and perhaps a second one at its place that is not.
    intro start behind inside
    rw [spansFrom, if_neg within, found]
    simp only [if_neg empty]
    refine ⟨behind, Nat.le_refl pos, ?_⟩
    cases other : p.nonemptyEnd? text pos with
    | none => exact more pos (by omega) (by omega)
    | some last =>
      by_cases nonempty : pos < last
      · simp only [if_pos nonempty]
        exact ⟨Nat.le_refl pos, Nat.le_of_lt nonempty,
          ih last nonempty last (Nat.le_refl last) (le_size_of_nonemptyEnd? other nonempty)⟩
      · simp only [if_neg nonempty]
        exact skip last pos (by omega) (by omega)

/-- The matches of a pattern follow one another inside the text. -/
theorem inOrder_spans (p : Pattern) (text : Subject) : InOrder text 0 (p.spans text) :=
  inOrder_spansFrom 0 0 (Nat.le_refl 0) (Nat.zero_le _)

/-! ## Delimiters and pieces -/

/-- Whether a span has characters in it. -/
def Span.isFilled (d : Span) : Bool := d.first < d.last

def Span.spelling (text : Subject) (d : Span) : List Char := (text.extract d.first d.last).toList

/-- The characters in spans, one behind the other. -/
def delimiterText (text : Subject) (gap : List Span) : List Char := gap.flatMap (Span.spelling text)

/-- Spans that touch, none of them empty, cover the text from a place to another. -/
inductive Covers : List Span → Nat → Nat → Prop
  | nil (pos : Nat) : Covers [] pos pos
  | cons {d : Span} {rest : List Span} {last : Nat} (filled : d.first < d.last) (more : Covers rest d.last last) :
    Covers (d :: rest) d.first last

/-- A text from a place on is parted: delimiters, each made of matches that touch, and pieces that are not
empty take turns, with a delimiter that is not empty between every two pieces. -/
inductive Parted (text : Subject) : Nat → List (List Span) → List (List Char) → Prop
  | last {gap : List Span} {pos : Nat} (covers : Covers gap pos text.size) : Parted text pos [gap] []
  | piece {gap : List Span} {pos first next : Nat} {gaps : List (List Span)} {words : List (List Char)}
    (covers : Covers gap pos first) (filled : first < next) (apart : words ≠ [] → gaps.head? ≠ some [])
    (more : Parted text next gaps words) : Parted text pos (gap :: gaps) ((text.extract first next).toList :: words)

variable {d : Span} {gap : List Span} {gaps : List (List Span)} {words : List (List Char)} {pos last : Nat}

/-- A match in front of a text that is parted belongs to its first delimiter. -/
theorem Parted.cons (filled : d.first < d.last) (parted : Parted text d.last gaps words) :
    ∃ gap rest, gaps = gap :: rest ∧ Parted text d.first ((d :: gap) :: rest) words := by
  cases parted with
  | last covers => exact ⟨_, _, rfl, .last (.cons filled covers)⟩
  | piece covers longer apart more => exact ⟨_, _, rfl, .piece (.cons filled covers) longer apart more⟩

/-- What lies between matches parts the text, whatever the matches are, as long as they follow one another. -/
theorem parted_between {spans : List Span} : ∀ {start : Nat}, InOrder text start spans →
    ∃ gaps, Parted text start gaps (Tokenizer.between text start spans) ∧
      gaps.flatten = spans.filter Span.isFilled := by
  induction spans with
  | nil =>
    intro start inside
    have fits : start ≤ text.size := inside
    rw [Tokenizer.between]
    by_cases more : start < text.size
    · rw [if_pos more]
      exact ⟨[[], []], .piece (.nil start) more (fun filled => absurd rfl filled) (.last (.nil text.size)), rfl⟩
    · rw [if_neg more]
      obtain rfl : start = text.size := by omega
      exact ⟨[[]], .last (.nil text.size), rfl⟩
  | cons d rest ih =>
    -- An empty match parts nothing; any other match goes to the front of the delimiter behind it.
    intro start ordered
    obtain ⟨behind, forward, more⟩ := ordered
    rw [Tokenizer.between]
    by_cases empty : d.last = d.first
    · obtain ⟨gaps, parted, matched⟩ := ih (more.mono (Nat.le_trans behind forward))
      rw [if_pos empty]
      refine ⟨gaps, parted, ?_⟩
      rw [matched, List.filter_cons_of_neg (by simp [Span.isFilled, empty])]
    · have filled : d.first < d.last := by omega
      obtain ⟨gaps, parted, matched⟩ := ih more
      obtain ⟨gap, others, rfl, joined⟩ := parted.cons filled
      have listed : ((d :: gap) :: others).flatten = (d :: rest).filter Span.isFilled := by
        rw [List.filter_cons_of_pos (by simpa [Span.isFilled] using filled), ← matched]
        rfl
      rw [if_neg empty]
      by_cases piece : start < d.first
      · rw [if_pos piece]
        exact ⟨[] :: (d :: gap) :: others, .piece (.nil start) piece (fun _ => by simp) joined, listed⟩
      · rw [if_neg piece]
        obtain rfl : d.first = start := by omega
        exact ⟨(d :: gap) :: others, joined, listed⟩

/-! ## What the parts are -/

theorem Covers.le (covers : Covers gap pos last) : pos ≤ last := by
  induction covers with
  | nil pos => exact Nat.le_refl pos
  | cons filled _ ih => exact Nat.le_trans (Nat.le_of_lt filled) ih

theorem extract_append_extract_of_le {first middle last : Nat} (front : first ≤ middle) (back : middle ≤ last) :
    text.extract first middle ++ text.extract middle last = text.extract first last := by
  rw [Array.extract_append_extract, Nat.min_eq_left front, Nat.max_eq_right back]

theorem Covers.delimiterText_eq (covers : Covers gap pos last) :
    delimiterText text gap = (text.extract pos last).toList := by
  induction covers with
  | nil pos => simp [delimiterText]
  | @cons d rest last filled more ih =>
    rw [← extract_append_extract_of_le (Nat.le_of_lt filled) more.le, Array.toList_append, ← ih]
    rfl

theorem toList_extract_ne_nil {first last : Nat} (filled : first < last) (inside : last ≤ text.size) :
    (text.extract first last).toList ≠ [] := by
  intro empty
  have size := congrArg List.length empty
  simp only [Array.length_toList, Array.size_extract, List.length_nil] at size
  omega

/-- Delimiters and pieces in turns. -/
def woven : List (List Char) → List (List Char) → List Char
  | d :: delimiters, w :: words => d ++ w ++ woven delimiters words
  | delimiters, _ => delimiters.flatten

namespace Parted

theorem le_size (parted : Parted text pos gaps words) : pos ≤ text.size := by
  induction parted with
  | last covers => exact covers.le
  | piece covers filled _ _ ih => exact Nat.le_trans covers.le (Nat.le_trans (Nat.le_of_lt filled) ih)

theorem length_eq (parted : Parted text pos gaps words) : gaps.length = words.length + 1 := by
  induction parted with
  | last => rfl
  | piece _ _ _ _ ih => rw [List.length_cons, List.length_cons, ih]

theorem woven_eq (parted : Parted text pos gaps words) :
    (text.extract pos text.size).toList = woven (gaps.map (delimiterText text)) words := by
  induction parted with
  | last covers => rw [← covers.delimiterText_eq]; simp [woven]
  | @piece gap pos first next gaps words covers filled _ more ih =>
    have behind : pos ≤ next := Nat.le_trans covers.le (Nat.le_of_lt filled)
    rw [← extract_append_extract_of_le behind more.le_size,
      ← extract_append_extract_of_le covers.le (Nat.le_of_lt filled), Array.toList_append, Array.toList_append, ih,
      List.map_cons, woven, covers.delimiterText_eq]

theorem filled (parted : Parted text pos gaps words) : ∀ word ∈ words, word ≠ [] := by
  induction parted with
  | last => exact fun word listed => by cases listed
  | piece _ longer _ more ih =>
    intro word listed
    rcases List.mem_cons.mp listed with rfl | later
    · exact toList_extract_ne_nil longer more.le_size
    · exact ih word later

theorem delimiterText_head_ne_nil (parted : Parted text pos (gap :: gaps) words) (matched : gap ≠ []) :
    delimiterText text gap ≠ [] := by
  have spelled : ∀ {last : Nat}, Covers gap pos last → last ≤ text.size → delimiterText text gap ≠ [] := by
    intro last covers inside
    rw [covers.delimiterText_eq]
    cases covers with
    | nil => exact absurd rfl matched
    | cons filled more => exact toList_extract_ne_nil (Nat.lt_of_lt_of_le filled more.le) inside
  cases parted with
  | last covers => exact spelled covers (Nat.le_refl _)
  | piece covers filled _ more => exact spelled covers (Nat.le_trans (Nat.le_of_lt filled) more.le_size)

/-- Between two pieces there is always something. -/
theorem delimiterText_ne_nil (parted : Parted text pos gaps words) :
    ∀ i gap, 0 < i → i < words.length → gaps[i]? = some gap → delimiterText text gap ≠ [] := by
  induction parted with
  | last => exact fun i gap _ inside => absurd inside (Nat.not_lt_zero i)
  | @piece head pos first next rest words covers filled apart more ih =>
    intro i gap behind inside listed
    obtain ⟨i, rfl⟩ := Nat.exists_eq_succ_of_ne_zero (Nat.ne_of_gt behind)
    rw [List.length_cons, Nat.succ_lt_succ_iff] at inside
    rw [List.getElem?_cons_succ] at listed
    cases i with
    | succ i => exact ih (i + 1) gap (Nat.succ_pos i) inside listed
    | zero =>
      cases rest with
      | nil => cases listed
      | cons gap' rest =>
        obtain rfl : gap' = gap := by simpa using listed
        refine more.delimiterText_head_ne_nil fun missing => ?_
        exact apart (List.ne_nil_of_length_pos inside) (by rw [missing]; rfl)

end Parted

/-- How matches part a text into words: every delimiter is made of matches, and the delimiters and the words
in turns are the text. -/
structure Partition (text : List Char) (found : List Span) (words : List (List Char)) (gaps : List (List Span)) :
    Prop where
  /-- There is a delimiter in front of every word and one behind the last. -/
  count : gaps.length = words.length + 1
  /-- Delimiters and words in turns make up the text. -/
  whole : text = woven (gaps.map (delimiterText text.toArray)) words
  /-- No word is empty. -/
  filled : ∀ word ∈ words, word ≠ []
  /-- No delimiter between two words is empty. -/
  apart : ∀ i gap, 0 < i → i < words.length → gaps[i]? = some gap → delimiterText text.toArray gap ≠ []
  /-- The delimiters are made of the matches that are not empty, each of them once and in order. -/
  matched : gaps.flatten = found.filter Span.isFilled
  /-- The delimiters and the words lie in the text where they stand, and the matches of a delimiter touch. -/
  placed : Parted text.toArray 0 gaps words
  /-- Without a word, matches cover the text. -/
  covered : words = [] → text = delimiterText text.toArray (found.filter Span.isFilled)

end Pattern

/-! ## Tokenizing -/

namespace Tokenizer

/-- Tokenizing parts every text: the subwords and what the delimiter pattern matches take turns in it. -/
theorem tokenize_partition (t : Tokenizer) (text : List Char) :
    ∃ gaps, Partition text (t.delimiter.spans text.toArray) ((t.tokenize text).map String.toList) gaps := by
  have words : (t.tokenize text).map String.toList =
      between text.toArray 0 (t.delimiter.spans text.toArray) := by
    rw [tokenize, List.map_map]
    exact List.map_id'' (fun word => by simp) _
  obtain ⟨gaps, parted, matched⟩ := parted_between (inOrder_spans t.delimiter text.toArray)
  rw [← words] at parted
  have whole : text = woven (gaps.map (delimiterText text.toArray)) ((t.tokenize text).map String.toList) := by
    rw [← parted.woven_eq]
    simp
  refine ⟨gaps, parted.length_eq, whole, parted.filled, parted.delimiterText_ne_nil, matched, parted, ?_⟩
  intro none
  rw [none] at parted whole
  obtain ⟨gap, rfl⟩ : ∃ gap, gaps = [gap] := List.length_eq_one_iff.mp parted.length_eq
  rw [← matched]
  simpa [woven] using whole

end Tokenizer
end TextClassifier
