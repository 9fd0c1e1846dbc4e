import TextClassifier.Attempt
import TextClassifier.Proofs.Openings
import TextClassifier.Tokenizer

/-!
# Searching for delimiters

A text is cut at its delimiters (`Pattern.splitFrom`): the next one is the first match that is not empty, in
the order in which matches are tried, at the smallest place that has one (`nextDelimiter?_eq_some_iff`).
Tokenizing gives the pieces between all matches, empty ones among them. These are the same pieces
(`Tokenizer.tokenize_eq_splitFrom`), because an empty match is followed by a second try at its place, which
finds the first match there that is not empty.
-/
namespace TextClassifier
namespace Pattern
variable (p : Pattern) (text : Subject)

/-! ## The next delimiter -/

/-- The end of the first match at a place that is not empty, in the order in which matches are tried. -/
def firstNonempty? (pos : Nat) : Option Nat := (p.ends text pos).find? (· != pos)

/-- The first match that is not empty at the first place, from `pos` on, where there is one. -/
def nextDelimiter? (pos : Nat) : Option Span :=
  (List.range' pos (text.size - pos)).findSome? fun q => (p.firstNonempty? text q).map (⟨q, ·⟩)

variable {p text} {pos q last : Nat} {d : Span}

theorem bounds_of_firstNonempty? (found : p.firstNonempty? text pos = some last) :
    pos < last ∧ last ≤ text.size := by
  have nonempty : last ≠ pos := by simpa using List.find?_some found
  obtain ⟨behind, inside⟩ := bounds_of_mem_ends (List.mem_of_find?_eq_some found)
  exact ⟨by omega, by omega⟩

theorem firstNonempty?_eq_none_of_size_le (behind : text.size ≤ pos) : p.firstNonempty? text pos = none := by
  cases found : p.firstNonempty? text pos with
  | none => rfl
  | some last =>
    have bounds := bounds_of_firstNonempty? found
    omega

/-- A place with a match that is not empty is a delimiter's. -/
theorem nextDelimiter?_of_some (found : p.firstNonempty? text pos = some last) :
    p.nextDelimiter? text pos = some ⟨pos, last⟩ := by
  have bounds := bounds_of_firstNonempty? found
  obtain ⟨n, more⟩ : ∃ n, text.size - pos = n + 1 := ⟨text.size - pos - 1, by omega⟩
  rw [nextDelimiter?, more, List.range'_succ, List.findSome?_cons, found]
  rfl

/-- A place without a match that is not empty is passed over. -/
theorem nextDelimiter?_of_none (missing : p.firstNonempty? text pos = none) :
    p.nextDelimiter? text pos = p.nextDelimiter? text (pos + 1) := by
  cases left : text.size - pos with
  | zero => rw [nextDelimiter?, nextDelimiter?, left, show text.size - (pos + 1) = 0 by omega]; rfl
  | succ n =>
    rw [nextDelimiter?, nextDelimiter?, left, show text.size - (pos + 1) = n by omega, List.range'_succ,
      List.findSome?_cons, missing]
    rfl

theorem nextDelimiter?_of_size_le (behind : text.size ≤ pos) : p.nextDelimiter? text pos = none := by
  rw [nextDelimiter?, Nat.sub_eq_zero_of_le behind]
  rfl

/-- The next delimiter is the first match that is not empty at the smallest place that has one. -/
theorem nextDelimiter?_eq_some_iff : p.nextDelimiter? text pos = some d ↔
    pos ≤ d.first ∧ p.firstNonempty? text d.first = some d.last ∧
      ∀ q, pos ≤ q → q < d.first → p.firstNonempty? text q = none := by
  induction left : text.size - pos generalizing pos with
  | zero =>
    rw [nextDelimiter?_of_size_le (by omega)]
    refine ⟨nofun, fun ⟨behind, found, _⟩ => ?_⟩
    rw [firstNonempty?_eq_none_of_size_le (by omega)] at found
    cases found
  | succ n ih =>
    cases here : p.firstNonempty? text pos with
    | some last =>
      rw [nextDelimiter?_of_some here, Option.some.injEq]
      constructor
      · rintro rfl
        exact ⟨Nat.le_refl pos, here, fun q behind before => absurd before (Nat.not_lt.mpr behind)⟩
      · rintro ⟨behind, found, before⟩
        have same : d.first = pos := by
          refine Nat.le_antisymm (Nat.le_of_not_lt fun later => ?_) behind
          rw [before pos (Nat.le_refl pos) later] at here
          cases here
        rw [same, here, Option.some.injEq] at found
        rw [found, ← same]
    | none =>
      rw [nextDelimiter?_of_none here, ih (by omega)]
      constructor
      · rintro ⟨behind, found, before⟩
        refine ⟨by omega, found, fun q le lt => ?_⟩
        rcases Nat.eq_or_lt_of_le le with rfl | later
        · exact here
        · exact before q later lt
      · rintro ⟨behind, found, before⟩
        refine ⟨?_, found, fun q le lt => before q (by omega) lt⟩
        rcases Nat.eq_or_lt_of_le behind with same | later
        · rw [← same, here] at found
          cases found
        · exact later

theorem bounds_of_nextDelimiter? (found : p.nextDelimiter? text pos = some d) :
    pos ≤ d.first ∧ d.first < d.last ∧ d.last ≤ text.size := by
  obtain ⟨behind, nonempty, -⟩ := nextDelimiter?_eq_some_iff.mp found
  exact ⟨behind, bounds_of_firstNonempty? nonempty⟩

/-! ## Cutting at delimiters -/

/-- The text between two places, unless it is empty. -/
def piece (text : Subject) (first last : Nat) : List (List Char) :=
  if first < last then [(text.extract first last).toList] else []

/-- The text from a place on, cut at its delimiters: what stands before the next one, and the same from
the end of that one on. -/
def splitFrom (p : Pattern) (text : Subject) (pos : Nat) : List (List Char) :=
  match _next : p.nextDelimiter? text pos with
  | some d => piece text pos d.first ++ splitFrom p text d.last
  | none => piece text pos text.size
termination_by text.size - pos
decreasing_by
  have bounds := bounds_of_nextDelimiter? _next
  omega

theorem splitFrom_of_some (next : p.nextDelimiter? text pos = some d) :
    p.splitFrom text pos = piece text pos d.first ++ p.splitFrom text d.last := by
  rw [splitFrom]
  split
  · next other same =>
    rw [next, Option.some.injEq] at same
    rw [same]
  · next none => rw [next] at none; cases none

theorem splitFrom_of_none (next : p.nextDelimiter? text pos = none) :
    p.splitFrom text pos = piece text pos text.size := by
  rw [splitFrom]
  split
  · next other same => rw [next] at same; cases same
  · rfl

/-! ## Tokenizing -/

theorem nonemptyEnd?_eq (p : Pattern) (text : Subject) (pos : Nat) :
    p.nonemptyEnd? text pos = p.firstNonempty? text pos :=
  endWhere?_eq_find? p text pos _

/-- What lies between the matches of a leftmost search is what is cut at delimiters: no delimiter is lost
because the match that comes first at its place is empty. -/
theorem between_spansFrom (leftmost : p.Leftmost text) (pos : Nat) : ∀ start, start ≤ pos →
    p.nextDelimiter? text start = p.nextDelimiter? text pos →
    Tokenizer.between text start (p.spansFrom text pos) = p.splitFrom text start := by
  -- One step of both sides; between `start` and `pos` there is no delimiter, as the hypotheses say.
  have cut : ∀ {start pos last : Nat}, start ≤ pos → p.firstNonempty? text pos = some last →
      p.nextDelimiter? text start = p.nextDelimiter? text pos →
      Tokenizer.between text last (p.spansFrom text last) = p.splitFrom text last →
      Tokenizer.between text start (⟨pos, last⟩ :: p.spansFrom text last) = p.splitFrom text start := by
    intro start pos last behind found next rest
    have bounds := bounds_of_firstNonempty? found
    rw [splitFrom_of_some (next.trans (nextDelimiter?_of_some found)), ← rest, Tokenizer.between,
      if_neg (by simp; omega), piece]
    split <;> rfl
  induction pos using spansFrom.induct p text with
  | case1 pos ended =>
    intro start _ next
    rw [spansFrom, if_pos ended, splitFrom_of_none (next.trans (nextDelimiter?_of_size_le (by omega)))]
    rfl
  | case2 pos inside missing ih =>
    intro start behind next
    have empty : p.ends text pos = [] := by
      rwa [leftmost pos, List.head?_eq_none_iff] at missing
    have none : p.firstNonempty? text pos = none := by rw [firstNonempty?, empty]; rfl
    rw [spansFrom, if_neg inside, missing]
    exact ih start (by omega) (next.trans (nextDelimiter?_of_none none))
  | case3 pos inside last found nonempty ih =>
    intro start behind next
    have first : p.firstNonempty? text pos = some last := by
      rw [leftmost pos] at found
      obtain ⟨others, listed⟩ := List.head?_eq_some_iff.mp found
      rw [firstNonempty?, listed, List.find?_cons_of_pos (by simp; omega)]
    rw [spansFrom, if_neg inside, found]
    simp only [if_pos nonempty]
    exact cut behind first next (ih last (Nat.le_refl last) rfl)
  | case4 pos inside last found empty ih skip more =>
    -- The first match is empty, so the search tries again for the first that is not.
    intro start behind next
    rw [spansFrom, if_neg inside, found]
    simp only [if_neg empty, Tokenizer.between, if_true]
    rw [nonemptyEnd?_eq]
    cases other : p.firstNonempty? text pos with
    | none => exact more start (by omega) (next.trans (nextDelimiter?_of_none other))
    | some last =>
      have bounds := bounds_of_firstNonempty? other
      simp only [if_pos bounds.1]
      exact cut behind other next (ih last bounds.1 last (Nat.le_refl last) rfl)

end Pattern

namespace Tokenizer

/-- Tokenizing cuts a text at its delimiters, as long as the search for matches is leftmost. -/
theorem tokenize_eq_splitFrom (t : Tokenizer) (text : List Char) (leftmost : t.delimiter.Leftmost text.toArray) :
    t.tokenize text = (t.delimiter.splitFrom text.toArray 0).map String.ofList := by
  rw [tokenize, Pattern.spans, Pattern.between_spansFrom leftmost 0 0 (Nat.le_refl 0) rfl]

/-- A pattern whose first match is empty everywhere. -/
theorem tokenize_eq_splitFrom_reluctant : ∃ t, ofPattern (.str ",*?|;") (.ofLines []) = .ok t ∧
    t.delimiter.Leftmost "a,,b;".toList.toArray ∧ t.tokenize "a,,b;".toList = ["a", "b"] ∧
    (t.delimiter.splitFrom "a,,b;".toList.toArray 0).map String.ofList = ["a", "b"] := by
  obtain ⟨t, made, computed⟩ := exists_ok_of_map (r := ofPattern (.str ",*?|;") (.ofLines []))
    (f := fun t => (t.delimiter.node.isPlain t.delimiter.ascii .exact, t.tokenize "a,,b;".toList)) (y := (true, ["a", "b"]))
    (by decide +kernel)
  obtain ⟨plain, tokens⟩ := Prod.mk.inj computed
  have leftmost := Pattern.leftmost_of_isPlain plain "a,,b;".toList.toArray
  exact ⟨t, made, leftmost, tokens, (tokenize_eq_splitFrom t _ leftmost).symm.trans tokens⟩

end Tokenizer
end TextClassifier
