import TextClassifier.Proofs.PartGrammar
import TextClassifier.Proofs.TextPartition
import TextClassifier.Proofs.WholePatterns

/-!
# Patterns in a group

A tokenizer puts its pattern into a group. A pattern that is read alone, and that asks for none of its groups by
number, has the same matches in the group, so the tokenizer parts every text at the matches of the pattern itself;
only settings for the whole pattern are refused there (`Tokenizer.ofPattern_of_read`). A number counts the new
group as well, so it means another group than alone (`Tokenizer.ofPattern_numbered`).
-/
namespace TextClassifier
open Pattern Pattern.Reader

namespace Pattern.Reader

variable {cs : List Char} {tokens : List Token} {node : Node} {p q : Progress}

/-! ## Tokens -/

/-- A parenthesis behind a text is a token by itself. -/
theorem tokens?_append_closing (read : tokens? cs = some tokens) :
    tokens? (cs ++ [')']) = some (tokens ++ [closing]) := by
  induction cs using tokens?.induct generalizing tokens with
  | case1 =>
    cases read
    rfl
  | case2 c rest ih =>
    obtain ⟨others, listed, rfl⟩ := Option.map_eq_some_iff.mp read
    rw [List.cons_append, List.cons_append, tokens?, ih listed]
    rfl
  | case3 => cases read
  | case4 c rest paired single ih =>
    have plain := ne_backslash paired single
    rw [tokens?_cons plain] at read
    obtain ⟨others, listed, rfl⟩ := Option.map_eq_some_iff.mp read
    rw [List.cons_append, tokens?_cons plain, ih listed]
    rfl

/-- The tokens of a group around a text. -/
def grouped (tokens : List Token) : List Token := ⟨false, '('⟩ :: (tokens ++ [closing])

theorem tokens?_grouped (read : tokens? cs = some tokens) : tokens? ('(' :: (cs ++ [')'])) = some (grouped tokens) := by
  rw [tokens?_cons (by decide), tokens?_append_closing read]
  rfl

/-! ## The group around a pattern -/

/-- A reader's progress in front of tokens. -/
def atFront (tokens : List Token) : Progress := ⟨tokens, [none], [], none, [], none⟩

theorem rooted_atFront (tokens : List Token) : (atFront tokens).Rooted := ⟨[], rfl⟩

theorem readTokens_eq (tokens : List Token) :
    readTokens tokens = (readAlternatives (3 * tokens.length + 3) {} true).run (atFront tokens) := rfl

theorem readTokens_mark (tokens : List Token) : readTokens (⟨false, '?'⟩ :: tokens) = .error .malformed := rfl

theorem run_readPiece_group (other : tokens.head? ≠ some ⟨false, '?'⟩) :
    (readPiece {} [] ⟨false, '('⟩).run (atFront tokens) = .ok (.group (.capture none), atFront tokens) := by
  have opening : (readOpening {}).run (atFront tokens) = .ok (.capture none, atFront tokens) := by
    rw [readOpening, StateT.run_bind, Follows.run_accept, if_neg (by exact other)]
    rfl
  show ((readOpening {}).run (atFront tokens) >>= _) = _
  rw [opening]
  rfl

/-- What is left to do behind the part in the group. -/
def finish (fuel : Nat) (body : Node) : Read Node := do
  expect ')'
  closeGroup 1 body
  let node ← readSequence fuel {} true [.part (.group 1 body)]
  if ← accept '|' then
    return .alt node (← readAlternatives (fuel + 1) (((← get).overall.map .ofSwitches).getD {}) false)
  else return node

/-- A group around tokens is read as alternatives and its end, if the tokens do not extend its opening. -/
theorem readTokens_grouped_eq (other : tokens.head? ≠ some ⟨false, '?'⟩) :
    readTokens (grouped tokens) =
      ((readAlternatives (3 * tokens.length + 6) {} false).run (atFront tokens).inGroup >>= fun (body, t) =>
        (finish (3 * tokens.length + 7) body).run t) := by
  have size : 3 * (grouped tokens).length + 3 = 3 * tokens.length + 9 := by
    simp [grouped]
    omega
  have front : (tokens ++ [closing]).head? ≠ some ⟨false, '?'⟩ := by
    cases tokens with
    | nil => decide
    | cons t tokens => exact other
  rw [readTokens_eq, size, readAlternatives, readSequence]
  show (((readPiece {} [] ⟨false, '('⟩).run (atFront (tokens ++ [closing])) >>= _) >>= _) = _
  rw [run_readPiece_group front]
  show (((readGroup (3 * tokens.length + 7) {} (.capture none)).run (atFront (tokens ++ [closing])) >>= _) >>= _) = _
  rw [readGroup]
  show ((((readAlternatives (3 * tokens.length + 6) {} false).run (atFront tokens).inGroup >>= _) >>= _) >>= _) = _
  cases (readAlternatives (3 * tokens.length + 6) {} false).run (atFront tokens).inGroup with
  | error e => rfl
  | ok read =>
    obtain ⟨body, t⟩ := read
    show (((((expect ')').run t >>= _) : Except Defect (Node × Progress)) >>= _) >>= _) = (expect ')').run t >>= _
    cases (expect ')').run t with
    | error e => rfl
    | ok passed => rfl

theorem run_finish (fuel : Nat) (body : Node) (last : p.left = [closing]) : (finish (fuel + 1) body).run p =
    .ok (.group 1 body, { p with left := [], groups := p.groups.set 1 (some (body.width (widthOf p.groups))) }) := by
  obtain ⟨left, groups, names, behindFrom, asked, overall⟩ := p
  obtain rfl : left = [closing] := last
  rfl

/-- Tokens that are read to their end alone, and that ask for no group by its number, are read in a group as well,
unless they make settings for the whole pattern. -/
theorem readTokens_grouped (read : readTokens tokens = .ok (node, q)) (spent : q.left = []) (unasked : q.asked = []) :
    if q.overall = none then
      ∃ t, readTokens (grouped tokens) = .ok (.group 1 node.renumber, t) ∧ t.left = [] ∧ t.asked = [] ∧
        t.overall = none ∧ t.groups.length = q.groups.length + 1
    else readTokens (grouped tokens) = .error .malformed := by
  -- A question mark behind the new parenthesis would make another group of it, but alone it repeats nothing.
  have unmarked : tokens.head? ≠ some ⟨false, '?'⟩ := by
    intro marked
    obtain ⟨others, rfl⟩ := List.head?_eq_some_iff.mp marked
    rw [readTokens_mark] at read
    cases read
  have inside : (readAlternatives (3 * tokens.length + 6) {} false).run (atFront tokens).inGroup =
      outcome Node.renumber node q :=
    ((Follows.all _).alternatives {} true (by omega)).inGroup (rooted_atFront tokens) rfl read unasked nofun
  rw [readTokens_grouped_eq unmarked, inside]
  split
  · rename_i unset
    rw [outcome_unset unset]
    have last : q.inGroup.left = [closing] := by simp [Progress.inGroup, spent]
    refine ⟨_, run_finish _ node.renumber last, rfl, unasked, unset, ?_⟩
    simp [Progress.inGroup]
  · rename_i made
    rw [outcome_set made]
    rfl

end Pattern.Reader

namespace Pattern

variable {s : String} {p : Pattern}

/-- A pattern that asks for no group by its number is the same pattern in a group, unless it makes settings for all
of it. -/
theorem read_inGroup (accepted : Pattern.read s = .ok p) (unnumbered : numbersIn s = []) :
    Pattern.read ("(" ++ s ++ ")") = if settingsIn? s = none then .ok p.inGroup else .error .malformed := by
  obtain ⟨tokens, q, listed, read, complete, groups, ascii⟩ := read_ok accepted
  simp only [Progress.completes, Bool.and_eq_true, List.isEmpty_iff] at complete
  obtain ⟨⟨⟨spent, -⟩, fixed⟩, -⟩ := complete
  have behind : progress? s = some q := progress?_eq listed read
  have unasked : q.asked = [] := by simpa [numbersIn, behind] using unnumbered
  have settings : settingsIn? s = q.overall := by simp [settingsIn?, behind]
  have listed' : tokens? ("(" ++ s ++ ")").toList = some (grouped tokens) := by
    rw [String.toList_append, String.toList_append]
    exact tokens?_grouped listed
  have goes := ((Follows.all (3 * tokens.length + 3)).alternatives {} true (Nat.le_refl _)).goes
  have rooted : q.Rooted := (goes (rooted_atFront tokens) read).rooted
  have result := readTokens_grouped read spent unasked
  rw [Pattern.read, listed', settings]
  split at result
  · rename_i unset
    obtain ⟨t, read', spent', unasked', unset', counted⟩ := result
    have fixed' : (Node.group 1 p.node.renumber).fixedBehind := p.node.fixedBehind_renumber.trans fixed
    have nothing : ∀ w, t.has w = false := Progress.has_of_unset unset'
    have complete' : t.completes (.group 1 p.node.renumber) = true := by
      simp [Progress.completes, spent', unasked', fixed', nothing]
    have scripts : p.ascii = false := ascii.trans (Progress.has_of_unset unset _)
    have count : t.groups.length - 1 = p.groups + 1 := by
      obtain ⟨others, same⟩ := rooted
      rw [counted, groups, same]
      simp
    rw [if_pos unset]
    show readPattern (grouped tokens) = _
    rw [readPattern_eq read', nothing, Bool.false_and, if_neg Bool.false_ne_true, if_pos complete', count]
    rw [inGroup, scripts]
  · rename_i made
    rw [if_neg made]
    show readPattern (grouped tokens) = _
    rw [readPattern, result]
    rfl

/-! ## Lengths of parts -/

variable {text : Subject} {gap : List Span} {gaps : List (List Span)} {words : List (List Char)} {pos last : Nat}

theorem Covers.length_eq (covers : Covers gap pos last) (inside : last ≤ text.size) :
    (delimiterText text gap).length = last - pos := by
  rw [covers.delimiterText_eq, Array.length_toList, Array.size_extract, Nat.min_eq_left inside]

/-- Delimiters and pieces are as long as the text together. -/
theorem Parted.length_add_length (parted : Parted text pos gaps words) :
    (delimiterText text gaps.flatten).length + words.flatten.length = text.size - pos := by
  induction parted with
  | last covers => simpa using covers.length_eq (Nat.le_refl _)
  | @piece gap pos first next gaps words covers filled apart more ih =>
    have inside := more.le_size
    have front := covers.length_eq (show first ≤ text.size by omega)
    have behind := covers.le
    have piece : (text.extract first next).toList.length = next - first := by
      rw [Array.length_toList, Array.size_extract, Nat.min_eq_left inside]
    rw [delimiterText] at front ih
    rw [delimiterText, List.flatten_cons, List.flatMap_append, List.length_append, front, List.flatten_cons,
      List.length_append, piece]
    omega

end Pattern

namespace Tokenizer

/-- A tokenizer parts a text at the matches of a pattern that are not empty, at each of them and nowhere else. -/
def PartsAt (p : Pattern) (t : Tokenizer) (text : List Char) : Prop :=
  ∃ gaps, Parted text.toArray 0 gaps ((t.tokenize text).map String.toList) ∧
    gaps.flatten = (p.spans text.toArray).filter Span.isFilled

theorem partsAt_of_spans {p : Pattern} {t : Tokenizer} {text : List Char}
    (same : t.delimiter.spans text.toArray = p.spans text.toArray) : PartsAt p t text := by
  obtain ⟨gaps, parted, matched⟩ := parted_between (inOrder_spans p text.toArray)
  refine ⟨gaps, ?_, matched⟩
  rw [tokenize, same, List.map_map]
  simpa [Function.comp_def] using parted

variable {s : String} {p : Pattern}

/-- A tokenizer means by a pattern what the pattern means alone, as long as this asks for none of its groups by
number; settings for the whole pattern are refused. -/
theorem ofPattern_of_read (accepted : Pattern.read s = .ok p) (unnumbered : numbersIn s = []) (v : Vocabulary) :
    (settingsIn? s = none → ∃ t, ofPattern (.str s) v = .ok t ∧
      ∀ text, t.delimiter.spans text.toArray = p.spans text.toArray ∧ PartsAt p t text) ∧
    (settingsIn? s ≠ none → ofPattern (.str s) v = .error .notPattern) := by
  have grouped := read_inGroup accepted unnumbered
  have display : (Json.Value.str s).display = s := rfl
  constructor
  · intro unset
    rw [if_pos unset] at grouped
    refine ⟨⟨.str s, p.inGroup, v⟩, ?_, fun text => ?_⟩
    · rw [ofPattern, display, grouped]
    · have same := p.spans_inGroup text.toArray
      exact ⟨same, partsAt_of_spans same⟩
  · intro made
    rw [if_neg made] at grouped
    rw [ofPattern, display, grouped]
    rfl

/-- A reference by name still means its group, and settings are refused. -/
theorem ofPattern_of_read_named :
    (∃ p t, Pattern.read "(?P<a>x|y)(?P=a)" = .ok p ∧ p.spans "axxbxyc".toList.toArray = [⟨1, 3⟩] ∧
      ofPattern (.str "(?P<a>x|y)(?P=a)") (.ofLines []) = .ok t ∧ PartsAt p t "axxbxyc".toList) ∧
    ofPattern (.str "(?i)x") (.ofLines []) = .error .notPattern := by
  constructor
  · obtain ⟨p, read, spans⟩ := exists_ok_of_map (r := Pattern.read "(?P<a>x|y)(?P=a)")
      (f := fun p => p.spans "axxbxyc".toList.toArray) (y := [⟨1, 3⟩]) (by decide +kernel)
    obtain ⟨t, made, parts⟩ := (ofPattern_of_read read (by decide +kernel) (.ofLines [])).1 (by decide +kernel)
    exact ⟨p, t, read, spans, made, (parts _).2⟩
  · obtain ⟨p, read⟩ := exists_ok (r := Pattern.read "(?i)x") (by decide +kernel)
    exact (ofPattern_of_read read (by decide +kernel) (.ofLines [])).2 (by decide +kernel)

/-- A number counts the new group as well: `\2` is the first group's text in the tokenizer's pattern. -/
theorem ofPattern_numbered : ∃ p t, Pattern.read "(a)(b)\\2" = .ok p ∧
    ofPattern (.str "(a)(b)\\2") (.ofLines []) = .ok t ∧
    p.spans "xabby".toList.toArray = [⟨1, 4⟩] ∧ t.tokenize "xabby".toList = ["xabby"] ∧
    ¬ PartsAt p t "xabby".toList := by
  obtain ⟨p, read, spans⟩ := exists_ok_of_map (r := Pattern.read "(a)(b)\\2")
    (f := fun p => p.spans "xabby".toList.toArray) (y := [⟨1, 4⟩]) (by decide +kernel)
  obtain ⟨t, made, tokens⟩ := exists_ok_of_map (r := ofPattern (.str "(a)(b)\\2") (.ofLines []))
    (f := fun t => t.tokenize "xabby".toList) (y := ["xabby"]) (by decide +kernel)
  refine ⟨p, t, read, made, spans, tokens, ?_⟩
  -- The pieces have as many characters as the text, which leaves none for the match.
  rintro ⟨gaps, parted, matched⟩
  have length := parted.length_add_length
  rw [matched, spans, tokens] at length
  simp [Span.isFilled, delimiterText, Span.spelling] at length

end Tokenizer
end TextClassifier
