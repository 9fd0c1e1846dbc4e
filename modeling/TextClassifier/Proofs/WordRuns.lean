import TextClassifier.Proofs.Openings
import TextClassifier.Proofs.TextPartition
import TextClassifier.Attempt
import TextClassifier.Sequence

/-!
# Words

Words are made of letters, digits, underscores and apostrophes, and the default delimiters are all other
characters. So with the default pattern the subwords of a text are its words (`Tokenizer.tokenize_default`),
which are the runs of such characters that nothing prolongs, in order (`Text.exists_runs`). A delimiter cuts a
text into parts whose words are independent (`Text.words_append_separator`), and lower case changes the
spelling of words but not where they are (`Text.words_asciiLower`).
-/
namespace TextClassifier
open Pattern

namespace Text

/-- Whether a character belongs to words: a letter, a digit, an underscore or an apostrophe. -/
def isWord (c : Char) : Bool := isAlphanumeric c || c == '_' || c == '\''

/-- The words of a text: what is left when it is cut at all other characters. -/
def words (text : List Char) : List (List Char) := (text.splitOnP fun c => !isWord c).filter fun w => !w.isEmpty

/-- Characters that part words, at least one. -/
def Separates (d : List Char) : Prop := d ≠ [] ∧ ∀ c ∈ d, isWord c = false

/-- Characters that make up one word. -/
def IsSpelling (w : List Char) : Prop := w ≠ [] ∧ ∀ c ∈ w, isWord c = true

/-! ## Cutting into words -/

variable {front back text w d : List Char} {c : Char}

theorem words_append_cons (other : isWord c = false) (front back : List Char) :
    words (front ++ c :: back) = words front ++ words back := by
  rw [words, List.splitOnP_append_cons front back (by simp [other]), List.filter_append]
  rfl

theorem words_of_forall (inside : ∀ c ∈ w, isWord c = true) : words w = if w = [] then [] else [w] := by
  rw [words, List.splitOnP_eq_singleton fun c listed => by simp [inside c listed]]
  cases w <;> rfl

theorem words_of_isSpelling (spelling : IsSpelling w) : words w = [w] := by
  rw [words_of_forall spelling.2, if_neg spelling.1]

/-- A text is made of words alone, or is cut by a character that belongs to none. -/
theorem cut_induction {motive : List Char → Prop} (plain : ∀ w, (∀ c ∈ w, isWord c = true) → motive w)
    (cut : ∀ front c back, isWord c = false → motive front → motive back → motive (front ++ c :: back))
    (text : List Char) : motive text := by
  suffices continued : ∀ front, (∀ c ∈ front, isWord c = true) → motive (front ++ text) from
    continued [] (fun _ listed => by cases listed)
  induction text with
  | nil =>
    intro front inside
    rw [List.append_nil]
    exact plain front inside
  | cons c rest ih =>
    intro front inside
    cases other : isWord c with
    | false => exact cut front c rest other (plain front inside) (ih [] fun _ listed => by cases listed)
    | true =>
      rw [List.append_cons]
      refine ih (front ++ [c]) fun d listed => ?_
      rcases List.mem_append.mp listed with before | last
      · exact inside d before
      · rwa [List.mem_singleton.mp last]

/-- Words are made of word characters. -/
theorem isSpelling_of_mem_words : ∀ w ∈ words text, IsSpelling w := by
  induction text using cut_induction with
  | plain text inside =>
    intro w listed
    rw [words_of_forall inside] at listed
    split at listed
    · cases listed
    · next filled =>
      rw [List.mem_singleton.mp listed]
      exact ⟨filled, inside⟩
  | cut front c back other first second =>
    intro w listed
    rw [words_append_cons other] at listed
    rcases List.mem_append.mp listed with before | behind
    · exact first w before
    · exact second w behind

theorem words_append_of_forall (others : ∀ c ∈ d, isWord c = false) (back : List Char) :
    words (d ++ back) = words back := by
  induction d with
  | nil => rfl
  | cons c rest ih =>
    rw [List.cons_append, ← List.nil_append (c :: (rest ++ back)),
      words_append_cons (others c List.mem_cons_self), ih fun c listed => others c (List.mem_cons_of_mem _ listed)]
    rfl

/-- What stands on both sides of a delimiter has words of its own. -/
theorem words_append_separator (separates : Separates d) (front back : List Char) :
    words (front ++ d ++ back) = words front ++ words back := by
  obtain ⟨filled, others⟩ := separates
  obtain ⟨c, rest, rfl⟩ := List.exists_cons_of_ne_nil filled
  rw [List.append_assoc, List.cons_append, words_append_cons (others c List.mem_cons_self),
    words_append_of_forall fun c listed => others c (List.mem_cons_of_mem _ listed)]

/-- Words that are joined with a delimiter are the words of what they make up. -/
theorem words_intercalate (separates : Separates d) {ws : List (List Char)} (spelled : ∀ w ∈ ws, IsSpelling w) :
    words (d.intercalate ws) = ws := by
  induction ws with
  | nil => rfl
  | cons w rest ih =>
    have first := words_of_isSpelling (spelled w List.mem_cons_self)
    have others := ih fun w listed => spelled w (List.mem_cons_of_mem _ listed)
    cases rest with
    | nil => simpa [List.intercalate] using first
    | cons next rest =>
      have joined : d.intercalate (w :: next :: rest) = w ++ d ++ d.intercalate (next :: rest) := by
        simp [List.intercalate]
      rw [joined, words_append_separator separates, first, others]
      rfl

/-! ## Lower case -/

/-- The letters of ASCII belong to words. -/
theorem isAlphanumeric_of_letter {n : Nat} (letter : 65 ≤ n ∧ n ≤ 90) :
    Alphanumeric.ranges.contains n = true ∧ Alphanumeric.ranges.contains (n + 32) = true := by
  have all : ∀ n < 91, 65 ≤ n → Alphanumeric.ranges.contains n = true ∧
      Alphanumeric.ranges.contains (n + 32) = true := by decide +kernel
  exact all n (by omega) letter.1

theorem isWord_asciiLower (c : Char) : isWord (asciiLower c) = isWord c := by
  by_cases capital : 'A' ≤ c ∧ c ≤ 'Z'
  · obtain ⟨upper, lower⟩ := isAlphanumeric_of_letter (n := c.toNat) capital
    rw [isWord, isWord, isAlphanumeric, isAlphanumeric, toNat_asciiLower capital, upper, lower]
    rfl
  · rw [asciiLower, if_neg capital]

/-- Lower case changes how words are spelled, not which they are. -/
theorem words_asciiLower (text : List Char) :
    words (TextClassifier.asciiLower text) = (words text).map TextClassifier.asciiLower := by
  induction text using cut_induction with
  | plain w inside =>
    have lower : ∀ c ∈ TextClassifier.asciiLower w, isWord c = true := by
      intro c listed
      obtain ⟨original, member, rfl⟩ := List.mem_map.mp listed
      rw [isWord_asciiLower]
      exact inside original member
    rw [words_of_forall lower, words_of_forall inside]
    cases w <;> rfl
  | cut front c back other first second =>
    have lower : TextClassifier.asciiLower (front ++ c :: back) =
        TextClassifier.asciiLower front ++ asciiLower c :: TextClassifier.asciiLower back := by
      simp [TextClassifier.asciiLower]
    rw [lower, words_append_cons ((isWord_asciiLower c).trans other), first, second, words_append_cons other,
      List.map_append]

/-! ## Runs -/

/-- Whether a character that belongs to words stands at a place. -/
def isWordAt (text : List Char) (i : Nat) : Bool := text[i]?.any isWord

/-- A run of characters that belong to words which nothing prolongs on either side. -/
structure IsRun (text : List Char) (run : Span) : Prop where
  filled : run.first < run.last
  inside : ∀ i, run.first ≤ i → i < run.last → isWordAt text i = true
  before : run.first = 0 ∨ isWordAt text (run.first - 1) = false
  behind : isWordAt text run.last = false

def shift (n : Nat) (run : Span) : Span := ⟨n + run.first, n + run.last⟩

theorem isWordAt_front (other : isWord c = false) {i : Nat} (before : i ≤ front.length) :
    isWordAt (front ++ c :: back) i = isWordAt front i := by
  rw [isWordAt, isWordAt]
  rcases Nat.eq_or_lt_of_le before with rfl | inside
  · simp [other]
  · rw [List.getElem?_append_left inside]

theorem isWordAt_back (front : List Char) (c : Char) (i : Nat) :
    isWordAt (front ++ c :: back) (front.length + 1 + i) = isWordAt back i := by
  rw [isWordAt, isWordAt, List.append_cons, List.getElem?_append_right (by simp)]
  simp

theorem isWordAt_length (text : List Char) : isWordAt text text.length = false := by
  rw [isWordAt, List.getElem?_eq_none (Nat.le_refl _)]
  rfl

theorem lt_length_of_isWordAt {i : Nat} (word : isWordAt text i = true) : i < text.length := by
  refine Nat.lt_of_not_le fun behind => ?_
  rw [isWordAt, List.getElem?_eq_none behind] at word
  cases word

namespace IsRun
variable {run : Span} {n : Nat}

theorem last_le_length (isRun : IsRun text run) : run.last ≤ text.length := by
  have filled := isRun.filled
  have last := lt_length_of_isWordAt (isRun.inside (run.last - 1) (by omega) (by omega))
  omega

/-- A run that begins before a place without a word ends there at the latest. -/
theorem last_le (isRun : IsRun text run) (stop : isWordAt text n = false) (early : run.first ≤ n) : run.last ≤ n := by
  refine Nat.le_of_not_lt fun late => ?_
  rw [isRun.inside n early late] at stop
  cases stop

/-- Texts that agree up to a place without a word have the same runs before it. -/
theorem transfer {other : List Char} (isRun : IsRun text run) (agree : ∀ i ≤ n, isWordAt other i = isWordAt text i)
    (stop : isWordAt text n = false) (early : run.first ≤ n) : IsRun other run := by
  have ended := isRun.last_le stop early
  refine ⟨isRun.filled, fun i low high => ?_, isRun.before.imp_right fun no => ?_, ?_⟩
  · rw [agree i (by omega)]
    exact isRun.inside i low high
  · rwa [agree _ (by omega)]
  · rw [agree _ ended]
    exact isRun.behind

end IsRun

/-- The runs in front of a character that belongs to no word. -/
theorem isRun_front (other : isWord c = false) {run : Span} (early : run.first ≤ front.length) :
    IsRun (front ++ c :: back) run ↔ IsRun front run := by
  have agree : ∀ i ≤ front.length, isWordAt (front ++ c :: back) i = isWordAt front i :=
    fun i before => isWordAt_front other before
  have stop := isWordAt_length front
  constructor
  · intro isRun
    exact isRun.transfer (fun i before => (agree i before).symm) ((agree _ (Nat.le_refl _)).trans stop) early
  · exact fun isRun => isRun.transfer agree stop early

/-- The runs behind a character that belongs to no word. -/
theorem isRun_back (other : isWord c = false) {run : Span} :
    IsRun (front ++ c :: back) (shift (front.length + 1) run) ↔ IsRun back run := by
  have middle : isWordAt (front ++ c :: back) front.length = false := by
    rw [isWordAt_front other (Nat.le_refl _), isWordAt_length]
  have before : isWordAt (front ++ c :: back) (front.length + 1 + run.first - 1) = false ↔
      run.first = 0 ∨ isWordAt back (run.first - 1) = false := by
    rcases run.first.eq_zero_or_pos with zero | positive
    · simp [zero, middle]
    · rw [Nat.add_sub_assoc positive, isWordAt_back]
      simp [Nat.ne_of_gt positive]
  constructor
  · intro isRun
    refine ⟨Nat.lt_of_add_lt_add_left isRun.filled, fun i low high => ?_,
      before.mp (isRun.before.resolve_left (by simp [shift])), ?_⟩
    · rw [← isWordAt_back front c]
      exact isRun.inside _ (Nat.add_le_add_left low _) (Nat.add_lt_add_left high _)
    · rw [← isWordAt_back front c]
      exact isRun.behind
  · intro isRun
    refine ⟨Nat.add_lt_add_left isRun.filled _, fun i low high => ?_, .inr (before.mpr isRun.before), ?_⟩
    · obtain ⟨j, rfl⟩ := Nat.exists_eq_add_of_le (Nat.le_trans (Nat.le_add_right _ _) low)
      rw [isWordAt_back]
      exact isRun.inside j (Nat.le_of_add_le_add_left low) (Nat.lt_of_add_lt_add_left high)
    · rw [shift, isWordAt_back]
      exact isRun.behind

/-- The runs on both sides of a character that belongs to no word. -/
theorem isRun_append_cons (other : isWord c = false) {run : Span} : IsRun (front ++ c :: back) run ↔
    IsRun front run ∨ ∃ later, IsRun back later ∧ run = shift (front.length + 1) later := by
  constructor
  · intro isRun
    by_cases early : run.first ≤ front.length
    · exact .inl ((isRun_front other early).mp isRun)
    · have filled := isRun.filled
      obtain ⟨first, begins⟩ := Nat.exists_eq_add_of_le (show front.length + 1 ≤ run.first by omega)
      obtain ⟨last, ends⟩ := Nat.exists_eq_add_of_le (show front.length + 1 ≤ run.last by omega)
      obtain rfl : run = shift (front.length + 1) ⟨first, last⟩ := by rw [shift, ← begins, ← ends]
      exact .inr ⟨⟨first, last⟩, (isRun_back other).mp isRun, rfl⟩
  · rintro (isRun | ⟨later, isRun, rfl⟩)
    · have filled := isRun.filled
      have ended := isRun.last_le_length
      exact (isRun_front other (by omega)).mpr isRun
    · exact (isRun_back other).mpr isRun

theorem isWordAt_of_forall (inside : ∀ c ∈ w, isWord c = true) (i : Nat) : isWordAt w i = decide (i < w.length) := by
  rw [isWordAt]
  by_cases low : i < w.length
  · rw [List.getElem?_eq_getElem low, Option.any_some, inside _ (List.getElem_mem low), decide_eq_true low]
  · rw [List.getElem?_eq_none (Nat.le_of_not_lt low), Option.any_none, decide_eq_false low]

/-- Without a character that belongs to no word, all of a text is one run. -/
theorem isRun_of_forall (inside : ∀ c ∈ w, isWord c = true) {run : Span} :
    IsRun w run ↔ w ≠ [] ∧ run = ⟨0, w.length⟩ := by
  have word := isWordAt_of_forall inside
  constructor
  · intro isRun
    have filled := isRun.filled
    have ended := isRun.last_le_length
    have before := isRun.before
    have behind := isRun.behind
    simp only [word, decide_eq_false_iff_not] at before behind
    refine ⟨List.ne_nil_of_length_pos (by omega), ?_⟩
    obtain ⟨first, last⟩ := run
    rw [Span.mk.injEq]
    simp only at *
    omega
  · rintro ⟨filled, rfl⟩
    refine ⟨List.length_pos_iff.mpr filled, fun i _ low => ?_, .inl rfl, isWordAt_length w⟩
    rw [word, decide_eq_true low]

theorem spelling_front {run : Span} (ended : run.last ≤ front.length) :
    run.spelling (front ++ c :: back).toArray = run.spelling front.toArray := by
  simp only [Span.spelling, List.extract_toArray, List.extract_eq_take_drop]
  rw [List.drop_append, List.take_append_of_le_length (by simp; omega)]

theorem spelling_shift (run : Span) :
    (shift (front.length + 1) run).spelling (front ++ c :: back).toArray = run.spelling back.toArray := by
  simp only [Span.spelling, shift, List.extract_toArray, List.extract_eq_take_drop, Nat.add_sub_add_left]
  rw [List.append_cons, List.drop_append, List.drop_eq_nil_of_le (by simp), List.nil_append]
  simp

/-- The words of a text are its runs, in order. -/
theorem exists_runs (text : List Char) : ∃ runs : List Span, runs.Pairwise (fun r s => r.last < s.first) ∧
    (∀ r, r ∈ runs ↔ IsRun text r) ∧ words text = runs.map (Span.spelling text.toArray) := by
  induction text using cut_induction with
  | plain w inside =>
    by_cases empty : w = []
    · refine ⟨[], .nil, fun r => ?_, by rw [words_of_forall inside, if_pos empty]; rfl⟩
      rw [isRun_of_forall inside]
      simp [empty]
    · refine ⟨[⟨0, w.length⟩], List.pairwise_singleton _ _, fun r => ?_, ?_⟩
      · rw [isRun_of_forall inside, List.mem_singleton, and_iff_right empty]
      · rw [words_of_forall inside, if_neg empty]
        simp [Span.spelling]
  | cut front c back other first second =>
    obtain ⟨early, ordered, listed, spelled⟩ := first
    obtain ⟨late, ordered', listed', spelled'⟩ := second
    have ended : ∀ r ∈ early, r.last ≤ front.length := fun r member => ((listed r).mp member).last_le_length
    refine ⟨early ++ late.map (shift (front.length + 1)), ?_, fun r => ?_, ?_⟩
    · rw [List.pairwise_append, List.pairwise_map]
      refine ⟨ordered, ordered'.imp fun apart => Nat.add_lt_add_left apart _, fun r member s later => ?_⟩
      obtain ⟨t, -, rfl⟩ := List.mem_map.mp later
      exact Nat.lt_of_le_of_lt (ended r member) (by simp [shift]; omega)
    · rw [List.mem_append, listed, isRun_append_cons other]
      refine or_congr_right ⟨fun later => ?_, fun ⟨t, isRun, same⟩ => ?_⟩
      · obtain ⟨t, member, rfl⟩ := List.mem_map.mp later
        exact ⟨t, (listed' t).mp member, rfl⟩
      · rw [same]
        exact List.mem_map_of_mem ((listed' t).mpr isRun)
    · rw [words_append_cons other, spelled, spelled', List.map_append, List.map_map]
      congr 1
      · exact List.map_congr_left fun r member => (spelling_front (ended r member)).symm
      · exact List.map_congr_left fun r _ => (spelling_shift r).symm

end Text

/-! ## The default delimiters -/

namespace Tokenizer
variable {text : Subject}

/-- The characters that belong to no word, as a set. -/
def others : CharSet := ⟨[.named .word false false, .range 39 39], true, .exact⟩

theorem contains_others (c : Char) : others.contains c = !Text.isWord c := by
  have apostrophe : (39 ≤ c.toNat && c.toNat ≤ 39) = (c == '\'') := by
    rw [Bool.eq_iff_iff]
    simp [Char.ext_iff, ← UInt32.toNat_inj]
    omega
  simp [others, CharSet.contains, CharSet.covers, CharClass.contains, Folding.alike, Text.isWord, Text.isWordChar,
    apostrophe]

/-- The default pattern: characters that belong to no word, as many as there are. -/
def defaultDelimiter : Pattern := ⟨.group 1 (.repeated .greedy 1 none (.set others)), 1, false⟩

theorem ofPattern_default (vocabulary : Vocabulary) :
    ofPattern (.str defaultPattern) vocabulary = .ok ⟨.str defaultPattern, defaultDelimiter, vocabulary⟩ := by
  have read : (Pattern.read ("(" ++ Json.Value.display (.str defaultPattern) ++ ")")).toOption =
      some defaultDelimiter := by decide +kernel
  rw [ofPattern]
  cases result : Pattern.read ("(" ++ Json.Value.display (.str defaultPattern) ++ ")") with
  | error defect => rw [result] at read; cases read
  | ok delimiter =>
    rw [result] at read
    cases read
    rfl

/-- From one place to another there are only characters that belong to no word. -/
def IsGap (text : Subject) (first last : Nat) : Prop :=
  ∀ i, first ≤ i → i < last → ∃ c, text[i]? = some c ∧ Text.isWord c = false

/-- A state follows another behind a gap. -/
def Skips (text : Subject) (s s' : State) : Prop := s.pos ≤ s'.pos ∧ IsGap text s.pos s'.pos

theorem addsUp_skips (text : Subject) : AddsUp (Skips text) where
  still same := ⟨Nat.le_of_eq same.symm, fun i low high => by omega⟩
  trans := fun {s s' s''} ⟨first, before⟩ ⟨second, behind⟩ => by
    refine ⟨Nat.le_trans first second, fun i low high => ?_⟩
    by_cases early : i < s'.pos
    · exact before i low early
    · exact behind i (by omega) high

/-- One round of the default pattern matches one character. -/
theorem skips_of_mem_ways {s s' : State} (listed : s' ∈ (Node.set others).ways text s) :
    s'.pos = s.pos + 1 ∧ Skips text s s' := by
  rw [Node.ways] at listed
  split at listed
  · next c here =>
    split at listed
    · next held =>
      rw [contains_others, Bool.not_eq_true'] at held
      rw [List.mem_singleton.mp listed]
      refine ⟨rfl, Nat.le_succ _, fun i low high => ⟨c, ?_, held⟩⟩
      obtain rfl : i = s.pos := Nat.le_antisymm (Nat.le_of_lt_succ high) low
      exact here
    · cases listed
  · cases listed

/-- A delimiter is made of characters that belong to no word, at least one. -/
theorem isGap_of_mem_ends {pos last : Nat} (listed : last ∈ defaultDelimiter.ends text pos) :
    pos < last ∧ IsGap text pos last := by
  obtain ⟨s', way, rfl⟩ := List.mem_map.mp listed
  obtain ⟨t, repeated, rfl⟩ := List.mem_map.mp way
  obtain ⟨u, once, more⟩ := List.mem_flatMap.mp repeated
  obtain ⟨v, first, done⟩ := List.mem_flatMap.mp once
  obtain rfl := List.mem_singleton.mp done
  obtain ⟨advanced, skips⟩ := skips_of_mem_ways first
  have later := (addsUp_skips text).of_mem_greedyWays (fun s s' way => (skips_of_mem_ways way).2) _ _ u t more
  have forward : pos + 1 ≤ t.pos := Nat.le_trans (Nat.le_of_eq advanced.symm) later.1
  exact ⟨forward, ((addsUp_skips text).trans skips later).2⟩

theorem greedyWays_ne_nil (body : Ways) (n : Nat) (last : Option Nat) (s : State) : greedyWays body n last s ≠ [] := by
  cases n with
  | zero => exact List.cons_ne_nil _ _
  | succ n =>
    rw [greedyWays]
    split
    · exact List.cons_ne_nil _ _
    · exact List.append_ne_nil_of_right_ne_nil _ (List.cons_ne_nil _ _)

/-- Where a character stands that belongs to no word, there is a delimiter. -/
theorem ends_ne_nil {pos : Nat} {c : Char} (here : text[pos]? = some c) (other : Text.isWord c = false) :
    defaultDelimiter.ends text pos ≠ [] := by
  have held : others.contains c = true := by rw [contains_others, other]; rfl
  have once : (Node.set others).ways text ((State.start 1 pos).openGroup 1) =
      [((State.start 1 pos).openGroup 1).advance 1] := by
    rw [Node.ways, show ((State.start 1 pos).openGroup 1).pos = pos from rfl, here]
    simp only [held, if_true]
  intro missing
  have repeated : (Node.repeated .greedy 1 none (.set others)).ways text ((State.start 1 pos).openGroup 1) = [] :=
    List.map_eq_nil_iff.mp (List.map_eq_nil_iff.mp missing)
  rw [Node.ways, List.flatMap_eq_nil_iff] at repeated
  refine greedyWays_ne_nil _ _ _ _ (repeated (((State.start 1 pos).openGroup 1).advance 1) ?_)
  rw [timesWays, once]
  exact List.mem_singleton_self _

theorem end?_default (text : Subject) (pos : Nat) :
    defaultDelimiter.end? text pos = (defaultDelimiter.ends text pos).head? :=
  Pattern.end?_of_mayBegin rfl

theorem isGap_of_end? {pos last : Nat} (found : defaultDelimiter.end? text pos = some last) :
    pos < last ∧ IsGap text pos last := by
  rw [end?_default] at found
  exact isGap_of_mem_ends (List.mem_of_mem_head? found)

theorem isWord_of_end?_eq_none {pos : Nat} {c : Char} (missing : defaultDelimiter.end? text pos = none)
    (here : text[pos]? = some c) : Text.isWord c = true := by
  rw [end?_default, List.head?_eq_none_iff] at missing
  cases other : Text.isWord c with
  | false => exact absurd missing (ends_ne_nil here other)
  | true => rfl

theorem forall_mem_extract {holds : Char → Prop} {first last : Nat}
    (inside : ∀ i, first ≤ i → i < last → ∀ c, text[i]? = some c → holds c) :
    ∀ c ∈ (text.extract first last).toList, holds c := by
  intro c listed
  rw [Array.mem_toList_iff, Array.mem_extract_iff_getElem] at listed
  obtain ⟨k, low, rfl⟩ := listed
  exact inside (first + k) (by omega) (by omega) _ (Array.getElem?_eq_getElem (by omega))

/-- A stretch of word characters is one word. -/
theorem words_extract {first last : Nat} (fits : last ≤ text.size)
    (inside : ∀ i, first ≤ i → i < last → ∀ c, text[i]? = some c → Text.isWord c = true) :
    Text.words (text.extract first last).toList =
      if first < last then [(text.extract first last).toList] else [] := by
  rw [Text.words_of_forall (forall_mem_extract inside)]
  by_cases filled : first < last
  · rw [if_neg (toList_extract_ne_nil filled fits), if_pos filled]
  · rw [if_pos (by simp; omega), if_neg filled]

/-! ## Tokenizing -/

/-- Between the default delimiters are the words. -/
theorem between_spansFrom_default (pos : Nat) : ∀ start ≤ pos,
    (∀ i, start ≤ i → i < pos → ∀ c, text[i]? = some c → Text.isWord c = true) →
    between text start (defaultDelimiter.spansFrom text pos) = Text.words (text.extract start text.size).toList := by
  induction pos using Pattern.spansFrom.induct defaultDelimiter text with
  | case1 pos ended =>
    intro start behind inside
    rw [spansFrom, if_pos ended, between,
      words_extract (Nat.le_refl _) fun i low high => inside i low (by omega)]
  | case2 pos within missing ih =>
    -- Nothing but characters of words has been passed over since the last delimiter.
    intro start behind inside
    rw [spansFrom, if_neg within, missing]
    refine ih start (by omega) fun i low high c here => ?_
    rcases Nat.eq_or_lt_of_le (Nat.le_of_lt_succ high) with rfl | before
    · exact isWord_of_end?_eq_none missing here
    · exact inside i low before c here
  | case3 pos within last found nonempty ih =>
    -- Where the delimiter ends does not matter here: if more of it follows, that is a delimiter again.
    intro start behind inside
    have fits := le_size_of_end? found nonempty
    have separates : Text.Separates (text.extract pos last).toList := by
      refine ⟨toList_extract_ne_nil nonempty fits, forall_mem_extract fun i low high c here => ?_⟩
      obtain ⟨d, there, other⟩ := (isGap_of_end? found).2 i low high
      rw [there, Option.some.injEq] at here
      rwa [← here]
    have whole : (text.extract start text.size).toList =
        (text.extract start pos).toList ++ (text.extract pos last).toList ++ (text.extract last text.size).toList := by
      rw [← Array.toList_append, ← Array.toList_append, extract_append_extract_of_le behind (by omega),
        extract_append_extract_of_le (by omega) fits]
    rw [spansFrom, if_neg within, found, whole, Text.words_append_separator separates,
      words_extract (by omega) inside, ← ih last (Nat.le_refl last) fun i low high => by omega]
    simp only [if_pos nonempty, between, if_neg (Nat.ne_of_gt nonempty)]
    split <;> rfl
  | case4 pos within last found empty ih skip more => exact absurd (isGap_of_end? found).1 empty

/-- With the default pattern the subwords of a text are its words. -/
theorem tokenize_of_default {t : Tokenizer} (usual : t.delimiter = defaultDelimiter) (text : List Char) :
    t.tokenize text = (Text.words text).map String.ofList := by
  rw [tokenize, usual, spans, between_spansFrom_default 0 0 (Nat.le_refl 0) fun i _ high => by omega]
  simp

/-- What tokenizing into words is: the subwords are the runs of word characters that nothing prolongs, a
delimiter parts a text, joining subwords with one is undone, and lower case commutes with it. -/
structure CutsWords (t : Tokenizer) : Prop where
  runs : ∀ text, ∃ runs : List Span, runs.Pairwise (fun r s => r.last < s.first) ∧
    (∀ r, r ∈ runs ↔ Text.IsRun text r) ∧
    t.tokenize text = runs.map fun r => String.ofList (r.spelling text.toArray)
  append : ∀ front d back, Text.Separates d → t.tokenize (front ++ d ++ back) = t.tokenize front ++ t.tokenize back
  intercalate : ∀ text d, Text.Separates d →
    t.tokenize (d.intercalate ((t.tokenize text).map String.toList)) = t.tokenize text
  lower : ∀ text, t.tokenize (asciiLower text) =
    (t.tokenize text).map fun w => String.ofList (asciiLower w.toList)

/-- With the default pattern and any vocabulary, texts are cut into words. -/
theorem tokenize_default (vocabulary : Vocabulary) : ∃ t, ofPattern (.str defaultPattern) vocabulary = .ok t ∧
    t.vocabulary = vocabulary ∧ t.CutsWords := by
  refine ⟨_, ofPattern_default vocabulary, rfl, ?_⟩
  have words : ∀ text, tokenize ⟨.str defaultPattern, defaultDelimiter, vocabulary⟩ text =
      (Text.words text).map String.ofList := tokenize_of_default rfl
  have spelled : ∀ ws : List (List Char), (ws.map String.ofList).map String.toList = ws := fun ws => by simp
  constructor
  · intro text
    obtain ⟨runs, ordered, listed, spelling⟩ := Text.exists_runs text
    refine ⟨runs, ordered, listed, ?_⟩
    rw [words, spelling, List.map_map]
    rfl
  · intro front d back separates
    rw [words, words, words, Text.words_append_separator separates, List.map_append]
  · intro text d separates
    rw [words, words, spelled, Text.words_intercalate separates Text.isSpelling_of_mem_words]
  · intro text
    rw [words, words, Text.words_asciiLower, List.map_map, List.map_map]
    exact List.map_congr_left fun w _ => by simp

end Tokenizer
end TextClassifier
