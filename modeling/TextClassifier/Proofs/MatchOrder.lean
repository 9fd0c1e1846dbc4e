import TextClassifier.Pattern.Search

/-!
# Matches in order

The ways in which a part of a pattern matches at a place, in the order in which they are tried
(`Node.ways`). What must match behind a part has no influence on them: a run finds the first way behind
which the rest matches (`Node.run_eq_findSome?`). So the first match that meets a condition is the first
such among all matches (`endWhere?_eq_find?`), and no other choice is made because of the condition. No way
leads back, nor beyond the end of the text (`Node.goesOn_of_mem_ways`).
-/
namespace TextClassifier.Pattern

/-- A part of a pattern, as all places where it may end, in the order in which they are tried. -/
abbrev Ways := State → List State

/-- A body `n` times. -/
def timesWays (body : Ways) : Nat → Ways
  | 0, s => [s]
  | n + 1, s => (body s).flatMap (timesWays body n)

/-- As many rounds as possible first, at most `n` of them; `last` is where the round before began. -/
def greedyWays (body : Ways) : Nat → Option Nat → Ways
  | 0, _, s => [s]
  | n + 1, last, s =>
    if last = some s.pos then [s]
    else (body s).flatMap (greedyWays body n (some s.pos)) ++ [s]

/-- As few rounds as possible first, at most `n` of them; `last` is where the round before began. -/
def reluctantWays (body : Ways) : Nat → Option Nat → Ways
  | 0, _, s => [s]
  | n + 1, last, s =>
    s :: if last = some s.pos then [] else (body s).flatMap (reluctantWays body n (some s.pos))

/-- Rounds that each keep to their first way, at most `n` of them, until one fails or matches nothing. -/
def possessiveWay (body : Ways) : Nat → State → State
  | 0, s => s
  | n + 1, s =>
    match (body s).head? with
    | some s' => if s'.pos = s.pos then s' else possessiveWay body n s'
    | none => s

/-- A body `n` times, each time keeping to its first way. -/
def timesFirst (body : Ways) : Nat → State → Option State
  | 0, s => some s
  | n + 1, s => (body s).head?.bind (timesFirst body n)

/-- What an assertion leaves: the place where it stands, with what it captured unless it is negated. -/
def asserted (negated : Bool) (s : State) : Option State → List State
  | some s' => if negated then [] else [{ s' with pos := s.pos }]
  | none => if negated then [s] else []

namespace Node

/-- The ways in which a part of a pattern matches, in order. -/
def ways (text : Subject) : Node → Ways
  | .empty, s => [s]
  | .set chars, s =>
    match text[s.pos]? with
    | some c => if chars.contains c then [s.advance 1] else []
    | none => []
  | .seq a b, s => (a.ways text s).flatMap fun s' => b.ways text s'
  | .alt a b, s => a.ways text s ++ b.ways text s
  | .group index body, s => (body.ways text (s.openGroup index)).map (·.closeGroup index)
  | .scoped body, s => body.ways text s
  | .backref index folding, s =>
    match s.captured? index with
    | some (first, last) =>
      if agrees text folding first s.pos (last - first) then [s.advance (last - first)] else []
    | none => []
  | .given index a b, s => if (s.captured? index).isSome then a.ways text s else b.ways text s
  | .anchor place, s => if place.holds text s.pos then [s] else []
  | .ahead negated body, s => asserted negated s (body.ways text s).head?
  | .behind negated width body, s =>
    if s.pos < width.least then asserted negated s none
    else asserted negated s (body.ways text { s with pos := s.pos - width.least }).head?
  | .atomic body, s => (body.ways text s).head?.toList
  | .repeated .greedy least most body, s =>
    (timesWays (fun s => body.ways text s) least s).flatMap fun s' =>
      greedyWays (fun s => body.ways text s) (rounds text least most s'.pos) none s'
  | .repeated .reluctant least most body, s =>
    (timesWays (fun s => body.ways text s) least s).flatMap fun s' =>
      reluctantWays (fun s => body.ways text s) (rounds text least most s'.pos) none s'
  | .repeated .possessive least most body, s =>
    (timesFirst (fun s => body.ways text s) least s).toList.map fun s' =>
      possessiveWay (fun s => body.ways text s) (rounds text least most s'.pos) s'

end Node

/-! ## Runs -/

/-- A run finds the first way behind which the rest matches. -/
def Run.Finds (run : Run) (ways : Ways) : Prop := ∀ s k, run s k = (ways s).findSome? k

namespace Run.Finds
variable {body : Run} {ways : Ways}

theorem findSome?_flatMap (l : List State) (f : Ways) (k : Rest) :
    (l.flatMap f).findSome? k = l.findSome? fun s => (f s).findSome? k := by
  simp only [← List.head?_filterMap, List.filterMap_flatMap, List.head?_flatMap]

theorem first (finds : body.Finds ways) (s : State) : body s some = (ways s).head? := by
  rw [finds, ← List.head?_filterMap, List.filterMap_some]

theorem times (finds : body.Finds ways) (n : Nat) : Run.Finds (times body n) (timesWays ways n) := by
  induction n with
  | zero =>
    intro s k
    rw [Pattern.times, timesWays, List.findSome?_singleton]
  | succ n ih =>
    intro s k
    rw [Pattern.times, timesWays, findSome?_flatMap, finds]
    exact congrArg (List.findSome? · _) (funext fun s' => ih s' k)

/-- A greedy repetition finds the ways with another round before the one without it. -/
theorem greedy (finds : body.Finds ways) (n : Nat) :
    ∀ last, Run.Finds (greedy body n last) (greedyWays ways n last) := by
  induction n with
  | zero =>
    intro last s k
    rw [Pattern.greedy, greedyWays, List.findSome?_singleton]
  | succ n ih =>
    intro last s k
    rw [Pattern.greedy, greedyWays]
    by_cases stuck : last = some s.pos
    · rw [if_pos stuck, if_pos stuck, List.findSome?_singleton]
    · have round : (body s fun s' => Pattern.greedy body n (some s.pos) s' k) =
          ((ways s).flatMap (greedyWays ways n (some s.pos))).findSome? k := by
        rw [findSome?_flatMap, finds]
        exact congrArg (List.findSome? · _) (funext fun s' => ih (some s.pos) s' k)
      rw [if_neg stuck, if_neg stuck, List.findSome?_append, List.findSome?_singleton, round]
      cases ((ways s).flatMap (greedyWays ways n (some s.pos))).findSome? k <;> rfl

/-- A reluctant repetition finds the way without another round before those with it. -/
theorem reluctant (finds : body.Finds ways) (n : Nat) :
    ∀ last, Run.Finds (reluctant body n last) (reluctantWays ways n last) := by
  induction n with
  | zero =>
    intro last s k
    rw [Pattern.reluctant, reluctantWays, List.findSome?_singleton]
  | succ n ih =>
    intro last s k
    rw [Pattern.reluctant, reluctantWays, List.findSome?_cons]
    by_cases stuck : last = some s.pos
    · rw [if_pos stuck, if_pos stuck]
      cases k s <;> rfl
    · have round : (body s fun s' => Pattern.reluctant body n (some s.pos) s' k) =
          ((ways s).flatMap (reluctantWays ways n (some s.pos))).findSome? k := by
        rw [findSome?_flatMap, finds]
        exact congrArg (List.findSome? · _) (funext fun s' => ih (some s.pos) s' k)
      rw [if_neg stuck, if_neg stuck, round]
      cases k s <;> rfl

theorem possessive (finds : body.Finds ways) (n : Nat) : ∀ s, possessive body n s = possessiveWay ways n s := by
  induction n with
  | zero => exact fun s => rfl
  | succ n ih =>
    intro s
    rw [Pattern.possessive, possessiveWay, finds.first]
    cases (ways s).head? with
    | none => rfl
    | some s' => simp only [ih]

theorem timesAtomic (finds : body.Finds ways) (n : Nat) : timesAtomic body n = timesFirst ways n := by
  induction n with
  | zero => rfl
  | succ n ih =>
    funext s
    rw [Pattern.timesAtomic, timesFirst, finds.first, ih]

end Run.Finds

namespace Node
variable {text : Subject}

/-- A part of a pattern matches in the first way behind which the rest matches. -/
theorem run_eq_findSome? (node : Node) : ∀ s k, node.run text s k = (node.ways text s).findSome? k := by
  induction node with
  | empty => exact fun s k => List.findSome?_singleton.symm
  | set chars =>
    intro s k
    rw [run, ways]
    cases text[s.pos]? with
    | none => rfl
    | some c =>
      by_cases held : chars.contains c = true
      · simp only [held, if_true, List.findSome?_singleton]
      · simp [held]
  | seq a b first second =>
    intro s k
    rw [run, ways, Run.Finds.findSome?_flatMap, first]
    exact congrArg (List.findSome? · _) (funext fun s' => second s' k)
  | alt a b first second =>
    intro s k
    rw [run, ways, List.findSome?_append, first, second]
    cases (a.ways text s).findSome? k <;> rfl
  | group index body ih =>
    intro s k
    rw [run, ways, List.findSome?_map, ih]
    rfl
  | «scoped» body ih => exact ih
  | backref index folding =>
    intro s k
    rw [run, ways]
    cases s.captured? index with
    | none => rfl
    | some bounds =>
      by_cases same : agrees text folding bounds.1 s.pos (bounds.2 - bounds.1) = true
      · simp only [same, if_true, List.findSome?_singleton]
      · simp [same]
  | given index a b first second =>
    intro s k
    rw [run, ways, first, second]
    split <;> rfl
  | anchor place =>
    intro s k
    rw [run, ways]
    split
    · exact List.findSome?_singleton.symm
    · rfl
  | ahead negated body ih =>
    intro s k
    rw [run, ways, Run.Finds.first ih]
    cases (body.ways text s).head? <;> cases negated <;> simp [asserted]
  | behind negated width body ih =>
    intro s k
    rw [run, ways]
    by_cases early : s.pos < width.least
    · cases negated <;> simp [early, asserted]
    · rw [if_neg early, if_neg early, Run.Finds.first ih]
      cases (body.ways text { s with pos := s.pos - width.least }).head? <;> cases negated <;> simp [asserted]
  | atomic body ih =>
    intro s k
    rw [run, ways, Run.Finds.first ih]
    cases (body.ways text s).head? <;> simp
  | repeated manner least most body ih =>
    intro s k
    have finds : Run.Finds (fun s k => body.run text s k) (fun s => body.ways text s) := ih
    cases manner with
    | greedy =>
      rw [run, ways, Run.Finds.findSome?_flatMap, finds.times]
      exact congrArg (List.findSome? · _) (funext fun s' => finds.greedy _ none s' k)
    | reluctant =>
      rw [run, ways, Run.Finds.findSome?_flatMap, finds.times]
      exact congrArg (List.findSome? · _) (funext fun s' => finds.reluctant _ none s' k)
    | possessive =>
      rw [run, ways, finds.timesAtomic]
      cases timesFirst (fun s => body.ways text s) least s with
      | none => rfl
      | some s' =>
        simp only [finds.possessive, Option.toList_some, List.map_cons, List.map_nil, List.findSome?_singleton]

end Node

/-! ## Places -/

/-- From one state a part gets to another: not back, and not beyond the end of the text. -/
def GoesOn (text : Subject) (s s' : State) : Prop := s.pos ≤ s'.pos ∧ (s'.pos = s.pos ∨ s'.pos ≤ text.size)

theorem goesOn_of_pos_eq {text : Subject} {s s' : State} (same : s'.pos = s.pos) : GoesOn text s s' :=
  ⟨Nat.le_of_eq same.symm, .inl same⟩

theorem GoesOn.trans {text : Subject} {s s' s'' : State} (first : GoesOn text s s') (second : GoesOn text s' s'') :
    GoesOn text s s'' := by
  obtain ⟨behind, inside⟩ := first
  obtain ⟨further, bounded⟩ := second
  exact ⟨by omega, by omega⟩

theorem pos_of_mem_asserted {negated : Bool} {s s' : State} {found : Option State}
    (listed : s' ∈ asserted negated s found) : s'.pos = s.pos := by
  cases found <;> cases negated <;> simp [asserted] at listed <;> rw [listed]

/-- Where texts agree, neither ends. -/
theorem le_size_of_agrees {text : Subject} {folding : Folding} :
    ∀ {n i j : Nat}, agrees text folding i j n = true → n = 0 ∨ j + n ≤ text.size := by
  intro n
  induction n with
  | zero => exact fun _ => .inl rfl
  | succ n ih =>
    intro i j same
    rw [agrees] at same
    split at same
    · next c d here there =>
      have inside := (Array.getElem?_eq_some_iff.mp there).1
      rcases ih (Bool.and_eq_true_iff.mp same).2 with rfl | bounded
      · exact .inr inside
      · exact .inr (by omega)
    · cases same

/-- A relation between states that repeating keeps: it holds where nothing moves, and steps add up. -/
structure AddsUp (R : State → State → Prop) : Prop where
  still : ∀ {s s'}, s'.pos = s.pos → R s s'
  trans : ∀ {s s' s''}, R s s' → R s' s'' → R s s''

theorem addsUp_goesOn (text : Subject) : AddsUp (GoesOn text) := ⟨goesOn_of_pos_eq, GoesOn.trans⟩

namespace AddsUp
variable {R : State → State → Prop} {body : Ways}

theorem of_mem_timesWays (add : AddsUp R) (step : ∀ s, ∀ s' ∈ body s, R s s') (n : Nat) :
    ∀ s, ∀ s' ∈ timesWays body n s, R s s' := by
  induction n with
  | zero =>
    intro s s' listed
    exact add.still (congrArg State.pos (List.mem_singleton.mp listed))
  | succ n ih =>
    intro s s' listed
    obtain ⟨t, first, rest⟩ := List.mem_flatMap.mp listed
    exact add.trans (step s t first) (ih t s' rest)

theorem of_mem_greedyWays (add : AddsUp R) (step : ∀ s, ∀ s' ∈ body s, R s s') (n : Nat) :
    ∀ last s, ∀ s' ∈ greedyWays body n last s, R s s' := by
  induction n with
  | zero =>
    intro last s s' listed
    exact add.still (congrArg State.pos (List.mem_singleton.mp listed))
  | succ n ih =>
    intro last s s' listed
    rw [greedyWays] at listed
    split at listed
    · exact add.still (congrArg State.pos (List.mem_singleton.mp listed))
    · rcases List.mem_append.mp listed with more | done
      · obtain ⟨t, first, rest⟩ := List.mem_flatMap.mp more
        exact add.trans (step s t first) (ih (some s.pos) t s' rest)
      · exact add.still (congrArg State.pos (List.mem_singleton.mp done))

theorem of_mem_reluctantWays (add : AddsUp R) (step : ∀ s, ∀ s' ∈ body s, R s s') (n : Nat) :
    ∀ last s, ∀ s' ∈ reluctantWays body n last s, R s s' := by
  induction n with
  | zero =>
    intro last s s' listed
    exact add.still (congrArg State.pos (List.mem_singleton.mp listed))
  | succ n ih =>
    intro last s s' listed
    rw [reluctantWays] at listed
    rcases List.mem_cons.mp listed with done | more
    · exact add.still (congrArg State.pos done)
    · split at more
      · cases more
      · obtain ⟨t, first, rest⟩ := List.mem_flatMap.mp more
        exact add.trans (step s t first) (ih (some s.pos) t s' rest)

theorem possessiveWay (add : AddsUp R) (step : ∀ s, ∀ s' ∈ body s, R s s') (n : Nat) :
    ∀ s, R s (possessiveWay body n s) := by
  induction n with
  | zero => exact fun s => add.still rfl
  | succ n ih =>
    intro s
    rw [Pattern.possessiveWay]
    split
    · next s' first =>
      have moved := step s s' (List.mem_of_mem_head? first)
      split
      · exact moved
      · exact add.trans moved (ih s')
    · exact add.still rfl

theorem of_timesFirst (add : AddsUp R) (step : ∀ s, ∀ s' ∈ body s, R s s') (n : Nat) :
    ∀ s s', timesFirst body n s = some s' → R s s' := by
  induction n with
  | zero =>
    intro s s' same
    exact add.still (congrArg State.pos (Option.some.inj same).symm)
  | succ n ih =>
    intro s s' found
    obtain ⟨t, first, rest⟩ := Option.bind_eq_some_iff.mp found
    exact add.trans (step s t (List.mem_of_mem_head? first)) (ih t s' rest)

end AddsUp

/-- No way of matching leads back, nor beyond the end of the text. -/
theorem Node.goesOn_of_mem_ways {text : Subject} (node : Node) :
    ∀ s, ∀ s' ∈ node.ways text s, GoesOn text s s' := by
  induction node with
  | empty =>
    intro s s' listed
    exact goesOn_of_pos_eq (congrArg State.pos (List.mem_singleton.mp listed))
  | set chars =>
    intro s s' listed
    rw [ways] at listed
    split at listed
    · next c there =>
      have inside := (Array.getElem?_eq_some_iff.mp there).1
      split at listed
      · rw [List.mem_singleton.mp listed]
        exact ⟨Nat.le_succ s.pos, .inr inside⟩
      · cases listed
    · cases listed
  | seq a b first second =>
    intro s s' listed
    obtain ⟨t, before, behind⟩ := List.mem_flatMap.mp listed
    exact (first s t before).trans (second t s' behind)
  | alt a b first second =>
    intro s s' listed
    rcases List.mem_append.mp listed with left | right
    · exact first s s' left
    · exact second s s' right
  | group index body ih =>
    intro s s' listed
    obtain ⟨t, inner, rfl⟩ := List.mem_map.mp listed
    exact ih (s.openGroup index) t inner
  | «scoped» body ih => exact ih
  | backref index folding =>
    intro s s' listed
    rw [ways] at listed
    split at listed
    · next first last _ =>
      split at listed
      · next same =>
        rw [List.mem_singleton.mp listed]
        rcases le_size_of_agrees same with none | inside
        · exact goesOn_of_pos_eq (by rw [State.advance, none]; rfl)
        · exact ⟨Nat.le_add_right s.pos _, .inr inside⟩
      · cases listed
    · cases listed
  | given index a b first second =>
    intro s s' listed
    rw [ways] at listed
    split at listed
    · exact first s s' listed
    · exact second s s' listed
  | anchor place =>
    intro s s' listed
    rw [ways] at listed
    split at listed
    · exact goesOn_of_pos_eq (congrArg State.pos (List.mem_singleton.mp listed))
    · cases listed
  | ahead negated body ih => exact fun s s' listed => goesOn_of_pos_eq (pos_of_mem_asserted listed)
  | behind negated width body ih =>
    intro s s' listed
    rw [ways] at listed
    split at listed
    · exact goesOn_of_pos_eq (pos_of_mem_asserted listed)
    · exact goesOn_of_pos_eq (pos_of_mem_asserted listed)
  | atomic body ih =>
    intro s s' listed
    rw [ways, Option.mem_toList] at listed
    exact ih s s' (List.mem_of_mem_head? listed)
  | repeated manner least most body ih =>
    intro s s' listed
    have add := addsUp_goesOn text
    cases manner with
    | greedy =>
      obtain ⟨t, before, behind⟩ := List.mem_flatMap.mp listed
      exact (add.of_mem_timesWays ih _ s t before).trans (add.of_mem_greedyWays ih _ _ t s' behind)
    | reluctant =>
      obtain ⟨t, before, behind⟩ := List.mem_flatMap.mp listed
      exact (add.of_mem_timesWays ih _ s t before).trans (add.of_mem_reluctantWays ih _ _ t s' behind)
    | possessive =>
      obtain ⟨t, before, rfl⟩ := List.mem_map.mp listed
      exact (add.of_timesFirst ih _ s t (Option.mem_toList.mp before)).trans (add.possessiveWay ih _ t)

/-! ## Matches of a pattern -/

variable (p : Pattern) (text : Subject)

/-- The ends of all matches at a place, in order. -/
def ends (pos : Nat) : List Nat := (p.node.ways text (.start p.groups pos)).map (·.pos)

/-- The first match among those that a condition takes is the first of all matches that meets it. -/
theorem endWhere?_eq_find? (pos : Nat) (accept : Nat → Bool) :
    p.endWhere? text pos accept = (p.ends text pos).find? accept := by
  have guarded : (fun s : State => if accept s.pos then some s else none) = Option.guard fun s => accept s.pos := by
    funext s
    simp [Option.guard]
  rw [endWhere?, ends, Node.run_eq_findSome?, guarded, List.findSome?_guard, List.find?_map]
  rfl

variable {p text}

/-- No match ends before its place, nor beyond the end of the text. -/
theorem bounds_of_mem_ends {pos last : Nat} (listed : last ∈ p.ends text pos) :
    pos ≤ last ∧ (last = pos ∨ last ≤ text.size) := by
  obtain ⟨s, way, rfl⟩ := List.mem_map.mp listed
  exact p.node.goesOn_of_mem_ways _ s way

end TextClassifier.Pattern
