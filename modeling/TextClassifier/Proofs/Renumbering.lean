import TextClassifier.Proofs.MatchOrder

/-!
# Groups with other numbers

A part of a pattern that stands in a new first group has its own groups numbered one further on
(`Node.renumber`). It matches in the same ways, only that there is one group more to look at
(`Node.ways_forget`), so the new group around it changes no match (`spans_inGroup`).
-/
namespace TextClassifier.Pattern

/-- The number of a group behind a new first one. Zero, the number of the whole match, stays. -/
def later (index : Nat) : Nat := if index = 0 then 0 else index + 1

@[simp] theorem later_zero : later 0 = 0 := rfl

@[simp] theorem later_succ (n : Nat) : later (n + 1) = n + 2 := rfl

/-- A part of a pattern behind a new first group. -/
def Node.renumber : Node → Node
  | .empty => .empty
  | .set s => .set s
  | .seq a b => .seq a.renumber b.renumber
  | .alt a b => .alt a.renumber b.renumber
  | .group index body => .group (later index) body.renumber
  | .scoped body => .scoped body.renumber
  | .backref index folding => .backref (later index) folding
  | .given index a b => .given (later index) a.renumber b.renumber
  | .anchor place => .anchor place
  | .ahead negated body => .ahead negated body.renumber
  | .behind negated width body => .behind negated width body.renumber
  | .atomic body => .atomic body.renumber
  | .repeated manner least most body => .repeated manner least most body.renumber

theorem Node.width_renumber {groups wider : Nat → Option Width} (same : ∀ index, wider (later index) = groups index)
    (node : Node) : node.renumber.width wider = node.width groups := by
  induction node with
  | seq a b first second => rw [renumber, width, width, first, second]
  | alt a b first second => rw [renumber, width, width, first, second]
  | group index body ih => exact ih
  | «scoped» body ih => exact ih
  | backref index folding => rw [renumber, width, width, same]
  | given index a b first second => rw [renumber, width, width, first, second]
  | atomic body ih => exact ih
  | repeated manner least most body ih => cases most <;> rw [renumber, width, width, ih]
  | _ => rfl

theorem Node.fixedBehind_renumber (node : Node) : node.renumber.fixedBehind = node.fixedBehind := by
  induction node with
  | seq a b first second => rw [renumber, fixedBehind, fixedBehind, first, second]
  | alt a b first second => rw [renumber, fixedBehind, fixedBehind, first, second]
  | group index body ih => exact ih
  | «scoped» body ih => exact ih
  | given index a b first second => rw [renumber, fixedBehind, fixedBehind, first, second]
  | ahead negated body ih => exact ih
  | behind negated width body ih => rw [renumber, fixedBehind, fixedBehind, ih]
  | atomic body ih => exact ih
  | repeated manner least most body ih => exact ih
  | _ => rfl

/-! ## States without the new group -/

/-- What groups have captured, without the first group. -/
def forget {α : Type} (captures : Array α) : Array α := (captures.toList.eraseIdx 1).toArray

theorem getElem?_forget {α : Type} (captures : Array α) (i : Nat) : (forget captures)[i]? = captures[later i]? := by
  rw [forget, List.getElem?_toArray, List.getElem?_eraseIdx]
  cases i with
  | zero => simp
  | succ i => simp

theorem forget_setIfInBounds {α : Type} (captures : Array α) (i : Nat) (x : α) :
    forget (captures.setIfInBounds (later i) x) = (forget captures).setIfInBounds i x := by
  obtain ⟨list⟩ := captures
  simp only [forget, List.setIfInBounds_toArray]
  match list, i with
  | [], _ => rfl
  | [_], 0 => rfl
  | [_], _ + 1 => rfl
  | _ :: _ :: _, 0 => rfl
  | _ :: _ :: _, _ + 1 => rfl

theorem forget_setIfInBounds_one {α : Type} (captures : Array α) (x : α) :
    forget (captures.setIfInBounds 1 x) = forget captures := by
  obtain ⟨list⟩ := captures
  simp only [forget, List.setIfInBounds_toArray]
  match list with
  | [] => rfl
  | [_] => rfl
  | _ :: _ :: _ => rfl

namespace State

/-- A state as it is without the first group. -/
def forget (s : State) : State := ⟨s.pos, Pattern.forget s.starts, Pattern.forget s.ends⟩

variable (s : State)

@[simp] theorem pos_forget : s.forget.pos = s.pos := rfl

@[simp] theorem forget_advance (n : Nat) : (s.advance n).forget = s.forget.advance n := rfl

@[simp] theorem forget_openGroup (index : Nat) : (s.openGroup (later index)).forget = s.forget.openGroup index := by
  simp [forget, openGroup, forget_setIfInBounds]

@[simp] theorem forget_closeGroup (index : Nat) : (s.closeGroup (later index)).forget = s.forget.closeGroup index := by
  simp [forget, closeGroup, forget_setIfInBounds]

@[simp] theorem captured?_forget (index : Nat) : s.forget.captured? index = s.captured? (later index) := by
  simp only [captured?, forget, getElem?_forget]

theorem forget_openFirst : (s.openGroup 1).forget = s.forget := by
  simp [forget, openGroup, forget_setIfInBounds_one]

theorem forget_start (groups pos : Nat) : (start (groups + 1) pos).forget = start groups pos := by
  simp only [forget, start, Pattern.forget, Array.toList_replicate, List.replicate_succ, List.eraseIdx_cons_succ,
    List.eraseIdx_cons_zero]
  rfl

end State

/-! ## Ways of matching -/

/-- Ways that go from state to state as others do without the first group. -/
def Ways.Forgets (ways others : Ways) : Prop := ∀ s : State, (ways s).map State.forget = others s.forget

namespace Ways.Forgets
variable {body other : Ways}

theorem flatMap (forgets : body.Forgets other) (states : List State) :
    (states.flatMap body).map State.forget = (states.map State.forget).flatMap other := by
  rw [List.map_flatMap, List.flatMap_map]
  exact congrArg (List.flatMap · states) (funext forgets)

theorem head? (forgets : body.Forgets other) (s : State) :
    (body s).head?.map State.forget = (other s.forget).head? := by
  rw [← forgets, List.head?_map]

theorem timesWays (forgets : body.Forgets other) (n : Nat) :
    Forgets (Pattern.timesWays body n) (Pattern.timesWays other n) := by
  induction n with
  | zero => exact fun s => rfl
  | succ n ih =>
    intro s
    rw [Pattern.timesWays, Pattern.timesWays, flatMap ih, forgets]

theorem greedyWays (forgets : body.Forgets other) (n : Nat) :
    ∀ last, Forgets (Pattern.greedyWays body n last) (Pattern.greedyWays other n last) := by
  induction n with
  | zero => exact fun last s => rfl
  | succ n ih =>
    intro last s
    rw [Pattern.greedyWays, Pattern.greedyWays]
    by_cases stuck : last = some s.pos
    · simp [stuck]
    · rw [if_neg stuck, State.pos_forget, if_neg stuck, List.map_append, flatMap (ih _), forgets]
      rfl

theorem reluctantWays (forgets : body.Forgets other) (n : Nat) :
    ∀ last, Forgets (Pattern.reluctantWays body n last) (Pattern.reluctantWays other n last) := by
  induction n with
  | zero => exact fun last s => rfl
  | succ n ih =>
    intro last s
    rw [Pattern.reluctantWays, Pattern.reluctantWays, List.map_cons]
    by_cases stuck : last = some s.pos
    · simp [stuck]
    · rw [if_neg stuck, State.pos_forget, if_neg stuck, flatMap (ih _), forgets]

/-- The one way of a possessive repetition forgets the first group, if its body does. -/
theorem possessiveWay (forgets : body.Forgets other) (n : Nat) :
    ∀ s, (Pattern.possessiveWay body n s).forget = Pattern.possessiveWay other n s.forget := by
  induction n with
  | zero => exact fun s => rfl
  | succ n ih =>
    intro s
    rw [Pattern.possessiveWay, Pattern.possessiveWay, ← forgets.head?]
    cases (body s).head? with
    | none => rfl
    | some t =>
      rw [Option.map_some]
      by_cases stuck : t.pos = s.pos
      · have same : t.forget.pos = s.forget.pos := stuck
        simp only [if_pos stuck, if_pos same]
      · have other : t.forget.pos ≠ s.forget.pos := stuck
        simp only [if_neg stuck, if_neg other, ih]

theorem timesFirst (forgets : body.Forgets other) (n : Nat) :
    ∀ s, (Pattern.timesFirst body n s).map State.forget = Pattern.timesFirst other n s.forget := by
  induction n with
  | zero => exact fun s => rfl
  | succ n ih =>
    intro s
    rw [Pattern.timesFirst, Pattern.timesFirst, ← forgets.head?]
    cases (body s).head? with
    | none => rfl
    | some t => exact ih t

end Ways.Forgets

theorem map_asserted (negated : Bool) (s : State) (found : Option State) :
    (asserted negated s found).map State.forget = asserted negated s.forget (found.map State.forget) := by
  cases found <;> cases negated <;> rfl

/-- A part behind a new first group matches as it does without one. -/
theorem Node.ways_forget {text : Subject} (node : Node) :
    Ways.Forgets (node.renumber.ways text) (node.ways text) := by
  induction node with
  | empty => exact fun s => rfl
  | set chars =>
    intro s
    rw [renumber, ways, ways, State.pos_forget]
    cases text[s.pos]? with
    | none => rfl
    | some c =>
      by_cases held : chars.contains c = true
      · simp [held]
      · simp [held]
  | seq a b first second =>
    intro s
    rw [renumber, ways, ways, Ways.Forgets.flatMap second, first]
  | alt a b first second =>
    intro s
    rw [renumber, ways, ways, List.map_append, first, second]
  | group index body ih =>
    intro s
    rw [renumber, ways, ways, ← State.forget_openGroup, ← ih, List.map_map, List.map_map]
    exact List.map_congr_left fun t _ => State.forget_closeGroup t index
  | «scoped» body ih => exact ih
  | backref index folding =>
    intro s
    rw [renumber, ways, ways, State.captured?_forget, State.pos_forget]
    cases s.captured? (later index) with
    | none => rfl
    | some bounds =>
      by_cases same : agrees text folding bounds.1 s.pos (bounds.2 - bounds.1) = true
      · simp [same]
      · simp [same]
  | given index a b first second =>
    intro s
    rw [renumber, ways, ways, State.captured?_forget, apply_ite (List.map State.forget), first, second]
  | anchor place =>
    intro s
    rw [renumber, ways, ways, State.pos_forget]
    split
    · rfl
    · rfl
  | ahead negated body ih =>
    intro s
    rw [renumber, ways, ways, map_asserted, Ways.Forgets.head? ih]
  | behind negated width body ih =>
    intro s
    rw [renumber, ways, ways, State.pos_forget]
    by_cases early : s.pos < width.least
    · rw [if_pos early, if_pos early, map_asserted]
      rfl
    · rw [if_neg early, if_neg early, map_asserted, Ways.Forgets.head? ih]
      rfl
  | atomic body ih =>
    intro s
    rw [renumber, ways, ways, ← Ways.Forgets.head? ih, Option.toList_map]
  | repeated manner least most body ih =>
    intro s
    have forgets : Ways.Forgets (fun s => body.renumber.ways text s) (fun s => body.ways text s) := ih
    cases manner with
    | greedy =>
      have rest : Ways.Forgets
          (fun s => greedyWays (fun s => body.renumber.ways text s) (rounds text least most s.pos) none s)
          (fun s => greedyWays (fun s => body.ways text s) (rounds text least most s.pos) none s) :=
        fun s => forgets.greedyWays _ none s
      rw [renumber, ways, ways, rest.flatMap, forgets.timesWays]
    | reluctant =>
      have rest : Ways.Forgets
          (fun s => reluctantWays (fun s => body.renumber.ways text s) (rounds text least most s.pos) none s)
          (fun s => reluctantWays (fun s => body.ways text s) (rounds text least most s.pos) none s) :=
        fun s => forgets.reluctantWays _ none s
      rw [renumber, ways, ways, rest.flatMap, forgets.timesWays]
    | possessive =>
      rw [renumber, ways, ways, ← forgets.timesFirst]
      cases timesFirst (fun s => body.renumber.ways text s) least s with
      | none => rfl
      | some t => simp [forgets.possessiveWay]

/-! ## What a search looks for -/

@[simp] theorem Node.isBlank_renumber (node : Node) : node.renumber.isBlank = node.isBlank := by
  induction node with
  | seq a b first second => rw [renumber, isBlank, isBlank, first, second]
  | _ => rfl

@[simp] theorem Node.merged?_renumber (node : Node) : node.renumber.merged? = node.merged? := by
  induction node with
  | seq a b first second => rw [renumber, merged?, merged?, isBlank_renumber, isBlank_renumber, first, second]
  | alt a b first second => rw [renumber, merged?, merged?, first, second]
  | _ => rfl

@[simp] theorem Node.first?_renumber (node : Node) : node.renumber.first? = node.first? := by
  induction node with
  | seq a b first second => rw [renumber, first?, first?, isBlank_renumber, first, second]
  | alt a b first second =>
    have merged := merged?_renumber (.alt a b)
    rw [renumber] at merged
    rw [renumber, first?, first?, merged, first, second]
  | _ => rfl

theorem Node.beginning?_renumber (node : Node) : node.renumber.beginning? = node.beginning? := by
  induction node with
  | group index body ih => exact ih
  | «scoped» body ih => exact ih
  | seq a b first second => rw [renumber, beginning?, beginning?, isBlank_renumber, first, second]
  | alt a b => exact first?_renumber (.alt a b)
  | _ => rfl

/-! ## Searches -/

/-- A pattern with a group around it. -/
def inGroup (p : Pattern) : Pattern := ⟨.group 1 p.node.renumber, p.groups + 1, p.ascii⟩

variable (p : Pattern) (text : Subject)

theorem ends_inGroup (pos : Nat) : p.inGroup.ends text pos = p.ends text pos := by
  have opened : ((State.start (p.groups + 1) pos).openGroup 1).forget = .start p.groups pos := by
    rw [State.forget_openFirst, State.forget_start]
  rw [ends, ends, ← opened, ← p.node.ways_forget, inGroup, Node.ways, List.map_map, List.map_map]
  rfl

theorem endWhere?_inGroup (pos : Nat) (accept : Nat → Bool) :
    p.inGroup.endWhere? text pos accept = p.endWhere? text pos accept := by
  rw [endWhere?_eq_find?, endWhere?_eq_find?, ends_inGroup]

theorem end?_inGroup (pos : Nat) : p.inGroup.end? text pos = p.end? text pos := by
  have opening : p.inGroup.node.opening? p.inGroup.ascii = p.node.opening? p.ascii := by
    rw [Node.opening?, Node.opening?, inGroup, Node.beginning?, Node.beginning?_renumber]
  rw [end?, end?, mayBegin, mayBegin, opening, endWhere?_inGroup]

/-- A group around a pattern changes none of its matches. -/
theorem spans_inGroup : p.inGroup.spans text = p.spans text := by
  have same : ∀ pos, p.inGroup.spansFrom text pos = p.spansFrom text pos := by
    intro pos
    induction pos using spansFrom.induct p text with
    | case1 pos ended => rw [spansFrom.eq_def, spansFrom.eq_def p, if_pos ended, if_pos ended]
    | case2 pos inside missing ih =>
      rw [spansFrom.eq_def, spansFrom.eq_def p, if_neg inside, if_neg inside, end?_inGroup, missing]
      exact ih
    | case3 pos inside last found filled ih =>
      rw [spansFrom.eq_def, spansFrom.eq_def p, if_neg inside, if_neg inside, end?_inGroup, found]
      simp only [if_pos filled, ih]
    | case4 pos inside last found empty ih skip more =>
      rw [spansFrom.eq_def, spansFrom.eq_def p, if_neg inside, if_neg inside, end?_inGroup, found]
      simp only [if_neg empty, nonemptyEnd?, endWhere?_inGroup, more]
      cases p.endWhere? text pos fun last => last != pos with
      | none => rfl
      | some last =>
        by_cases filled : pos < last
        · simp only [if_pos filled, ih last filled]
        · simp only [if_neg filled]
  exact same 0

end TextClassifier.Pattern
