import TextClassifier.Attempt
import TextClassifier.Pattern.Reader
import TextClassifier.Proofs.Renumbering

/-!
# Reading a part like a whole

A reader that meets a pattern in a new first group goes on as it does without the group (`Follows`), unless
something is asked for by a number. Settings for the whole pattern are refused, since they do not stand at the
beginning any more. The group's closing parenthesis stands behind all other tokens, and all groups have other
numbers (`Progress.inGroup`).
-/
namespace TextClassifier.Pattern.Reader

variable {α β γ δ : Type} {out : Bool} {p q : Progress} {φ : α → β} {ψ : γ → δ}

/-! ## Texts -/

theorem tokens?_cons {c : Char} (plain : c ≠ '\\') (cs : List Char) :
    tokens? (c :: cs) = (tokens? cs).map (⟨false, c⟩ :: ·) := by
  cases cs <;> simp [tokens?, plain]

/-- A character that neither escapes another one nor ends the text as a backslash is none. -/
theorem ne_backslash {c : Char} {cs : List Char} (paired : ∀ d rest, c = '\\' → cs = d :: rest → False)
    (single : c = '\\' → cs = [] → False) : c ≠ '\\' := by
  rintro rfl
  cases cs with
  | nil => exact single rfl rfl
  | cons d rest => exact paired d rest rfl rfl

/-! ## Progress -/

/-- The closing parenthesis of the new group. -/
def closing : Token := ⟨false, ')'⟩

namespace Progress

/-- The same progress behind a new first group. -/
def inGroup (p : Progress) : Progress where
  left := p.left ++ [closing]
  groups := none :: p.groups
  names := p.names.map fun (name, index) => (name, later index)
  behindFrom := p.behindFrom.map later
  asked := p.asked
  overall := p.overall

theorem left_inGroup (p : Progress) : p.inGroup.left = p.left ++ [closing] := rfl

theorem names_inGroup (p : Progress) :
    p.inGroup.names = p.names.map fun (name, index) => (name, later index) := rfl

theorem behindFrom_inGroup (p : Progress) : p.inGroup.behindFrom = p.behindFrom.map later := rfl

/-- Zero is no group's number. -/
def Rooted (p : Progress) : Prop := ∃ groups, p.groups = none :: groups

/-- What every reader does to its progress. -/
structure Leads (p q : Progress) : Prop where
  rooted : q.Rooted
  asked : q.asked = [] → p.asked = []
  overall : q.overall = none → p.overall = none
  spent : p.left = [] → q.left = []

theorem Leads.refl (rooted : p.Rooted) : p.Leads p := ⟨rooted, id, id, id⟩

theorem Leads.trans {t : Progress} (first : p.Leads q) (second : q.Leads t) : p.Leads t where
  rooted := second.rooted
  asked unasked := first.asked (second.asked unasked)
  overall unset := first.overall (second.overall unset)
  spent spent := second.spent (first.spent spent)

/-- Readers that only take tokens away. -/
theorem Leads.taken (rooted : p.Rooted) {left : List Token} (spent : p.left = [] → left = []) :
    p.Leads { p with left } := ⟨rooted, id, id, spent⟩

theorem widthOf_inGroup (rooted : p.Rooted) (index : Nat) :
    widthOf p.inGroup.groups (later index) = widthOf p.groups index := by
  obtain ⟨groups, same⟩ := rooted
  cases index with
  | zero => simp [widthOf, inGroup, same]
  | succ index => simp [widthOf, inGroup]

theorem head?_inGroup_nil (ended : p.left = []) : p.inGroup.left.head? = some closing := by
  simp [inGroup, ended]

theorem head?_inGroup_cons {t : Token} {rest : List Token} (left : p.left = t :: rest) :
    p.inGroup.left.head? = some t := by
  simp [inGroup, left]

/-- The progress behind the next token. -/
def tail (p : Progress) : Progress := { p with left := p.left.tail }

theorem Leads.tail (rooted : p.Rooted) : p.Leads p.tail := .taken rooted fun spent => by rw [spent]; rfl

theorem tail_inGroup {t : Token} {rest : List Token} (left : p.left = t :: rest) :
    p.inGroup.tail = p.tail.inGroup := by
  simp [inGroup, tail, left]

end Progress

open Progress

theorem bind_run_ok {r : Read α} {f : α → Read γ} {y : γ} :
    (r >>= f).run p = .ok (y, q) ↔ ∃ x t, r.run p = .ok (x, t) ∧ (f x).run t = .ok (y, q) := by
  rw [StateT.run_bind, bind_ok_iff]
  simp only [Prod.exists]

/-- A reader does what every reader does. -/
def Goes (r : Read α) : Prop := ∀ ⦃p x q⦄, p.Rooted → r.run p = .ok (x, q) → p.Leads q

/-- A reader that takes a token or refuses. -/
def Closed (r : Read α) : Prop := ∀ ⦃p x q⦄, p.Rooted → r.run p = .ok (x, q) → p.left ≠ []

/-- How a reader in a new first group ends where another one, which is in none, ends with a result. -/
def outcome (φ : α → β) (x : α) (q : Progress) : Except Defect (β × Progress) :=
  if q.overall = none then .ok (φ x, q.inGroup) else .error .malformed

theorem outcome_unset (unset : q.overall = none) (x : α) : outcome φ x q = .ok (φ x, q.inGroup) := if_pos unset

theorem outcome_set (made : q.overall ≠ none) (x : α) : outcome φ x q = .error .malformed := if_neg made

/-- A second reader, which is in a new first group, follows a first one, which is not. Where the first one has a
result, so does the second one, and it is the same in the group, or settings have been made for the whole pattern
and are refused there. Nothing is said where a group is asked for by its number, nor, for a reader that may run out
of tokens, about running out of them. -/
structure Follows (out : Bool) (φ : α → β) (r : Read α) (r' : Read β) : Prop where
  goes : Goes r
  inGroup : ∀ ⦃p x q⦄, p.Rooted → p.overall = none → r.run p = .ok (x, q) → q.asked = [] →
    (out = true → q.left ≠ []) → r'.run p.inGroup = outcome φ x q

theorem Goes.bind {r : Read α} {f : α → Read γ} (first : Goes r) (rest : ∀ x, Goes (f x)) : Goes (r >>= f) := by
  intro p y q rooted ran
  obtain ⟨x, t, begun, ended⟩ := bind_run_ok.mp ran
  have leads := first rooted begun
  exact leads.trans (rest x leads.rooted ended)

theorem Closed.bind {r : Read α} {f : α → Read γ} (goes : Goes r) (closed : ∀ x, Closed (f x)) : Closed (r >>= f) := by
  intro p y q rooted ran spent
  obtain ⟨x, t, begun, ended⟩ := bind_run_ok.mp ran
  have leads := goes rooted begun
  exact closed x leads.rooted ended (leads.spent spent)

namespace Follows
variable {r : Read α} {r' : Read β} {f : α → Read γ} {f' : β → Read δ}

theorem refuse (φ : α → β) (r' : Read β) : Follows out φ Reader.refuse r' where
  goes _ _ _ _ ran := nomatch ran
  inGroup _ _ _ _ _ ran := nomatch ran

theorem goes_pure (x : α) : Goes (Pure.pure x : Read α) := by
  intro p y q rooted ran
  cases ran
  exact .refl rooted

/-- A reader that makes no settings for the whole pattern and asks for no group. -/
theorem of_unset (goes : Goes r) (kept : ∀ {p x q}, r.run p = .ok (x, q) → q.overall = p.overall)
    (inGroup : ∀ {p x q}, p.Rooted → r.run p = .ok (x, q) → r'.run p.inGroup = .ok (φ x, q.inGroup)) :
    Follows out φ r r' where
  goes := goes
  inGroup p x q rooted unset ran _ _ := by
    rw [outcome_unset ((kept ran).trans unset), inGroup rooted ran]

theorem refuse_bind (φ : α → β) (f : γ → Read α) (r' : Read β) : Follows out φ (Reader.refuse >>= f) r' where
  goes _ _ _ _ ran := nomatch ran
  inGroup _ _ _ _ _ ran := nomatch ran

theorem pure (φ : α → β) (x : α) : Follows out φ (Pure.pure x) (Pure.pure (φ x)) := by
  refine of_unset (goes_pure x) ?_ ?_
  · rintro p y q ⟨⟩
    rfl
  · rintro p y q _ ⟨⟩
    rfl

theorem weaken (follows : Follows false φ r r') : Follows out φ r r' where
  goes := follows.goes
  inGroup _ _ _ rooted unset ran unasked _ := follows.inGroup rooted unset ran unasked nofun

/-- Where settings have been made already, the rest does not matter. -/
theorem outcome_bind {x : α} {y : γ} {t : Progress} (leads : t.Leads q)
    (rest : t.overall = none → (f' (φ x)).run t.inGroup = outcome ψ y q) (first : r'.run p.inGroup = outcome φ x t) :
    (r' >>= f').run p.inGroup = outcome ψ y q := by
  rw [StateT.run_bind, first]
  by_cases unset : t.overall = none
  · rw [outcome_unset unset]
    exact rest unset
  · rw [outcome_set unset, outcome_set (mt leads.overall unset)]
    rfl

/-- A reader and a second one that goes on with its result, where something is known about results. -/
theorem bind_of (holds : α → Prop) (first : Follows out φ r r')
    (known : ∀ {p x q}, p.Rooted → r.run p = .ok (x, q) → holds x)
    (rest : ∀ x, holds x → Follows out ψ (f x) (f' (φ x))) : Follows out ψ (r >>= f) (r' >>= f') where
  goes _ _ _ rooted ran := by
    obtain ⟨x, t, begun, ended⟩ := bind_run_ok.mp ran
    have leads := first.goes rooted begun
    exact leads.trans ((rest x (known rooted begun)).goes leads.rooted ended)
  inGroup _ _ _ rooted unset ran unasked unspent := by
    obtain ⟨x, t, begun, ended⟩ := bind_run_ok.mp ran
    have leads := first.goes rooted begun
    have further := rest x (known rooted begun)
    have later := further.goes leads.rooted ended
    refine outcome_bind later (fun still => further.inGroup leads.rooted still ended unasked unspent) ?_
    exact first.inGroup rooted unset begun (later.asked unasked) fun may spent => unspent may (later.spent spent)

theorem bind (first : Follows out φ r r') (rest : ∀ x, Follows out ψ (f x) (f' (φ x))) :
    Follows out ψ (r >>= f) (r' >>= f') :=
  bind_of (fun _ => True) first (fun _ _ => trivial) fun x _ => rest x

theorem andThen {f' : α → Read δ} {r' : Read α} (first : Follows out id r r')
    (rest : ∀ x, Follows out ψ (f x) (f' x)) : Follows out ψ (r >>= f) (r' >>= f') :=
  first.bind rest

theorem ite {condition : Prop} [Decidable condition] {s : Read α} {s' : Read β} (first : Follows out φ r r')
    (second : Follows out φ s s') : Follows out φ (if condition then r else s) (if condition then r' else s') := by
  split
  · exact first
  · exact second

/-- What comes behind a reader that may run out of tokens asks for one. -/
theorem bind_closed (first : Follows out φ r r') (closed : ∀ x, Closed (f x))
    (rest : ∀ x, Follows false ψ (f x) (f' (φ x))) : Follows false ψ (r >>= f) (r' >>= f') where
  goes := first.goes.bind fun x => (rest x).goes
  inGroup _ _ _ rooted unset ran unasked _ := by
    obtain ⟨x, t, begun, ended⟩ := bind_run_ok.mp ran
    have leads := first.goes rooted begun
    have later := (rest x).goes leads.rooted ended
    refine outcome_bind later (fun still => (rest x).inGroup leads.rooted still ended unasked nofun) ?_
    exact first.inGroup rooted unset begun (later.asked unasked) fun _ => closed x leads.rooted ended

theorem get {f : Progress → Read γ} {f' : Progress → Read δ}
    (rest : ∀ p, p.Rooted → Follows out ψ (f p) (f' p.inGroup)) :
    Follows out ψ (MonadStateOf.get >>= f) (MonadStateOf.get >>= f') where
  goes p _ _ rooted ran := by
    obtain ⟨_, _, ⟨⟩, ended⟩ := bind_run_ok.mp ran
    exact (rest p rooted).goes rooted ended
  inGroup p _ _ rooted unset ran unasked unspent := by
    obtain ⟨_, _, ⟨⟩, ended⟩ := bind_run_ok.mp ran
    exact (rest p rooted).inGroup rooted unset ended unasked unspent

/-! ## Tokens -/

/-- A look at the next token, which is taken away then or is not. -/
theorem peek_bind {f : Option Token → Read γ} {f' : Option Token → Read δ}
    (ended : Follows out ψ (f none) (f' (some closing)))
    (here : ∀ t, Follows out ψ (f (some t)) (f' (some t)) ∨ ∃ g g', f (some t) = (skip >>= fun _ => g) ∧
      f' (some t) = (skip >>= fun _ => g') ∧ Follows out ψ g g') :
    Follows out ψ (peek >>= f) (peek >>= f') where
  goes p y q rooted ran := by
    obtain ⟨_, _, ⟨⟩, ran⟩ := bind_run_ok.mp ran
    cases left : p.left with
    | nil =>
      rw [left] at ran
      exact ended.goes rooted ran
    | cons t rest =>
      rw [left] at ran
      rcases here t with stays | ⟨g, g', skips, -, onward⟩
      · exact stays.goes rooted ran
      · rw [List.head?_cons, skips] at ran
        obtain ⟨_, _, ⟨⟩, ran⟩ := bind_run_ok.mp ran
        have taken := Leads.tail rooted
        exact taken.trans (onward.goes taken.rooted ran)
  inGroup p y q rooted unset ran unasked unspent := by
    obtain ⟨_, _, ⟨⟩, ran⟩ := bind_run_ok.mp ran
    show (f' p.inGroup.left.head?).run p.inGroup = _
    cases left : p.left with
    | nil =>
      rw [left] at ran
      rw [head?_inGroup_nil left]
      exact ended.inGroup rooted unset ran unasked unspent
    | cons t rest =>
      rw [left] at ran
      rw [head?_inGroup_cons left]
      rcases here t with stays | ⟨g, g', skips, skips', onward⟩
      · exact stays.inGroup rooted unset ran unasked unspent
      · rw [List.head?_cons, skips] at ran
        obtain ⟨_, _, ⟨⟩, ran⟩ := bind_run_ok.mp ran
        rw [skips']
        show g'.run p.inGroup.tail = _
        rw [tail_inGroup left]
        exact onward.inGroup rooted unset ran unasked unspent

/-- The next token must be there. -/
theorem next_bind {f : Option Token → Read γ} {f' : Option Token → Read δ} (ended : f none = Reader.refuse)
    (here : ∀ t, Follows out ψ (f (some t)) (f' (some t))) : Follows out ψ (next >>= f) (next >>= f') := by
  have unfolded : ∀ {ε : Type} (k : Option Token → Read ε), (next >>= k) = peek >>= fun t => skip >>= fun _ => k t := by
    intro ε k
    rfl
  rw [unfolded, unfolded]
  refine peek_bind ?_ fun t => .inr ⟨_, _, rfl, rfl, here t⟩
  rw [ended]
  constructor
  · intro _ _ _ _ ran
    cases ran
  · intro _ _ _ _ _ ran
    cases ran

/-- A reader that only takes tokens away, and by the tokens in front decides which ones. -/
theorem of_tokens {r : Read α} (taken? : List Token → Option (α × List Token))
    (runs : ∀ p, r.run p = match taken? p.left with
      | some (x, left) => .ok (x, { p with left })
      | none => .error .malformed)
    (spent : ∀ x left, taken? [] = some (x, left) → left = [])
    (more : ∀ x tokens left, taken? tokens = some (x, left) → taken? (tokens ++ [closing]) = some (x, left ++ [closing])) :
    Follows out id r r := by
  have found : ∀ {p x q}, r.run p = .ok (x, q) → ∃ left, taken? p.left = some (x, left) ∧ q = { p with left } := by
    intro p x q ran
    rw [runs] at ran
    split at ran
    · rename_i y left found
      cases ran
      exact ⟨left, found, rfl⟩
    · cases ran
  refine of_unset ?_ ?_ ?_
  · intro p x q rooted ran
    obtain ⟨left, taken, rfl⟩ := found ran
    refine .taken rooted fun empty => spent x left ?_
    rw [← empty, taken]
  · intro p x q ran
    obtain ⟨left, -, rfl⟩ := found ran
    rfl
  · intro p x q _ ran
    obtain ⟨left, taken, rfl⟩ := found ran
    rw [runs, left_inGroup, more x p.left left taken]
    rfl

theorem run_accept (c : Char) (p : Progress) : (Reader.accept c).run p =
    if p.left.head? = some ⟨false, c⟩ then .ok (true, p.tail) else .ok (false, p) := by
  rw [Reader.accept, StateT.run_bind]
  show (if p.left.head? = some ⟨false, c⟩ then _ else _ : Read Bool).run p = _
  split
  · rfl
  · rfl

/-- A character other than the parenthesis is accepted alike. -/
theorem accept {c : Char} (other : c ≠ ')') : Follows out id (accept c) (accept c) := by
  refine of_tokens (fun tokens => some (if tokens.head? = some ⟨false, c⟩ then (true, tokens.tail) else (false, tokens)))
    (fun p => ?_) ?_ ?_
  · rw [run_accept]
    split
    · rfl
    · rfl
  · rintro x left ⟨⟩
    rfl
  · intro x tokens left found
    cases tokens with
    | nil =>
      cases found
      have differs : closing ≠ ⟨false, c⟩ := fun same => other (congrArg Token.char same).symm
      simp [differs]
    | cons t tokens =>
      by_cases same : t = ⟨false, c⟩
      · subst same
        simp only [List.head?_cons, if_true] at found
        cases found
        simp
      · simp only [List.head?_cons, Option.some.injEq, same, if_false] at found
        cases found
        simp [same]

theorem goes_accept {c : Char} (other : c ≠ ')') : Goes (Reader.accept c) :=
  (accept other : Follows false id _ _).goes

theorem run_expect (c : Char) (p : Progress) : (Reader.expect c).run p =
    if p.left.head? = some ⟨false, c⟩ then .ok ((), p.tail) else .error .malformed := by
  rw [Reader.expect, StateT.run_bind, run_accept]
  split
  · rfl
  · rfl

theorem closed_expect (c : Char) (f : Unit → Read α) : Closed (Reader.expect c >>= f) := by
  intro p y q _ ran spent
  obtain ⟨_, _, begun, -⟩ := bind_run_ok.mp ran
  rw [run_expect, spent] at begun
  cases begun

theorem expect (c : Char) : Follows out id (expect c) (expect c) := by
  refine of_tokens (fun tokens => if tokens.head? = some ⟨false, c⟩ then some ((), tokens.tail) else none)
    (fun p => ?_) ?_ ?_
  · rw [run_expect]
    split
    · rfl
    · rfl
  · rintro x left ⟨⟩
  · intro x tokens left found
    cases tokens with
    | nil => cases found
    | cons t tokens =>
      by_cases same : t = ⟨false, c⟩
      · subst same
        simp only [List.head?_cons, if_true] at found
        cases found
        simp
      · simp only [List.head?_cons, Option.some.injEq, same, if_false] at found
        cases found

/-- The parenthesis ends a run of characters, if it does not pass their test. -/
theorem takeWhile_append_closing {test : Char → Bool} (stops : test ')' = false) (n : Nat) (tokens : List Token) :
    takeWhile test n (tokens ++ [closing]) =
      ((takeWhile test n tokens).1, (takeWhile test n tokens).2 ++ [closing]) := by
  induction tokens generalizing n with
  | nil => cases n <;> simp [takeWhile, closing, stops]
  | cons t tokens ih =>
    cases n with
    | zero => rfl
    | succ n =>
      rw [List.cons_append, takeWhile, takeWhile]
      split
      · rw [ih]
      · rfl

theorem readWhile (n : Nat) {test : Char → Bool} (stops : test ')' = false) :
    Follows out id (readWhile n test) (readWhile n test) := by
  refine of_tokens (fun tokens => some (takeWhile test n tokens)) (fun p => rfl) ?_ ?_
  · rintro x left found
    cases n <;> cases found <;> rfl
  · intro x tokens left found
    rw [takeWhile_append_closing stops, Option.some.inj found]

/-- What comes behind the stop plays no part. -/
theorem untilChar_append {stop : Char} {more : List Token} : ∀ {tokens rest : List Token} {cs : List Char},
    untilChar stop tokens = some (cs, rest) → untilChar stop (tokens ++ more) = some (cs, rest ++ more) := by
  intro tokens
  induction tokens with
  | nil => exact fun found => nomatch found
  | cons t tokens ih =>
    intro rest cs found
    rw [untilChar] at found
    rw [List.cons_append, untilChar]
    split at found
    · cases found
      rw [if_pos ‹_›]
    · rename_i other
      obtain ⟨⟨cs, rest⟩, inner, same⟩ := Option.map_eq_some_iff.mp found
      cases same
      rw [if_neg other, ih inner]
      rfl

theorem readName (stop : Char) : Follows out id (readName stop) (readName stop) := by
  refine of_tokens (fun tokens => (untilChar stop tokens).filter fun found => found.1 ≠ []) (fun p => ?_) ?_ ?_
  · rw [Reader.readName, StateT.run_bind, StateT.run_get, pure_bind]
    rcases untilChar stop p.left with _ | ⟨_ | ⟨c, cs⟩, rest⟩
    · rfl
    · rfl
    · rfl
  · intro x left found
    cases found
  · intro x tokens left found
    obtain ⟨found, filled⟩ := Option.filter_eq_some_iff.mp found
    exact Option.filter_eq_some_iff.mpr ⟨untilChar_append found, filled⟩

theorem skipComment : Follows out id skipComment skipComment := by
  refine of_tokens (fun tokens => (untilChar ')' tokens).map fun found => ((), found.2)) (fun p => ?_) ?_ ?_
  · rw [Reader.skipComment, StateT.run_bind, StateT.run_get, pure_bind]
    rcases untilChar ')' p.left with _ | ⟨cs, rest⟩
    · rfl
    · rfl
  · intro x left found
    cases found
  · intro x tokens left found
    obtain ⟨⟨cs, rest⟩, there, same⟩ := Option.map_eq_some_iff.mp found
    cases same
    rw [untilChar_append there]
    rfl

theorem switches_append_closing (tokens : List Token) :
    switches (tokens ++ [closing]) = ((switches tokens).1, (switches tokens).2 ++ [closing]) := by
  induction tokens with
  | nil => rfl
  | cons t tokens ih =>
    rw [List.cons_append, switches, switches]
    split
    · rw [ih]
    · rfl

theorem readSwitches : Follows out id readSwitches readSwitches := by
  refine of_tokens (fun tokens => some (switches tokens)) (fun p => rfl) ?_ ?_
  · rintro x left ⟨⟩
    rfl
  · intro x tokens left found
    rw [switches_append_closing, Option.some.inj found]

/-! ## Characters and sets -/

theorem readHex (n : Nat) : Follows out id (readHex n) (readHex n) := by
  refine (readWhile n (by decide)).andThen fun digits => ?_
  exact ite (.pure id _) (refuse id _)

theorem readCharacterName : Follows out id readCharacterName readCharacterName := by
  refine (expect _).andThen fun _ => (readName _).andThen fun name => ?_
  split
  · exact .pure id _
  · exact refuse id _

theorem readCode? (c : Char) : Follows out id (readCode? c) (readCode? c) := by
  unfold Reader.readCode?
  split
  · exact (readHex 2).andThen fun code => .pure id _
  · exact (readHex 4).andThen fun code => .pure id _
  · exact (readHex 8).andThen fun code => .pure id _
  · exact readCharacterName.andThen fun code => .pure id _
  · exact .pure id _

theorem readSetEscape (f : Settings) (c : Char) : Follows out id (readSetEscape f c) (readSetEscape f c) := by
  unfold Reader.readSetEscape
  split
  · exact .pure id _
  refine (readCode? c).andThen fun code => ?_
  split
  · exact .pure id _
  refine ite (.pure id _) ?_
  refine ite ?_ ?_
  · refine (readWhile 2 (by decide)).andThen fun digits => ?_
    exact ite (refuse id _) (.pure id _)
  · exact ite (refuse id _) (.pure id _)

theorem readSetMember (f : Settings) (t : Token) : Follows out id (readSetMember f t) (readSetMember f t) :=
  ite (readSetEscape f t.char) (.pure id _)

theorem readSetItems (f : Settings) {fuel more : Nat} (enough : fuel ≤ more) (items : List SetItem) :
    Follows out id (readSetItems f fuel items) (readSetItems f more items) := by
  induction fuel generalizing more items with
  | zero => exact refuse id _
  | succ fuel ih =>
    obtain ⟨more, rfl⟩ : ∃ n, more = n + 1 := ⟨more - 1, by omega⟩
    have again := fun items => ih (Nat.le_of_succ_le_succ enough) items
    rw [Reader.readSetItems, Reader.readSetItems]
    refine next_bind rfl fun t => ?_
    dsimp only
    refine ite (.pure id _) ?_
    refine (readSetMember f t).andThen fun low => ?_
    refine (accept (by decide)).andThen fun ranged => ?_
    refine ite ?_ (again _)
    refine next_bind rfl fun t => ?_
    dsimp only
    refine ite (.pure id _) ?_
    refine (readSetMember f t).andThen fun high => ?_
    split
    · exact ite (refuse id _) (again _)
    · exact refuse id _

theorem readSet (f : Settings) : Follows out Node.renumber (readSet f) (readSet f) := by
  refine (accept (by decide)).andThen fun negated => get fun p _ => ?_
  refine (readSetItems f ?_ []).andThen fun items => .pure Node.renumber _
  simp [Progress.inGroup]

end Follows

end TextClassifier.Pattern.Reader
