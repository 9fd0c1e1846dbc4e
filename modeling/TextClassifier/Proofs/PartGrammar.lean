import TextClassifier.Proofs.PartReading

/-!
# The grammar of a part

Every reader of the grammar goes on in a new first group as it does without one (`Follows.all`), by the rules for
readers one behind the other.
-/
namespace TextClassifier.Pattern.Reader

variable {α β γ δ : Type} {out : Bool} {p q : Progress} {φ : α → β} {ψ : γ → δ}

open Progress

/-- The beginning of a group behind a new first group. -/
def Opening.renumber : Opening → Opening
  | .capture name => .capture name
  | .plain => .plain
  | .scoped f => .scoped f
  | .atomic => .atomic
  | .look behind negated => .look behind negated
  | .condition index => .condition (later index)
  | .reference node => .reference node.renumber
  | .comment => .comment
  | .settings on => .settings on

/-- An item behind a new first group. -/
def Item.renumber : Item → Item
  | .part node => .part node.renumber
  | .place anchor => .place anchor
  | .repetition node => .repetition node.renumber

/-- What stands at one place of a sequence behind a new first group. -/
def Piece.renumber : Piece → Piece
  | .items read => .items (read.map Item.renumber)
  | .settings on => .settings on
  | .group opening => .group opening.renumber

namespace Follows

/-! ## References -/

theorem later_le_later {first index : Nat} : later first ≤ later index ↔ first ≤ index := by
  cases first <;> cases index <;> simp [later]

theorem checkBehind (index : Nat) : Follows out id (checkBehind index) (checkBehind (later index)) := by
  refine get fun p rooted => ?_
  rw [widthOf_inGroup rooted, behindFrom_inGroup]
  cases p.behindFrom with
  | none => exact .pure id _
  | some first =>
    simp only [Option.map_some, later_le_later]
    exact ite (refuse id _) (.pure id _)

theorem readReference (f : Settings) (index : Nat) :
    Follows out Node.renumber (readReference f index) (readReference f (later index)) := by
  refine get fun p rooted => ?_
  rw [widthOf_inGroup rooted]
  refine ite ?_ ?_
  · exact refuse_bind Node.renumber _ _
  · exact (checkBehind index).andThen fun _ => .pure Node.renumber _

theorem goes_readReference (f : Settings) (index : Nat) : Goes (Reader.readReference f index) :=
  (readReference f index : Follows false _ _ _).goes

theorem ask_bind (index : Nat) {f : Unit → Read α} (goes : Goes (f ())) (r' : Read β) :
    Follows out φ (ask index >>= f) r' := by
  have leads : ∀ {p x q}, p.Rooted → (ask index >>= f).run p = .ok (x, q) →
      Leads { p with asked := index :: p.asked } q := by
    intro p x q rooted ran
    obtain ⟨_, _, ⟨⟩, ended⟩ := bind_run_ok.mp ran
    exact goes rooted ended
  constructor
  · intro p x q rooted ran
    have behind := leads rooted ran
    exact ⟨behind.rooted, fun unasked => absurd (behind.asked unasked) (List.cons_ne_nil _ _), behind.overall, behind.spent⟩
  · intro p x q rooted _ ran unasked _
    exact absurd ((leads rooted ran).asked unasked) (List.cons_ne_nil _ _)

theorem settings_bind (on : List Switch) {r : Read α} (goes : Goes r) :
    Follows out φ ((modify fun p => { p with overall := some on }) >>= fun _ => r) (Reader.refuse : Read β) := by
  have leads : ∀ {p x q}, p.Rooted → ((modify fun p => { p with overall := some on }) >>= fun _ => r).run p = .ok (x, q) →
      Leads { p with overall := some on } q := by
    intro p x q rooted ran
    obtain ⟨_, _, ⟨⟩, ended⟩ := bind_run_ok.mp ran
    exact goes rooted ended
  constructor
  · intro p x q rooted ran
    have behind := leads rooted ran
    exact ⟨behind.rooted, behind.asked, fun unset => absurd (behind.overall unset) nofun, behind.spent⟩
  · intro p x q rooted _ ran _ _
    rw [outcome_set (fun unset => absurd ((leads rooted ran).overall unset) nofun)]
    rfl

theorem readNumber (f : Settings) (index : Nat) : Follows out Node.renumber (readNumber f index) (readNumber f index) :=
  ask_bind index (goes_readReference f index) _

theorem readNumbered (f : Settings) (c : Char) : Follows out Node.renumber (readNumbered f c) (readNumbered f c) := by
  refine (readWhile 1 (by decide)).andThen fun digits => ?_
  split
  · refine ite ?_ (readNumber f _)
    refine (readWhile 1 (by decide)).andThen fun more => ?_
    split
    · exact ite (refuse Node.renumber _) (.pure Node.renumber _)
    · exact readNumber f _
  · exact readNumber f _

theorem readEscape (f : Settings) (c : Char) : Follows out Node.renumber (readEscape f c) (readEscape f c) := by
  unfold Reader.readEscape
  split
  · exact .pure Node.renumber _
  · exact .pure Node.renumber _
  · exact .pure Node.renumber _
  · exact .pure Node.renumber _
  · exact (readWhile 2 (by decide)).andThen fun digits => .pure Node.renumber _
  · split
    · exact .pure Node.renumber _
    refine (readCode? c).andThen fun code => ?_
    split
    · exact .pure Node.renumber _
    exact ite (readNumbered f c) (ite (refuse Node.renumber _) (.pure Node.renumber _))

theorem lookup_map_later (names : List (List Char × Nat)) (name : List Char) :
    (names.map fun (name, index) => (name, later index)).lookup name = (names.lookup name).map later := by
  induction names with
  | nil => rfl
  | cons e names ih =>
    obtain ⟨key, index⟩ := e
    rw [List.map_cons, List.lookup_cons, List.lookup_cons, ih]
    cases name == key <;> rfl

theorem named (name : List Char) : Follows out later (named name) (named name) := by
  refine ite (refuse_bind later _ _) (get fun p _ => ?_)
  rw [names_inGroup, lookup_map_later]
  cases p.names.lookup name with
  | none => exact refuse later _
  | some index => exact .pure later _

theorem readConditionGroup : Follows out later readConditionGroup readConditionGroup := by
  refine (readName ')').andThen fun name => ite (named name) ?_
  split
  · rename_i n _
    refine ite ?_ (refuse later _)
    exact ask_bind n.toNat (goes_pure n.toNat) _
  · exact refuse later _

/-! ## Groups -/

theorem readSettings (f : Settings) : Follows out Opening.renumber (readSettings f) (readSettings f) := by
  refine readSwitches.andThen fun on => ite (refuse_bind Opening.renumber _ _) (next_bind rfl fun t => ?_)
  dsimp only
  split
  · refine ite (refuse_bind Opening.renumber _ _) (get fun p _ => ?_)
    exact .pure Opening.renumber _
  · exact ite (refuse_bind Opening.renumber _ _) (.pure Opening.renumber _)
  · refine readSwitches.andThen fun off => ite (refuse_bind Opening.renumber _ _) ?_
    refine ite (refuse_bind Opening.renumber _ _) ?_
    exact (expect ':').andThen fun _ => .pure Opening.renumber _
  · exact refuse Opening.renumber _

/-- An opening is read alike inside the new group, with the numbers in it renumbered. -/
theorem readOpening (f : Settings) : Follows out Opening.renumber (readOpening f) (readOpening f) := by
  refine (accept (by decide)).andThen fun marked => ite (.pure Opening.renumber _) ?_
  refine peek_bind (readSettings f) fun t => ?_
  split
  · refine .inr ⟨_, _, rfl, rfl, ?_⟩
    refine (accept (by decide)).andThen fun opens => ite ?_ ?_
    · exact (readName '>').andThen fun name => ite (.pure Opening.renumber _) (refuse Opening.renumber _)
    · refine (accept (by decide)).andThen fun refers => ite ?_ (refuse Opening.renumber _)
      refine (readName ')').andThen fun name => (named name).bind fun index => ?_
      exact (readReference f index).bind fun node => .pure Opening.renumber _
  · exact .inr ⟨_, _, rfl, rfl, .pure Opening.renumber _⟩
  · exact .inr ⟨_, _, rfl, rfl, skipComment.andThen fun _ => .pure Opening.renumber _⟩
  · exact .inr ⟨_, _, rfl, rfl, .pure Opening.renumber _⟩
  · exact .inr ⟨_, _, rfl, rfl, .pure Opening.renumber _⟩
  · refine .inr ⟨_, _, rfl, rfl, next_bind rfl fun t => ?_⟩
    split
    · exact .pure Opening.renumber _
    · exact .pure Opening.renumber _
    · exact refuse Opening.renumber _
  · refine .inr ⟨_, _, rfl, rfl, readConditionGroup.bind fun index => ?_⟩
    exact (checkBehind index).andThen fun _ => .pure Opening.renumber _
  · exact .inr ⟨_, _, rfl, rfl, .pure Opening.renumber _⟩
  · exact .inl (readSettings f)

/-! ## Repetitions -/

theorem length_takeWhile (test : Char → Bool) (tokens : List Token) (n : Nat) (enough : tokens.length ≤ n) :
    takeWhile test n tokens = takeWhile test tokens.length tokens := by
  induction tokens generalizing n with
  | nil => cases n <;> rfl
  | cons t tokens ih =>
    obtain ⟨n, rfl⟩ : ∃ m, n = m + 1 := ⟨n - 1, by simp at enough; omega⟩
    rw [List.length_cons, takeWhile, takeWhile, ih n (Nat.le_of_succ_le_succ enough)]

theorem takeWhile_length_append_closing {test : Char → Bool} (stops : test ')' = false) (tokens : List Token) :
    takeWhile test (tokens ++ [closing]).length (tokens ++ [closing]) =
      ((takeWhile test tokens.length tokens).1, (takeWhile test tokens.length tokens).2 ++ [closing]) := by
  rw [takeWhile_append_closing stops, length_takeWhile test tokens _ (by simp)]

theorem behind?_append_closing {c : Char} (other : c ≠ ')') (tokens : List Token) :
    behind? c (tokens ++ [closing]) = (behind? c tokens).map (· ++ [closing]) := by
  cases tokens with
  | nil =>
    have differs : closing ≠ ⟨false, c⟩ := fun same => other (congrArg Token.char same).symm
    exact if_neg differs
  | cons t tokens =>
    rw [List.cons_append, behind?, behind?]
    split
    · rfl
    · rfl

theorem secondCount_append_closing (low : List Char) (tokens : List Token) :
    secondCount low (tokens ++ [closing]) = ((secondCount low tokens).1, (secondCount low tokens).2 ++ [closing]) := by
  rw [secondCount, secondCount, behind?_append_closing (by decide)]
  cases behind? ',' tokens with
  | none => rfl
  | some rest => exact takeWhile_length_append_closing (by decide) rest

theorem spelledCounts?_append_closing (tokens : List Token) : spelledCounts? (tokens ++ [closing]) =
    (spelledCounts? tokens).map fun (low, high, rest) => (low, high, rest ++ [closing]) := by
  cases tokens with
  | nil => rfl
  | cons t tokens =>
    by_cases empty : (t :: tokens).head? = some ⟨false, '\x7d'⟩
    · have still : (t :: tokens ++ [closing]).head? = some ⟨false, '\x7d'⟩ := empty
      rw [spelledCounts?, spelledCounts?, if_pos empty, if_pos still]
      rfl
    · have still : (t :: tokens ++ [closing]).head? ≠ some ⟨false, '\x7d'⟩ := empty
      rw [spelledCounts?, spelledCounts?, if_neg empty, if_neg still, takeWhile_length_append_closing (by decide)]
      simp only [secondCount_append_closing, behind?_append_closing (show '\x7d' ≠ ')' by decide), Option.map_map]
      rfl

theorem readSpelledCounts : Follows out id readSpelledCounts readSpelledCounts := by
  refine of_tokens (fun tokens => some (((spelledCounts? tokens).map fun (low, high, rest) =>
    (some (low, high), rest)).getD (none, tokens))) (fun p => ?_) ?_ ?_
  · rw [Reader.readSpelledCounts, StateT.run_bind, StateT.run_get, pure_bind]
    rcases spelledCounts? p.left with _ | ⟨low, high, rest⟩
    · rfl
    · rfl
  · rintro x left ⟨⟩
    rfl
  · intro x tokens left found
    rw [spelledCounts?_append_closing]
    cases spelled : spelledCounts? tokens with
    | none =>
      rw [spelled] at found
      cases found
      rfl
    | some counts =>
      rw [spelled] at found
      cases found
      rfl

theorem lift (a : Except Defect α) : Follows out id (liftM a : Read α) (liftM a) := by
  cases a with
  | error e =>
    constructor
    · intro _ _ _ _ ran
      cases ran
    · intro _ _ _ _ _ ran
      cases ran
  | ok x => exact pure id x

theorem readCounts : Follows out id readCounts readCounts := by
  refine readSpelledCounts.andThen fun spelled => ?_
  split
  · exact .pure id _
  · refine (lift _).andThen fun least => (lift _).andThen fun most => ?_
    dsimp only
    split
    · exact ite (refuse_bind id _ _) (.pure id _)
    · exact .pure id _

theorem readRepeat (sign : Char) : Follows out id (readRepeat sign) (readRepeat sign) := by
  unfold Reader.readRepeat
  split
  · exact .pure id _
  · exact .pure id _
  · exact .pure id _
  · exact readCounts

theorem readManner : Follows out id readManner readManner := by
  refine (accept (by decide)).andThen fun reluctant => ite (.pure id _) ?_
  exact (accept (by decide)).andThen fun possessive => ite (.pure id _) (.pure id _)

theorem repeatLast (items : List Item) (least : Nat) (most : Option Nat) :
    Follows out (List.map Item.renumber) (repeatLast items least most)
      (repeatLast (items.map Item.renumber) least most) := by
  match items with
  | .part node :: before => exact readManner.andThen fun manner => .pure (List.map Item.renumber) _
  | [] => exact refuse _ _
  | .place _ :: _ => exact refuse _ _
  | .repetition _ :: _ => exact refuse _ _

/-! ## Sequences -/

theorem node_renumber (item : Item) : item.renumber.node = item.node.renumber := by
  cases item <;> rfl

theorem ofNode_renumber (node : Node) : (Item.ofNode node).renumber = Item.ofNode node.renumber := by
  cases node <;> rfl

theorem sequence_renumber (items : List Item) : sequence (items.map Item.renumber) = (sequence items).renumber := by
  cases items with
  | nil => rfl
  | cons last before =>
    have step : ∀ node : Node, (before.map Item.renumber).foldl (fun node item => .seq item.node node) node.renumber =
        (before.foldl (fun node item => .seq item.node node) node).renumber := by
      induction before with
      | nil => exact fun node => rfl
      | cons item before ih =>
        intro node
        rw [List.map_cons, List.foldl_cons, List.foldl_cons, ← ih, node_renumber]
        rfl
    rw [List.map_cons, sequence, sequence, node_renumber, step]

theorem afterLine_append_closing (tokens : List Token) :
    afterLine (tokens ++ [closing]) = afterLine tokens ++ [closing] ∨ afterLine tokens = [] := by
  induction tokens with
  | nil => exact .inr rfl
  | cons t tokens ih =>
    rw [List.cons_append, afterLine, afterLine]
    split
    · exact .inl rfl
    · exact ih

theorem skipLine_bind {r : Read α} {r' : Read β} (follows : Follows true φ r r') :
    Follows true φ ((modify fun p => { p with left := afterLine p.left }) >>= fun _ => r)
      ((modify fun p => { p with left := afterLine p.left }) >>= fun _ => r') := by
  have taken : ∀ {p : Progress}, p.Rooted → p.Leads { p with left := afterLine p.left } :=
    fun rooted => .taken rooted fun spent => by rw [spent]; rfl
  constructor
  · intro p x q rooted ran
    obtain ⟨_, _, ⟨⟩, ended⟩ := bind_run_ok.mp ran
    exact (taken rooted).trans (follows.goes (taken rooted).rooted ended)
  · intro p x q rooted unset ran unasked unspent
    obtain ⟨_, _, ⟨⟩, ended⟩ := bind_run_ok.mp ran
    rcases afterLine_append_closing p.left with same | spent
    · show r'.run { p.inGroup with left := afterLine (p.left ++ [closing]) } = _
      rw [same]
      exact follows.inGroup (taken rooted).rooted unset ended unasked unspent
    · exact absurd ((follows.goes (taken rooted).rooted ended).spent spent) (unspent rfl)

/-- A piece is read alike inside the new group. -/
theorem readPiece (f : Settings) (items : List Item) (t : Token) :
    Follows f.verbose Piece.renumber (readPiece f items t) (readPiece f (items.map Item.renumber) t) := by
  have single : ∀ {c : Char}, Follows f.verbose Piece.renumber
      (Pure.pure (.items (.part (literal f c.toNat) :: items)) : Read Piece)
      (Pure.pure (.items (.part (literal f c.toNat) :: items.map Item.renumber))) := .pure Piece.renumber _
  obtain ⟨escaped, c⟩ := t
  refine ite ?_ (ite (.pure Piece.renumber _) ?_)
  · refine (readEscape f c).bind fun node => ?_
    rw [← ofNode_renumber]
    exact .pure Piece.renumber _
  by_cases comment : (f.verbose && c == '#') = true
  · rw [if_pos comment, if_pos comment, (Bool.and_eq_true_iff.mp comment).1]
    exact skipLine_bind (.pure Piece.renumber _)
  rw [if_neg comment, if_neg comment]
  dsimp only
  split
  · exact (readSet f).bind fun node => .pure Piece.renumber _
  · exact .pure Piece.renumber _
  · exact .pure Piece.renumber _
  · exact .pure Piece.renumber _
  · refine (readOpening f).bind fun opening => ?_
    cases opening with
    | comment | settings | reference => exact .pure Piece.renumber _
    | _ => exact .pure Piece.renumber _
  · refine ite ((readRepeat c).andThen fun counts => ?_) single
    match counts with
    | some (least, most) => exact (repeatLast items least most).bind fun items => .pure Piece.renumber _
    | none => exact single

theorem run_openGroup (name : Option (List Char)) (p : Progress) : (Reader.openGroup name).run p =
    if name.any fun name => (p.names.lookup name).isSome then .error .malformed
    else .ok (p.groups.length, { p with
      groups := p.groups ++ [none], names := name.toList.map (·, p.groups.length) ++ p.names }) := by
  cases name with
  | none => rfl
  | some name =>
    rw [Reader.openGroup, StateT.run_bind]
    show (if (p.names.lookup name).isSome then _ else _ : Read Nat).run p = _
    simp only [Option.any_some]
    split
    · rfl
    · rfl

theorem openGroup_ne_zero {name : Option (List Char)} {index : Nat} (rooted : p.Rooted)
    (ran : (Reader.openGroup name).run p = .ok (index, q)) : index ≠ 0 := by
  obtain ⟨groups, same⟩ := rooted
  rw [run_openGroup] at ran
  split at ran
  · cases ran
  · cases ran
    simp [same]

/-- A group that is opened inside the new one has the next number. -/
theorem openGroup (name : Option (List Char)) : Follows out later (openGroup name) (openGroup name) := by
  refine of_unset ?_ ?_ ?_
  · rintro p x q ⟨groups, same⟩ ran
    rw [run_openGroup] at ran
    split at ran
    · cases ran
    · cases ran
      exact ⟨⟨groups ++ [none], by rw [same]; rfl⟩, id, id, id⟩
  · intro p x q ran
    rw [run_openGroup] at ran
    split at ran
    · cases ran
    · cases ran
      rfl
  · rintro p x q ⟨groups, same⟩ ran
    rw [run_openGroup] at ran
    split at ran
    · cases ran
    · rename_i new
      cases ran
      have still : ¬ (name.any fun name => (p.inGroup.names.lookup name).isSome) = true := by
        simpa [Progress.inGroup, lookup_map_later] using new
      rw [run_openGroup, if_neg still]
      cases name <;> simp [Progress.inGroup, same, later]

theorem run_closeGroup (index : Nat) (body : Node) (p : Progress) : (Reader.closeGroup index body).run p =
    .ok ((), { p with groups := p.groups.set index (some (body.width (widthOf p.groups))) }) := rfl

/-- A group that is closed inside the new one is known by its new number. -/
theorem closeGroup {index : Nat} (positive : index ≠ 0) (body : Node) :
    Follows out id (closeGroup index body) (closeGroup (later index) body.renumber) := by
  obtain ⟨index, rfl⟩ := Nat.exists_eq_succ_of_ne_zero positive
  refine of_unset ?_ ?_ ?_
  · rintro p x q ⟨groups, same⟩ ran
    rw [run_closeGroup] at ran
    cases ran
    exact ⟨⟨_, congrArg (List.set · (index + 1) _) same⟩, id, id, id⟩
  · rintro p x q ⟨⟩
    rfl
  · intro p x q rooted ran
    rw [run_closeGroup] at ran
    cases ran
    have width : body.renumber.width (widthOf p.inGroup.groups) = body.width (widthOf p.groups) :=
      Node.width_renumber (widthOf_inGroup rooted) body
    rw [run_closeGroup, width]
    rfl

theorem overall_bind {f : Settings} {k : Settings → Read γ} {r' : Read δ} (goes : ∀ g, Goes (k g))
    (follows : Follows out ψ (k f) r') :
    Follows out ψ (MonadStateOf.get >>= fun p => Pure.pure ((Progress.overall p |>.map .ofSwitches).getD f) >>= k) r' where
  goes p x q rooted ran := by
    obtain ⟨_, _, ⟨⟩, ended⟩ := bind_run_ok.mp ran
    exact goes _ rooted ended
  inGroup p x q rooted unset ran unasked unspent := by
    obtain ⟨_, _, ⟨⟩, ended⟩ := bind_run_ok.mp ran
    have ended : (k ((p.overall.map .ofSwitches).getD f)).run p = .ok (x, q) := ended
    rw [unset] at ended
    exact follows.inGroup rooted unset ended unasked unspent

/-- The place of an outermost assertion about what comes before is set in both readers, one group later in the
second. -/
theorem setBehind {start start' : Progress → Option Nat}
    (shifted : ∀ ⦃p : Progress⦄, p.Rooted → start' p.inGroup = (start p).map later) {r : Read α} {r' : Read β}
    (follows : Follows out φ r r') :
    Follows out φ ((modify fun p => { p with behindFrom := start p }) >>= fun _ => r)
      ((modify fun p => { p with behindFrom := start' p }) >>= fun _ => r') := by
  constructor
  · intro p x q rooted ran
    obtain ⟨_, _, ⟨⟩, ended⟩ := bind_run_ok.mp ran
    have leads := follows.goes (by exact rooted) ended
    exact ⟨leads.rooted, leads.asked, leads.overall, leads.spent⟩
  · intro p x q rooted unset ran unasked unspent
    obtain ⟨_, _, ⟨⟩, ended⟩ := bind_run_ok.mp ran
    show r'.run { p.inGroup with behindFrom := start' p.inGroup } = _
    rw [shifted rooted]
    exact follows.inGroup (by exact rooted) (by exact unset) ended unasked unspent

theorem markBehind {r : Read α} {r' : Read β} (follows : Follows out φ r r') :
    Follows out φ ((modify fun p => { p with behindFrom := some p.groups.length }) >>= fun _ => r)
      ((modify fun p => { p with behindFrom := some p.groups.length }) >>= fun _ => r') := by
  refine setBehind ?_ follows
  rintro p ⟨groups, same⟩
  simp [Progress.inGroup, same, later]

/-! ## The whole grammar -/

/-- The three readers that call each other go on as usual behind a new first group, with no less fuel. -/
structure All (fuel : Nat) : Prop where
  alternatives : ∀ (f : Settings) (atStart : Bool) {more : Nat}, fuel ≤ more →
    Follows f.verbose Node.renumber (readAlternatives fuel f atStart) (readAlternatives more f false)
  sequences : ∀ (f : Settings) (atStart : Bool) (items : List Item) {more : Nat}, fuel ≤ more →
    Follows f.verbose Node.renumber (readSequence fuel f atStart items)
      (readSequence more f false (items.map Item.renumber))
  groups : ∀ (f : Settings) (opening : Opening) {more : Nat}, fuel ≤ more →
    Follows false Node.renumber (readGroup fuel f opening) (readGroup more f opening.renumber)

section
variable {fuel : Nat} (all : All fuel)
include all

theorem readAlternatives_succ (f : Settings) (atStart : Bool) {more : Nat} (enough : fuel ≤ more) :
    Follows f.verbose Node.renumber (readAlternatives (fuel + 1) f atStart) (readAlternatives (more + 1) f false) := by
  rw [readAlternatives, readAlternatives]
  refine (all.sequences f atStart [] enough).bind fun a => (accept (by decide)).andThen fun barred => ?_
  refine ite ?_ (.pure Node.renumber _)
  have rest : Follows f.verbose Node.renumber (readAlternatives fuel f false >>= fun b => Pure.pure (Node.alt a b))
      (readAlternatives more f false >>= fun b => Pure.pure (Node.alt a.renumber b)) :=
    (all.alternatives f false enough).bind fun b => .pure Node.renumber _
  cases atStart with
  | false => exact rest
  | true =>
    refine overall_bind (fun g => ?_) rest
    exact (all.alternatives g false (Nat.le_refl fuel)).goes.bind fun b => goes_pure (Node.alt a b)

theorem readSequence_succ (f : Settings) (atStart : Bool) (items : List Item) {more : Nat} (enough : fuel ≤ more) :
    Follows f.verbose Node.renumber (readSequence (fuel + 1) f atStart items)
      (readSequence (more + 1) f false (items.map Item.renumber)) := by
  have ended : Follows f.verbose Node.renumber (Pure.pure (sequence items) : Read Node)
      (Pure.pure (sequence (items.map Item.renumber))) := by
    rw [sequence_renumber]
    exact .pure Node.renumber _
  rw [readSequence, readSequence]
  refine peek_bind ended fun t => ?_
  dsimp only
  by_cases stops : (!t.escaped && (t.char == '|' || t.char == ')')) = true
  · rw [if_pos stops, if_pos stops]
    exact .inl ended
  rw [if_neg stops, if_neg stops]
  refine .inr ⟨_, _, rfl, rfl, (readPiece f items t).bind fun piece => ?_⟩
  cases piece with
  | items read => exact all.sequences f atStart read enough
  | settings on =>
    dsimp only
    split
    · exact settings_bind on (all.sequences (.ofSwitches on) atStart items (Nat.le_refl fuel)).goes
    · exact refuse Node.renumber _
  | group opening =>
    refine (all.groups f opening enough).weaken.bind fun node => ?_
    exact all.sequences f atStart (.part node :: items) enough

/-- The body of a group in its parentheses, and what the group makes of it. -/
theorem closed_alternatives (f : Settings) (group group' : Node → Node)
    (same : ∀ body, group' body.renumber = (group body).renumber) {more : Nat} (enough : fuel ≤ more) :
    Follows false Node.renumber
      (readAlternatives fuel f false >>= fun body => Reader.expect ')' >>= fun _ => Pure.pure (group body))
      (readAlternatives more f false >>= fun body => Reader.expect ')' >>= fun _ => Pure.pure (group' body)) := by
  refine (all.alternatives f false enough).bind_closed (fun body => closed_expect ')' _) fun body => ?_
  refine (expect ')').andThen fun _ => ?_
  rw [same]
  exact .pure Node.renumber _

theorem readGroup_succ (f : Settings) (opening : Opening) {more : Nat} (enough : fuel ≤ more) :
    Follows false Node.renumber (readGroup (fuel + 1) f opening) (readGroup (more + 1) f opening.renumber) := by
  cases opening with
  | capture name =>
    rw [Opening.renumber, readGroup, readGroup]
    refine (openGroup name).bind_of (· ≠ 0) openGroup_ne_zero fun index positive => ?_
    refine (all.alternatives f false enough).bind_closed (fun body => closed_expect ')' _) fun body => ?_
    refine (expect ')').andThen fun _ => (closeGroup positive body).andThen fun _ => .pure Node.renumber _
  | plain =>
    rw [Opening.renumber, readGroup, readGroup]
    exact closed_alternatives all f id id (fun _ => rfl) enough
  | «scoped» inner =>
    rw [Opening.renumber, readGroup, readGroup]
    exact closed_alternatives all inner .scoped .scoped (fun _ => rfl) enough
  | atomic =>
    rw [Opening.renumber, readGroup, readGroup]
    exact closed_alternatives all f .atomic .atomic (fun _ => rfl) enough
  | look behind negated =>
    rw [Opening.renumber, readGroup, readGroup]
    refine get fun p _ => ?_
    rw [behindFrom_inGroup]
    generalize p.behindFrom = outer
    simp only [Option.isNone_map]
    have ended : ∀ body : Node, Follows false Node.renumber
        (Reader.expect ')' >>= fun _ => if behind = true then do
            return .behind negated (body.width (widthOf (← MonadState.get).groups)) body
          else Pure.pure (.ahead negated body))
        (Reader.expect ')' >>= fun _ => if behind = true then do
            return .behind negated (body.renumber.width (widthOf (← MonadState.get).groups)) body.renumber
          else Pure.pure (.ahead negated body.renumber)) := by
      intro body
      refine (expect ')').andThen fun _ => ite (get fun q rooted => ?_) (.pure Node.renumber _)
      rw [Node.width_renumber (widthOf_inGroup rooted)]
      exact .pure Node.renumber _
    -- Whether this is the outermost assertion makes no difference for what stands inside.
    refine ite (markBehind ?body) ?body
    refine (all.alternatives f false enough).bind_closed (fun body => ?_) fun body =>
      ite (setBehind (fun _ _ => rfl) (ended body)) (ended body)
    split
    · refine Closed.bind ?_ fun _ => closed_expect ')' _
      intro p x q rooted ran
      cases ran
      exact ⟨rooted, id, id, id⟩
    · exact closed_expect ')' _
  | condition index =>
    rw [Opening.renumber, readGroup, readGroup]
    refine (all.sequences f false [] enough).bind_closed (fun a => ?_) fun a => ?_
    · refine Closed.bind (goes_accept (by decide)) fun barred => ?_
      dsimp only
      split
      · exact Closed.bind (all.sequences f false [] enough).goes fun b => closed_expect ')' _
      · exact Closed.bind (goes_pure Node.empty) fun b => closed_expect ')' _
    · refine (accept (by decide)).andThen fun barred => ite ?_ ?_
      · refine (all.sequences f false [] enough).bind_closed (fun b => closed_expect ')' _) fun b => ?_
        exact (expect ')').andThen fun _ => .pure Node.renumber _
      · refine (pure Node.renumber Node.empty).bind fun b => ?_
        exact (expect ')').andThen fun _ => .pure Node.renumber _
  | reference | comment | settings => exact refuse Node.renumber _

end

/-- With enough fuel, all parts of a pattern are read alike inside the new group. -/
theorem all (fuel : Nat) : All fuel := by
  induction fuel with
  | zero =>
    constructor
    · intro f atStart more _
      exact .refuse Node.renumber _
    · intro f atStart items more _
      exact .refuse Node.renumber _
    · intro f opening more _
      exact .refuse Node.renumber _
  | succ fuel ih =>
    constructor
    · intro f atStart more enough
      obtain ⟨more, rfl⟩ : ∃ n, more = n + 1 := ⟨more - 1, by omega⟩
      exact readAlternatives_succ ih f atStart (Nat.le_of_succ_le_succ enough)
    · intro f atStart items more enough
      obtain ⟨more, rfl⟩ : ∃ n, more = n + 1 := ⟨more - 1, by omega⟩
      exact readSequence_succ ih f atStart items (Nat.le_of_succ_le_succ enough)
    · intro f opening more enough
      obtain ⟨more, rfl⟩ : ∃ n, more = n + 1 := ⟨more - 1, by omega⟩
      exact readGroup_succ ih f opening (Nat.le_of_succ_le_succ enough)

end Follows

end TextClassifier.Pattern.Reader
