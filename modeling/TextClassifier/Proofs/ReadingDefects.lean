import TextClassifier.Proofs.CountLimits
import TextClassifier.Proofs.WholePatterns

/-!
# What is wrong with a text that is no pattern

A text that is no pattern breaks the grammar, has a count that is too large, or asks for ASCII and for all scripts at
once (`read_error`). Every reader goes on in the tokens that are left, and only the reader of counts fails with
something else than the grammar (`Stays`).
-/
namespace TextClassifier.Pattern
namespace Reader
variable {α β : Type} {tokens : List Token} {p q : Progress}

/-! ## Readers -/

/-- What comes of a reader inside of tokens: the tokens that are left are the last ones of them, and a defect is one
of the grammar or a count in their text. -/
def Inside (tokens : List Token) : Except Defect (α × Progress) → Prop
  | .ok (_, q) => q.left <:+ tokens
  | .error defect => defect = .malformed ∨ HasExceeding defect (textOf tokens)

/-- A reader stays inside of tokens. -/
def Stays (tokens : List Token) (r : Read α) : Prop := ∀ ⦃p⦄, p.left <:+ tokens → Inside tokens (r.run p)

/-- A reader and another one that goes on with its result. -/
theorem Inside.bind {r : Read α} {f : α → Read β} (first : Inside tokens (r.run p))
    (rest : ∀ x q, r.run p = .ok (x, q) → Stays tokens (f x)) : Inside tokens ((r >>= f).run p) := by
  rw [StateT.run_bind]
  cases ran : r.run p with
  | error defect =>
    rw [ran] at first
    exact first
  | ok result =>
    obtain ⟨x, q⟩ := result
    rw [ran] at first
    exact rest x q ran first

namespace Stays
variable {r : Read α} {f : α → Read β}

theorem pure (x : α) : Stays tokens (Pure.pure x) := fun _ behind => behind

theorem refuse : Stays tokens (Reader.refuse : Read α) := fun _ _ => .inl rfl

theorem refuse_bind (f : α → Read β) : Stays tokens (Reader.refuse >>= f) := fun _ _ => .inl rfl

theorem bind (first : Stays tokens r) (rest : ∀ x, Stays tokens (f x)) : Stays tokens (r >>= f) :=
  fun _ behind => (first behind).bind fun x _ _ => rest x

theorem ite {condition : Prop} [Decidable condition] {s : Read α} (first : Stays tokens r) (second : Stays tokens s) :
    Stays tokens (if condition then r else s) := by
  split
  · exact first
  · exact second

theorem get {f : Progress → Read β} (rest : ∀ p, p.left <:+ tokens → Stays tokens (f p)) :
    Stays tokens (MonadStateOf.get >>= f) := fun p behind => rest p behind behind

theorem set (behind : q.left <:+ tokens) : Stays tokens (MonadStateOf.set q : Read PUnit) := fun _ _ => behind

theorem changed {change : Progress → Progress} (keeps : ∀ p, (change p).left <:+ p.left) :
    Stays tokens (modify change : Read PUnit) := fun p behind => (keeps p).trans behind

theorem kept {change : Progress → Progress} (keeps : ∀ p, (change p).left = p.left) :
    Stays tokens (modify change : Read PUnit) := changed fun p => (keeps p).symm ▸ List.suffix_rfl

theorem kept_bind {change : Progress → Progress} (keeps : ∀ p, (change p).left = p.left) (rest : Stays tokens r) :
    Stays tokens (modify change >>= fun _ => r) := (kept keeps).bind fun _ => rest

theorem lift {a : Except Defect α} (inside : ∀ defect, a = .error defect → HasExceeding defect (textOf tokens)) :
    Stays tokens (liftM a : Read α) := by
  intro p behind
  cases a with
  | error defect => exact .inr (inside defect rfl)
  | ok x => exact behind

/-! ### Tokens -/

theorem skip : Stays tokens skip := changed fun _ => List.tail_suffix _

theorem peek : Stays tokens peek := get fun _ _ => pure _

theorem next : Stays tokens next := peek.bind fun t => skip.bind fun _ => pure t

theorem accept (c : Char) : Stays tokens (accept c) :=
  peek.bind fun _ => ite (skip.bind fun _ => pure true) (pure false)

theorem expect (c : Char) : Stays tokens (expect c) := (accept c).bind fun _ => ite (pure ()) refuse

theorem readWhile (n : Nat) (test : Char → Bool) : Stays tokens (readWhile n test) :=
  get fun p behind => (set ((takeWhile_suffix test n p.left).trans behind)).bind fun _ => pure _

theorem untilChar_suffix {stop : Char} {front : List Token} {cs : List Char} {rest : List Token}
    (found : untilChar stop front = some (cs, rest)) : rest <:+ front := by
  induction front generalizing cs with
  | nil => cases found
  | cons t front ih =>
    rw [untilChar] at found
    split at found
    · cases found
      exact List.suffix_cons t _
    · obtain ⟨⟨inner, left⟩, there, same⟩ := Option.map_eq_some_iff.mp found
      cases same
      exact (ih there).trans (List.suffix_cons t front)

theorem readName (stop : Char) : Stays tokens (readName stop) := by
  refine get fun p behind => ?_
  split
  · rename_i found
    exact (set ((untilChar_suffix found).trans behind)).bind fun _ => pure _
  · exact refuse

theorem skipComment : Stays tokens skipComment := by
  refine get fun p behind => ?_
  split
  · rename_i found
    exact set ((untilChar_suffix found).trans behind)
  · exact refuse

theorem switches_suffix (front : List Token) : (switches front).2 <:+ front := by
  induction front with
  | nil => exact List.suffix_rfl
  | cons t front ih =>
    rw [switches]
    split
    · exact ih.trans (List.suffix_cons t front)
    · exact List.suffix_rfl

theorem readSwitches : Stays tokens readSwitches :=
  get fun p behind => (set ((switches_suffix p.left).trans behind)).bind fun _ => pure _

/-! ### Characters and sets -/

theorem readHex (n : Nat) : Stays tokens (readHex n) := (readWhile n _).bind fun _ => ite (pure _) refuse

theorem readCharacterName : Stays tokens readCharacterName := by
  refine (expect _).bind fun _ => (readName _).bind fun name => ?_
  split
  · exact pure _
  · exact refuse

theorem readCode? (c : Char) : Stays tokens (readCode? c) := by
  unfold Reader.readCode?
  split
  · exact (readHex 2).bind fun _ => pure _
  · exact (readHex 4).bind fun _ => pure _
  · exact (readHex 8).bind fun _ => pure _
  · exact readCharacterName.bind fun _ => pure _
  · exact pure _

theorem readSetEscape (f : Settings) (c : Char) : Stays tokens (readSetEscape f c) := by
  unfold Reader.readSetEscape
  split
  · exact pure _
  refine (readCode? c).bind fun code => ?_
  split
  · exact pure _
  refine ite (pure _) (ite ?_ (ite refuse (pure _)))
  exact (readWhile 2 _).bind fun _ => ite refuse (pure _)

theorem readSetMember (f : Settings) (t : Token) : Stays tokens (readSetMember f t) :=
  ite (readSetEscape f t.char) (pure _)

theorem readSetItems (f : Settings) (fuel : Nat) (items : List SetItem) : Stays tokens (readSetItems f fuel items) := by
  induction fuel generalizing items with
  | zero => exact refuse
  | succ fuel ih =>
    rw [Reader.readSetItems]
    refine next.bind fun t => ?_
    split
    · exact refuse
    refine ite (pure _) ((readSetMember f _).bind fun low => (accept '-').bind fun ranged => ite ?_ (ih _))
    refine next.bind fun t => ?_
    split
    · exact refuse
    refine ite (pure _) ((readSetMember f _).bind fun high => ?_)
    split
    · exact ite refuse (ih _)
    · exact refuse

theorem readSet (f : Settings) : Stays tokens (readSet f) :=
  (accept '^').bind fun _ => get fun _ _ => (readSetItems f _ []).bind fun _ => pure _

/-! ### References -/

theorem checkBehind (index : Nat) : Stays tokens (checkBehind index) := by
  refine get fun p _ => ?_
  split
  · exact pure _
  · exact ite refuse (pure _)

theorem readReference (f : Settings) (index : Nat) : Stays tokens (readReference f index) :=
  get fun _ _ => ite (refuse_bind _) ((checkBehind index).bind fun _ => pure _)

theorem ask (index : Nat) : Stays tokens (ask index) := kept fun _ => rfl

theorem readNumber (f : Settings) (index : Nat) : Stays tokens (readNumber f index) :=
  (ask index).bind fun _ => readReference f index

theorem readNumbered (f : Settings) (c : Char) : Stays tokens (readNumbered f c) := by
  refine (readWhile 1 _).bind fun digits => ?_
  split
  · refine ite ((readWhile 1 _).bind fun more => ?_) (readNumber f _)
    split
    · exact ite refuse (pure _)
    · exact readNumber f _
  · exact readNumber f _

theorem readEscape (f : Settings) (c : Char) : Stays tokens (readEscape f c) := by
  unfold Reader.readEscape
  split
  · exact pure _
  · exact pure _
  · exact pure _
  · exact pure _
  · exact (readWhile 2 _).bind fun _ => pure _
  · split
    · exact pure _
    refine (readCode? c).bind fun code => ?_
    split
    · exact pure _
    · exact ite (readNumbered f c) (ite refuse (pure _))

theorem named (name : List Char) : Stays tokens (named name) := by
  refine ite (refuse_bind _) (get fun p _ => ?_)
  split
  · exact pure _
  · exact refuse

theorem readConditionGroup : Stays tokens readConditionGroup := by
  refine (readName ')').bind fun name => ite (named name) ?_
  split
  · exact ite ((ask _).bind fun _ => pure _) refuse
  · exact refuse

/-! ### Groups -/

theorem readSettings (f : Settings) : Stays tokens (readSettings f) := by
  refine readSwitches.bind fun on => ite (refuse_bind _) (next.bind fun t => ?_)
  split
  · exact ite (refuse_bind _) (get fun _ _ => pure _)
  · exact ite (refuse_bind _) (pure _)
  · refine readSwitches.bind fun off => ite (refuse_bind _) (ite (refuse_bind _) ?_)
    exact (expect ':').bind fun _ => pure _
  · exact refuse

theorem readOpening (f : Settings) : Stays tokens (readOpening f) := by
  refine (accept '?').bind fun marked => ite (pure _) (peek.bind fun t => ?_)
  split
  · refine skip.bind fun _ => (accept '<').bind fun opens => ite ?_ ((accept '=').bind fun refers => ite ?_ refuse)
    · exact (readName '>').bind fun name => ite (pure _) refuse
    · refine (readName ')').bind fun name => (named name).bind fun index => ?_
      exact (readReference f index).bind fun _ => pure _
  · exact skip.bind fun _ => pure _
  · exact skip.bind fun _ => skipComment.bind fun _ => pure _
  · exact skip.bind fun _ => pure _
  · exact skip.bind fun _ => pure _
  · refine skip.bind fun _ => next.bind fun t => ?_
    split
    · exact pure _
    · exact pure _
    · exact refuse
  · exact skip.bind fun _ => readConditionGroup.bind fun index => (checkBehind index).bind fun _ => pure _
  · exact skip.bind fun _ => pure _
  · exact readSettings f

theorem openGroup (name : Option (List Char)) : Stays tokens (openGroup name) := by
  refine get fun p behind => ?_
  have opened : ∀ q : Progress, q.left = p.left →
      Stays tokens (MonadStateOf.set q >>= fun _ => Pure.pure p.groups.length : Read Nat) :=
    fun q same => (set (same ▸ behind)).bind fun _ => pure _
  cases name with
  | none => exact opened _ rfl
  | some name => exact ite (refuse_bind _) (opened _ rfl)

theorem closeGroup (index : Nat) (body : Node) : Stays tokens (closeGroup index body) :=
  kept fun _ => rfl

/-! ### Repetitions -/

theorem readSpelledCounts : Stays tokens readSpelledCounts := by
  refine get fun p behind => ?_
  split
  · exact pure _
  · rename_i spelled
    exact (set ((of_spelledCounts? spelled).1.trans behind)).bind fun _ => pure _

end Stays

theorem run_readSpelledCounts (p : Progress) : readSpelledCounts.run p = match spelledCounts? p.left with
    | none => .ok (none, p)
    | some (low, high, rest) => .ok (some (low, high), { p with left := rest }) := by
  rw [readSpelledCounts, StateT.run_bind, StateT.run_get, pure_bind]
  rcases spelledCounts? p.left with _ | ⟨low, high, rest⟩
  · rfl
  · rfl

/-- The reader of counts is the only one that can fail with something else than the grammar. -/
theorem inside_readCounts (braced : ⟨false, '\x7b'⟩ :: p.left <:+ tokens) : Inside tokens (readCounts.run p) := by
  have behind : p.left <:+ tokens := (List.suffix_cons _ _).trans braced
  refine Inside.bind (Stays.readSpelledCounts behind) fun counts q ran => ?_
  rw [run_readSpelledCounts] at ran
  match counts with
  | none => exact Stays.pure _
  | some (low, high) =>
    obtain ⟨rest, spelled⟩ : ∃ rest, spelledCounts? p.left = some (low, high, rest) := by
      split at ran
      · cases ran
      · rename_i spelled
        cases ran
        exact ⟨_, spelled⟩
    refine (Stays.lift fun defect failed => ?_).bind fun least => (Stays.lift fun defect failed => ?_).bind fun most => ?_
    · exact hasExceeding_of_spelledCounts? braced spelled (.inl (count?_error failed))
    · exact hasExceeding_of_spelledCounts? braced spelled (.inr (count?_error failed))
    · dsimp only
      split
      · exact Stays.ite (Stays.refuse_bind _) (Stays.pure _)
      · exact Stays.pure _

theorem inside_readRepeat {sign : Char} (standing : ⟨false, sign⟩ :: p.left <:+ tokens)
    (sign_of : sign == '*' || sign == '+' || sign == '?' || sign == '\x7b') :
    Inside tokens ((readRepeat sign).run p) := by
  have behind : p.left <:+ tokens := (List.suffix_cons _ _).trans standing
  unfold readRepeat
  split
  · exact Stays.pure _ behind
  · exact Stays.pure _ behind
  · exact Stays.pure _ behind
  · rename_i question star plus
    obtain rfl : sign = '\x7b' := by
      simp only [Bool.or_eq_true, beq_iff_eq] at sign_of
      tauto
    exact inside_readCounts standing

namespace Stays

theorem readManner : Stays tokens readManner :=
  (accept '?').bind fun _ => ite (pure _) ((accept '+').bind fun _ => ite (pure _) (pure _))

theorem repeatLast (items : List Item) (least : Nat) (most : Option Nat) :
    Stays tokens (repeatLast items least most) := by
  match items with
  | .part node :: before => exact readManner.bind fun _ => pure _
  | [] => exact refuse
  | .place _ :: _ => exact refuse
  | .repetition _ :: _ => exact refuse

end Stays

/-! ### The whole grammar -/

theorem afterLine_suffix (front : List Token) : afterLine front <:+ front := by
  induction front with
  | nil => exact List.suffix_rfl
  | cons t front ih =>
    rw [afterLine]
    split
    · exact List.suffix_cons t front
    · exact ih.trans (List.suffix_cons t front)

/-- What stands at a token is read behind it, and the token may be the brace of counts. -/
theorem inside_readPiece (f : Settings) (items : List Item) {t : Token} (standing : t :: p.left <:+ tokens) :
    Inside tokens ((readPiece f items t).run p) := by
  have behind : p.left <:+ tokens := (List.suffix_cons _ _).trans standing
  obtain ⟨escaped, c⟩ := t
  unfold readPiece
  split
  · exact (Stays.readEscape f c).bind (fun _ => .pure _) behind
  split
  · exact Stays.pure _ behind
  split
  · exact (Stays.changed fun q => afterLine_suffix q.left).bind (fun _ => .pure _) behind
  rename_i plain _ _
  obtain rfl : escaped = false := by simpa using plain
  dsimp only
  split
  · exact (Stays.readSet f).bind (fun _ => .pure _) behind
  · exact Stays.pure _ behind
  · exact Stays.pure _ behind
  · exact Stays.pure _ behind
  · refine (Stays.readOpening f).bind (fun opening => ?_) behind
    split
    · exact .pure _
    · exact .pure _
    · exact .pure _
    · exact .pure _
  · split
    · rename_i sign
      refine (inside_readRepeat standing sign).bind fun counts q _ => ?_
      split
      · exact (Stays.repeatLast items _ _).bind fun _ => .pure _
      · exact .pure _
    · exact Stays.pure _ behind

theorem run_peek_bind (f : Option Token → Read α) (p : Progress) : (peek >>= f).run p = (f p.left.head?).run p := rfl

theorem run_skip_bind (f : Unit → Read α) (p : Progress) : (skip >>= f).run p = (f ()).run p.tail := rfl

/-- The three readers that call each other stay inside of tokens. -/
structure StayAll (tokens : List Token) (fuel : Nat) : Prop where
  alternatives : ∀ (f : Settings) (atStart : Bool), Stays tokens (readAlternatives fuel f atStart)
  sequences : ∀ (f : Settings) (atStart : Bool) (items : List Item), Stays tokens (readSequence fuel f atStart items)
  groups : ∀ (f : Settings) (opening : Opening), Stays tokens (readGroup fuel f opening)

namespace StayAll
variable {fuel : Nat} (all : StayAll tokens fuel)
include all

theorem readAlternatives_succ (f : Settings) (atStart : Bool) :
    Stays tokens (readAlternatives (fuel + 1) f atStart) := by
  rw [readAlternatives]
  refine (all.sequences f atStart []).bind fun a => (Stays.accept '|').bind fun barred => .ite ?_ (.pure _)
  have rest : ∀ g : Settings, Stays tokens (readAlternatives fuel g false >>= fun b => Pure.pure (Node.alt a b)) :=
    fun g => (all.alternatives g false).bind fun b => .pure _
  cases atStart with
  | false => exact rest f
  | true => exact .get fun q _ => rest _

theorem readSequence_succ (f : Settings) (atStart : Bool) (items : List Item) :
    Stays tokens (readSequence (fuel + 1) f atStart items) := by
  intro p behind
  rw [readSequence, run_peek_bind]
  cases left : p.left with
  | nil => exact behind
  | cons t rest =>
    rw [List.head?_cons]
    dsimp only
    split
    · exact behind
    have standing : t :: p.tail.left <:+ tokens := by
      rw [Progress.tail, left]
      exact left ▸ behind
    rw [run_skip_bind]
    refine (inside_readPiece f items standing).bind fun piece q _ => ?_
    cases piece with
    | items read => exact all.sequences f atStart read
    | settings on =>
      refine .ite ?_ .refuse
      exact Stays.kept_bind (fun _ => rfl) (all.sequences (.ofSwitches on) atStart items)
    | group opening => exact (all.groups f opening).bind fun node => all.sequences f atStart (.part node :: items)

/-- A group is read inside of the tokens, if its parts are. -/
theorem readGroup_succ (f : Settings) (opening : Opening) : Stays tokens (readGroup (fuel + 1) f opening) := by
  cases opening with
  | capture name =>
    rw [readGroup]
    refine (Stays.openGroup name).bind fun index => (all.alternatives f false).bind fun body => ?_
    exact (Stays.expect ')').bind fun _ => (Stays.closeGroup index body).bind fun _ => .pure _
  | plain | atomic =>
    rw [readGroup]
    exact (all.alternatives f false).bind fun body => (Stays.expect ')').bind fun _ => .pure _
  | «scoped» inner =>
    rw [readGroup]
    exact (all.alternatives inner false).bind fun body => (Stays.expect ')').bind fun _ => .pure _
  | look behind negated =>
    rw [readGroup]
    refine .get fun p _ => ?_
    generalize p.behindFrom = outer
    refine .ite (Stays.kept_bind (fun _ => rfl) ?body) ?body
    refine (all.alternatives f false).bind fun body => ?_
    refine .ite (Stays.kept_bind (fun _ => rfl) ?ended) ?ended
    exact (Stays.expect ')').bind fun _ => .ite (.get fun _ _ => .pure _) (.pure _)
  | condition index =>
    rw [readGroup]
    refine (all.sequences f false []).bind fun a => (Stays.accept '|').bind fun barred => .ite ?_ ?_
    · refine (all.sequences f false []).bind fun b => ?_
      exact (Stays.expect ')').bind fun _ => .pure _
    · refine (Stays.pure Node.empty).bind fun b => ?_
      exact (Stays.expect ')').bind fun _ => .pure _
  | reference | comment | settings => exact .refuse

end StayAll

theorem stayAll (tokens : List Token) (fuel : Nat) : StayAll tokens fuel := by
  induction fuel with
  | zero => exact ⟨fun _ _ => .refuse, fun _ _ _ => .refuse, fun _ _ => .refuse⟩
  | succ fuel ih => exact ⟨ih.readAlternatives_succ, ih.readSequence_succ, ih.readGroup_succ⟩

theorem readTokens_error {defect : Defect} (failed : readTokens tokens = .error defect) :
    defect = .malformed ∨ HasExceeding defect (textOf tokens) := by
  have inside := (stayAll tokens (3 * tokens.length + 3)).alternatives {} true
    (p := ⟨tokens, [none], [], none, [], none⟩) List.suffix_rfl
  rw [readTokens] at failed
  rw [failed] at inside
  exact inside

end Reader

/-- A text that is no pattern breaks the grammar, has a count that is too large, or contradicts itself. -/
theorem read_error {s : String} {defect : Defect} (failed : read s = .error defect) :
    defect = .malformed ∨ HasExceeding defect s.toList ∨ defect = .contradictory ∧ Reader.Contradicts s := by
  rw [read] at failed
  cases listed : Reader.tokens? s.toList with
  | none =>
    rw [listed] at failed
    cases failed
    exact .inl rfl
  | some tokens =>
    rw [listed] at failed
    dsimp only at failed
    cases ran : Reader.readTokens tokens with
    | error cause =>
      rw [Reader.readPattern, ran] at failed
      cases failed
      rw [← Reader.textOf_tokens listed]
      exact (Reader.readTokens_error ran).imp_right .inl
    | ok result =>
      obtain ⟨node, q⟩ := result
      rw [Reader.readPattern_eq ran] at failed
      split at failed
      · rename_i both
        cases failed
        exact .inr (.inr ⟨rfl, (Reader.contradicts_iff listed ran).mpr both⟩)
      split at failed
      · cases failed
      · cases failed
        exact .inl rfl

/-- A pattern that contradicts itself is refused for that, whatever else is wrong with it. -/
theorem read_contradictory_iff {s : String} : read s = .error .contradictory ↔ Reader.Contradicts s := by
  constructor
  · intro failed
    rcases read_error failed with other | exceeds | ⟨-, contradicts⟩
    · cases other
    · exact absurd rfl exceeds.ne_contradictory
    · exact contradicts
  · intro contradicts
    obtain ⟨on, made, -⟩ := id contradicts
    obtain ⟨q, behind, -⟩ := Option.bind_eq_some_iff.mp made
    obtain ⟨tokens, node, listed, ran⟩ := Reader.exists_of_progress? behind
    rw [read, listed]
    dsimp only
    rw [Reader.readPattern_eq ran, if_pos ((Reader.contradicts_iff listed ran).mp contradicts)]

end TextClassifier.Pattern
