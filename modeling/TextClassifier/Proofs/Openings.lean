import TextClassifier.Pattern.Reader
import TextClassifier.Proofs.MatchOrder

/-!
# What the search passes over

A search that takes the first match at every place that has one is leftmost (`Leftmost`). It is if the set
of characters that it looks for has the first character of every match (`leftmost_iff`). That set is what
every match begins with (`begins_of_beginning?`), as long as its classes are not replaced: so the search
is leftmost for patterns whose classes are all over ASCII or all over all scripts, as the pattern is as a
whole (`leftmost_of_isPlain`).
-/
namespace TextClassifier.Pattern

/-! ## Leftmost searches -/

/-- The search for a match takes the first one at every place that has one. -/
def Leftmost (p : Pattern) (text : Subject) : Prop := ∀ pos, p.end? text pos = (p.ends text pos).head?

variable {p : Pattern} {text : Subject} {pos : Nat}

theorem end?_of_mayBegin (may : p.mayBegin text pos = true) : p.end? text pos = (p.ends text pos).head? := by
  rw [end?, if_pos may, endWhere?_eq_find?]
  cases p.ends text pos <;> rfl

/-- A search is leftmost if there is no match at any of the places that it passes over. -/
theorem leftmost_iff : p.Leftmost text ↔ ∀ pos, p.mayBegin text pos = false → p.ends text pos = [] := by
  constructor
  · intro leftmost pos passed
    have skipped : p.end? text pos = none := by rw [end?, passed]; rfl
    rwa [leftmost pos, List.head?_eq_none_iff] at skipped
  · intro empty pos
    cases may : p.mayBegin text pos with
    | true => exact end?_of_mayBegin may
    | false => rw [end?, may, empty pos may]; rfl

/-! ## First characters -/

/-- An item whose class, if it is one, is that of ASCII or that of all scripts, as asked for. -/
def SetItem.isPlain (ascii : Bool) : SetItem → Bool
  | .range .. => true
  | .named _ _ restricted => restricted == ascii

theorem SetItem.restrict_of_isPlain {ascii : Bool} {item : SetItem} (plain : item.isPlain ascii = true) :
    item.restrict ascii = id item := by
  cases item with
  | range first last => rfl
  | named kind negated restricted => rw [restrict, ← eq_of_beq plain, id]

/-- A set whose classes are all over the same characters and whose characters compare in one way. -/
def CharSet.isPlain (ascii : Bool) (f : Folding) (s : CharSet) : Bool :=
  s.folding == f && s.items.all (SetItem.isPlain ascii)

/-- The classes of a plain set are not replaced. -/
theorem CharSet.sieve?_of_isPlain {ascii : Bool} {f : Folding} {s t : CharSet} (plain : s.isPlain ascii f = true)
    (sieved : s.sieve? ascii = some t) : t = s := by
  rw [CharSet.isPlain, Bool.and_eq_true, List.all_eq_true] at plain
  rw [sieve?] at sieved
  split at sieved
  · have kept : s.items.map (SetItem.restrict ascii) = s.items := by
      rw [List.map_congr_left fun item listed => SetItem.restrict_of_isPlain (plain.2 item listed), List.map_id]
    rw [kept] at sieved
    exact (Option.some.inj sieved).symm
  · cases sieved

namespace Node

/-- A part whose classes are all over the same characters and whose characters all compare in one way, except
where a part has settings of its own. -/
def isPlain (ascii : Bool) (f : Folding) : Node → Bool
  | .set s => s.isPlain ascii f
  | .seq a b => a.isPlain ascii f && b.isPlain ascii f
  | .alt a b => a.isPlain ascii f && b.isPlain ascii f
  | .group _ body => body.isPlain ascii f
  | .scoped body => body.isPlain ascii .exact || body.isPlain ascii .ascii || body.isPlain ascii .unicode
  | .given _ a b => a.isPlain ascii f && b.isPlain ascii f
  | .ahead _ body => body.isPlain ascii f
  | .behind _ _ body => body.isPlain ascii f
  | .atomic body => body.isPlain ascii f
  | .repeated _ _ _ body => body.isPlain ascii f
  | _ => true

/-- Every match of a part begins with a character of a set. -/
def Begins (text : Subject) (node : Node) (s : CharSet) : Prop :=
  ∀ st, ∀ st' ∈ node.ways text st, ∃ c, text[st.pos]? = some c ∧ s.contains c = true

variable {node a b : Node} {s t : CharSet} {ascii : Bool} {f : Folding}

theorem Begins.alt (left : a.Begins text s) (right : b.Begins text s) : (Node.alt a b).Begins text s := by
  intro st st' listed
  rcases List.mem_append.mp listed with first | second
  · exact left st st' first
  · exact right st st' second

theorem Begins.seq (left : a.Begins text s) (b : Node) : (Node.seq a b).Begins text s := by
  intro st st' listed
  obtain ⟨between, before, -⟩ := List.mem_flatMap.mp listed
  exact left st between before

theorem Begins.weaken (begins : node.Begins text s) (wider : ∀ c, s.contains c = true → t.contains c = true) :
    node.Begins text t := by
  intro st st' listed
  obtain ⟨c, there, held⟩ := begins st st' listed
  exact ⟨c, there, wider c held⟩

theorem begins_set (s : CharSet) : (Node.set s).Begins text s := by
  intro st st' listed
  rw [ways] at listed
  split at listed
  · next c there =>
    split at listed
    · next held => exact ⟨c, there, held⟩
    · cases listed
  · cases listed

/-- Where nothing is written, nothing is matched. -/
theorem ways_of_isBlank : ∀ {node : Node}, node.isBlank = true → ∀ st, node.ways text st = [st]
  | .empty, _, st => rfl
  | .seq a b, blank, st => by
    rw [isBlank, Bool.and_eq_true] at blank
    rw [ways, ways_of_isBlank blank.1, List.flatMap_singleton, ways_of_isBlank blank.2]

theorem begins_seq_blank (blank : a.isBlank = true) (right : b.Begins text s) : (Node.seq a b).Begins text s := by
  intro st st' listed
  rw [ways, ways_of_isBlank blank, List.flatMap_singleton] at listed
  exact right st st' listed

/-- A part that amounts to one set begins with its characters. -/
theorem begins_of_merged? (text : Subject) : ∀ (node : Node) {s : CharSet}, node.isPlain ascii f = true →
    node.merged? = some s → s.isPlain ascii f = true ∧ s.negated = false ∧ node.Begins text s
  | .set t, s, plain, merged => by
    rw [merged?] at merged
    split at merged
    · cases merged
    · next positive =>
      obtain rfl := Option.some.inj merged
      exact ⟨plain, Bool.eq_false_iff.mpr positive, begins_set t⟩
  | .seq a b, s, plain, merged => by
    rw [isPlain, Bool.and_eq_true] at plain
    rw [merged?] at merged
    split at merged
    · next blank =>
      obtain ⟨kept, positive, begins⟩ := begins_of_merged? text b plain.2 merged
      exact ⟨kept, positive, begins_seq_blank blank begins⟩
    · split at merged
      · obtain ⟨kept, positive, begins⟩ := begins_of_merged? text a plain.1 merged
        exact ⟨kept, positive, begins.seq b⟩
      · cases merged
  | .alt a b, s, plain, merged => by
    rw [isPlain, Bool.and_eq_true] at plain
    rw [merged?] at merged
    split at merged
    · next u v left right =>
      obtain rfl := Option.some.inj merged
      obtain ⟨uPlain, uPositive, uBegins⟩ := begins_of_merged? text a plain.1 left
      obtain ⟨vPlain, vPositive, vBegins⟩ := begins_of_merged? text b plain.2 right
      simp only [CharSet.isPlain, Bool.and_eq_true, beq_iff_eq] at uPlain vPlain
      have either : ∀ c, CharSet.contains { u with items := u.items ++ v.items } c =
          (u.contains c || v.contains c) := by
        intro c
        simp [CharSet.contains, uPositive, vPositive, uPlain.1, vPlain.1, List.any_append]
      refine ⟨?_, uPositive, ?_⟩
      · simp [CharSet.isPlain, uPlain, vPlain, List.all_append]
      · refine Begins.alt (uBegins.weaken fun c held => ?_) (vBegins.weaken fun c held => ?_)
        · rw [either, held, Bool.true_or]
        · rw [either, held, Bool.or_true]
    · cases merged

/-- A part begins with the characters of the set that stands first in it. -/
theorem begins_of_first? (text : Subject) : ∀ (node : Node) {s : CharSet}, node.isPlain ascii f = true →
    node.first? = some s → s.isPlain ascii f = true ∧ node.Begins text s
  | .set t, s, plain, first => by
    obtain rfl := Option.some.inj first
    exact ⟨plain, begins_set t⟩
  | .seq a b, s, plain, first => by
    rw [isPlain, Bool.and_eq_true] at plain
    rw [first?] at first
    split at first
    · next blank =>
      obtain ⟨kept, begins⟩ := begins_of_first? text b plain.2 first
      exact ⟨kept, begins_seq_blank blank begins⟩
    · obtain ⟨kept, begins⟩ := begins_of_first? text a plain.1 first
      exact ⟨kept, begins.seq b⟩
  | .alt a b, s, plain, first => by
    rw [first?] at first
    split at first
    · next t merged =>
      obtain rfl := Option.some.inj first
      obtain ⟨kept, -, begins⟩ := begins_of_merged? text (.alt a b) plain merged
      exact ⟨kept, begins⟩
    · rw [isPlain, Bool.and_eq_true] at plain
      split at first
      · next same =>
        obtain ⟨kept, left⟩ := begins_of_first? text a plain.1 first
        exact ⟨kept, left.alt (begins_of_first? text b plain.2 (same.symm.trans first)).2⟩
      · cases first

/-- A part begins with the characters of the set that stands first, perhaps inside groups. -/
theorem begins_of_beginning? (text : Subject) : ∀ (node : Node) {f : Folding} {s : CharSet},
    node.isPlain ascii f = true → node.beginning? = some s → (∃ f, s.isPlain ascii f = true) ∧ node.Begins text s
  | .group index body, f, s, plain, first => by
    obtain ⟨kept, begins⟩ := begins_of_beginning? text body plain first
    refine ⟨kept, fun st st' listed => ?_⟩
    obtain ⟨inner, way, -⟩ := List.mem_map.mp listed
    exact begins (st.openGroup index) inner way
  | .scoped body, f, s, plain, first => by
    rw [isPlain, Bool.or_eq_true, Bool.or_eq_true] at plain
    rcases plain with (caseful | ascii) | unicode
    · exact begins_of_beginning? text body caseful first
    · exact begins_of_beginning? text body ascii first
    · exact begins_of_beginning? text body unicode first
  | .seq a b, f, s, plain, first => by
    rw [isPlain, Bool.and_eq_true] at plain
    rw [beginning?] at first
    split at first
    · next blank =>
      obtain ⟨kept, begins⟩ := begins_of_beginning? text b plain.2 first
      exact ⟨kept, begins_seq_blank blank begins⟩
    · obtain ⟨kept, begins⟩ := begins_of_beginning? text a plain.1 first
      exact ⟨kept, begins.seq b⟩
  | .set t, f, s, plain, first => by
    obtain ⟨kept, begins⟩ := begins_of_first? text (.set t) plain first
    exact ⟨⟨f, kept⟩, begins⟩
  | .alt a b, f, s, plain, first => by
    obtain ⟨kept, begins⟩ := begins_of_first? text (.alt a b) plain first
    exact ⟨⟨f, kept⟩, begins⟩

end Node

/-- Looking for the first characters of matches passes none of them over, where all classes are over the
same characters as the whole pattern. -/
theorem leftmost_of_isPlain {f : Folding} (plain : p.node.isPlain p.ascii f = true) (text : Subject) : p.Leftmost text := by
  refine leftmost_iff.mpr fun pos passed => ?_
  rw [mayBegin] at passed
  split at passed
  · next s opening =>
    obtain ⟨first, begin, sieved⟩ := Option.bind_eq_some_iff.mp opening
    obtain ⟨⟨g, kept⟩, begins⟩ := Node.begins_of_beginning? text p.node plain begin
    have same := first.sieve?_of_isPlain kept sieved
    rw [ends, List.map_eq_nil_iff, List.eq_nil_iff_forall_not_mem]
    intro st way
    obtain ⟨c, there, held⟩ := begins _ st way
    have here : text[pos]? = some c := there
    rw [here, Option.any_some, same, held] at passed
    cases passed
  · cases passed

/-- A letter that is none in ASCII: there is a match, but the search looks for other characters. -/
example : (read "((?a:\\W))").toOption.map (fun p => (p.end? #['é'] 0, p.ends #['é'] 0)) = some (none, [1]) := by
  decide +kernel

end TextClassifier.Pattern
