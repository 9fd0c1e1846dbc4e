import Mathlib.Data.List.Induction
import TextClassifier.Attempt
import TextClassifier.Proofs.JsonScalars
import TextClassifier.Proofs.JsonStrings

/-!
# Reading JSON that has been written

A value is written as a text that is read as the same value again (`read_write`). Its integers must not
have more digits than are read, its objects must have each key once (`Value.Tidy`), and its numbers must
be read back one by one (`ReadsBack`).
-/
namespace TextClassifier.Json
open TextClassifier

namespace Value

/-! ## Values that a text can hold -/

mutual

/-- A value and all values in it. -/
def parts : Value → List Value
  | .array items => .array items :: itemParts items
  | .object members => .object members :: memberParts members
  | v => [v]

def itemParts : List Value → List Value
  | [] => []
  | v :: rest => parts v ++ itemParts rest

def memberParts : List (String × Value) → List Value
  | [] => []
  | (_, v) :: rest => parts v ++ memberParts rest

end

/-- An object has each key once, and an integer not more digits than are read. -/
def Fits : Value → Prop
  | .object members => (members.map (·.1)).Nodup
  | .int n => (Number.natDigits n.natAbs).length ≤ Number.mostDigits
  | _ => True

/-- A text can hold a value and all that is in it. -/
def Tidy (v : Value) : Prop := ∀ part ∈ v.parts, part.Fits

/-- A number is written as a text that is read as the same number. There is one value that is read as no
number. -/
def ReadsBack (x : Float) : Prop := Reader.read (Writer.write (.float x)) = .ok (.float x)

/-- A text can hold a value, with all its numbers. -/
def Writable (v : Value) : Prop := v.Tidy ∧ ∀ x, .float x ∈ v.parts → ReadsBack x

/-! ## What is in a value -/

theorem mem_itemParts {part : Value} {vs : List Value} : part ∈ itemParts vs ↔ ∃ v ∈ vs, part ∈ v.parts := by
  induction vs with
  | nil => simp [itemParts]
  | cons v vs ih => simp [itemParts, ih]

theorem mem_memberParts {part : Value} {ms : List (String × Value)} :
    part ∈ memberParts ms ↔ ∃ m ∈ ms, part ∈ m.2.parts := by
  induction ms with
  | nil => simp [memberParts]
  | cons m ms ih =>
    obtain ⟨k, v⟩ := m
    simp [memberParts, ih]

theorem parts_scalar {v : Value} (flat : v.isScalar = true) : v.parts = [v] := by
  cases v with
  | array vs => cases flat
  | object ms => cases flat
  | _ => rfl

theorem tidy_of_fits {v : Value} (flat : v.isScalar = true) (fits : v.Fits) : v.Tidy := by
  rw [Tidy, parts_scalar flat]
  simpa using fits

theorem tidy_array_iff {vs : List Value} : (array vs).Tidy ↔ ∀ v ∈ vs, v.Tidy := by
  simp only [Tidy, parts, List.mem_cons, mem_itemParts]
  constructor
  · exact fun tidy v listed part inside => tidy part (.inr ⟨v, listed, inside⟩)
  · rintro each part (rfl | ⟨v, listed, inside⟩)
    · trivial
    · exact each v listed part inside

theorem tidy_object_iff {ms : List (String × Value)} :
    (object ms).Tidy ↔ (ms.map (·.1)).Nodup ∧ ∀ m ∈ ms, m.2.Tidy := by
  simp only [Tidy, parts, List.mem_cons, mem_memberParts]
  constructor
  · exact fun tidy => ⟨tidy _ (.inl rfl), fun m listed part inside => tidy part (.inr ⟨m, listed, inside⟩)⟩
  · rintro ⟨distinct, each⟩ part (rfl | ⟨m, listed, inside⟩)
    · exact distinct
    · exact each m listed part inside

theorem writable_scalar {v : Value} (flat : v.isScalar = true) (fits : v.Fits)
    (number : ∀ x, v = .float x → ReadsBack x) : v.Writable := by
  refine ⟨tidy_of_fits flat fits, fun x inside => number x ?_⟩
  rw [parts_scalar flat, List.mem_singleton] at inside
  exact inside.symm

theorem writable_str (s : String) : (str s).Writable := writable_scalar rfl trivial nofun

theorem writable_array {vs : List Value} (each : ∀ v ∈ vs, v.Writable) : (array vs).Writable := by
  refine ⟨tidy_array_iff.mpr fun v listed => (each v listed).1, fun x inside => ?_⟩
  rw [parts, List.mem_cons, mem_itemParts] at inside
  rcases inside with same | ⟨v, listed, inside⟩
  · cases same
  · exact (each v listed).2 x inside

theorem writable_object {ms : List (String × Value)} (distinct : (ms.map (·.1)).Nodup)
    (each : ∀ m ∈ ms, m.2.Writable) : (object ms).Writable := by
  refine ⟨tidy_object_iff.mpr ⟨distinct, fun m listed => (each m listed).1⟩, fun x inside => ?_⟩
  rw [parts, List.mem_cons, mem_memberParts] at inside
  rcases inside with same | ⟨m, listed, inside⟩
  · cases same
  · exact (each m listed).2 x inside

theorem Writable.item {v : Value} {vs : List Value} (writable : (array vs).Writable) (listed : v ∈ vs) :
    v.Writable := by
  refine ⟨tidy_array_iff.mp writable.1 v listed, fun x inside => writable.2 x ?_⟩
  rw [parts, List.mem_cons, mem_itemParts]
  exact .inr ⟨v, listed, inside⟩

theorem Writable.member {m : String × Value} {ms : List (String × Value)} (writable : (object ms).Writable)
    (listed : m ∈ ms) : m.2.Writable := by
  refine ⟨(tidy_object_iff.mp writable.1).2 m listed, fun x inside => writable.2 x ?_⟩
  rw [parts, List.mem_cons, mem_memberParts]
  exact .inr ⟨m, listed, inside⟩

theorem Writable.keys {ms : List (String × Value)} (writable : (object ms).Writable) :
    (ms.map (·.1)).Nodup := (tidy_object_iff.mp writable.1).1

theorem Writable.digits {n : Int} (writable : (int n).Writable) :
    (Number.natDigits n.natAbs).length ≤ Number.mostDigits := writable.1 (int n) (by simp [parts])

theorem Writable.float {x : Float} (writable : (float x).Writable) : ReadsBack x :=
  writable.2 x (by simp [parts])

/-! ## Members under distinct keys -/

theorem insert_of_notMem {key : String} {ms : List (String × Value)} (new : key ∉ ms.map (·.1)) (v : Value) :
    insert key v ms = ms ++ [(key, v)] := by
  induction ms with
  | nil => rfl
  | cons m ms ih =>
    obtain ⟨k, w⟩ := m
    rw [List.map_cons, List.mem_cons, not_or] at new
    rw [insert, if_neg (Ne.symm new.1), ih new.2, List.cons_append]

/-- Members whose keys are distinct are all kept. -/
theorem ofMembers_of_nodup {ms : List (String × Value)} (distinct : (ms.map (·.1)).Nodup) : ofMembers ms = ms := by
  induction ms using List.reverseRecOn with
  | nil => rfl
  | append_singleton ms m ih =>
    rw [List.map_append, List.nodup_append] at distinct
    have new : m.1 ∉ ms.map (·.1) := fun listed => distinct.2.2 _ listed m.1 (by simp) rfl
    have kept := ih distinct.1
    rw [ofMembers] at kept
    rw [ofMembers, List.foldl_append, kept]
    exact insert_of_notMem new m.2

end Value

namespace Reader
variable {s rest : List Char}

/-! ## Blanks -/

theorem skipBlanks_append (blank : ∀ c ∈ s, isBlank c = true) (rest : List Char) :
    skipBlanks (s ++ rest) = skipBlanks rest := List.dropWhile_append_of_pos blank

theorem skipBlanks_cons {c : Char} (visible : isBlank c = false) (rest : List Char) :
    skipBlanks (c :: rest) = c :: rest := by simp [skipBlanks, visible]

theorem isBlank_newline (depth : Nat) : ∀ c ∈ Writer.newline depth, isBlank c = true := by
  intro c listed
  rcases List.mem_cons.mp listed with rfl | blank
  · decide
  · rw [List.eq_of_mem_replicate blank]
    decide

theorem skipBlanks_newline (depth : Nat) (rest : List Char) :
    skipBlanks (Writer.newline depth ++ rest) = skipBlanks rest := skipBlanks_append (isBlank_newline depth) rest

theorem isBlank_visible {c : Char} (visible : Number.Visible c) : isBlank c = false := by
  have other : ∀ d, ¬ Number.Visible d → c ≠ d := by
    rintro d no rfl
    exact no visible
  have blanks : c ≠ ' ' ∧ c ≠ '\t' ∧ c ≠ '\n' ∧ c ≠ '\r' :=
    ⟨other _ (by decide), other _ (by decide), other _ (by decide), other _ (by decide)⟩
  simp [isBlank, blanks]

theorem skipBlanks_visible (visible : ∀ c ∈ s, Number.Visible c) : skipBlanks s = s := by
  cases s with
  | nil => rfl
  | cons c s => exact skipBlanks_cons (isBlank_visible (visible c List.mem_cons_self)) s

/-! ## Numbers -/

/-- A number is only read where a scalar is. -/
theorem scalar_of_value {fuel : Nat} {y : Float} (read : value (fuel + 1) s = .ok (.float y, rest)) :
    scalar s = .ok (.float y, rest) := by
  rw [value.eq_def] at read
  dsimp only at read
  split at read
  · split at read
    · cases read
    · cases read
  · split at read
    · cases read
    · obtain ⟨result, -, same⟩ := map_ok_iff.mp read
      cases same
  · split at read
    · cases read
    · obtain ⟨result, -, same⟩ := map_ok_iff.mp read
      cases same
  · exact read

theorem visible_number (x : Float) : ∀ c ∈ (Writer.number x).toList, Number.Visible c :=
  Number.visible_render (Number.forall_of_all (by decide)) (Number.forall_of_all (by decide)) x

/-- A number that is read back by itself is all that is read. -/
theorem scalar_number {x : Float} (back : Value.ReadsBack x) :
    scalar (Writer.number x).toList = .ok (.float x, []) := by
  have visible := visible_number x
  rw [Value.ReadsBack, read, Writer.write, Writer.value, skipBlanks_visible visible] at back
  split at back
  · cases back
  · rename_i v behind found
    split at back
    · rename_i blank
      cases back
      have scalar_read := scalar_of_value found
      have left := (scalar_suffix scalar_read).subset
      rw [skipBlanks_visible fun c member => visible c (left member), List.isEmpty_iff] at blank
      rw [scalar_read, blank]
    · cases back

/-! ## Arrays and objects -/

/-- The items behind one that has been read. -/
def itemsBehind (fuel : Nat) (s : List Char) : Except Defect (List Value × List Char) :=
  match skipBlanks s with
  | ']' :: rest => .ok ([], rest)
  | ',' :: rest => items fuel (skipBlanks rest)
  | _ => .error .malformed

theorem itemsBehind_comma (fuel : Nat) : itemsBehind fuel (',' :: s) = items fuel (skipBlanks s) := rfl

theorem items_eq (fuel : Nat) {v : Value} (read : value fuel s = .ok (v, rest)) :
    items (fuel + 1) s = (itemsBehind fuel rest).map fun (vs, behind) => (v :: vs, behind) := by
  rw [items, read, itemsBehind]
  dsimp only
  rcases skipBlanks rest with _ | ⟨c, text⟩
  · rfl
  · by_cases close : c = ']'
    · subst close
      rfl
    · by_cases comma : c = ','
      · subst comma
        rfl
      · simp [close, comma, Except.map]

/-- The members behind one that has been read. -/
def membersBehind (fuel : Nat) (s : List Char) : Except Defect (List (String × Value) × List Char) :=
  match skipBlanks s with
  | '\x7d' :: rest => .ok ([], rest)
  | ',' :: rest => members fuel (skipBlanks rest)
  | _ => .error .malformed

theorem membersBehind_comma (fuel : Nat) : membersBehind fuel (',' :: s) = members fuel (skipBlanks s) := rfl

/-- A member is read, and then what is behind it. -/
theorem members_eq (fuel : Nat) {key : String} {v : Value} {colon text : List Char}
    (named : string? s = some (key, colon)) (between : skipBlanks colon = ':' :: text)
    (read : value fuel (skipBlanks text) = .ok (v, rest)) :
    members (fuel + 1) ('"' :: s) = (membersBehind fuel rest).map fun (ms, behind) => ((key, v) :: ms, behind) := by
  rw [members, named, membersBehind]
  simp only [between, read]
  rcases skipBlanks rest with _ | ⟨c, text⟩
  · rfl
  · by_cases close : c = '\x7d'
    · subst close
      rfl
    · by_cases comma : c = ','
      · subst comma
        rfl
      · simp [close, comma, Except.map]

theorem value_array (fuel : Nat) {c : Char} {text : List Char} (begins : skipBlanks s = c :: text) (other : c ≠ ']') :
    value (fuel + 1) ('[' :: s) = (items fuel (skipBlanks s)).map fun (vs, rest) => (.array vs, rest) := by
  rw [value, begins]
  split
  · rename_i same
    exact absurd (List.cons.inj same).1 other
  · rfl

theorem value_object (fuel : Nat) {c : Char} {text : List Char} (begins : skipBlanks s = c :: text)
    (other : c ≠ '\x7d') : value (fuel + 1) ('\x7b' :: s) =
      (members fuel (skipBlanks s)).map fun (ms, rest) => (.object (Value.ofMembers ms), rest) := by
  rw [value, begins]
  split
  · rename_i same
    exact absurd (List.cons.inj same).1 other
  · rfl

/-! ## Written values -/

theorem value_scalar {v : Value} (alone : scalar s = .ok (v, [])) (ends : Ends rest) {fuel : Nat}
    (enough : 2 * s.length ≤ fuel) : value fuel (s ++ rest) = .ok (v, rest) := by
  obtain ⟨c, text, rfl, -⟩ := scalar_head alone
  obtain ⟨fuel, rfl⟩ : ∃ n, fuel = n + 1 := ⟨fuel - 1, by rw [List.length_cons] at enough; omega⟩
  refine value_of_scalar ?_ fuel
  rw [scalar_append ends, alone]
  rfl

/-- What a written value begins with: no blank and no bracket that closes. -/
theorem value_head {v : Value} (writable : v.Writable) (depth : Nat) :
    ∃ c text, Writer.value depth v = c :: text ∧ isBlank c = false ∧ c ≠ ']' := by
  have of_scalar : ∀ {s : List Char} {r : Value × List Char}, scalar s = .ok r →
      ∃ c text, s = c :: text ∧ isBlank c = false ∧ c ≠ ']' := by
    intro s r read
    obtain ⟨c, text, rfl, begins⟩ := scalar_head read
    obtain ⟨-, -, bracket, -, visible⟩ := beginsScalar_ne begins
    exact ⟨c, text, rfl, visible, bracket⟩
  cases v with
  | null => exact ⟨'n', _, rfl, rfl, by decide⟩
  | bool b => cases b <;> exact ⟨_, _, rfl, rfl, by decide⟩
  | int n => exact of_scalar (scalar_intText writable.digits)
  | float x => exact of_scalar (scalar_number writable.float)
  | str s => exact ⟨'"', _, rfl, rfl, by decide⟩
  | array vs => cases vs <;> exact ⟨'[', _, rfl, rfl, by decide⟩
  | object ms => rcases ms with _ | ⟨⟨k, v⟩, ms⟩ <;> exact ⟨'\x7b', _, rfl, rfl, by decide⟩

theorem skipBlanks_write {v : Value} (writable : v.Writable) (depth : Nat) (rest : List Char) :
    skipBlanks (Writer.value depth v ++ rest) = Writer.value depth v ++ rest := by
  obtain ⟨c, text, written, visible, -⟩ := value_head writable depth
  rw [written, List.cons_append, skipBlanks_cons visible]

theorem ends_items (depth outer : Nat) (vs : List Value) (rest : List Char) :
    Ends (Writer.items depth vs ++ (Writer.newline outer ++ rest)) := by
  cases vs with
  | nil => exact ends_newline
  | cons v vs => exact ends_comma

theorem ends_members (depth outer : Nat) (ms : List (String × Value)) (rest : List Char) :
    Ends (Writer.members depth ms ++ (Writer.newline outer ++ rest)) := by
  cases ms with
  | nil => exact ends_newline
  | cons m ms => exact ends_comma

theorem skipBlanks_string (k : String) (rest : List Char) :
    skipBlanks (Writer.string k ++ rest) = Writer.string k ++ rest := skipBlanks_cons rfl _

/-- A member is read from its key on, if its value is. -/
theorem members_write {fuel : Nat} {k : String} {v : Value} (writable : v.Writable) (depth : Nat)
    (read : value fuel (Writer.value depth v ++ rest) = .ok (v, rest)) :
    members (fuel + 1) (Writer.string k ++ ([':', ' '] ++ (Writer.value depth v ++ rest))) =
      (membersBehind fuel rest).map fun (ms, behind) => ((k, v) :: ms, behind) := by
  have text : Writer.string k ++ ([':', ' '] ++ (Writer.value depth v ++ rest)) =
      '"' :: (k.toList.flatMap Writer.escape ++ '"' :: ':' :: ' ' :: (Writer.value depth v ++ rest)) := by
    simp [Writer.string]
  rw [text]
  refine members_eq fuel (string?_string k _) (skipBlanks_cons rfl _) ?_
  rw [show skipBlanks (' ' :: (Writer.value depth v ++ rest)) = Writer.value depth v ++ rest from
    skipBlanks_write writable depth rest, read]

mutual

-- The induction is on the value. One level of it takes two steps of fuel, one for the value and one for the
-- item or member, and at least the two characters of its brackets or its comma: twice the length of the text
-- is always enough.

/-- A written value is read where it ends. -/
theorem value_write (v : Value) (writable : v.Writable) (depth : Nat) {rest : List Char} (ends : Ends rest)
    {fuel : Nat} (enough : 2 * (Writer.value depth v).length ≤ fuel) :
    value fuel (Writer.value depth v ++ rest) = .ok (v, rest) := by
  match v with
  | .null => exact value_scalar rfl ends enough
  | .bool true => exact value_scalar rfl ends enough
  | .bool false => exact value_scalar rfl ends enough
  | .int n => exact value_scalar (scalar_intText writable.digits) ends enough
  | .float x => exact value_scalar (scalar_number writable.float) ends enough
  | .str s =>
    simp only [Writer.value, Writer.string, List.length_append, List.length_cons] at enough
    obtain ⟨fuel, rfl⟩ : ∃ n, fuel = n + 1 := ⟨fuel - 1, by omega⟩
    have text : Writer.string s ++ rest = '"' :: (s.toList.flatMap Writer.escape ++ '"' :: rest) := by
      simp [Writer.string]
    rw [Writer.value, text, value, string?_string]
  | .array [] =>
    obtain ⟨fuel, rfl⟩ : ∃ n, fuel = n + 1 := ⟨fuel - 1, by simp [Writer.value] at enough; omega⟩
    rfl
  | .array (v :: vs) =>
    simp only [Writer.value, List.length_append, List.length_cons] at enough
    obtain ⟨fuel, rfl⟩ : ∃ n, fuel = n + 2 := ⟨fuel - 2, by omega⟩
    have first := value_write v (writable.item List.mem_cons_self) (depth + 1)
      (ends_items (depth + 1) depth vs (']' :: rest)) (by omega : _ ≤ fuel)
    have later := itemsBehind_write vs (fun w listed => writable.item (List.mem_cons_of_mem _ listed)) (depth + 1)
      depth rest (by omega : _ ≤ fuel)
    have text : Writer.value depth (.array (v :: vs)) ++ rest = '[' :: (Writer.newline (depth + 1) ++
        (Writer.value (depth + 1) v ++ (Writer.items (depth + 1) vs ++ (Writer.newline depth ++ ']' :: rest)))) := by
      simp [Writer.value]
    obtain ⟨c, begun, head, visible, other⟩ := value_head (writable.item List.mem_cons_self) (depth + 1)
    have begins := skipBlanks_write (writable.item List.mem_cons_self) (depth + 1)
      (Writer.items (depth + 1) vs ++ (Writer.newline depth ++ ']' :: rest))
    rw [text, value_array (fuel + 1) (by rw [skipBlanks_newline, begins, head]; rfl) other, skipBlanks_newline, begins,
      items_eq fuel first, later]
    rfl
  | .object [] =>
    obtain ⟨fuel, rfl⟩ : ∃ n, fuel = n + 1 := ⟨fuel - 1, by simp [Writer.value] at enough; omega⟩
    rfl
  | .object ((k, v) :: ms) =>
    simp only [Writer.value, List.length_append, List.length_cons] at enough
    obtain ⟨fuel, rfl⟩ : ∃ n, fuel = n + 2 := ⟨fuel - 2, by omega⟩
    have here : v.Writable := writable.member List.mem_cons_self
    have first := value_write v here (depth + 1) (ends_members (depth + 1) depth ms ('\x7d' :: rest))
      (by omega : _ ≤ fuel)
    have later := membersBehind_write ms (fun m listed => writable.member (List.mem_cons_of_mem _ listed)) (depth + 1)
      depth rest (by omega : _ ≤ fuel)
    have text : Writer.value depth (.object ((k, v) :: ms)) ++ rest =
        '\x7b' :: (Writer.newline (depth + 1) ++ (Writer.string k ++ ([':', ' '] ++ (Writer.value (depth + 1) v ++
          (Writer.members (depth + 1) ms ++ (Writer.newline depth ++ '\x7d' :: rest)))))) := by
      simp [Writer.value]
    have begins := skipBlanks_string k ([':', ' '] ++ (Writer.value (depth + 1) v ++
      (Writer.members (depth + 1) ms ++ (Writer.newline depth ++ '\x7d' :: rest))))
    rw [text, value_object (fuel + 1) ((skipBlanks_newline _ _).trans begins) (by decide : '"' ≠ '\x7d'),
      skipBlanks_newline, begins, members_write here (depth + 1) first, later]
    show Except.ok (Value.object (Value.ofMembers ((k, v) :: ms)), rest) = _
    rw [Value.ofMembers_of_nodup writable.keys]

/-- Written items are read up to the bracket. -/
theorem itemsBehind_write (vs : List Value) (writable : ∀ v ∈ vs, v.Writable) (depth outer : Nat) (rest : List Char)
    {fuel : Nat} (enough : 2 * (Writer.items depth vs).length ≤ fuel) :
    itemsBehind fuel (Writer.items depth vs ++ (Writer.newline outer ++ ']' :: rest)) = .ok (vs, rest) := by
  match vs with
  | [] =>
    rw [Writer.items, List.nil_append, itemsBehind, skipBlanks_newline]
    rfl
  | v :: vs =>
    simp only [Writer.items, List.length_append, List.length_cons] at enough
    obtain ⟨fuel, rfl⟩ : ∃ n, fuel = n + 1 := ⟨fuel - 1, by omega⟩
    have here := writable v List.mem_cons_self
    have first := value_write v here depth (ends_items depth outer vs (']' :: rest)) (by omega : _ ≤ fuel)
    have later := itemsBehind_write vs (fun w listed => writable w (List.mem_cons_of_mem _ listed)) depth outer rest
      (by omega : _ ≤ fuel)
    have text : Writer.items depth (v :: vs) ++ (Writer.newline outer ++ ']' :: rest) = ',' :: (Writer.newline depth ++
        (Writer.value depth v ++ (Writer.items depth vs ++ (Writer.newline outer ++ ']' :: rest)))) := by
      simp [Writer.items]
    rw [text, itemsBehind_comma, skipBlanks_newline, skipBlanks_write here, items_eq fuel first, later]
    rfl

/-- Written members are read up to the brace. -/
theorem membersBehind_write (ms : List (String × Value)) (writable : ∀ m ∈ ms, m.2.Writable) (depth outer : Nat)
    (rest : List Char) {fuel : Nat} (enough : 2 * (Writer.members depth ms).length ≤ fuel) :
    membersBehind fuel (Writer.members depth ms ++ (Writer.newline outer ++ '\x7d' :: rest)) = .ok (ms, rest) := by
  match ms with
  | [] =>
    rw [Writer.members, List.nil_append, membersBehind, skipBlanks_newline]
    rfl
  | (k, v) :: ms =>
    simp only [Writer.members, List.length_append, List.length_cons] at enough
    obtain ⟨fuel, rfl⟩ : ∃ n, fuel = n + 1 := ⟨fuel - 1, by omega⟩
    have here := writable (k, v) List.mem_cons_self
    have first := value_write v here depth (ends_members depth outer ms ('\x7d' :: rest)) (by omega : _ ≤ fuel)
    have later := membersBehind_write ms (fun m listed => writable m (List.mem_cons_of_mem _ listed)) depth outer rest
      (by omega : _ ≤ fuel)
    have text : Writer.members depth ((k, v) :: ms) ++ (Writer.newline outer ++ '\x7d' :: rest) =
        ',' :: (Writer.newline depth ++ (Writer.string k ++ ([':', ' '] ++ (Writer.value depth v ++
          (Writer.members depth ms ++ (Writer.newline outer ++ '\x7d' :: rest)))))) := by
      simp [Writer.members]
    rw [text, membersBehind_comma, skipBlanks_newline, skipBlanks_string, members_write here depth first, later]
    rfl

end

/-- A value that a text can hold is read back from its text. -/
theorem read_write {v : Value} (writable : v.Writable) : read (Writer.write v) = .ok v := by
  have begins := skipBlanks_write writable 0 []
  have whole := value_write v writable 0 ends_nil (Nat.le_add_right (2 * (Writer.value 0 v).length) 2)
  rw [List.append_nil] at begins whole
  rw [read, Writer.write, begins, whole]
  rfl

end Reader
end TextClassifier.Json
