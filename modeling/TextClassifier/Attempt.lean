/-!
# Attempts

What a longer task reports while it runs, and how it ends. Records are kept in the order in which
they were written, also those before a failure. The result of an attempt does not depend on its
records: results compose as if nothing were written (`result_bind`).
-/
namespace TextClassifier

/-- The importance of a record. -/
inductive Level where
  | debug
  | info
  | warning
  | error
  deriving DecidableEq, Repr

namespace Level

def name : Level → String
  | .debug => "DEBUG"
  | .info => "INFO"
  | .warning => "WARNING"
  | .error => "ERROR"

def ofName? (name : String) : Option Level :=
  [.debug, .info, .warning, .error].find? fun l => l.name == name

/-- The order of importance. -/
def rank : Level → Nat
  | .debug => 10
  | .info => 20
  | .warning => 30
  | .error => 40

end Level

/-- A record in the log. -/
structure Record where
  level : Level
  text : String
  deriving DecidableEq, Repr

/-- The end of a task, and what it has reported. -/
structure Attempt (ε α : Type) where
  result : Except ε α
  log : List Record

section
variable {ε ε' α β : Type}

theorem bind_ok_iff {a : Except ε α} {f : α → Except ε β} {y : β} :
    (a >>= f) = .ok y ↔ ∃ x, a = .ok x ∧ f x = .ok y := by
  cases a with
  | error e => simp [bind, Except.bind]
  | ok x => simp [bind, Except.bind]

theorem exists_bind_ok_iff {a : Except ε α} {f : α → Except ε β} :
    (∃ y, (a >>= f) = .ok y) ↔ ∃ x, a = .ok x ∧ ∃ y, f x = .ok y := by
  simp only [bind_ok_iff]
  constructor
  · rintro ⟨y, x, here, there⟩
    exact ⟨x, here, y, there⟩
  · rintro ⟨x, here, y, there⟩
    exact ⟨y, x, here, there⟩

theorem bind_error_iff {a : Except ε α} {f : α → Except ε β} {e : ε} :
    (a >>= f) = .error e ↔ a = .error e ∨ ∃ x, a = .ok x ∧ f x = .error e := by
  cases a with
  | error cause => simp [bind, Except.bind]
  | ok x => simp [bind, Except.bind]

theorem mapError_ok_iff {a : Except ε α} {f : ε → ε'} {x : α} :
    a.mapError f = .ok x ↔ a = .ok x := by
  cases a with
  | error e =>
    show Except.error (f e) = .ok x ↔ _
    simp
  | ok y =>
    show Except.ok y = .ok x ↔ _
    simp

theorem mapError_error_iff {a : Except ε α} {f : ε → ε'} {e : ε'} :
    a.mapError f = .error e ↔ ∃ cause, a = .error cause ∧ f cause = e := by
  cases a with
  | error cause =>
    show Except.error (f cause) = .error e ↔ _
    simp
  | ok x =>
    show Except.ok x = .error e ↔ _
    simp

theorem map_ok_iff {a : Except ε α} {f : α → β} {y : β} : a.map f = .ok y ↔ ∃ x, a = .ok x ∧ f x = y := by
  cases a with
  | error e =>
    show Except.error e = .ok y ↔ _
    simp
  | ok x =>
    show Except.ok (f x) = .ok y ↔ _
    simp

theorem map_error_iff {a : Except ε α} {f : α → β} {e : ε} : a.map f = .error e ↔ a = .error e := by
  cases a with
  | error cause =>
    show Except.error cause = .error e ↔ _
    simp
  | ok x =>
    show Except.ok (f x) = .error e ↔ _
    simp

theorem exists_ok {r : Except ε α} (succeeds : r.isOk = true) : ∃ x, r = .ok x := by
  cases r with
  | error e => cases succeeds
  | ok x => exact ⟨x, rfl⟩

/-- What a computation finds out about a result shows that there is one. -/
theorem exists_ok_of_map {r : Except ε α} {f : α → β} {y : β} (computed : r.toOption.map f = some y) :
    ∃ x, r = .ok x ∧ f x = y := by
  cases r with
  | error e => cases computed
  | ok x => exact ⟨x, rfl, Option.some.inj computed⟩

/-! ## Traversals -/

theorem mem_of_mapM {f : α → Except ε β} {xs : List α} {ys : List β}
    (ran : xs.mapM f = .ok ys) : ∀ y ∈ ys, ∃ x ∈ xs, f x = .ok y := by
  induction xs generalizing ys with
  | nil =>
    cases ran
    simp
  | cons x rest ih =>
    rw [List.mapM_cons, bind_ok_iff] at ran
    obtain ⟨y, first, ran⟩ := ran
    obtain ⟨later, tail, ran⟩ := bind_ok_iff.mp ran
    cases ran
    intro z member
    rcases List.mem_cons.mp member with rfl | member
    · exact ⟨x, List.mem_cons_self, first⟩
    · obtain ⟨w, listed, done⟩ := ih tail z member
      exact ⟨w, List.mem_cons_of_mem _ listed, done⟩

/-- What every item keeps, a traversal keeps. -/
theorem map_of_mapM {γ : Type} {f : α → Except ε β} {source : α → γ} {view : β → γ}
    (keeps : ∀ x y, f x = .ok y → view y = source x) {xs : List α} {ys : List β} (ran : xs.mapM f = .ok ys) :
    ys.map view = xs.map source := by
  induction xs generalizing ys with
  | nil =>
    cases ran
    rfl
  | cons x rest ih =>
    rw [List.mapM_cons, bind_ok_iff] at ran
    obtain ⟨y, first, ran⟩ := ran
    obtain ⟨later, tail, ran⟩ := bind_ok_iff.mp ran
    cases ran
    rw [List.map_cons, List.map_cons, keeps x y first, ih tail]

theorem mapM_ok {f : α → Except ε β} {g : α → β} {xs : List α} (runs : ∀ x ∈ xs, f x = .ok (g x)) :
    xs.mapM f = .ok (xs.map g) := by
  induction xs with
  | nil => rfl
  | cons x rest ih =>
    have first := runs x List.mem_cons_self
    have later := ih fun y member => runs y (List.mem_cons_of_mem _ member)
    rw [List.mapM_cons, first, later]
    rfl

theorem ok_of_mapM {f : α → Except ε β} {xs : List α} {ys : List β} (ran : xs.mapM f = .ok ys) :
    ∀ x ∈ xs, ∃ y, f x = .ok y := by
  induction xs generalizing ys with
  | nil => exact List.forall_mem_nil _
  | cons x rest ih =>
    rw [List.mapM_cons, bind_ok_iff] at ran
    obtain ⟨y, first, ran⟩ := ran
    obtain ⟨later, tail, -⟩ := bind_ok_iff.mp ran
    exact List.forall_mem_cons.mpr ⟨⟨y, first⟩, ih tail⟩

/-- A traversal fails as one of its items does. -/
theorem exists_of_mapM_error {f : α → Except ε β} {xs : List α} {e : ε} (failed : xs.mapM f = .error e) :
    ∃ x ∈ xs, f x = .error e := by
  induction xs with
  | nil => cases failed
  | cons x rest ih =>
    rw [List.mapM_cons] at failed
    cases first : f x with
    | error cause =>
      rw [first] at failed
      cases failed
      exact ⟨x, List.mem_cons_self, first⟩
    | ok y =>
      cases tail : rest.mapM f with
      | error cause =>
        rw [first, tail] at failed
        cases failed
        obtain ⟨z, listed, failed⟩ := ih tail
        exact ⟨z, List.mem_cons_of_mem _ listed, failed⟩
      | ok ys =>
        rw [first, tail] at failed
        cases failed

/-- A traversal succeeds exactly if all items do. -/
theorem exists_mapM_iff {f : α → Except ε β} {xs : List α} :
    (∃ ys, xs.mapM f = .ok ys) ↔ ∀ x ∈ xs, ∃ y, f x = .ok y := by
  constructor
  · rintro ⟨ys, ran⟩
    exact ok_of_mapM ran
  · intro each
    cases ran : xs.mapM f with
    | ok ys => exact ⟨ys, rfl⟩
    | error e =>
      obtain ⟨x, listed, failed⟩ := exists_of_mapM_error ran
      obtain ⟨y, done⟩ := each x listed
      rw [failed] at done
      cases done

/-- A traversal stops at the first item that fails. -/
theorem mapM_error {f : α → Except ε β} {front back : List α} {x : α} {e : ε}
    (before : ∀ x ∈ front, ∃ y, f x = .ok y) (failed : f x = .error e) :
    (front ++ x :: back).mapM f = .error e := by
  induction front with
  | nil =>
    rw [List.nil_append, List.mapM_cons, failed]
    rfl
  | cons y front ih =>
    obtain ⟨⟨z, here⟩, later⟩ := List.forall_mem_cons.mp before
    rw [List.cons_append, List.mapM_cons, here, ih later]
    rfl

/-- A traversal that fails stops at one item, before which all succeed. -/
theorem exists_first_of_mapM_error {f : α → Except ε β} {xs : List α} {e : ε} (failed : xs.mapM f = .error e) :
    ∃ front x back, xs = front ++ x :: back ∧ (∀ earlier ∈ front, ∃ y, f earlier = .ok y) ∧ f x = .error e := by
  induction xs with
  | nil => cases failed
  | cons x rest ih =>
    rw [List.mapM_cons, bind_error_iff] at failed
    rcases failed with here | ⟨y, here, failed⟩
    · exact ⟨[], x, rest, rfl, List.forall_mem_nil _, here⟩
    · rcases bind_error_iff.mp failed with later | ⟨ys, -, failed⟩
      · obtain ⟨front, z, back, rfl, before, stops⟩ := ih later
        exact ⟨x :: front, z, back, rfl, List.forall_mem_cons.mpr ⟨⟨y, here⟩, before⟩, stops⟩
      · cases failed

/-- What every item is read back from, a list is read back from. -/
theorem mapM_map_ok {f : β → Except ε α} {g : α → β} {xs : List α} (back : ∀ x ∈ xs, f (g x) = .ok x) :
    (xs.map g).mapM f = .ok xs := by
  rw [List.mapM_map]
  exact (mapM_ok back).trans (congrArg Except.ok (List.map_id xs))

end

namespace Attempt
variable {ε ε' α β : Type}

/-- A result without records. -/
def of (result : Except ε α) : Attempt ε α := ⟨result, []⟩

/-- A record. -/
def report (level : Level) (text : String) : Attempt ε Unit := ⟨.ok (), [⟨level, text⟩]⟩

/-- One task after another that succeeds. -/
def bind (a : Attempt ε α) (f : α → Attempt ε β) : Attempt ε β :=
  match a.result with
  | .ok x => ⟨(f x).result, a.log ++ (f x).log⟩
  | .error e => ⟨.error e, a.log⟩

instance : Monad (Attempt ε) where
  pure x := of (.ok x)
  bind := bind

/-- An attempt with its error seen as another. -/
def mapError (f : ε → ε') (a : Attempt ε α) : Attempt ε' α := ⟨a.result.mapError f, a.log⟩

@[simp] theorem result_of (r : Except ε α) : (of r).result = r := rfl

@[simp] theorem result_bind (a : Attempt ε α) (f : α → Attempt ε β) :
    (a >>= f).result = a.result >>= fun x => (f x).result := by
  show (a.bind f).result = a.result.bind _
  unfold bind Except.bind
  cases a.result <;> rfl

@[simp] theorem result_mapError (f : ε → ε') (a : Attempt ε α) :
    (a.mapError f).result = a.result.mapError f := rfl

end Attempt
end TextClassifier
