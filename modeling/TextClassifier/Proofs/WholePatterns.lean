import TextClassifier.Attempt
import TextClassifier.Pattern.Reader

/-!
# Whole patterns

What is known at the end of a text decides whether it is a pattern: that nothing is left, the groups that are asked
for by their numbers, and what is switched on for the whole pattern (`readPattern_eq`). Whoever asks for ASCII and
for all scripts at once is refused before anything else is looked at.
-/
namespace TextClassifier.Pattern
namespace Reader
variable {s : String} {tokens : List Token} {node : Node} {q : Progress}

/-- The reader's progress at the end of a text. -/
def progress? (s : String) : Option Progress :=
  (tokens? s.toList).bind fun tokens => (readTokens tokens).toOption.map (·.2)

/-- The groups that a pattern asks for by their numbers. -/
def numbersIn (s : String) : List Nat := ((progress? s).map (·.asked)).getD []

/-- What a pattern switches on for all of it, if it makes settings for all of it. -/
def settingsIn? (s : String) : Option (List Switch) := (progress? s).bind (·.overall)

theorem progress?_eq (listed : tokens? s.toList = some tokens) (read : readTokens tokens = .ok (node, q)) :
    progress? s = some q := by
  rw [progress?, listed, Option.bind_some, read]
  rfl

theorem exists_of_progress? (behind : progress? s = some q) :
    ∃ tokens node, tokens? s.toList = some tokens ∧ readTokens tokens = .ok (node, q) := by
  obtain ⟨tokens, listed, read⟩ := Option.bind_eq_some_iff.mp behind
  cases ran : readTokens tokens with
  | error e =>
    rw [ran] at read
    cases read
  | ok found =>
    rw [ran] at read
    obtain rfl := Option.some.inj read
    exact ⟨tokens, found.1, listed, ran⟩

theorem Progress.has_iff {p : Progress} {w : Switch} : p.has w = true ↔ ∃ on, p.overall = some on ∧ w ∈ on := by
  rw [Progress.has]
  cases p.overall <;> simp

theorem Progress.has_of_unset {p : Progress} (unset : p.overall = none) (w : Switch) : p.has w = false := by
  rw [Progress.has, unset]
  rfl

/-- All of a text is to be over ASCII and over all scripts. -/
def Contradicts (s : String) : Prop := ∃ on, settingsIn? s = some on ∧ .ascii ∈ on ∧ .allScripts ∈ on

theorem contradicts_iff (listed : tokens? s.toList = some tokens) (read : readTokens tokens = .ok (node, q)) :
    Contradicts s ↔ (q.has .ascii && q.has .allScripts) = true := by
  rw [Contradicts, settingsIn?, progress?_eq listed read, Option.bind_some, Bool.and_eq_true, Progress.has_iff,
    Progress.has_iff]
  constructor
  · rintro ⟨on, made, ascii, scripts⟩
    exact ⟨⟨on, made, ascii⟩, on, made, scripts⟩
  · rintro ⟨⟨on, made, ascii⟩, again, same, scripts⟩
    rw [made] at same
    cases same
    exact ⟨on, made, ascii, scripts⟩

/-- What the end of a text decides: whether the settings contradict each other, and whether all references are met. -/
theorem readPattern_eq (read : readTokens tokens = .ok (node, q)) : readPattern tokens =
    if q.has .ascii && q.has .allScripts then .error .contradictory
    else if q.completes node then .ok ⟨node, q.groups.length - 1, q.has .ascii⟩
    else .error .malformed := by
  rw [readPattern, read]
  rfl

end Reader

open Reader

variable {s : String} {p : Pattern}

/-- A pattern is what is read up to the end of its text. -/
theorem read_ok (accepted : read s = .ok p) : ∃ tokens q, tokens? s.toList = some tokens ∧
    readTokens tokens = .ok (p.node, q) ∧ q.completes p.node = true ∧ p.groups = q.groups.length - 1 ∧
    p.ascii = q.has .ascii := by
  rw [read] at accepted
  split at accepted
  · rename_i tokens listed
    cases ran : readTokens tokens with
    | error e =>
      rw [readPattern, ran] at accepted
      cases accepted
    | ok result =>
      obtain ⟨node, q⟩ := result
      rw [readPattern_eq ran] at accepted
      split at accepted
      · cases accepted
      split at accepted
      · rename_i complete
        cases accepted
        exact ⟨tokens, q, listed, ran, complete, rfl, rfl⟩
      · cases accepted
  · cases accepted

end TextClassifier.Pattern
