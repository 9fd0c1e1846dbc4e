import TextClassifier.Package.Descriptor
import TextClassifier.Proofs.InputAcceptance

/-!
# Which process units describe a tokenizer

A process unit describes a tokenizer if it is of the one kind there is, has a pattern, and lists files that all have
names and one of which is a vocabulary. The options are untyped values, of which those that are null, false, zero or
empty count as not given. What is described, and for which of the four reasons there is no description, is said here
without the way in which it is computed (`Describes`, `Undescribed`); that both agree with `Descriptor.ofUnit` is
`ofUnit_result`.
-/
namespace TextClassifier

namespace Json.Value

/-- The values that count as not given. -/
inductive Falsy : Value → Prop
  | null : Falsy .null
  | false : Falsy (.bool false)
  | zero : Falsy (.int 0)
  | zeroFloat {x : Float} (zero : (x == 0) = true) : Falsy (.float x)
  | text : Falsy (.str "")
  | items : Falsy (.array [])
  | members : Falsy (.object [])

/-- A value counts as given unless it is one of those that do not. -/
theorem isPresent_iff (v : Value) : v.isPresent = true ↔ ¬ Falsy v := by
  constructor
  · intro present falsy
    cases falsy with
    | zeroFloat zero => simp [isPresent, bne, zero] at present
    | null | false | zero | text | items | members => simp [isPresent] at present
  · intro given
    cases v with
    | null => exact absurd .null given
    | bool b =>
      cases b with
      | false => exact absurd .false given
      | true => rfl
    | int n =>
      by_cases zero : n = 0
      · subst zero
        exact absurd .zero given
      · simpa [isPresent] using zero
    | float x =>
      have other : ¬ (x == 0) = true := fun zero => given (.zeroFloat zero)
      simpa [isPresent, bne] using other
    | str s =>
      by_cases empty : s = ""
      · subst empty
        exact absurd .text given
      · simpa [isPresent] using empty
    | array items =>
      cases items with
      | nil => exact absurd .items given
      | cons v rest => rfl
    | object members =>
      cases members with
      | nil => exact absurd .members given
      | cons m rest => rfl

end Json.Value

namespace Package
open Json Json.Value

/-! ## Listed files -/

/-- An object with a name that is text. -/
inductive Named : Value → String → Prop
  | object {members : List (String × Value)} {name : String} (named : lookup "name" members = some (.str name)) :
    Named (.object members) name

/-- An object whose type is that of vocabularies, or that has no type. -/
inductive IsVocabulary : Value → Prop
  | typed {members : List (String × Value)} (type : lookup "type" members = some (.str "VOCABULARY")) :
    IsVocabulary (.object members)
  | untyped {members : List (String × Value)} (absent : lookup "type" members = none) : IsVocabulary (.object members)

theorem Named.unique {item : Value} {name other : String} (first : Named item name) (second : Named item other) :
    name = other := by
  obtain ⟨named⟩ := first
  obtain ⟨also⟩ := second
  rw [named] at also
  exact Value.str.inj (Option.some.inj also)

theorem isVocabulary_object_iff {members : List (String × Value)} :
    IsVocabulary (.object members) ↔
      (memberOr (.str AssociatedFile.vocabulary) "type" members).equal (.str AssociatedFile.vocabulary) = true := by
  rw [equal_str_iff, memberOr]
  constructor
  · rintro (type | absent)
    · rw [type]
      rfl
    · rw [absent]
      rfl
  · intro same
    cases found : lookup "type" members with
    | none => exact .untyped found
    | some type =>
      rw [found, Option.getD_some] at same
      subst same
      exact .typed found

/-- The name of the first vocabulary in a list. -/
inductive FirstVocabulary : List Value → String → Prop
  | here {item : Value} {rest : List Value} {name : String} (chosen : IsVocabulary item) (named : Named item name) :
    FirstVocabulary (item :: rest) name
  | later {item : Value} {rest : List Value} {name : String} (other : ¬ IsVocabulary item)
    (first : FirstVocabulary rest name) : FirstVocabulary (item :: rest) name

theorem FirstVocabulary.unique {items : List Value} {name other : String} (first : FirstVocabulary items name)
    (second : FirstVocabulary items other) : name = other := by
  induction first with
  | here chosen named =>
    cases second with
    | here _ also => exact named.unique also
    | later other _ => exact absurd chosen other
  | later unchosen _ ih =>
    cases second with
    | here chosen _ => exact absurd chosen unchosen
    | later _ first => exact ih first

/-- There is a first vocabulary if there is one at all. -/
theorem FirstVocabulary.exists_iff {items : List Value} (named : ∀ item ∈ items, ∃ name, Named item name) :
    (∃ name, FirstVocabulary items name) ↔ ∃ item ∈ items, IsVocabulary item := by
  constructor
  · rintro ⟨name, first⟩
    induction first with
    | here chosen _ => exact ⟨_, List.mem_cons_self, chosen⟩
    | later _ _ ih =>
      obtain ⟨item, listed, chosen⟩ := ih (List.forall_mem_cons.mp named).2
      exact ⟨item, List.mem_cons_of_mem _ listed, chosen⟩
  · intro some_chosen
    induction items with
    | nil => simp at some_chosen
    | cons item rest ih =>
      obtain ⟨⟨name, here⟩, later⟩ := List.forall_mem_cons.mp named
      by_cases chosen : IsVocabulary item
      · exact ⟨name, .here chosen here⟩
      · have elsewhere : ∃ other ∈ rest, IsVocabulary other := by simpa [chosen] using some_chosen
        obtain ⟨name, first⟩ := ih later elsewhere
        exact ⟨name, .later chosen first⟩

namespace Descriptor
theorem listedFile?_eq_some {item : Value} {name : String} {chosen : Bool}
    (listed : listedFile? item = some (name, chosen)) : Named item name ∧ (chosen = true ↔ IsVocabulary item) := by
  unfold listedFile? at listed
  split at listed
  · split at listed
    · rename_i named
      cases listed
      exact ⟨⟨named⟩, isVocabulary_object_iff.symm⟩
    · cases listed
  · cases listed

theorem exists_listedFile? {item : Value} {name : String} (named : Named item name) :
    ∃ chosen, listedFile? item = some (name, chosen) := by
  obtain ⟨named⟩ := named
  simp only [listedFile?, named]
  exact ⟨_, rfl⟩

/-- A list of files is read exactly if they all have names. -/
theorem exists_mapM_listedFile?_iff {items : List Value} :
    (∃ listed, items.mapM listedFile? = some listed) ↔ ∀ item ∈ items, ∃ name, Named item name := by
  induction items with
  | nil => simp
  | cons item rest ih =>
    rw [List.forall_mem_cons, ← ih]
    constructor
    · rintro ⟨listed, read⟩
      rw [List.mapM_cons, Option.bind_eq_bind, Option.bind_eq_some_iff] at read
      obtain ⟨file, here, read⟩ := read
      obtain ⟨files, later, -⟩ := Option.bind_eq_some_iff.mp read
      obtain ⟨named, -⟩ := listedFile?_eq_some here
      exact ⟨⟨file.1, named⟩, files, later⟩
    · rintro ⟨⟨name, named⟩, files, later⟩
      obtain ⟨chosen, here⟩ := exists_listedFile? named
      refine ⟨(name, chosen) :: files, ?_⟩
      rw [List.mapM_cons, here, later]
      rfl

/-- The file that is found is the first vocabulary of the list. -/
theorem find?_listed_iff {items : List Value} {listed : List (String × Bool)} {name : String}
    (read : items.mapM listedFile? = some listed) :
    (∃ chosen, listed.find? (·.2) = some (name, chosen)) ↔ FirstVocabulary items name := by
  induction items generalizing listed with
  | nil =>
    cases read
    constructor
    · rintro ⟨chosen, found⟩
      cases found
    · intro first
      cases first
  | cons item rest ih =>
    rw [List.mapM_cons, Option.bind_eq_bind, Option.bind_eq_some_iff] at read
    obtain ⟨⟨own, vocabulary⟩, here, read⟩ := read
    obtain ⟨files, later, read⟩ := Option.bind_eq_some_iff.mp read
    cases read
    obtain ⟨named, vocabulary_iff⟩ := listedFile?_eq_some here
    cases vocabulary with
    | true =>
      have chosen : IsVocabulary item := vocabulary_iff.mp rfl
      rw [List.find?_cons_of_pos rfl]
      constructor
      · rintro ⟨_, found⟩
        cases found
        exact .here chosen named
      · intro first
        cases first with
        | here _ also => exact ⟨true, by rw [named.unique also]⟩
        | later other _ => exact absurd chosen other
    | false =>
      have other : ¬ IsVocabulary item := fun chosen => by cases vocabulary_iff.mpr chosen
      rw [List.find?_cons_of_neg (by simp), ih later]
      constructor
      · exact .later other
      · intro first
        cases first with
        | here chosen _ => exact absurd chosen other
        | later _ first => exact first

end Descriptor

/-! ## Descriptions -/

namespace ProcessUnit
open Descriptor
variable {u : ProcessUnit} {key : String} {v : Value} {items : List Value}

/-- An option is given with a value. -/
def Holds (u : ProcessUnit) (key : String) (v : Value) : Prop := u.options.get? key = some v ∧ ¬ Falsy v

/-- An option is not given, or its value counts as none. -/
def Lacks (u : ProcessUnit) (key : String) : Prop := ∀ v, u.options.get? key = some v → Falsy v

/-- The files that a unit lists, which may be none. -/
inductive Lists (u : ProcessUnit) : List Value → Prop
  | absent (absent : u.Lacks "vocab_file") : Lists u []
  | array {items : List Value} (given : u.Holds "vocab_file" (.array items)) : Lists u items

/-- What a unit describes: its pattern as it is, and the first of its vocabularies. -/
structure Describes (u : ProcessUnit) (d : Descriptor) : Prop where
  kind : u.kind = .str "RegexTokenizerOptions"
  pattern : u.Holds "delim_regex_pattern" d.pattern
  files : ∃ items, u.Lists items ∧ (∀ item ∈ items, ∃ name, Named item name) ∧ FirstVocabulary items d.vocabularyFile

/-- Why a unit describes nothing; the first reason counts. -/
inductive Undescribed (u : ProcessUnit) : ConfigurationError → Prop
  | kind (other : u.kind ≠ .str "RegexTokenizerOptions") : Undescribed u (.unsupportedTokenizer u.kind)
  | pattern (kind : u.kind = .str "RegexTokenizerOptions") (absent : u.Lacks "delim_regex_pattern") :
    Undescribed u .missingPattern
  | files {pattern files : Value} (kind : u.kind = .str "RegexTokenizerOptions")
    (given : u.Holds "delim_regex_pattern" pattern) (listed : u.Holds "vocab_file" files)
    (malformed : ∀ items, files = .array items → ∃ item ∈ items, ∀ name, ¬ Named item name) :
    Undescribed u (.malformedVocabularyList files)
  | vocabulary {pattern : Value} {items : List Value} (kind : u.kind = .str "RegexTokenizerOptions")
    (given : u.Holds "delim_regex_pattern" pattern) (listed : u.Lists items)
    (named : ∀ item ∈ items, ∃ name, Named item name) (others : ∀ item ∈ items, ¬ IsVocabulary item) :
    Undescribed u .noVocabularyFile

theorem Undescribed.code {cause : ConfigurationError} (undescribed : u.Undescribed cause) :
    cause.code = .metadataInvalidTokenizer := by
  cases undescribed <;> rfl

theorem option?_eq_some_iff : option? u key = some v ↔ u.Holds key v := by
  rw [option?, Option.filter_eq_some_iff, isPresent_iff, Holds]

theorem option?_eq_none_iff : option? u key = none ↔ u.Lacks key := by
  simp only [option?, Option.filter_eq_none_iff, Lacks, isPresent_iff, Classical.not_not]

theorem holds_or_lacks (u : ProcessUnit) (key : String) : (∃ v, u.Holds key v) ∨ u.Lacks key := by
  cases given : option? u key with
  | none => exact .inr (option?_eq_none_iff.mp given)
  | some v => exact .inl ⟨v, option?_eq_some_iff.mp given⟩

theorem kind_iff : TokenizerKind.ofValue? u.kind = some .delimited ↔ u.kind = .str "RegexTokenizerOptions" := by
  rw [TokenizerKind.ofValue?, TokenizerKind.name, ← equal_str_iff]
  by_cases same : u.kind.equal (.str "RegexTokenizerOptions") = true <;> simp [same]

theorem Lists.value (listed : u.Lists items) : (option? u filesOption).getD (.array []) = .array items := by
  cases listed with
  | absent absent =>
    have none : option? u filesOption = none := option?_eq_none_iff.mpr absent
    rw [none, Option.getD_none]
  | array given =>
    have found : option? u filesOption = some (.array items) := option?_eq_some_iff.mpr given
    rw [found, Option.getD_some]

/-! ## The four checks -/

theorem ofUnit_kind (other : u.kind ≠ .str "RegexTokenizerOptions") :
    ofUnit u = .error (.unsupportedTokenizer u.kind) := by
  have unknown : TokenizerKind.ofValue? u.kind = none := by
    cases kind : TokenizerKind.ofValue? u.kind with
    | none => rfl
    | some k => exact absurd (kind_iff.mp kind) other
  rw [ofUnit, unknown]

theorem ofUnit_pattern (kind : u.kind = .str "RegexTokenizerOptions") (absent : u.Lacks "delim_regex_pattern") :
    ofUnit u = .error .missingPattern := by
  have none : option? u patternOption = none := option?_eq_none_iff.mpr absent
  rw [ofUnit, kind_iff.mpr kind, none]

/-- With the kind and the pattern, the list of files decides. -/
theorem ofUnit_listed {pattern files : Value} (kind : u.kind = .str "RegexTokenizerOptions")
    (given : u.Holds "delim_regex_pattern" pattern) (list : (option? u filesOption).getD (.array []) = files) :
    ofUnit u = (do
      let some listed := listedFiles? files | .error (.malformedVocabularyList files)
      let some (name, _) := listed.find? (·.2) | .error .noVocabularyFile
      return ⟨.delimited, pattern, name⟩) := by
  have found : option? u patternOption = some pattern := option?_eq_some_iff.mpr given
  subst list
  rewrite [ofUnit, kind_iff.mpr kind, found]
  rfl

/-- What is no list of files with names is not read. -/
theorem listedFiles?_eq_none {files : Value}
    (malformed : ∀ items, files = .array items → ∃ item ∈ items, ∀ name, ¬ Named item name) :
    listedFiles? files = none := by
  unfold listedFiles?
  split
  · rename_i items
    obtain ⟨item, member, unnamed⟩ := malformed items rfl
    cases read : items.mapM listedFile? with
    | none => rfl
    | some listed =>
      obtain ⟨name, named⟩ := exists_mapM_listedFile?_iff.mp ⟨listed, read⟩ item member
      exact absurd named (unnamed name)
  · rfl

theorem ofUnit_files {pattern files : Value} (kind : u.kind = .str "RegexTokenizerOptions")
    (given : u.Holds "delim_regex_pattern" pattern) (listed : u.Holds "vocab_file" files)
    (malformed : ∀ items, files = .array items → ∃ item ∈ items, ∀ name, ¬ Named item name) :
    ofUnit u = .error (.malformedVocabularyList files) := by
  have found : option? u filesOption = some files := option?_eq_some_iff.mpr listed
  have list : (option? u filesOption).getD (.array []) = files := by rw [found, Option.getD_some]
  rw [ofUnit_listed kind given list, listedFiles?_eq_none malformed]

/-- The vocabulary is the first in a list of files with names. -/
theorem ofUnit_first {pattern : Value} (kind : u.kind = .str "RegexTokenizerOptions")
    (given : u.Holds "delim_regex_pattern" pattern) (listed : u.Lists items)
    (named : ∀ item ∈ items, ∃ name, Named item name) :
    (∃ name, FirstVocabulary items name ∧ ofUnit u = .ok ⟨.delimited, pattern, name⟩) ∨
      (∀ item ∈ items, ¬ IsVocabulary item) ∧ ofUnit u = .error .noVocabularyFile := by
  obtain ⟨files, read⟩ := exists_mapM_listedFile?_iff.mpr named
  have read_list : listedFiles? (.array items) = some files := read
  rw [ofUnit_listed kind given listed.value, read_list]
  cases found : files.find? (·.2) with
  | some file =>
    refine .inl ⟨file.1, (find?_listed_iff read).mp ⟨file.2, found⟩, ?_⟩
    simp only [found]
    rfl
  | none =>
    refine .inr ⟨?_, by simp only [found]⟩
    intro item member chosen
    obtain ⟨name, first⟩ := (FirstVocabulary.exists_iff named).mpr ⟨item, member, chosen⟩
    obtain ⟨own, elsewhere⟩ := (find?_listed_iff read).mpr first
    rw [found] at elsewhere
    cases elsewhere

/-- The unit lists files that all have names, or what it lists is refused. -/
theorem lists_or_malformed (u : ProcessUnit) :
    (∃ items, u.Lists items ∧ ∀ item ∈ items, ∃ name, Named item name) ∨
      ∃ files, u.Holds "vocab_file" files ∧
        ∀ items, files = .array items → ∃ item ∈ items, ∀ name, ¬ Named item name := by
  rcases holds_or_lacks u "vocab_file" with ⟨files, given⟩ | absent
  · by_cases well : ∃ items, files = .array items ∧ ∀ item ∈ items, ∃ name, Named item name
    · obtain ⟨items, rfl, named⟩ := well
      exact .inl ⟨items, .array given, named⟩
    · refine .inr ⟨files, given, ?_⟩
      intro items is_array
      apply Classical.byContradiction
      intro all
      exact well ⟨items, is_array, by simpa using all⟩
  · exact .inl ⟨[], .absent absent, List.forall_mem_nil _⟩

theorem described_or_not (u : ProcessUnit) :
    (∃ d, ofUnit u = .ok d ∧ u.Describes d) ∨ ∃ cause, ofUnit u = .error cause ∧ u.Undescribed cause := by
  by_cases kind : u.kind = .str "RegexTokenizerOptions"
  · rcases holds_or_lacks u "delim_regex_pattern" with ⟨pattern, given⟩ | absent
    · rcases lists_or_malformed u with ⟨items, listed, named⟩ | ⟨files, listed, malformed⟩
      · rcases ofUnit_first kind given listed named with ⟨name, first, made⟩ | ⟨others, failed⟩
        · exact .inl ⟨_, made, kind, given, items, listed, named, first⟩
        · exact .inr ⟨_, failed, .vocabulary kind given listed named others⟩
      · exact .inr ⟨_, ofUnit_files kind given listed malformed, .files kind given listed malformed⟩
    · exact .inr ⟨_, ofUnit_pattern kind absent, .pattern kind absent⟩
  · exact .inr ⟨_, ofUnit_kind kind, .kind kind⟩

theorem Describes.ofUnit_ok {d : Descriptor} (describes : u.Describes d) : ofUnit u = .ok d := by
  obtain ⟨kind, given, items, listed, named, first⟩ := describes
  rcases ofUnit_first kind given listed named with ⟨name, also, made⟩ | ⟨others, -⟩
  · rw [made, also.unique first]
  · obtain ⟨item, member, chosen⟩ := (FirstVocabulary.exists_iff named).mp ⟨_, first⟩
    exact absurd chosen (others item member)

theorem Undescribed.ofUnit_error {cause : ConfigurationError} (undescribed : u.Undescribed cause) :
    ofUnit u = .error cause := by
  cases undescribed with
  | kind other => exact ofUnit_kind other
  | pattern kind absent => exact ofUnit_pattern kind absent
  | files kind given listed malformed => exact ofUnit_files kind given listed malformed
  | vocabulary kind given listed named others =>
    rcases ofUnit_first kind given listed named with ⟨name, first, -⟩ | ⟨-, failed⟩
    · obtain ⟨item, member, chosen⟩ := (FirstVocabulary.exists_iff named).mp ⟨name, first⟩
      exact absurd chosen (others item member)
    · exact failed

theorem ofUnit_ok_iff {d : Descriptor} : ofUnit u = .ok d ↔ u.Describes d := by
  constructor
  · intro made
    rcases described_or_not u with ⟨also, same, describes⟩ | ⟨cause, failed, -⟩
    · rw [made] at same
      cases same
      exact describes
    · rw [made] at failed
      cases failed
  · exact Describes.ofUnit_ok

theorem ofUnit_error_iff {cause : ConfigurationError} : ofUnit u = .error cause ↔ u.Undescribed cause := by
  constructor
  · intro failed
    rcases described_or_not u with ⟨d, made, -⟩ | ⟨other, same, undescribed⟩
    · rw [failed] at made
      cases made
    · rw [failed] at same
      cases same
      exact undescribed
  · exact Undescribed.ofUnit_error

/-- A unit is a description exactly if it is of the kind of tokenizers with a pattern, the pattern is given, what it
lists is a list of objects with names, and one of them is a vocabulary. The description has the pattern as it is and the
name of the first vocabulary. In all other cases the first reason that applies is reported, and each says that the
tokenizer is invalid. -/
theorem ofUnit_result (u : ProcessUnit) :
    ((∃ d, ofUnit u = .ok d) ↔ u.kind = .str "RegexTokenizerOptions" ∧ (∃ v, u.Holds "delim_regex_pattern" v) ∧
      ∃ items, u.Lists items ∧ (∀ item ∈ items, ∃ name, Named item name) ∧ ∃ item ∈ items, IsVocabulary item) ∧
    (∀ d, ofUnit u = .ok d ↔ u.Describes d) ∧
    (∀ cause, ofUnit u = .error cause ↔ u.Undescribed cause) ∧
    ∀ cause, ofUnit u = .error cause → cause.code = .metadataInvalidTokenizer := by
  refine ⟨?_, fun d => ofUnit_ok_iff, fun cause => ofUnit_error_iff, ?_⟩
  · simp only [ofUnit_ok_iff]
    constructor
    · rintro ⟨d, kind, given, items, listed, named, first⟩
      exact ⟨kind, ⟨_, given⟩, items, listed, named, (FirstVocabulary.exists_iff named).mp ⟨_, first⟩⟩
    · rintro ⟨kind, ⟨pattern, given⟩, items, listed, named, chosen⟩
      obtain ⟨name, first⟩ := (FirstVocabulary.exists_iff named).mpr chosen
      exact ⟨⟨.delimited, pattern, name⟩, kind, given, items, listed, named, first⟩
  · intro cause failed
    exact (ofUnit_error_iff.mp failed).code

end ProcessUnit
end Package
end TextClassifier
