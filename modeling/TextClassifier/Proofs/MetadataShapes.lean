import TextClassifier.Package.Metadata
import TextClassifier.Proofs.UntypedFaults

/-!
# Which values are metadata

The shape of metadata as a condition on untyped values: objects with the members that must be there, lists of such
objects, and options of which a table can be made. Metadata is read from exactly these values
(`Metadata.ofValue_ok_iff`), and what is wrong with any other value is a fault of the value, or that it has no
members (`Metadata.ofValue_error`).
-/
namespace TextClassifier
open Json

variable {v : Value} {fault : Fault} {key : String} {members : List (String × Value)} {items : List Value}

/-! ## Shapes -/

namespace Json.Value

/-- A value counts as a list of items: an array of them, or a text or an object that is empty. -/
inductive Lists : Value → List Value → Prop
  | array (items : List Value) : Lists (.array items) items
  | text : Lists (.str "") []
  | object : Lists (.object []) []

/-- A value counts as a key and its value: an array of two, an object of two members, or a text of two characters.
The key must be a scalar. -/
inductive IsPair : Value → Prop
  | array {key value : Value} (scalar : key.isScalar = true) : IsPair (.array [key, value])
  | text (a b : Char) : IsPair (.str (String.ofList [a, b]))
  | object (first second : String × Value) : IsPair (.object [first, second])

/-- A value can be converted to a table: an object, or a list of pairs. -/
inductive Convertible : Value → Prop
  | object (members : List (String × Value)) : Convertible (.object members)
  | pairs {v : Value} {items : List Value} (lists : v.Lists items) (pairs : ∀ item ∈ items, item.IsPair) :
    Convertible v

end Json.Value

namespace Package
open Json.Value (lookup)

/-- The member under a key is absent or a list of items of a shape. -/
def ListMember (shape : Value → Prop) (key : String) (members : List (String × Value)) : Prop :=
  ∀ v, lookup key members = some v → ∃ items, v.Lists items ∧ ∀ item ∈ items, shape item

/-- The shape of what is said about a file. -/
def AssociatedFile.Shape (v : Value) : Prop :=
  ∃ members, v = .object members ∧ ∃ name, lookup "name" members = some name

def TensorMetadata.Shape (v : Value) : Prop :=
  ∃ members, v = .object members ∧ (∃ name, lookup "name" members = some name) ∧
    ListMember AssociatedFile.Shape "associated_files" members

def ProcessUnit.Shape (v : Value) : Prop :=
  ∃ members, v = .object members ∧ (∃ kind, lookup "options_type" members = some kind) ∧
    ∀ options, lookup "options" members = some options → options.Convertible

def Metadata.Shape (v : Value) : Prop :=
  ∃ members, v = .object members ∧ ∃ subgraph,
    (lookup "subgraph" members = none ∧ subgraph = [] ∨ lookup "subgraph" members = some (.object subgraph)) ∧
    ListMember TensorMetadata.Shape "input_tensor_metadata" subgraph ∧
    ListMember TensorMetadata.Shape "output_tensor_metadata" subgraph ∧
    ListMember ProcessUnit.Shape "input_process_units" subgraph

end Package

/-! ## Lists -/

namespace Json.Value

theorem Lists.iterate (lists : v.Lists items) : v.iterate = .ok items := by
  cases lists with
  | array items => rfl
  | text => rfl
  | object => rfl

/-- What is iterated is a list, unless its items are texts. -/
theorem lists_of_iterate (iterated : v.iterate = .ok items) (other : ∀ item ∈ items, ∀ s, item ≠ .str s) :
    v.Lists items := by
  cases items with
  | cons item rest =>
    rw [array_of_iterate iterated List.mem_cons_self (other item List.mem_cons_self)]
    exact .array _
  | nil =>
    cases v with
    | array held =>
      cases iterated
      exact .array []
    | str s =>
      have empty : s.toList = [] := List.map_eq_nil_iff.mp (Except.ok.inj iterated)
      rw [String.toList_eq_nil_iff.mp empty]
      exact .text
    | object members =>
      rw [List.map_eq_nil_iff.mp (Except.ok.inj iterated)]
      exact .object
    | _ => cases iterated

end Json.Value

namespace Package
open Json.Value (lookup)

/-- A list is read exactly if it is absent or all of its items can be read, none of which is a text. -/
theorem readList_ok_iff {α : Type} {read : Value → Except Fault α} {shape : Value → Prop}
    (reads : ∀ v, (∃ x, read v = .ok x) ↔ shape v) (other : ∀ s, ¬ shape (.str s)) :
    (∃ xs, readList read key members = .ok xs) ↔ ListMember shape key members := by
  constructor
  · rintro ⟨xs, found⟩ v held
    obtain ⟨items, iterated, found⟩ := bind_ok_iff.mp found
    rw [memberOr, held, Option.getD_some] at iterated
    have each : ∀ item ∈ items, shape item := fun item listed => (reads item).mp (ok_of_mapM found item listed)
    refine ⟨items, Value.lists_of_iterate iterated fun item listed s same => ?_, each⟩
    exact other s (same ▸ each item listed)
  · intro lists
    obtain ⟨items, iterated, each⟩ : ∃ items, (memberOr (.array []) key members).iterate = .ok items ∧
        ∀ item ∈ items, shape item := by
      cases held : lookup key members with
      | none => exact ⟨[], by rw [memberOr, held]; rfl, List.forall_mem_nil _⟩
      | some v =>
        obtain ⟨items, counts, each⟩ := lists v held
        exact ⟨items, by rw [memberOr, held]; exact counts.iterate, each⟩
    obtain ⟨xs, found⟩ := exists_mapM_iff.mpr fun item listed => (reads item).mpr (each item listed)
    exact ⟨xs, bind_ok_iff.mpr ⟨items, iterated, found⟩⟩

theorem readList_error {α : Type} {read : Value → Except Fault α}
    (faults : ∀ v fault, read v = .error fault → fault.OfValue)
    (failed : readList read key members = .error fault) : fault.OfValue := by
  rcases bind_error_iff.mp failed with failed | ⟨items, -, failed⟩
  · exact Value.iterate_error failed
  · obtain ⟨item, -, failed⟩ := exists_of_mapM_error failed
    exact faults item fault failed

end Package

/-! ## Tables -/

namespace Json.Table

theorem isPair_of_iterate {key value : Value} (iterated : v.iterate = .ok [key, value])
    (scalar : key.isScalar = true) : v.IsPair := by
  cases v with
  | array held =>
    cases iterated
    exact .array scalar
  | str s =>
    rcases characters : s.toList with _ | ⟨a, _ | ⟨b, _ | ⟨c, rest⟩⟩⟩ <;>
      simp [Value.iterate, characters] at iterated
    rw [← String.ofList_toList (s := s), characters]
    exact .text a b
  | object members =>
    rcases members with _ | ⟨first, _ | ⟨second, _ | ⟨third, rest⟩⟩⟩ <;> simp [Value.iterate] at iterated
    exact .object first second
  | _ => cases iterated

theorem IsPair.iterate (pair : v.IsPair) : ∃ key value, v.iterate = .ok [key, value] ∧ key.isScalar = true := by
  cases pair with
  | array scalar => exact ⟨_, _, rfl, scalar⟩
  | text a b =>
    refine ⟨.str (String.singleton a), .str (String.singleton b), ?_, rfl⟩
    rw [Value.iterate, String.toList_ofList]
    rfl
  | object first second => exact ⟨_, _, rfl, rfl⟩

theorem pair_ok_iff : (∃ entry, pair v = .ok entry) ↔ v.IsPair := by
  constructor
  · rintro ⟨entry, found⟩
    obtain ⟨items, iterated, found⟩ := bind_ok_iff.mp found
    split at found
    · split at found
      · rename_i scalar
        exact isPair_of_iterate iterated scalar
      · cases found
    · cases found
  · intro pair
    obtain ⟨key, value, iterated, scalar⟩ := IsPair.iterate pair
    exact ⟨(key, value), bind_ok_iff.mpr ⟨_, iterated, if_pos scalar⟩⟩

theorem pair_error (failed : pair v = .error fault) : fault.OfValue := by
  rcases bind_error_iff.mp failed with failed | ⟨items, -, failed⟩
  · exact Value.iterate_error failed
  split at failed
  · split at failed
    · cases failed
    · cases failed
      exact .mistyped
  · cases failed
    exact .unusable

theorem ofPairs_ok_iff {table : Table} : (∃ t, ofPairs table items = .ok t) ↔ ∀ item ∈ items, item.IsPair := by
  induction items generalizing table with
  | nil => simp [ofPairs]
  | cons item rest ih =>
    rw [List.forall_mem_cons, ← pair_ok_iff]
    constructor
    · rintro ⟨t, found⟩
      obtain ⟨entry, paired, found⟩ := bind_ok_iff.mp found
      exact ⟨⟨entry, paired⟩, ih.mp ⟨t, found⟩⟩
    · rintro ⟨⟨entry, paired⟩, others⟩
      obtain ⟨t, found⟩ := ih.mpr others
      exact ⟨t, bind_ok_iff.mpr ⟨entry, paired, found⟩⟩

theorem ofPairs_error {table : Table} (failed : ofPairs table items = .error fault) : fault.OfValue := by
  induction items generalizing table with
  | nil => cases failed
  | cons item rest ih =>
    rcases bind_error_iff.mp failed with failed | ⟨entry, -, failed⟩
    · exact pair_error failed
    · exact ih failed

theorem not_isPair_singleton (c : Char) : ¬ (Value.str (String.singleton c)).IsPair := by
  intro pair
  generalize same : String.singleton c = s at pair
  cases pair with
  | text a b =>
    have characters := congrArg String.toList same
    simp at characters

/-- The values that make a table are those that convert to one. -/
theorem ofValue_ok_iff : (∃ t, ofValue v = .ok t) ↔ v.Convertible := by
  constructor
  · rintro ⟨t, found⟩
    cases v with
    | object members => exact .object members
    | array items => exact .pairs (.array items) (ofPairs_ok_iff.mp ⟨t, found⟩)
    | str s =>
      have pairs := ofPairs_ok_iff.mp ⟨t, found⟩
      cases characters : s.toList with
      | nil =>
        rw [String.toList_eq_nil_iff.mp characters]
        exact .pairs .text (List.forall_mem_nil _)
      | cons c rest =>
        rw [characters, List.map_cons, List.forall_mem_cons] at pairs
        exact absurd pairs.1 (not_isPair_singleton c)
    | _ => cases found
  · intro convertible
    cases convertible with
    | object members => exact ⟨_, rfl⟩
    | pairs lists pairs =>
      cases lists with
      | array items => exact ofPairs_ok_iff.mpr pairs
      | text => exact ⟨[], rfl⟩
      | object => exact ⟨[], rfl⟩

theorem ofValue_error (failed : ofValue v = .error fault) : fault.OfValue := by
  cases v with
  | object members => cases failed
  | _ =>
    rcases bind_error_iff.mp failed with failed | ⟨items, -, failed⟩
    · exact Value.iterate_error failed
    · exact ofPairs_error failed

end Json.Table

/-! ## Metadata -/

namespace Package
open Json.Value (lookup)

section
variable {α : Type} {f : Value → List (String × Value) → Except Fault α}

/-- A value from which a member and then all members are taken. -/
theorem required_membersOf {x : α} : (v.required key >>= fun w => v.membersOf >>= f w) = .ok x ↔
    ∃ members w, v = .object members ∧ lookup key members = some w ∧ f w members = .ok x := by
  constructor
  · intro found
    obtain ⟨w, held, found⟩ := bind_ok_iff.mp found
    obtain ⟨members, rfl, there⟩ := Value.required_ok_iff.mp held
    exact ⟨members, w, rfl, there, found⟩
  · rintro ⟨members, w, rfl, there, found⟩
    exact bind_ok_iff.mpr ⟨w, Value.required_ok_iff.mpr ⟨members, rfl, there⟩, found⟩

theorem required_membersOf_error (failed : (v.required key >>= fun w => v.membersOf >>= f w) = .error fault) :
    fault.OfValue ∨ ∃ members w, f w members = .error fault := by
  rcases bind_error_iff.mp failed with failed | ⟨w, held, failed⟩
  · exact .inl (Value.required_error failed)
  · obtain ⟨members, rfl, -⟩ := Value.required_ok_iff.mp held
    exact .inr ⟨members, w, failed⟩

end

theorem AssociatedFile.ofValue_ok_iff : (∃ f, AssociatedFile.ofValue v = .ok f) ↔ Shape v := by
  constructor
  · rintro ⟨f, found⟩
    obtain ⟨members, name, rfl, named, -⟩ := required_membersOf.mp found
    exact ⟨members, rfl, name, named⟩
  · rintro ⟨members, rfl, name, named⟩
    exact ⟨_, required_membersOf.mpr ⟨members, name, rfl, named, rfl⟩⟩

theorem AssociatedFile.not_shape_text (s : String) : ¬ Shape (.str s) := by
  rintro ⟨members, ⟨⟩, -⟩

theorem AssociatedFile.readList_ok_iff :
    (∃ files, readList AssociatedFile.ofValue key members = .ok files) ↔ ListMember Shape key members :=
  Package.readList_ok_iff (fun _ => ofValue_ok_iff) not_shape_text

theorem TensorMetadata.ofValue_ok_iff : (∃ t, TensorMetadata.ofValue v = .ok t) ↔ Shape v := by
  constructor
  · rintro ⟨t, found⟩
    obtain ⟨members, name, rfl, named, found⟩ := required_membersOf.mp found
    obtain ⟨files, listed, -⟩ := bind_ok_iff.mp found
    exact ⟨members, rfl, ⟨name, named⟩, AssociatedFile.readList_ok_iff.mp ⟨files, listed⟩⟩
  · rintro ⟨members, rfl, ⟨name, named⟩, files⟩
    obtain ⟨files, listed⟩ := AssociatedFile.readList_ok_iff.mpr files
    exact ⟨_, required_membersOf.mpr ⟨members, name, rfl, named, bind_ok_iff.mpr ⟨files, listed, rfl⟩⟩⟩

theorem TensorMetadata.not_shape_text (s : String) : ¬ Shape (.str s) := by
  rintro ⟨members, ⟨⟩, -⟩

theorem TensorMetadata.readList_ok_iff :
    (∃ tensors, readList TensorMetadata.ofValue key members = .ok tensors) ↔ ListMember Shape key members :=
  Package.readList_ok_iff (fun _ => ofValue_ok_iff) not_shape_text

/-- A unit is read from the values of its shape. -/
theorem ProcessUnit.ofValue_ok_iff : (∃ u, ProcessUnit.ofValue v = .ok u) ↔ Shape v := by
  have converts : ∀ members, (∃ t, Table.ofValue (memberOr (.object []) "options" members) = .ok t) ↔
      ∀ options, lookup "options" members = some options → options.Convertible := by
    intro members
    rw [Table.ofValue_ok_iff, memberOr]
    cases lookup "options" members with
    | none => simp [Value.Convertible.object]
    | some options => simp
  constructor
  · rintro ⟨u, found⟩
    obtain ⟨members, kind, rfl, kinded, found⟩ := required_membersOf.mp found
    obtain ⟨options, converted, -⟩ := bind_ok_iff.mp found
    exact ⟨members, rfl, ⟨kind, kinded⟩, (converts members).mp ⟨options, converted⟩⟩
  · rintro ⟨members, rfl, ⟨kind, kinded⟩, convertible⟩
    obtain ⟨options, converted⟩ := (converts members).mpr convertible
    exact ⟨_, required_membersOf.mpr ⟨members, kind, rfl, kinded, bind_ok_iff.mpr ⟨options, converted, rfl⟩⟩⟩

theorem ProcessUnit.not_shape_text (s : String) : ¬ Shape (.str s) := by
  rintro ⟨members, ⟨⟩, -⟩

theorem ProcessUnit.readList_ok_iff :
    (∃ units, readList ProcessUnit.ofValue key members = .ok units) ↔ ListMember Shape key members :=
  Package.readList_ok_iff (fun _ => ofValue_ok_iff) not_shape_text

theorem membersOf_memberOr {subgraph : List (String × Value)} :
    (memberOr (.object []) key members).membersOf = .ok subgraph ↔
      lookup key members = none ∧ subgraph = [] ∨ lookup key members = some (.object subgraph) := by
  rw [Value.membersOf_ok_iff, memberOr]
  cases lookup key members with
  | none => simp [eq_comm]
  | some held => simp

/-- Metadata is read from the values of its shape. -/
theorem Metadata.ofValue_ok_iff : (∃ m, Metadata.ofValue v = .ok m) ↔ Shape v := by
  constructor
  · rintro ⟨m, found⟩
    obtain ⟨members, held, found⟩ := bind_ok_iff.mp found
    obtain ⟨subgraph, described, found⟩ := bind_ok_iff.mp found
    obtain ⟨inputs, input_list, found⟩ := bind_ok_iff.mp found
    obtain ⟨outputs, output_list, found⟩ := bind_ok_iff.mp found
    obtain ⟨units, unit_list, -⟩ := bind_ok_iff.mp found
    exact ⟨members, Value.membersOf_ok_iff.mp held, subgraph, membersOf_memberOr.mp described,
      TensorMetadata.readList_ok_iff.mp ⟨inputs, input_list⟩, TensorMetadata.readList_ok_iff.mp ⟨outputs, output_list⟩,
      ProcessUnit.readList_ok_iff.mp ⟨units, unit_list⟩⟩
  · rintro ⟨members, rfl, subgraph, described, inputs, outputs, units⟩
    obtain ⟨inputs, input_list⟩ := TensorMetadata.readList_ok_iff.mpr inputs
    obtain ⟨outputs, output_list⟩ := TensorMetadata.readList_ok_iff.mpr outputs
    obtain ⟨units, unit_list⟩ := ProcessUnit.readList_ok_iff.mpr units
    refine exists_bind_ok_iff.mpr ⟨members, rfl, ?_⟩
    refine exists_bind_ok_iff.mpr ⟨subgraph, membersOf_memberOr.mpr described, ?_⟩
    refine exists_bind_ok_iff.mpr ⟨inputs, input_list, ?_⟩
    refine exists_bind_ok_iff.mpr ⟨outputs, output_list, ?_⟩
    exact exists_bind_ok_iff.mpr ⟨units, unit_list, _, rfl⟩

/-! ### Faults -/

theorem AssociatedFile.ofValue_error (failed : AssociatedFile.ofValue v = .error fault) : fault.OfValue := by
  rcases required_membersOf_error failed with data | ⟨members, name, failed⟩
  · exact data
  · cases failed

theorem TensorMetadata.ofValue_error (failed : TensorMetadata.ofValue v = .error fault) : fault.OfValue := by
  rcases required_membersOf_error failed with data | ⟨members, name, failed⟩
  · exact data
  rcases bind_error_iff.mp failed with failed | ⟨files, -, failed⟩
  · exact readList_error (fun _ _ => AssociatedFile.ofValue_error) failed
  · cases failed

theorem ProcessUnit.ofValue_error (failed : ProcessUnit.ofValue v = .error fault) : fault.OfValue := by
  rcases required_membersOf_error failed with data | ⟨members, kind, failed⟩
  · exact data
  rcases bind_error_iff.mp failed with failed | ⟨options, -, failed⟩
  · exact Table.ofValue_error failed
  · cases failed

theorem Metadata.ofValue_error (failed : Metadata.ofValue v = .error fault) :
    fault.OfValue ∨ fault = .memberless := by
  rcases bind_error_iff.mp failed with failed | ⟨members, -, failed⟩
  · exact .inr (Value.membersOf_error failed)
  rcases bind_error_iff.mp failed with failed | ⟨subgraph, -, failed⟩
  · exact .inr (Value.membersOf_error failed)
  rcases bind_error_iff.mp failed with failed | ⟨inputs, -, failed⟩
  · exact .inl (readList_error (fun _ _ => TensorMetadata.ofValue_error) failed)
  rcases bind_error_iff.mp failed with failed | ⟨outputs, -, failed⟩
  · exact .inl (readList_error (fun _ _ => TensorMetadata.ofValue_error) failed)
  rcases bind_error_iff.mp failed with failed | ⟨units, -, failed⟩
  · exact .inl (readList_error (fun _ _ => ProcessUnit.ofValue_error) failed)
  · cases failed

end Package
end TextClassifier
