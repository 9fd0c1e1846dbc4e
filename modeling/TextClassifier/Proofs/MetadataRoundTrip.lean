import TextClassifier.Package
import TextClassifier.Proofs.JsonRoundTrip

/-!
# Metadata is read as it is written

Metadata is read back from the untyped value that a file holds (`Metadata.ofValue_toValue`), as long as the
options of its units have texts as keys. They have if they came from objects, and what came from a value that
a text can hold can be held by a text again (`Metadata.tidy_of_ofValue`).
-/
namespace TextClassifier.Package
open Json

/-! ## Back from the untyped value -/

theorem AssociatedFile.ofValue_toValue (f : AssociatedFile) : ofValue f.toValue = .ok f := rfl

theorem TensorMetadata.ofValue_toValue (t : TensorMetadata) : ofValue t.toValue = .ok t := by
  have files : (t.files.map AssociatedFile.toValue).mapM AssociatedFile.ofValue = .ok t.files :=
    mapM_map_ok fun f _ => f.ofValue_toValue
  show ((t.files.map AssociatedFile.toValue).mapM AssociatedFile.ofValue).bind _ = _
  rw [files]
  rfl

/-- Whether the options of a unit are absent or an object, where there is one. -/
def ProcessUnit.hasPlainOptions : Value → Bool
  | .object members =>
    match Value.lookup "options" members with
    | none => true
    | some (.object _) => true
    | some _ => false
  | _ => true

/-- The options of a unit are members under distinct texts. -/
def ProcessUnit.Spelled (u : ProcessUnit) : Prop :=
  ∃ members, u.options = Table.ofMembers members ∧ (members.map (·.1)).Nodup

theorem toObject_ofMembers {members : List (String × Value)} (distinct : (members.map (·.1)).Nodup) :
    Table.toObject (Table.ofMembers members) = .object members := by
  have spelled : (Table.ofMembers members).map (fun e => (Table.keyText e.1, e.2)) = members := by
    rw [Table.ofMembers, List.map_map]
    exact List.map_id members
  show Value.object (Value.ofMembers ((Table.ofMembers members).map fun e => (Table.keyText e.1, e.2))) = _
  rw [spelled, Value.ofMembers_of_nodup distinct]

theorem ProcessUnit.ofValue_toValue {u : ProcessUnit} (spelled : u.Spelled) :
    ofValue (u.toValue Table.toObject) = .ok u := by
  obtain ⟨kind, options⟩ := u
  obtain ⟨members, rfl, distinct⟩ := spelled
  rw [toValue, toObject_ofMembers distinct]
  rfl

theorem Metadata.ofValue_toValue {m : Metadata} (spelled : ∀ u ∈ m.units, u.Spelled) : ofValue m.toValue = .ok m := by
  have tensors : ∀ ts : List TensorMetadata, (ts.map TensorMetadata.toValue).mapM TensorMetadata.ofValue = .ok ts :=
    fun ts => mapM_map_ok fun t _ => t.ofValue_toValue
  have units : (m.units.map (ProcessUnit.toValue Table.toObject)).mapM ProcessUnit.ofValue = .ok m.units :=
    mapM_map_ok fun u listed => ProcessUnit.ofValue_toValue (spelled u listed)
  show ((m.inputs.map TensorMetadata.toValue).mapM TensorMetadata.ofValue).bind _ = _
  rw [tensors]
  show ((m.outputs.map TensorMetadata.toValue).mapM TensorMetadata.ofValue).bind _ = _
  rw [tensors]
  show ((m.units.map (ProcessUnit.toValue Table.toObject)).mapM ProcessUnit.ofValue).bind _ = _
  rw [units]
  rfl

/-! ## Metadata that a text can hold -/

theorem AssociatedFile.tidy_iff {f : AssociatedFile} :
    f.toValue.Tidy ↔ f.name.Tidy ∧ f.type.Tidy ∧ f.description.Tidy := by
  simp [toValue, Value.tidy_object_iff]

theorem TensorMetadata.tidy_iff {t : TensorMetadata} :
    t.toValue.Tidy ↔ t.name.Tidy ∧ t.description.Tidy ∧ ∀ f ∈ t.files, f.toValue.Tidy := by
  simp [toValue, Value.tidy_object_iff, Value.tidy_array_iff]

theorem ProcessUnit.tidy_iff {u : ProcessUnit} :
    (u.toValue Table.toObject).Tidy ↔ u.kind.Tidy ∧ (Table.toObject u.options).Tidy := by
  simp [toValue, Value.tidy_object_iff]

theorem Metadata.tidy_iff {m : Metadata} :
    m.toValue.Tidy ↔ m.name.Tidy ∧ m.version.Tidy ∧ m.description.Tidy ∧ (∀ t ∈ m.inputs, t.toValue.Tidy) ∧
      (∀ t ∈ m.outputs, t.toValue.Tidy) ∧ ∀ u ∈ m.units, (u.toValue Table.toObject).Tidy := by
  simp [toValue, view, Value.tidy_object_iff, Value.tidy_array_iff]

/-! ## Metadata that has been read -/

section
variable {v w : Value} {key : String} {ms : List (String × Value)}

theorem mem_of_lookup (found : Value.lookup key ms = some v) : (key, v) ∈ ms := by
  induction ms with
  | nil => cases found
  | cons m ms ih =>
    obtain ⟨k, w⟩ := m
    rw [Value.lookup] at found
    split at found
    · rename_i same
      cases found
      exact same ▸ List.mem_cons_self
    · exact List.mem_cons_of_mem _ (ih found)

theorem tidy_lookup (tidy : (Value.object ms).Tidy) (found : Value.lookup key ms = some v) : v.Tidy :=
  (Value.tidy_object_iff.mp tidy).2 (key, v) (mem_of_lookup found)

theorem tidy_required (tidy : v.Tidy) (found : v.required key = .ok w) : w.Tidy := by
  cases v with
  | object ms =>
    rw [Value.required] at found
    split at found
    · rename_i u looked
      cases found
      exact tidy_lookup tidy looked
    · cases found
  | _ => cases found

theorem tidy_membersOf (tidy : v.Tidy) (found : v.membersOf = .ok ms) : (Value.object ms).Tidy := by
  cases v with
  | object ns =>
    cases found
    exact tidy
  | _ => cases found

theorem tidy_memberOr {absent : Value} (stands : absent.Tidy) (tidy : (Value.object ms).Tidy) (key : String) :
    (memberOr absent key ms).Tidy := by
  rw [memberOr]
  cases found : Value.lookup key ms with
  | none => exact stands
  | some v => exact tidy_lookup tidy found

theorem tidy_text (s : String) : (Value.str s).Tidy := Value.tidy_of_fits rfl trivial

theorem tidy_iterate {vs : List Value} (tidy : v.Tidy) (found : v.iterate = .ok vs) : ∀ w ∈ vs, w.Tidy := by
  cases v with
  | array items =>
    cases found
    exact Value.tidy_array_iff.mp tidy
  | str s =>
    cases found
    simp only [List.mem_map]
    rintro w ⟨c, -, rfl⟩
    exact tidy_text _
  | object ms =>
    cases found
    simp only [List.mem_map]
    rintro w ⟨m, -, rfl⟩
    exact tidy_text _
  | _ => cases found

theorem tidy_emptyArray : (Value.array []).Tidy := Value.tidy_array_iff.mpr (by simp)

theorem tidy_emptyObject : (Value.object []).Tidy := Value.tidy_object_iff.mpr (by simp)

/-- What every item of a list comes from, if the list comes from a value that a text can hold. -/
theorem of_readList {α : Type} {read : Value → Except Fault α} {xs : List α} (tidy : (Value.object ms).Tidy)
    (found : readList read key ms = .ok xs) : ∀ x ∈ xs, ∃ v, v.Tidy ∧ read v = .ok x := by
  obtain ⟨vs, iterated, found⟩ := bind_ok_iff.mp found
  intro x listed
  obtain ⟨v, member, same⟩ := mem_of_mapM found x listed
  exact ⟨v, tidy_iterate (tidy_memberOr tidy_emptyArray tidy key) iterated v member, same⟩

theorem AssociatedFile.tidy_of_ofValue {f : AssociatedFile} (tidy : v.Tidy) (found : ofValue v = .ok f) :
    f.toValue.Tidy := by
  obtain ⟨name, named, found⟩ := bind_ok_iff.mp found
  obtain ⟨ms, listed, found⟩ := bind_ok_iff.mp found
  cases found
  have members := tidy_membersOf tidy listed
  exact AssociatedFile.tidy_iff.mpr
    ⟨tidy_required tidy named, tidy_memberOr (tidy_text _) members _, tidy_memberOr (tidy_text _) members _⟩

theorem TensorMetadata.tidy_of_ofValue {t : TensorMetadata} (tidy : v.Tidy) (found : ofValue v = .ok t) :
    t.toValue.Tidy := by
  obtain ⟨name, named, found⟩ := bind_ok_iff.mp found
  obtain ⟨ms, listed, found⟩ := bind_ok_iff.mp found
  obtain ⟨files, read, found⟩ := bind_ok_iff.mp found
  cases found
  have members := tidy_membersOf tidy listed
  have each : ∀ f ∈ files, f.toValue.Tidy := by
    intro f member
    obtain ⟨u, tidy, found⟩ := of_readList members read f member
    exact AssociatedFile.tidy_of_ofValue tidy found
  exact TensorMetadata.tidy_iff.mpr ⟨tidy_required tidy named, tidy_memberOr (tidy_text _) members _, each⟩

/-- A unit that is read can be written, if its options are plain. -/
theorem ProcessUnit.tidy_of_ofValue {u : ProcessUnit} (tidy : v.Tidy) (plain : hasPlainOptions v = true)
    (found : ofValue v = .ok u) : u.Spelled ∧ (u.toValue Table.toObject).Tidy := by
  obtain ⟨kind, named, found⟩ := bind_ok_iff.mp found
  obtain ⟨ms, listed, found⟩ := bind_ok_iff.mp found
  obtain ⟨options, read, found⟩ := bind_ok_iff.mp found
  cases found
  have members := tidy_membersOf tidy listed
  have options_tidy := tidy_memberOr tidy_emptyObject members "options"
  obtain ⟨os, object⟩ : ∃ os, memberOr (.object []) "options" ms = .object os := by
    cases v with
    | object ns =>
      cases listed
      rw [hasPlainOptions] at plain
      split at plain
      · rename_i absent
        exact ⟨[], by rw [memberOr, absent]; rfl⟩
      · rename_i os found
        exact ⟨os, by rw [memberOr, found]; rfl⟩
      · cases plain
    | _ => cases listed
  rw [object] at read options_tidy
  cases read
  have distinct := (Value.tidy_object_iff.mp options_tidy).1
  refine ⟨⟨os, rfl, distinct⟩, ProcessUnit.tidy_iff.mpr ⟨tidy_required tidy named, ?_⟩⟩
  rw [toObject_ofMembers distinct]
  exact options_tidy

/-- The units that an untyped value lists. -/
def Metadata.unitValues (v : Value) : Except Fault (List Value) := do
  let subgraph ← (memberOr (.object []) "subgraph" (← v.membersOf)).membersOf
  (memberOr (.array []) "input_process_units" subgraph).iterate

/-- The options of every unit are absent or an object. -/
def Metadata.HasPlainOptions (v : Value) : Prop :=
  ∀ units, unitValues v = .ok units → ∀ u ∈ units, ProcessUnit.hasPlainOptions u = true

/-- Metadata that is read can be written, if the options of its units are plain. -/
theorem Metadata.tidy_of_ofValue {m : Metadata} (tidy : v.Tidy) (plain : HasPlainOptions v)
    (found : ofValue v = .ok m) : (∀ u ∈ m.units, u.Spelled) ∧ m.toValue.Tidy := by
  obtain ⟨ms, listed, found⟩ := bind_ok_iff.mp found
  obtain ⟨subgraph, graph, found⟩ := bind_ok_iff.mp found
  obtain ⟨inputs, inputs_read, found⟩ := bind_ok_iff.mp found
  obtain ⟨outputs, outputs_read, found⟩ := bind_ok_iff.mp found
  obtain ⟨units, units_read, found⟩ := bind_ok_iff.mp found
  cases found
  have members := tidy_membersOf tidy listed
  have parts := tidy_membersOf (tidy_memberOr tidy_emptyObject members "subgraph") graph
  have tensors : ∀ {key : String} {ts : List TensorMetadata},
      readList TensorMetadata.ofValue key subgraph = .ok ts → ∀ t ∈ ts, t.toValue.Tidy := by
    intro key ts read t member
    obtain ⟨u, tidy, found⟩ := of_readList parts read t member
    exact TensorMetadata.tidy_of_ofValue tidy found
  have each : ∀ u ∈ units, u.Spelled ∧ (u.toValue Table.toObject).Tidy := by
    obtain ⟨us, iterated, ran⟩ := bind_ok_iff.mp units_read
    have all_plain := plain us (bind_ok_iff.mpr ⟨ms, listed, bind_ok_iff.mpr ⟨subgraph, graph, iterated⟩⟩)
    intro u member
    obtain ⟨w, counted, found⟩ := mem_of_mapM ran u member
    have stands := tidy_iterate (tidy_memberOr tidy_emptyArray parts _) iterated w counted
    exact ProcessUnit.tidy_of_ofValue stands (all_plain w counted) found
  refine ⟨fun u member => (each u member).1, Metadata.tidy_iff.mpr ?_⟩
  exact ⟨tidy_memberOr (tidy_text _) members _, tidy_memberOr (tidy_text _) members _,
    tidy_memberOr (tidy_text _) members _, tensors inputs_read, tensors outputs_read,
    fun u member => (each u member).2⟩

end

end TextClassifier.Package
