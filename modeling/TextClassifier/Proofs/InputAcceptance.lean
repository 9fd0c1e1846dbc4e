import TextClassifier.Classifier

/-!
# Which inputs a model may have

The eight checks of a model's inputs, in the order in which they are made (`Check`). Each is stated
about the metadata and the tensors alone. A layout is found exactly if all of them hold, and otherwise
the first that fails gives the error its code (`resolve_correct`).
-/
namespace TextClassifier
open Json Tensor Package

theorem Json.Value.equal_str_iff (v : Value) (s : String) : v.equal (.str s) = true ↔ v = .str s := by
  cases v <;> simp [equal, equalBy]

/-! ## Names -/

/-- The first tensor that the metadata gives a name stands at a place. -/
def FirstNamed (metadata : List TensorMetadata) (name : String) (i : Nat) : Prop :=
  (metadata[i]?).map (·.name) = some (.str name) ∧
    ∀ j < i, (metadata[j]?).map (·.name) ≠ some (.str name)

namespace FirstNamed
variable {metadata : List TensorMetadata} {name other : String} {i j : Nat}

theorem inside (named : FirstNamed metadata name i) : i < metadata.length := by
  obtain ⟨found, -⟩ := named
  obtain ⟨t, at_i, -⟩ := Option.map_eq_some_iff.mp found
  obtain ⟨inside, -⟩ := List.getElem?_eq_some_iff.mp at_i
  exact inside

theorem place_unique (first : FirstNamed metadata name i) (second : FirstNamed metadata name j) : i = j := by
  rcases Nat.lt_trichotomy i j with before | same | behind
  · exact absurd first.1 (second.2 i before)
  · exact same
  · exact absurd second.1 (first.2 j behind)

theorem name_unique (first : FirstNamed metadata name i) (second : FirstNamed metadata other i) :
    name = other := by
  have same := first.1.symm.trans second.1
  simpa using same

end FirstNamed

/-- A name is found at the first tensor that has it. -/
theorem findTensor?_eq_some_iff {metadata : List TensorMetadata} {name : String} {i : Nat} :
    findTensor? metadata (.str name) = some i ↔ FirstNamed metadata name i := by
  rw [findTensor?, List.findIdx?_eq_some_iff_getElem]
  constructor
  · rintro ⟨inside, found, before⟩
    refine ⟨?_, ?_⟩
    · rw [List.getElem?_eq_getElem inside, Option.map_some, (Value.equal_str_iff _ _).mp found]
    · intro j earlier named
      rw [List.getElem?_eq_getElem (Nat.lt_trans earlier inside), Option.map_some, Option.some.injEq] at named
      exact before j earlier ((Value.equal_str_iff _ _).mpr named)
  · intro named
    have inside := named.inside
    obtain ⟨found, before⟩ := named
    rw [List.getElem?_eq_getElem inside, Option.map_some, Option.some.injEq] at found
    refine ⟨inside, (Value.equal_str_iff _ _).mpr found, ?_⟩
    intro j earlier equal
    apply before j earlier
    rw [List.getElem?_eq_getElem (Nat.lt_trans earlier inside), Option.map_some,
      (Value.equal_str_iff _ _).mp equal]

namespace InputLayout

theorem place_ok {metadata : List TensorMetadata} {name : String} {i : Nat}
    (found : place metadata name = .ok i) : FirstNamed metadata name i := by
  rw [place] at found
  split at found
  · rename_i j located
    cases found
    exact findTensor?_eq_some_iff.mp located
  · cases found

theorem place_error {metadata : List TensorMetadata} {name : String} {cause : ConfigurationError}
    (missing : place metadata name = .error cause) :
    cause = .inputMissing name ∧ ¬ ∃ i, FirstNamed metadata name i := by
  rw [place] at missing
  split at missing
  · cases missing
  · rename_i located
    cases missing
    refine ⟨rfl, ?_⟩
    rintro ⟨i, named⟩
    rw [findTensor?_eq_some_iff.mpr named] at located
    cases located

/-! ## The checks -/

/-- A tensor takes ids, mask or segment ids: the metadata gives it one of the three names first. -/
def Chosen (o : Options) (metadata : List TensorMetadata) (inputs : List Slot) (s : Slot) : Prop :=
  ∃ name ∈ o.inputNames, ∃ i, FirstNamed metadata name i ∧ inputs[i]? = some s

/-- The length of a tensor may change. -/
def Elastic (s : Slot) : Prop := s.signature[1]? = some dynamicDimension

/-- The length of a tensor is declared and may not change. -/
def Rigid (s : Slot) : Prop := ∃ d, s.signature[1]? = some d ∧ d ≠ dynamicDimension

/-- What is checked of a model's inputs. -/
inductive Check where
  | count
  | names
  | ranks
  | batches
  | lengths
  | modes
  | requested
  | least
  deriving DecidableEq, Repr

namespace Check

/-- The number of a check in the order in which they are made. -/
def order : Check → Nat
  | count => 0
  | names => 1
  | ranks => 2
  | batches => 3
  | lengths => 4
  | modes => 5
  | requested => 6
  | least => 7

/-- The code of the error when a check fails. -/
def code : Check → StatusCode
  | count => .inputTensorNotFound
  | names => .inputTensorNotFound
  | ranks => .invalidInputTensorDimensions
  | batches => .invalidInputTensorSize
  | lengths => .invalidInputTensorSize
  | modes => .mixedStaticDynamicTensors
  | requested => .invalidInputTensorSize
  | least => .invalidInputTensorSize

theorem order_lt (c : Check) : c.order < 8 := by cases c <;> decide

theorem order_injective {c d : Check} (same : c.order = d.order) : c = d := by
  cases c <;> cases d <;> first | rfl | cases same

section
variable (o : Options) (metadata : List TensorMetadata) (inputs : List Slot)

/-- A check holds. The last two only speak about lengths that may not change. -/
def Holds : Check → Prop
  | count => metadata.length = inputs.length
  | names => ∀ name ∈ o.inputNames, ∃ i, FirstNamed metadata name i
  | ranks => ∀ s, Chosen o metadata inputs s → s.shape.length = 2
  | batches => ∀ s, Chosen o metadata inputs s → s.shape[0]? = some 1
  | lengths => ∃ n, ∀ s, Chosen o metadata inputs s → s.shape[1]? = some n
  | modes => (∀ s, Chosen o metadata inputs s → Elastic s) ∨ ∀ s, Chosen o metadata inputs s → Rigid s
  | requested => ∀ s, Chosen o metadata inputs s → Rigid s → ∀ n ∈ o.length, s.shape[1]? = some n
  | least => ∀ s, Chosen o metadata inputs s → Rigid s → ∃ n, s.shape[1]? = some n ∧ 2 ≤ n

/-- The first checks hold. -/
def HoldBelow (k : Nat) : Prop := ∀ c : Check, c.order < k → c.Holds o metadata inputs

/-- A check is the first that fails. -/
def FirstFailing (c : Check) : Prop := ¬ c.Holds o metadata inputs ∧ HoldBelow o metadata inputs c.order

end

section
variable {o : Options} {metadata : List TensorMetadata} {inputs : List Slot}

theorem HoldBelow.zero : HoldBelow o metadata inputs 0 := fun _ earlier => absurd earlier (Nat.not_lt_zero _)

theorem HoldBelow.succ {c : Check} (below : HoldBelow o metadata inputs c.order)
    (holds : c.Holds o metadata inputs) : HoldBelow o metadata inputs (c.order + 1) := by
  intro d earlier
  rcases Nat.lt_or_eq_of_le (Nat.le_of_lt_succ earlier) with before | same
  · exact below d before
  · rw [order_injective same]
    exact holds

end

end Check

/-! ## The shape mode -/

theorem getElem?_eq_dimension {s : Slot} {i : Nat} (inside : i < s.shape.length) :
    s.shape[i]? = some (dimension s i) := by
  simp [dimension, List.getElem?_eq_getElem inside, List.getD_eq_getElem?_getD]

theorem isDynamic_iff {s : Slot} (pair : s.signature.length = 2) : isDynamic s = true ↔ Elastic s := by
  simp [isDynamic, Elastic, pair, List.getD_eq_getElem?_getD]

theorem not_isDynamic_iff {s : Slot} (pair : s.signature.length = 2) : isDynamic s = false ↔ Rigid s := by
  simp [isDynamic, Rigid, pair, List.getD_eq_getElem?_getD]

theorem allSame_iff {ns : List Int} (some_there : ns ≠ []) : allSame ns = true ↔ ∃ n, ∀ m ∈ ns, m = n := by
  cases ns with
  | nil => exact absurd rfl some_there
  | cons n rest =>
    simp only [allSame, List.all_eq_true, beq_iff_eq, List.mem_cons]
    constructor
    · intro same
      refine ⟨n, ?_⟩
      rintro m (rfl | later)
      · rfl
      · exact same m later
    · rintro ⟨k, same⟩ m later
      rw [same m (.inr later), same n (.inl rfl)]

section
variable {slots : List Slot}

private theorem ranks_iff : slots.any (·.rank != 2) = false ↔ ∀ s ∈ slots, s.shape.length = 2 := by
  simp [Slot.rank]

private theorem batches_iff (ranks : ∀ s ∈ slots, s.shape.length = 2) :
    slots.any (dimension · 0 != 1) = false ↔ ∀ s ∈ slots, s.shape[0]? = some 1 := by
  rw [List.any_eq_false]
  refine forall_congr' fun s => imp_congr_right fun member => ?_
  have inside : 0 < s.shape.length := by rw [ranks s member]; decide
  simp [getElem?_eq_dimension inside]

private theorem lengths_iff (ranks : ∀ s ∈ slots, s.shape.length = 2) (some_there : slots ≠ []) :
    allSame (slots.map (dimension · 1)) = true ↔ ∃ n, ∀ s ∈ slots, s.shape[1]? = some n := by
  rw [allSame_iff (by simpa using some_there)]
  refine exists_congr fun n => ?_
  simp only [List.mem_map, forall_exists_index, and_imp, forall_apply_eq_imp_iff₂]
  refine forall_congr' fun s => imp_congr_right fun member => ?_
  have inside : 1 < s.shape.length := by rw [ranks s member]; decide
  simp [getElem?_eq_dimension inside]

/-- What the shape mode of tensors says about them, with the code of the first check that fails. -/
def ModeCorrect (slots : List Slot) : Except ConfigurationError ShapeMode → Prop
  | .error cause =>
    (¬ (∀ s ∈ slots, s.shape.length = 2) ∧ cause.code = .invalidInputTensorDimensions) ∨
    ((∀ s ∈ slots, s.shape.length = 2) ∧ ¬ (∀ s ∈ slots, s.shape[0]? = some 1) ∧
      cause.code = .invalidInputTensorSize) ∨
    ((∀ s ∈ slots, s.shape.length = 2) ∧ (∀ s ∈ slots, s.shape[0]? = some 1) ∧
      ¬ (∃ n, ∀ s ∈ slots, s.shape[1]? = some n) ∧ cause.code = .invalidInputTensorSize) ∨
    ((∀ s ∈ slots, s.shape.length = 2) ∧ (∀ s ∈ slots, s.shape[0]? = some 1) ∧
      (∃ n, ∀ s ∈ slots, s.shape[1]? = some n) ∧
      ¬ ((∀ s ∈ slots, Elastic s) ∨ ∀ s ∈ slots, Rigid s) ∧ cause.code = .mixedStaticDynamicTensors)
  | .ok mode =>
    (∀ s ∈ slots, s.shape.length = 2) ∧ (∀ s ∈ slots, s.shape[0]? = some 1) ∧
      (∃ n, ∀ s ∈ slots, s.shape[1]? = some n) ∧
      match mode with
      | .dynamic => ∀ s ∈ slots, Elastic s
      | .fixed => ∀ s ∈ slots, Rigid s

/-- The shape mode is dynamic if all tensors are elastic, fixed if all are rigid, and refused otherwise. -/
theorem shapeModeOf_correct (declared : ∀ s ∈ slots, s.signature.length = s.shape.length)
    (some_there : slots ≠ []) (names : List String) : ModeCorrect slots (shapeModeOf slots names) := by
  unfold shapeModeOf
  split
  · rename_i wrong
    refine .inl ⟨fun ranks => ?_, rfl⟩
    rw [ranks_iff.mpr ranks] at wrong
    cases wrong
  rename_i right
  have ranks := ranks_iff.mp (Bool.eq_false_iff.mpr right)
  split
  · rename_i wrong
    refine .inr (.inl ⟨ranks, fun batches => ?_, rfl⟩)
    rw [(batches_iff ranks).mpr batches] at wrong
    cases wrong
  rename_i right
  have batches := (batches_iff ranks).mp (Bool.eq_false_iff.mpr right)
  split
  · rename_i wrong
    refine .inr (.inr (.inl ⟨ranks, batches, fun lengths => ?_, rfl⟩))
    rw [(lengths_iff ranks some_there).mpr lengths] at wrong
    cases wrong
  rename_i right
  have lengths := (lengths_iff ranks some_there).mp (by simpa using right)
  have pair : ∀ s ∈ slots, s.signature.length = 2 := fun s member =>
    (declared s member).trans (ranks s member)
  split
  · rename_i all
    refine ⟨ranks, batches, lengths, fun s member => ?_⟩
    exact (isDynamic_iff (pair s member)).mp (List.all_eq_true.mp all s member)
  rename_i not_all
  split
  · rename_i some_dynamic
    refine .inr (.inr (.inr ⟨ranks, batches, lengths, ?_, rfl⟩))
    rintro (elastic | rigid)
    · exact not_all (List.all_eq_true.mpr fun s member =>
        (isDynamic_iff (pair s member)).mpr (elastic s member))
    · obtain ⟨s, member, dynamic⟩ := List.any_eq_true.mp some_dynamic
      rw [(not_isDynamic_iff (pair s member)).mpr (rigid s member)] at dynamic
      cases dynamic
  · rename_i none_dynamic
    refine ⟨ranks, batches, lengths, fun s member => ?_⟩
    have fixed := List.any_eq_false.mp (Bool.eq_false_iff.mpr none_dynamic) s member
    exact (not_isDynamic_iff (pair s member)).mp (by simpa using fixed)

end

/-! ## Layouts -/

/-- A tensor can take the sequences of a layout. -/
def Takes (l : InputLayout) (s : Slot) : Prop :=
  match l.length with
  | .fixed n => s.shape = [1, (n : Int)] ∧ Rigid s ∧ Length.least ≤ n
  | .dynamic => (∃ n, s.shape = [1, n]) ∧ Elastic s

/-- A layout is the one of a model's inputs: the names lead to its places, and the tensors there take
its sequences. -/
structure Resolved (o : Options) (metadata : List TensorMetadata) (inputs : List Slot)
    (l : InputLayout) : Prop where
  ids : FirstNamed metadata o.idsName l.ids
  mask : FirstNamed metadata o.maskName l.mask
  segmentIds : FirstNamed metadata o.segmentIdsName l.segmentIds
  rows : ∀ i ∈ l.places, ∃ s, inputs[i]? = some s ∧ l.Takes s

/-- What a resolution says about the inputs: all checks hold, or the first that fails gives the error
its code. -/
def ResolutionCorrect (o : Options) (metadata : List TensorMetadata) (inputs : List Slot) :
    Except ConfigurationError InputLayout → Prop
  | .error cause => ∃ c : Check, c.FirstFailing o metadata inputs ∧ cause.code = c.code
  | .ok l => (∀ c : Check, c.Holds o metadata inputs) ∧ Resolved o metadata inputs l

/-- The first of each name stand at three places. -/
structure Located (o : Options) (metadata : List TensorMetadata) (i m g : Nat) : Prop where
  ids : FirstNamed metadata o.idsName i
  mask : FirstNamed metadata o.maskName m
  segmentIds : FirstNamed metadata o.segmentIdsName g

/-- The tensors at some places, as far as there are any. -/
def tensorsAt (inputs : List Slot) (places : List Nat) : List Slot := places.filterMap (inputs[·]?)

/-- A tensor is a row of `n` places of one mode. -/
def Uniform (mode : ShapeMode) (n : Int) (s : Slot) : Prop :=
  s.shape = [1, n] ∧ match mode with
    | .dynamic => Elastic s
    | .fixed => Rigid s

section
variable {o : Options} {metadata : List TensorMetadata} {inputs : List Slot} {i m g : Nat} {n : Int}

/-- The chosen inputs are those at the three places. -/
theorem Located.chosen_iff (located : Located o metadata i m g) (inputs : List Slot) (s : Slot) :
    Chosen o metadata inputs s ↔ s ∈ tensorsAt inputs [i, m, g] := by
  rw [tensorsAt, List.mem_filterMap]
  constructor
  · rintro ⟨name, listed, j, named, found⟩
    refine ⟨j, ?_, found⟩
    simp only [Options.inputNames, List.mem_cons, List.not_mem_nil, or_false] at listed ⊢
    rcases listed with rfl | rfl | rfl
    · exact .inl (named.place_unique located.ids)
    · exact .inr (.inl (named.place_unique located.mask))
    · exact .inr (.inr (named.place_unique located.segmentIds))
  · rintro ⟨j, listed, found⟩
    simp only [List.mem_cons, List.not_mem_nil, or_false] at listed
    rcases listed with rfl | rfl | rfl
    · exact ⟨o.idsName, by simp [Options.inputNames], j, located.ids, found⟩
    · exact ⟨o.maskName, by simp [Options.inputNames], j, located.mask, found⟩
    · exact ⟨o.segmentIdsName, by simp [Options.inputNames], j, located.segmentIds, found⟩

theorem Located.names (located : Located o metadata i m g) : Check.names.Holds o metadata inputs := by
  intro name listed
  simp only [Options.inputNames, List.mem_cons, List.not_mem_nil, or_false] at listed
  rcases listed with rfl | rfl | rfl
  · exact ⟨i, located.ids⟩
  · exact ⟨m, located.mask⟩
  · exact ⟨g, located.segmentIds⟩

/-- With metadata for each tensor, there is a tensor at each place. -/
theorem Located.tensor (located : Located o metadata i m g) (count : metadata.length = inputs.length) :
    ∀ j ∈ [i, m, g], ∃ s, inputs[j]? = some s ∧ s ∈ tensorsAt inputs [i, m, g] := by
  intro j listed
  have inside : j < inputs.length := by
    simp only [List.mem_cons, List.not_mem_nil, or_false] at listed
    rcases listed with rfl | rfl | rfl
    · exact count ▸ located.ids.inside
    · exact count ▸ located.mask.inside
    · exact count ▸ located.segmentIds.inside
  have there := List.getElem?_eq_getElem inside
  exact ⟨_, there, List.mem_filterMap.mpr ⟨j, listed, there⟩⟩

/-- The places are looked for in order, and the first name that is missing is reported. -/
private theorem resolve_places (count : metadata.length = inputs.length) :
    (∃ name ∈ o.inputNames, (¬ ∃ i, FirstNamed metadata name i) ∧
      resolve o metadata inputs = .error (.inputMissing name)) ∨
    ∃ i m g, Located o metadata i m g ∧
      resolve o metadata inputs =
        match shapeModeOf (tensorsAt inputs [i, m, g]) o.inputNames with
        | .error cause => .error cause
        | .ok .dynamic => .ok ⟨i, m, g, .dynamic⟩
        | .ok .fixed =>
          (fixedLength o ((((tensorsAt inputs [i, m, g]).head?).map (dimension · 1)).getD 0)).map
            fun length => ⟨i, m, g, length⟩ := by
  cases idsPlace : place metadata o.idsName with
  | error cause =>
    obtain ⟨rfl, missing⟩ := place_error idsPlace
    refine .inl ⟨o.idsName, by simp [Options.inputNames], missing, ?_⟩
    simp [resolve, count, idsPlace, bind, Except.bind]
  | ok i =>
    cases maskPlace : place metadata o.maskName with
    | error cause =>
      obtain ⟨rfl, missing⟩ := place_error maskPlace
      refine .inl ⟨o.maskName, by simp [Options.inputNames], missing, ?_⟩
      simp [resolve, count, idsPlace, maskPlace, bind, Except.bind]
    | ok m =>
      cases segmentIdsPlace : place metadata o.segmentIdsName with
      | error cause =>
        obtain ⟨rfl, missing⟩ := place_error segmentIdsPlace
        refine .inl ⟨o.segmentIdsName, by simp [Options.inputNames], missing, ?_⟩
        simp [resolve, count, idsPlace, maskPlace, segmentIdsPlace, bind, Except.bind]
      | ok g =>
        refine .inr ⟨i, m, g, ⟨place_ok idsPlace, place_ok maskPlace, place_ok segmentIdsPlace⟩, ?_⟩
        simp only [resolve, count, ne_eq, not_true_eq_false, if_false, idsPlace, maskPlace,
          segmentIdsPlace, tensorsAt, bind, Except.bind]
        cases shapeModeOf ([i, m, g].filterMap (inputs[·]?)) o.inputNames with
        | error cause => rfl
        | ok mode =>
          cases mode with
          | dynamic => rfl
          | fixed =>
            dsimp only
            cases fixedLength o (((([i, m, g].filterMap (inputs[·]?)).head?).map (dimension · 1)).getD 0) <;> rfl

private theorem shape_eq_row {s : Slot} (rank : s.shape.length = 2)
    (batch : s.shape[0]? = some 1) (length : s.shape[1]? = some n) : s.shape = [1, n] := by
  rcases shape : s.shape with _ | ⟨a, _ | ⟨b, _ | ⟨c, rest⟩⟩⟩
  · simp [shape] at rank
  · simp [shape] at rank
  · simp only [shape, List.getElem?_cons_zero, List.getElem?_cons_succ, Option.some.injEq] at batch length
    rw [batch, length]
  · simp [shape] at rank

theorem not_rigid {s : Slot} (elastic : Elastic s) : ¬ Rigid s := by
  rintro ⟨d, declared, differs⟩
  rw [elastic, Option.some.injEq] at declared
  exact differs declared.symm

/-- The shape mode tells the first of the checks up to the modes that fails, or all of them hold. -/
private theorem mode_checks (located : Located o metadata i m g) (count : metadata.length = inputs.length)
    (declared : ∀ s ∈ inputs, s.signature.length = s.shape.length)
    (below : Check.HoldBelow o metadata inputs Check.ranks.order) :
    match shapeModeOf (tensorsAt inputs [i, m, g]) o.inputNames with
    | .error cause => ∃ c : Check, c.FirstFailing o metadata inputs ∧ cause.code = c.code
    | .ok mode => Check.HoldBelow o metadata inputs Check.requested.order ∧
        ∃ n, ∀ s ∈ tensorsAt inputs [i, m, g], Uniform mode n s := by
  have chosen := located.chosen_iff inputs
  have from_inputs : ∀ s ∈ tensorsAt inputs [i, m, g], s.signature.length = s.shape.length := by
    intro s member
    obtain ⟨j, -, found⟩ := List.mem_filterMap.mp member
    exact declared s (List.mem_of_getElem? found)
  obtain ⟨a, -, first⟩ := located.tensor count i List.mem_cons_self
  have mode := shapeModeOf_correct from_inputs (List.ne_nil_of_mem first) o.inputNames
  cases found : shapeModeOf (tensorsAt inputs [i, m, g]) o.inputNames with
  | error cause =>
    rw [found] at mode
    rcases mode with ⟨wrong, code⟩ | ⟨ranks, wrong, code⟩ | ⟨ranks, batches, wrong, code⟩ |
      ⟨ranks, batches, lengths, wrong, code⟩
    · exact ⟨.ranks, ⟨by simpa only [Check.Holds, chosen] using wrong, below⟩, code⟩
    · have below := below.succ (c := .ranks) (by simpa only [Check.Holds, chosen] using ranks)
      exact ⟨.batches, ⟨by simpa only [Check.Holds, chosen] using wrong, below⟩, code⟩
    · have below := below.succ (c := .ranks) (by simpa only [Check.Holds, chosen] using ranks)
      have below := below.succ (c := .batches) (by simpa only [Check.Holds, chosen] using batches)
      exact ⟨.lengths, ⟨by simpa only [Check.Holds, chosen] using wrong, below⟩, code⟩
    · have below := below.succ (c := .ranks) (by simpa only [Check.Holds, chosen] using ranks)
      have below := below.succ (c := .batches) (by simpa only [Check.Holds, chosen] using batches)
      have below := below.succ (c := .lengths) (by simpa only [Check.Holds, chosen] using lengths)
      exact ⟨.modes, ⟨by simpa only [Check.Holds, chosen] using wrong, below⟩, code⟩
  | ok mode' =>
    rw [found] at mode
    obtain ⟨ranks, batches, ⟨n, lengths⟩, kinds⟩ := mode
    have below := below.succ (c := .ranks) (by simpa only [Check.Holds, chosen] using ranks)
    have below := below.succ (c := .batches) (by simpa only [Check.Holds, chosen] using batches)
    have below := below.succ (c := .lengths) ⟨n, by simpa only [chosen] using lengths⟩
    have rows : ∀ s ∈ tensorsAt inputs [i, m, g], s.shape = [1, n] := fun s member =>
      shape_eq_row (ranks s member) (batches s member) (lengths s member)
    cases mode' with
    | dynamic =>
      exact ⟨below.succ (c := .modes) (.inl (by simpa only [chosen] using kinds)), n,
        fun s member => ⟨rows s member, kinds s member⟩⟩
    | fixed =>
      exact ⟨below.succ (c := .modes) (.inr (by simpa only [chosen] using kinds)), n,
        fun s member => ⟨rows s member, kinds s member⟩⟩

/-- Lengths that may change are not checked any further. -/
private theorem dynamic_checks (located : Located o metadata i m g)
    (below : Check.HoldBelow o metadata inputs Check.requested.order)
    (uniform : ∀ s ∈ tensorsAt inputs [i, m, g], Uniform .dynamic n s) :
    ∀ c : Check, c.Holds o metadata inputs := by
  have chosen := located.chosen_iff inputs
  have below := below.succ (c := .requested) fun s member rigid =>
    absurd rigid (not_rigid (uniform s ((chosen s).mp member)).2)
  have below := below.succ (c := .least) fun s member rigid =>
    absurd rigid (not_rigid (uniform s ((chosen s).mp member)).2)
  exact fun c => below c c.order_lt

/-- What a fixed length says about the one that the model has. -/
def LengthCorrect (o : Options) (actual : Int) : Except ConfigurationError Length → Prop
  | .error cause =>
    (¬ (∀ n ∈ o.length, n = actual) ∧ cause.code = .invalidInputTensorSize) ∨
    ((∀ n ∈ o.length, n = actual) ∧ actual < 2 ∧ cause.code = .invalidInputTensorSize)
  | .ok length => (∀ n ∈ o.length, n = actual) ∧ 2 ≤ actual ∧ length = .fixed actual.toNat

/-- A fixed length is the one that is asked for, if any is, and has room for the markers. -/
theorem fixedLength_correct (o : Options) (actual : Int) : LengthCorrect o actual (fixedLength o actual) := by
  unfold fixedLength
  split
  · rename_i requested differs
    obtain ⟨asked, other⟩ := Option.filter_eq_some_iff.mp differs
    refine .inl ⟨fun agreed => ?_, rfl⟩
    rw [agreed requested asked] at other
    simp at other
  · rename_i agrees
    have agreed : ∀ n ∈ o.length, n = actual := by
      simpa [Option.filter_eq_none_iff] using agrees
    split
    · rename_i short
      exact .inr ⟨agreed, short, rfl⟩
    · rename_i enough
      exact ⟨agreed, Int.not_lt.mp enough, rfl⟩

private theorem requested_iff (located : Located o metadata i m g) (count : metadata.length = inputs.length)
    (uniform : ∀ s ∈ tensorsAt inputs [i, m, g], Uniform .fixed n s) :
    Check.requested.Holds o metadata inputs ↔ ∀ k ∈ o.length, k = n := by
  have chosen := located.chosen_iff inputs
  obtain ⟨a, -, first⟩ := located.tensor count i List.mem_cons_self
  constructor
  · intro holds k asked
    have same := holds a ((chosen a).mpr first) (uniform a first).2 k asked
    rw [(uniform a first).1] at same
    simpa using same.symm
  · intro agreed s member _ k asked
    rw [agreed k asked, (uniform s ((chosen s).mp member)).1]
    rfl

private theorem least_iff (located : Located o metadata i m g) (count : metadata.length = inputs.length)
    (uniform : ∀ s ∈ tensorsAt inputs [i, m, g], Uniform .fixed n s) :
    Check.least.Holds o metadata inputs ↔ 2 ≤ n := by
  have chosen := located.chosen_iff inputs
  obtain ⟨a, -, first⟩ := located.tensor count i List.mem_cons_self
  constructor
  · intro holds
    obtain ⟨k, found, enough⟩ := holds a ((chosen a).mpr first) (uniform a first).2
    rw [(uniform a first).1, List.getElem?_cons_succ, List.getElem?_cons_zero, Option.some.injEq] at found
    omega
  · intro enough s member _
    refine ⟨n, ?_, enough⟩
    rw [(uniform s ((chosen s).mp member)).1]
    rfl

/-- A fixed length tells which of the last two checks fails first, or both hold. -/
private theorem fixed_checks (located : Located o metadata i m g) (count : metadata.length = inputs.length)
    (below : Check.HoldBelow o metadata inputs Check.requested.order)
    (uniform : ∀ s ∈ tensorsAt inputs [i, m, g], Uniform .fixed n s) :
    match fixedLength o n with
    | .error cause => ∃ c : Check, c.FirstFailing o metadata inputs ∧ cause.code = c.code
    | .ok length => (∀ c : Check, c.Holds o metadata inputs) ∧ 2 ≤ n ∧ length = .fixed n.toNat := by
  have requested := requested_iff located count uniform
  have least := least_iff located count uniform
  have length := fixedLength_correct o n
  cases fitted : fixedLength o n with
  | error cause =>
    rw [fitted] at length
    rcases length with ⟨wrong, code⟩ | ⟨agreed, short, code⟩
    · exact ⟨.requested, ⟨fun holds => wrong (requested.mp holds), below⟩, code⟩
    · have below := below.succ (c := .requested) (requested.mpr agreed)
      exact ⟨.least, ⟨fun holds => absurd (least.mp holds) (Int.not_le.mpr short), below⟩, code⟩
  | ok l =>
    rw [fitted] at length
    obtain ⟨agreed, enough, fixed⟩ := length
    have below := below.succ (c := .requested) (requested.mpr agreed)
    have below := below.succ (c := .least) (least.mpr enough)
    exact ⟨fun c => below c c.order_lt, enough, fixed⟩

end

/-- A layout is found exactly if all checks hold, and an error tells the first that fails. -/
theorem resolve_correct (o : Options) (metadata : List TensorMetadata) {inputs : List Slot}
    (declared : ∀ s ∈ inputs, s.signature.length = s.shape.length) :
    ResolutionCorrect o metadata inputs (resolve o metadata inputs) := by
  have below : Check.HoldBelow o metadata inputs 0 := .zero
  by_cases count : metadata.length = inputs.length
  case neg =>
    have failed : resolve o metadata inputs = .error (.inputCount metadata.length inputs.length) := by
      simp [resolve, count]
    rw [failed]
    exact ⟨.count, ⟨count, below⟩, rfl⟩
  have below := below.succ (c := .count) count
  rcases resolve_places (o := o) count with ⟨name, listed, missing, failed⟩ | ⟨i, m, g, located, run⟩
  · rw [failed]
    exact ⟨.names, ⟨fun named => missing (named name listed), below⟩, rfl⟩
  have below := below.succ (c := .names) located.names
  have mode := mode_checks located count declared below
  rw [run]
  cases found : shapeModeOf (tensorsAt inputs [i, m, g]) o.inputNames with
  | error cause =>
    rw [found] at mode
    exact mode
  | ok kind =>
    rw [found] at mode
    obtain ⟨below, n, uniform⟩ := mode
    cases kind with
    | dynamic =>
      refine ⟨dynamic_checks located below uniform, located.ids, located.mask, located.segmentIds, ?_⟩
      intro j listed
      obtain ⟨s, there, member⟩ := located.tensor count j listed
      exact ⟨s, there, ⟨n, (uniform s member).1⟩, (uniform s member).2⟩
    | fixed =>
      have length := fixed_checks located count below uniform
      -- The length is that of the first tensor, the one at the place of the ids.
      have actual : (((tensorsAt inputs [i, m, g]).head?).map (dimension · 1)).getD 0 = n := by
        obtain ⟨a, at_i, first⟩ := located.tensor count i List.mem_cons_self
        simp only [tensorsAt, List.filterMap_cons, at_i, List.head?_cons, Option.map_some, Option.getD_some]
        rw [dimension, (uniform a first).1]
        rfl
      rw [actual]
      cases fitted : fixedLength o n with
      | error cause =>
        rw [fitted] at length
        exact length
      | ok l =>
        rw [fitted] at length
        obtain ⟨hold, enough, rfl⟩ := length
        refine ⟨hold, located.ids, located.mask, located.segmentIds, ?_⟩
        intro j listed
        obtain ⟨s, there, member⟩ := located.tensor count j listed
        refine ⟨s, there, ?_, (uniform s member).2, ?_⟩
        · rw [(uniform s member).1, Int.toNat_of_nonneg (by omega)]
        · show 2 ≤ n.toNat
          omega

/-! ## Resolved layouts -/

theorem mem_places (l : InputLayout) : l.ids ∈ l.places ∧ l.mask ∈ l.places ∧ l.segmentIds ∈ l.places := by
  simp [places]

namespace Resolved
variable {o : Options} {metadata : List TensorMetadata} {inputs : List Slot} {l : InputLayout}

theorem chosen_iff (resolved : Resolved o metadata inputs l) (s : Slot) :
    Chosen o metadata inputs s ↔ ∃ i ∈ l.places, inputs[i]? = some s := by
  rw [Located.chosen_iff ⟨resolved.ids, resolved.mask, resolved.segmentIds⟩, tensorsAt, List.mem_filterMap]
  rfl

/-- A tensor that the names lead to can take the sequences of the layout. -/
theorem takes (resolved : Resolved o metadata inputs l) {s : Slot} (chosen : Chosen o metadata inputs s) :
    l.Takes s := by
  obtain ⟨i, listed, found⟩ := (resolved.chosen_iff s).mp chosen
  obtain ⟨t, there, takes⟩ := resolved.rows i listed
  rw [found, Option.some.injEq] at there
  rw [there]
  exact takes

theorem inside (resolved : Resolved o metadata inputs l) : ∀ i ∈ l.places, i < inputs.length := by
  intro i listed
  obtain ⟨s, there, -⟩ := resolved.rows i listed
  obtain ⟨inside, -⟩ := List.getElem?_eq_some_iff.mp there
  exact inside

/-- A tensor that no name leads to takes nothing. -/
theorem not_placed (resolved : Resolved o metadata inputs l) {i : Nat}
    (unnamed : ∀ name ∈ o.inputNames, ¬ FirstNamed metadata name i) : i ∉ l.places := by
  simp only [Options.inputNames, List.mem_cons, List.not_mem_nil, or_false, forall_eq_or_imp, forall_eq] at unnamed
  simp only [places, List.mem_cons, List.not_mem_nil, or_false, not_or]
  obtain ⟨ids, mask, segmentIds⟩ := unnamed
  exact ⟨fun same => ids (same ▸ resolved.ids), fun same => mask (same ▸ resolved.mask),
    fun same => segmentIds (same ▸ resolved.segmentIds)⟩

/-- Different names lead to different places. -/
theorem distinct (resolved : Resolved o metadata inputs l) (names : o.inputNames.Nodup) :
    l.places.Nodup := by
  simp only [Options.inputNames, List.nodup_cons, List.mem_cons, List.not_mem_nil, or_false, not_or,
    not_false_eq_true, List.nodup_nil, and_true] at names
  obtain ⟨⟨ids_mask, ids_segmentIds⟩, mask_segmentIds⟩ := names
  simp only [places, List.nodup_cons, List.mem_cons, List.not_mem_nil, or_false, not_or,
    not_false_eq_true, List.nodup_nil, and_true]
  refine ⟨⟨fun same => ?_, fun same => ?_⟩, fun same => ?_⟩
  · exact ids_mask (resolved.ids.name_unique (same ▸ resolved.mask))
  · exact ids_segmentIds (resolved.ids.name_unique (same ▸ resolved.segmentIds))
  · exact mask_segmentIds (resolved.mask.name_unique (same ▸ resolved.segmentIds))

/-- Some tensor takes the ids. -/
theorem chosen_ids (resolved : Resolved o metadata inputs l) :
    ∃ s, Chosen o metadata inputs s ∧ inputs[l.ids]? = some s := by
  obtain ⟨listed, -⟩ := l.mem_places
  obtain ⟨s, there, -⟩ := resolved.rows l.ids listed
  exact ⟨s, (resolved.chosen_iff s).mpr ⟨l.ids, listed, there⟩, there⟩

/-- A layout is dynamic exactly if all chosen inputs may change their length. -/
theorem dynamic_iff (resolved : Resolved o metadata inputs l) :
    l.mode = .dynamic ↔ ∀ s, Chosen o metadata inputs s → Elastic s := by
  cases length : l.length with
  | dynamic =>
    have mode : l.mode = .dynamic := by simp [mode, length]
    refine ⟨fun _ s chosen => ?_, fun _ => mode⟩
    have takes := resolved.takes chosen
    simp only [Takes, length] at takes
    exact takes.2
  | fixed n =>
    have mode : l.mode ≠ .dynamic := by simp [mode, length]
    refine ⟨fun dynamic => absurd dynamic mode, fun elastic => ?_⟩
    obtain ⟨s, chosen, -⟩ := resolved.chosen_ids
    have takes := resolved.takes chosen
    simp only [Takes, length] at takes
    exact absurd takes.2.1 (not_rigid (elastic s chosen))

theorem fixedLength?_eq_some (resolved : Resolved o metadata inputs l) (fixed : l.mode = .fixed) :
    ∃ n : Nat, l.fixedLength? = some n ∧ ∀ s, Chosen o metadata inputs s → s.shape[1]? = some (n : Int) := by
  cases length : l.length with
  | dynamic => simp [mode, length] at fixed
  | fixed n =>
    refine ⟨n, by simp [fixedLength?, length], fun s chosen => ?_⟩
    have takes := resolved.takes chosen
    simp only [Takes, length] at takes
    rw [takes.1]
    rfl

end Resolved

theorem fixedLength?_eq_none {l : InputLayout} (dynamic : l.mode = .dynamic) : l.fixedLength? = none := by
  cases length : l.length with
  | dynamic => simp [fixedLength?, length]
  | fixed n => simp [mode, length] at dynamic

end InputLayout
end TextClassifier
