import TextClassifier.Json.Untyped
import TextClassifier.Tokenizer

/-!
# Options of a classifier

The names of the tensors, the markers around a text, the expected length, and where the metadata
describes tokenizer and labels. Settings come from outside with values of any kind. They are checked
first and become options then.
-/
namespace TextClassifier
open Json

/-- What a classifier goes by. -/
structure Options where
  idsName : String := "ids"
  maskName : String := "mask"
  segmentIdsName : String := "segment_ids"
  scoreName : String := "probability"
  classificationToken : String := Tokenizer.classificationToken
  separatorToken : String := Tokenizer.separatorToken
  /-- The length that the model is expected to have, if any. -/
  length : Option Int := none
  /-- The id in unused places and of unknown tokens. -/
  padId : Int := 0
  /-- The process unit that describes the tokenizer. -/
  unitIndex : Int := 0
  /-- The output tensor whose metadata names the labels. -/
  outputIndex : Int := 0
  deriving DecidableEq, Repr

namespace Options

def inputNames (o : Options) : List String := [o.idsName, o.maskName, o.segmentIdsName]

end Options

/-- Options as they are given, with values of any kind. -/
structure Settings where
  idsName : Value := .str "ids"
  maskName : Value := .str "mask"
  segmentIdsName : Value := .str "segment_ids"
  scoreName : Value := .str "probability"
  classificationToken : Value := .str Tokenizer.classificationToken
  separatorToken : Value := .str Tokenizer.separatorToken
  length : Value := .null
  padId : Value := .int 0
  unitIndex : Value := .int 0
  outputIndex : Value := .int 0
  deriving Repr

namespace Settings

/-- Whether a value is less than an integer; only numbers can be compared. -/
def less (n : Int) : Value → Except Fault Bool
  | .bool b => .ok (decide ((if b then 1 else 0) < n))
  | .int m => .ok (decide (m < n))
  | .float x => .ok (decide (x < Float.ofInt n))
  | _ => .error .mistyped

/-- The check that a value is not less than an integer. -/
def atLeast (n : Int) (v : Value) (complaint : String) : Except Fault Unit := do
  if ← less n v then .error (.stated (complaint ++ ", got " ++ v.display)) else .ok ()

def distinct : List Value → Bool
  | [] => true
  | v :: rest => !rest.any v.equal && distinct rest

/-- The checks of settings, in order. -/
def check (s : Settings) : Except Fault Unit := do
  match s.length with
  | .null => pure ()
  | length => atLeast 2 length "max_seq_len must leave room for two markers"
  atLeast 0 s.unitIndex "tokenizer_process_unit_index must be non-negative"
  atLeast 0 s.outputIndex "output_tensor_index must be non-negative"
  let names := [s.idsName, s.maskName, s.segmentIdsName]
  if !names.all Value.isScalar then .error .mistyped
  else if !distinct names then
    .error (.stated ("input tensor names must be distinct, got " ++ (Value.array names).literal))
  else .ok ()

def set (s : Settings) (name : String) (v : Value) : Except Fault Settings :=
  match name with
  | "ids_tensor_name" => .ok { s with idsName := v }
  | "mask_tensor_name" => .ok { s with maskName := v }
  | "segment_ids_tensor_name" => .ok { s with segmentIdsName := v }
  | "score_tensor_name" => .ok { s with scoreName := v }
  | "classification_token" => .ok { s with classificationToken := v }
  | "separator_token" => .ok { s with separatorToken := v }
  | "max_seq_len" => .ok { s with length := v }
  | "pad_id" => .ok { s with padId := v }
  | "tokenizer_process_unit_index" => .ok { s with unitIndex := v }
  | "output_tensor_index" => .ok { s with outputIndex := v }
  | _ => .error .mistyped

/-- The settings under their names. -/
def members (s : Settings) : List (String × Value) :=
  [("ids_tensor_name", s.idsName), ("mask_tensor_name", s.maskName),
    ("segment_ids_tensor_name", s.segmentIdsName), ("score_tensor_name", s.scoreName),
    ("classification_token", s.classificationToken), ("separator_token", s.separatorToken),
    ("max_seq_len", s.length), ("pad_id", s.padId),
    ("tokenizer_process_unit_index", s.unitIndex), ("output_tensor_index", s.outputIndex)]

/-- Checked settings from values under names. -/
def ofMembers (given : List (String × Value)) : Except Fault Settings := do
  let s ← given.foldlM (fun s (name, v) => s.set name v) ({} : Settings)
  s.check
  return s

/-- A text, where anything else is of the wrong kind. -/
def text : Value → Except Fault String
  | .str s => .ok s
  | _ => .error .mistyped

/-- A whole number, where anything else is of the wrong kind. -/
def whole : Value → Except Fault Int
  | .int n => .ok n
  | .bool b => .ok (if b then 1 else 0)
  | .float x =>
    match Number.Dyadic.ofFloat? x with
    | some d => if d.equalsInt d.truncate then .ok d.truncate else .error .mistyped
    | none => .error .mistyped
  | _ => .error .mistyped

/-- The options that settings spell, once they are checked. -/
def options (s : Settings) : Except Fault Options := do
  s.check
  return {
    idsName := ← text s.idsName
    maskName := ← text s.maskName
    segmentIdsName := ← text s.segmentIdsName
    scoreName := ← text s.scoreName
    classificationToken := ← text s.classificationToken
    separatorToken := ← text s.separatorToken
    length := ← match s.length with
      | .null => pure none
      | v => some <$> whole v
    padId := ← whole s.padId
    unitIndex := ← whole s.unitIndex
    outputIndex := ← whole s.outputIndex }

end Settings

namespace Options

def settings (o : Options) : Settings where
  idsName := .str o.idsName
  maskName := .str o.maskName
  segmentIdsName := .str o.segmentIdsName
  scoreName := .str o.scoreName
  classificationToken := .str o.classificationToken
  separatorToken := .str o.separatorToken
  length := (o.length.map .int).getD .null
  padId := .int o.padId
  unitIndex := .int o.unitIndex
  outputIndex := .int o.outputIndex

/-- Options that pass the checks: a length has room for the markers, indices are not negative, and
the names of the inputs differ. -/
structure Valid (o : Options) : Prop where
  length : ∀ n ∈ o.length, 2 ≤ n
  unitIndex : 0 ≤ o.unitIndex
  outputIndex : 0 ≤ o.outputIndex
  names : o.inputNames.Nodup

theorem distinct_names_iff (o : Options) :
    Settings.distinct [.str o.idsName, .str o.maskName, .str o.segmentIdsName] = true ↔
      o.inputNames.Nodup := by
  simp [Settings.distinct, inputNames, Value.equal, Value.equalBy, and_assoc]

theorem atLeast_int_iff (n m : Int) (complaint : String) (passed : Unit) :
    Settings.atLeast n (.int m) complaint = .ok passed ↔ n ≤ m := by
  by_cases below : m < n
  · simp [Settings.atLeast, Settings.less, bind, Except.bind, below]
  · simp [Settings.atLeast, Settings.less, bind, Except.bind, below]
    omega

/-- The checks of settings pass exactly on valid options. -/
theorem check_settings_iff (o : Options) : o.settings.check = .ok () ↔ o.Valid := by
  have named := distinct_names_iff o
  have checks : o.settings.check = .ok () ↔
      (∀ n ∈ o.length, 2 ≤ n) ∧ 0 ≤ o.unitIndex ∧ 0 ≤ o.outputIndex ∧ o.inputNames.Nodup := by
    cases length : o.length with
    | none =>
      simp only [Settings.check, settings, length, Option.map_none, Option.getD_none, bind_ok_iff,
        atLeast_int_iff]
      by_cases distinct : o.inputNames.Nodup
      · simp [named.mpr distinct, distinct, Value.isScalar]
      · simp [Bool.eq_false_iff.mpr (mt named.mp distinct), distinct, Value.isScalar]
    | some n =>
      simp only [Settings.check, settings, length, Option.map_some, Option.getD_some, bind_ok_iff,
        atLeast_int_iff]
      by_cases distinct : o.inputNames.Nodup
      · simp [named.mpr distinct, distinct, Value.isScalar]
      · simp [Bool.eq_false_iff.mpr (mt named.mp distinct), distinct, Value.isScalar]
  rw [checks]
  constructor
  · rintro ⟨length, unitIndex, outputIndex, names⟩
    exact ⟨length, unitIndex, outputIndex, names⟩
  · rintro ⟨length, unitIndex, outputIndex, names⟩
    exact ⟨length, unitIndex, outputIndex, names⟩

instance (o : Options) : Decidable o.Valid :=
  decidable_of_iff (o.settings.check.isOk = true) <| by
    rw [← check_settings_iff]
    cases o.settings.check with
    | error fault => exact ⟨fun passed => (by cases passed), fun passed => (by cases passed)⟩
    | ok passed => exact ⟨fun _ => rfl, fun _ => rfl⟩

/-- Valid options are spelled by settings. -/
theorem options_settings {o : Options} (valid : o.Valid) : o.settings.options = .ok o := by
  have checked := (check_settings_iff o).mpr valid
  rw [Settings.options, checked]
  cases o with
  | mk idsName maskName segmentIdsName scoreName classification separator length padId unitIndex outputIndex =>
    cases length <;> rfl

end Options
end TextClassifier
