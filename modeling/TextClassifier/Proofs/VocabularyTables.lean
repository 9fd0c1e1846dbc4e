import TextClassifier.Proofs.FileLines
import TextClassifier.Proofs.VocabularyIds

/-!
# The tables of a vocabulary file

A line more gives its token its number and takes nothing from the other tokens (`id?_concat`). So a token has
the number of its last line, while its place among the tokens is that of its first one (`names_ofLines`).
-/
namespace TextClassifier.Vocabulary
open Table Text

variable {lines : List (List Char)} {line : List Char} {token : String} {id : Int}

/-! ## One more line -/

theorem numbered_concat (lines : List (List Char)) (line : List Char) : numbered (lines ++ [line]) =
    numbered lines ++ if line = [] then [] else [(String.ofList line, (lines.length : Int))] := by
  rw [numbered, List.zipIdx_append, List.filter_append, List.map_append]
  by_cases empty : line = []
  · simp [numbered, empty]
  · simp [numbered, empty]

theorem ofLines_blank (lines : List (List Char)) : ofLines (lines ++ [[]]) = ofLines lines := by
  rw [ofLines, numbered_concat, if_pos rfl, List.append_nil, ofLines]

theorem entries_concat (filled : line ≠ []) : (ofLines (lines ++ [line])).entries =
    insert (String.ofList line) lines.length (ofLines lines).entries := by
  rw [ofLines, numbered_concat, if_neg filled, ofTable, List.foldl_append]
  rfl

theorem id?_concat (filled : line ≠ []) (token : String) : (ofLines (lines ++ [line])).id? token =
    if token = String.ofList line then some (lines.length : Int) else (ofLines lines).id? token := by
  rw [id?, entries_concat filled, lookup_insert]
  rfl

/-! ## Ids -/

/-- A number of a line behind which the line does not come again. -/
def IsLast (lines : List String) (n : Nat) (token : String) : Prop :=
  lines[n]? = some token ∧ ∀ m, lines[m]? = some token → m ≤ n

section
variable {lines : List String} {line : String} {n : Nat}

theorem isLast_concat_self : IsLast (lines ++ [line]) n line ↔ n = lines.length := by
  constructor
  · rintro ⟨there, last⟩
    have behind := last lines.length List.getElem?_concat_length
    obtain ⟨inside, -⟩ := List.getElem?_eq_some_iff.mp there
    rw [List.length_append, List.length_singleton] at inside
    omega
  · rintro rfl
    refine ⟨List.getElem?_concat_length, fun m there => ?_⟩
    obtain ⟨inside, -⟩ := List.getElem?_eq_some_iff.mp there
    rw [List.length_append, List.length_singleton] at inside
    omega

theorem isLast_concat_other (other : token ≠ line) : IsLast (lines ++ [line]) n token ↔ IsLast lines n token := by
  have same : ∀ m : Nat, (lines ++ [line])[m]? = some token ↔ lines[m]? = some token := by
    intro m
    rw [List.getElem?_append]
    split
    · rfl
    · rename_i behind
      simp only [List.getElem?_singleton, List.getElem?_eq_none (Nat.not_lt.mp behind)]
      split
      · simpa using Ne.symm other
      · simp
  simp only [IsLast, same]

end

/-- The id of a token is the number of the last line that holds it. -/
theorem id?_ofLines_iff : (ofLines lines).id? token = some id ↔
    token ≠ "" ∧ ∃ n : Nat, id = n ∧ IsLast (lines.map String.ofList) n token := by
  induction lines using List.reverseRecOn with
  | nil => simp [ofLines, numbered, ofTable, id?, IsLast]
  | append_singleton lines line ih =>
    rw [List.map_append, List.map_singleton]
    by_cases blank : line = []
    · subst blank
      rw [ofLines_blank, ih]
      refine and_congr_right fun filled => ?_
      have other : token ≠ String.ofList [] := filled
      simp only [isLast_concat_other other]
    rw [id?_concat blank]
    by_cases same : token = String.ofList line
    · have filled : token ≠ "" := by
        rw [same]
        simpa using blank
      subst same
      simp only [if_pos, isLast_concat_self, List.length_map, Option.some.injEq]
      constructor
      · rintro rfl
        exact ⟨filled, _, rfl, rfl⟩
      · rintro ⟨-, n, rfl, rfl⟩
        rfl
    · rw [if_neg same, ih]
      simp only [isLast_concat_other same]

/-! ## Tokens in order -/

theorem keys_insert (token : String) (id : Int) (entries : List (String × Int)) :
    (insert token id entries).map (·.1) =
      if token ∈ entries.map (·.1) then entries.map (·.1) else entries.map (·.1) ++ [token] := by
  induction entries with
  | nil => rfl
  | cons e entries ih =>
    obtain ⟨t, i⟩ := e
    by_cases same : t = token
    · simp [insert, same]
    · have other : token ≠ t := Ne.symm same
      rw [insert, if_neg same, List.map_cons, ih]
      by_cases listed : token ∈ entries.map (·.1)
      · simp [listed, other]
      · simp [listed, other]

/-- The tokens of a vocabulary are the lines that are not empty, each in its first place. -/
theorem names_ofLines (lines : List (List Char)) :
    (ofLines lines).entries.map (·.1) = ((lines.map String.ofList).filter (· ≠ "")).eraseDups := by
  induction lines using List.reverseRecOn with
  | nil => rfl
  | append_singleton lines line ih =>
    rw [List.map_append, List.map_singleton, List.filter_append]
    by_cases blank : line = []
    · subst blank
      rw [ofLines_blank, ih]
      simp
    · have kept : [String.ofList line].filter (· ≠ "") = [String.ofList line] := by simpa using blank
      rw [entries_concat blank, keys_insert, kept, eraseDups_concat, ih]

theorem nodup_ofLines (lines : List (List Char)) : ((ofLines lines).entries.map (·.1)).Nodup := by
  induction lines using List.reverseRecOn with
  | nil => exact List.nodup_nil
  | append_singleton lines line ih =>
    by_cases blank : line = []
    · rwa [blank, ofLines_blank]
    · rw [entries_concat blank, keys_insert]
      exact nodup_adjoined ih

theorem mem_entries_iff : (token, id) ∈ (ofLines lines).entries ↔ (ofLines lines).id? token = some id :=
  (lookup_eq_some_iff (nodup_ofLines lines)).symm

/-- No two tokens have one id, so the table of ids is the table of tokens turned around. -/
theorem token?_ofLines_iff : (ofLines lines).token? id = some token ↔ (ofLines lines).id? token = some id := by
  rw [token?, Option.map_eq_some_iff]
  constructor
  · rintro ⟨⟨token, i⟩, found, rfl⟩
    obtain rfl : i = id := by simpa using List.find?_some found
    exact mem_entries_iff.mp (List.mem_reverse.mp (List.mem_of_find?_eq_some found))
  · intro known
    have listed := List.mem_reverse.mpr (mem_entries_iff.mpr known)
    have sought : ((ofLines lines).entries.reverse.find? fun e => e.2 == id).isSome :=
      List.find?_isSome.mpr ⟨(token, id), listed, beq_self_eq_true id⟩
    obtain ⟨⟨other, i⟩, found⟩ := Option.isSome_iff_exists.mp sought
    refine ⟨(other, i), found, ?_⟩
    obtain rfl : i = id := by simpa using List.find?_some found
    have taken := mem_entries_iff.mp (List.mem_reverse.mp (List.mem_of_find?_eq_some found))
    exact id?_ofLines_injective taken known

/-! ## Files -/

/-- The lines of a vocabulary file: the pieces between line feeds, without an empty last one and without the
carriage returns at their ends. -/
def fileLines (text : List Char) : List String :=
  (dropFinalEmpty (text.splitOn '\n')).map fun line => String.ofList (line.rdropWhile (· == '\r'))

theorem fileLines_eq (text : List Char) : fileLines text = (Text.lines text).map String.ofList := by
  rw [lines_eq, List.map_map]
  rfl

/-- Tables that go by lines: a token has the number of its last line and is the only one with it, and the
tokens stand in the order of their first lines. -/
structure Tabulates (v : Vocabulary) (lines : List String) : Prop where
  id?_iff : ∀ (token : String) (id : Int), v.id? token = some id ↔
    token ≠ "" ∧ ∃ n : Nat, id = n ∧ IsLast lines n token
  token?_iff : ∀ (token : String) (id : Int), v.token? id = some token ↔ v.id? token = some id
  mem_iff : ∀ (token : String) (id : Int), (token, id) ∈ v.entries ↔ v.id? token = some id
  names : v.entries.map (·.1) = (lines.filter (· ≠ "")).eraseDups
  size : v.size = (lines.filter (· ≠ "")).eraseDups.length

theorem tabulates_ofLines (lines : List (List Char)) : (ofLines lines).Tabulates (lines.map String.ofList) where
  id?_iff _ _ := id?_ofLines_iff
  token?_iff _ _ := token?_ofLines_iff
  mem_iff _ _ := mem_entries_iff
  names := names_ofLines lines
  size := by rw [← names_ofLines, List.length_map, size]

theorem ofLines_withReturns (text : List Char) :
    ofLines (Text.lines (withReturns text)) = ofLines (Text.lines text) := by
  rw [lines_withReturns]

theorem ofLines_append_newline (text : List Char) :
    ofLines (Text.lines (text ++ ['\n'])) = ofLines (Text.lines text) := by
  rcases lines_append_newline text with same | blank
  · rw [same]
  · rw [blank, ofLines_blank]

/-- Every file of UTF-8 has the tables of its lines, and carriage returns before its line feeds or one more
line feed at its end change none of them. -/
theorem read_tabulates {bytes : Bytes} {text : List Char} (valid : Utf8.decode bytes = .ok text) :
    ∃ v, (read bytes).result = .ok v ∧ v.Tabulates (fileLines text) ∧
      (read (bytesWithReturns bytes)).result = .ok v ∧ (read (bytes ++ [0x0A])).result = .ok v := by
  have tables : ∀ {bytes : Bytes} {text : List Char}, bytes = Utf8.encode text →
      (read bytes).result = .ok (ofLines (Text.lines text)) := by
    intro bytes text written
    rw [result_read, ofBytes, Utf8.decode_eq_ok_iff.mpr written]
    rfl
  have written := Utf8.decode_eq_ok_iff.mp valid
  have returned : bytesWithReturns bytes = Utf8.encode (withReturns text) := by
    rw [written, bytesWithReturns_encode]
  have longer : bytes ++ [0x0A] = Utf8.encode (text ++ ['\n']) := by
    rw [Utf8.encode_append, ← written]
    rfl
  refine ⟨ofLines (Text.lines text), tables written, ?_, ?_, ?_⟩
  · rw [fileLines_eq]
    exact tabulates_ofLines _
  · rw [tables returned, ofLines_withReturns]
  · rw [tables longer, ofLines_append_newline]

/-- A file with a repeated token, an empty line, and carriage returns before a line feed and at its end. -/
theorem read_tabulates_sample : ∃ v, (read (Utf8.encode "[PAD]\r\n\nthe\n[PAD]\r".toList)).result = .ok v ∧
    v.entries.map (·.1) = ["[PAD]", "the"] ∧ v.id? "[PAD]" = some 3 ∧ v.token? 0 = none := by
  have valid := Utf8.decodeFrom_encode 0 "[PAD]\r\n\nthe\n[PAD]\r".toList
  obtain ⟨v, loaded, tables, -⟩ := read_tabulates valid
  have lines : fileLines "[PAD]\r\n\nthe\n[PAD]\r".toList = ["[PAD]", "", "the", "[PAD]"] := by decide
  rw [lines] at tables
  refine ⟨v, loaded, tables.names.trans (by decide), ?_, ?_⟩
  · refine (tables.id?_iff _ _).mpr ⟨by decide, 3, rfl, rfl, fun m there => ?_⟩
    obtain ⟨inside, -⟩ := List.getElem?_eq_some_iff.mp there
    exact Nat.le_of_lt_succ inside
  · refine Option.eq_none_iff_forall_ne_some.mpr fun token found => ?_
    obtain ⟨-, n, zero, there, last⟩ := (tables.id?_iff _ _).mp ((tables.token?_iff _ _).mp found)
    obtain rfl : n = 0 := by omega
    obtain rfl := Option.some.inj there
    exact absurd (last 3 rfl) (by decide)

end TextClassifier.Vocabulary
