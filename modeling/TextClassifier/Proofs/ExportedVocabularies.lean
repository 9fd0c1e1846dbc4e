import TextClassifier.Proofs.BrokenLines
import TextClassifier.Proofs.ExportAcceptance

/-!
# Exported vocabularies

The vocabulary of a file that an export writes has the ids of the original one (`Lined.token?_again`). Where
several tokens share an id, only the last of them is in the file. There is no file if there is no memory for
its lines.
-/
namespace TextClassifier
open Table Text Vocabulary

namespace Text

theorem stops_of_mem_pieces {stops : Char → Bool} {s piece : List Char} (listed : piece ∈ pieces stops s) :
    ∀ c ∈ piece, stops c = false := by
  induction s generalizing piece with
  | nil =>
    rw [pieces, List.mem_singleton] at listed
    simp [listed]
  | cons c s ih =>
    rw [pieces] at listed
    split at listed
    · rcases List.mem_cons.mp listed with rfl | later
      · simp
      · exact ih later
    · rename_i other
      split at listed
      · simp_all
      · rename_i first more split
        rcases List.mem_cons.mp listed with rfl | later
        · exact List.forall_mem_cons.mpr ⟨by simpa using other, ih (split ▸ List.mem_cons_self)⟩
        · exact ih (split ▸ List.mem_cons_of_mem _ later)

/-- The lines of a text can be written as lines again. -/
theorem whole_of_mem_lines {s line : List Char} (listed : line ∈ lines s) :
    '\n' ∉ line ∧ line.getLast? ≠ some '\r' := by
  obtain ⟨piece, dropped, rfl⟩ := List.mem_map.mp listed
  have among : piece ∈ pieces (· == '\n') s := by
    rw [dropFinalEmpty] at dropped
    split at dropped
    · exact List.mem_of_mem_dropLast dropped
    · exact dropped
  constructor
  · intro inside
    have newline := stops_of_mem_pieces among '\n' ((List.rdropWhile_prefix _ piece).subset inside)
    cases newline
  · intro last
    have filled : piece.rdropWhile (· == '\r') ≠ [] := by
      rintro empty
      rw [show dropReturns piece = [] from empty] at last
      cases last
    have ends := List.rdropWhile_last_not (· == '\r') piece filled
    rw [show dropReturns piece = piece.rdropWhile (· == '\r') from rfl, List.getLast?_eq_some_getLast filled] at last
    exact ends (beq_iff_eq.mpr (Option.some.inj last))

end Text

namespace Vocabulary
variable {v : Vocabulary} {memory : Option Nat} {entries : List (String × Int)} {table : List (String × Int)}
  {token : String} {id : Int}

/-! ## The token of an id -/

theorem token?_concat (entries : List (String × Int)) (token : String) (id sought : Int) :
    (Vocabulary.mk (entries ++ [(token, id)])).token? sought =
      if id = sought then some token else (Vocabulary.mk entries).token? sought := by
  rw [token?, List.reverse_concat, List.find?_cons]
  by_cases same : id = sought
  · simp [same]
  · simp [same, token?, beq_eq_false_iff_ne.mpr same]

theorem mem_of_token? (found : v.token? id = some token) : (token, id) ∈ v.entries := by
  obtain ⟨⟨token, i⟩, there, rfl⟩ := Option.map_eq_some_iff.mp found
  obtain rfl : i = id := by simpa using List.find?_some there
  exact List.mem_reverse.mp (List.mem_of_find?_eq_some there)

/-! ## Lines that are written -/

/-- A line for every id, which is empty where no token has the id. -/
def idLines (v : Vocabulary) : List String := (List.range v.lineCount).map fun (n : Nat) => (v.token? n).getD ""

/-- Behind all placements, the last token with an id stands in its line. -/
theorem getElem?_foldlM_place {lines placed : Array String} (inside : ∀ e ∈ entries, 0 ≤ e.2 ∧ e.2 < lines.size)
    (written : entries.foldlM (fun lines (token, id) => place lines token id) lines = .ok placed) (n : Nat) :
    placed[n]? = lines[n]?.map (((Vocabulary.mk entries).token? n).getD ·) := by
  induction entries using List.reverseRecOn generalizing placed with
  | nil =>
    obtain rfl := Except.ok.inj written
    exact Option.map_id'.symm
  | append_singleton entries e ih =>
    obtain ⟨token, id⟩ := e
    obtain ⟨earlier, last⟩ := List.forall_mem_append.mp inside
    obtain ⟨natural, below⟩ := last (token, id) (List.mem_singleton_self _)
    obtain ⟨before, begun, size⟩ := foldlM_place earlier
    have goes := ih earlier begun
    rw [List.foldlM_append, begun] at written
    have put : place before token id >>= pure = .ok placed := written
    rw [place_ok natural (size.symm ▸ below)] at put
    obtain rfl := Except.ok.inj put
    rw [Array.getElem?_setIfInBounds, token?_concat]
    by_cases here : id.toNat = n
    · have same : id = n := by omega
      have there : n < lines.size := by omega
      simp [same, size, there]
    · have other : id ≠ n := by omega
      rw [if_neg here, if_neg other, goes]

theorem getElem?_idLines (v : Vocabulary) (n : Nat) :
    v.idLines[n]? = if n < v.lineCount then some ((v.token? n).getD "") else none := by
  rw [idLines, List.getElem?_map]
  split
  · rename_i inside
    rw [List.getElem?_range inside, Option.map_some]
  · rename_i outside
    rw [List.getElem?_eq_none (by simpa using outside), Option.map_none]

theorem hasRoom_of_toLines {lines : List String} (written : v.toLines memory = .ok lines) : v.HasRoom memory := by
  unfold toLines at written
  split at written
  · cases written
  split at written
  · cases written
  rename_i fits
  simp only [Bool.or_eq_true, Bool.not_eq_true', not_or, Bool.not_eq_false] at fits
  constructor
  · have word := ((Number.fitsSigned_64_iff _).mp fits.1).2
    omega
  · rintro limit rfl
    simpa using fits.2

/-- A vocabulary is written line by line, as long as there is memory for the lines. -/
theorem toLines_ok_iff (natural : ∀ e ∈ v.entries, 0 ≤ e.2) {lines : List String} :
    v.toLines memory = .ok lines ↔ v.HasRoom memory ∧ lines = v.idLines := by
  have only : ∀ {lines : List String}, v.toLines memory = .ok lines → lines = v.idLines := by
    intro lines written
    have inside : ∀ e ∈ v.entries, 0 ≤ e.2 ∧ e.2 < (Array.replicate v.lineCount "").size := by
      intro e listed
      rw [Array.size_replicate]
      exact ⟨natural e listed, lt_lineCount listed⟩
    unfold toLines at written
    split at written
    · cases written
    split at written
    · cases written
    obtain ⟨placed, put, rfl⟩ := map_ok_iff.mp written
    refine List.ext_getElem? fun n => ?_
    rw [Array.getElem?_toList, getElem?_foldlM_place inside put, getElem?_idLines, Array.getElem?_replicate]
    split
    · rfl
    · rfl
  constructor
  · intro written
    exact ⟨hasRoom_of_toLines written, only written⟩
  · rintro ⟨room, rfl⟩
    obtain ⟨lines, written, -⟩ := exists_toLines natural room
    rw [written, only written]

/-! ## Vocabularies that lines can hold -/

/-- A vocabulary whose tokens are lines: no id is negative, and no token is empty or cut short. -/
structure Lined (v : Vocabulary) : Prop where
  distinct : (v.entries.map (·.1)).Nodup
  natural : ∀ e ∈ v.entries, 0 ≤ e.2
  filled : ∀ e ∈ v.entries, e.1 ≠ ""
  whole : ∀ e ∈ v.entries, IsLine e.1

theorem nodup_ofTable (table : List (String × Int)) : ((ofTable table).entries.map (·.1)).Nodup := by
  induction table using List.reverseRecOn with
  | nil => exact List.nodup_nil
  | append_singleton table e ih =>
    have more : (ofTable (table ++ [e])).entries = insert e.1 e.2 (ofTable table).entries := by
      simp [ofTable]
    rw [more, keys_insert]
    exact nodup_adjoined ih

theorem mem_of_mem_ofTable (listed : (token, id) ∈ (ofTable table).entries) : (token, id) ∈ table := by
  have known := (lookup_eq_some_iff (nodup_ofTable table)).mpr listed
  have looked := id?_ofTable table token
  rw [id?, known] at looked
  obtain ⟨front, back, reversed, -⟩ := List.lookup_eq_some_iff.mp looked.symm
  exact List.mem_reverse.mp (by simp [reversed])

theorem Lined.ofTable (entries : ∀ e ∈ table, 0 ≤ e.2 ∧ e.1 ≠ "" ∧ IsLine e.1) : (ofTable table).Lined where
  distinct := nodup_ofTable table
  natural e listed := (entries e (mem_of_mem_ofTable listed)).1
  filled e listed := (entries e (mem_of_mem_ofTable listed)).2.1
  whole e listed := (entries e (mem_of_mem_ofTable listed)).2.2

/-- Every vocabulary of a file can be written again. -/
theorem Lined.ofLines (text : List Char) : (ofLines (lines text)).Lined where
  distinct := nodup_ofLines _
  natural := natural_ofLines _
  filled e listed := (id?_ofLines_iff.mp (mem_entries_iff.mp listed)).1
  whole e listed := by
    obtain ⟨i, line, there, -, same, -⟩ := id?_ofLines (mem_entries_iff.mp listed)
    rw [IsLine, ← same, String.toList_ofList]
    exact whole_of_mem_lines (List.mem_of_getElem? there)

/-! ## What is read again -/

/-- The vocabulary of the lines of another. -/
def again (v : Vocabulary) : Vocabulary := ofLines (v.idLines.map String.toList)

theorem Lined.idLines (lined : v.Lined) : ∀ line ∈ v.idLines, IsLine line := by
  intro line listed
  obtain ⟨n, -, rfl⟩ := List.mem_map.mp listed
  cases found : v.token? n with
  | none => decide
  | some token => exact lined.whole _ (mem_of_token? found)

theorem Lined.mem_iff (lined : v.Lined) : (token, id) ∈ v.entries ↔ v.id? token = some id :=
  (lookup_eq_some_iff lined.distinct).symm

/-- A line with a token has the number that is its id. -/
theorem getElem?_idLines_iff (filled : token ≠ "") {n : Nat} :
    v.idLines[n]? = some token ↔ v.token? n = some token := by
  rw [getElem?_idLines]
  constructor
  · intro there
    split at there
    · cases found : v.token? n with
      | none =>
        rw [found] at there
        exact absurd (Option.some.inj there).symm filled
      | some other =>
        rw [found] at there
        exact there
    · cases there
  · intro found
    have inside := lt_lineCount (mem_of_token? found)
    rw [if_pos (by simpa using inside), found]
    rfl

/-- Read again, a token has an id exactly if it is the token of that id. -/
theorem Lined.id?_again_iff (lined : v.Lined) : v.again.id? token = some id ↔ v.token? id = some token := by
  have joined : (v.idLines.map String.toList).map String.ofList = v.idLines := by simp
  rw [again, id?_ofLines_iff, joined]
  constructor
  · rintro ⟨filled, n, rfl, there, -⟩
    exact (getElem?_idLines_iff filled).mp there
  · intro found
    have listed := mem_of_token? found
    have filled := lined.filled _ listed
    obtain ⟨n, rfl⟩ := Int.eq_ofNat_of_zero_le (lined.natural _ listed)
    refine ⟨filled, n, rfl, (getElem?_idLines_iff filled).mpr found, fun m there => ?_⟩
    have other := mem_of_token? ((getElem?_idLines_iff filled).mp there)
    rw [lined.mem_iff] at listed other
    rw [listed] at other
    have same := Option.some.inj other
    omega

theorem Lined.token?_again (lined : v.Lined) (id : Int) : v.again.token? id = v.token? id := by
  refine Option.ext fun token => ?_
  rw [again, token?_ofLines_iff, ← again, lined.id?_again_iff]

/-- A token keeps its id unless a later one has it too. -/
theorem Lined.id?_again (lined : v.Lined) (token : String) :
    v.again.id? token = if (v.id? token).bind v.token? = some token then v.id? token else none := by
  refine Option.ext fun id => ?_
  rw [lined.id?_again_iff]
  constructor
  · intro found
    have known := lined.mem_iff.mp (mem_of_token? found)
    rw [known, Option.bind_some, if_pos found]
  · intro kept
    split at kept
    · rename_i back
      rwa [kept, Option.bind_some] at back
    · cases kept

/-! ## Tokens in the order of ids -/

theorem insert_new (new : token ∉ entries.map (·.1)) : insert token id entries = entries ++ [(token, id)] := by
  induction entries with
  | nil => rfl
  | cons e entries ih =>
    rw [List.map_cons, List.mem_cons, not_or] at new
    rw [insert, if_neg (Ne.symm new.1), ih new.2, List.cons_append]

/-- If no line repeats another, ids ascend with the lines. -/
theorem pairwise_ofLines {lines : List (List Char)}
    (distinct : ((lines.map String.ofList).filter (· ≠ "")).Nodup) :
    (ofLines lines).entries.Pairwise (·.2 < ·.2) := by
  induction lines using List.reverseRecOn with
  | nil => exact .nil
  | append_singleton lines line ih =>
    rw [List.map_append, List.filter_append, List.nodup_append] at distinct
    obtain ⟨earlier, -, apart⟩ := distinct
    by_cases blank : line = []
    · rw [blank, ofLines_blank]
      exact ih earlier
    have new : String.ofList line ∉ (ofLines lines).entries.map (·.1) := by
      rw [names_ofLines, List.mem_eraseDups]
      intro listed
      exact apart _ listed _ (by simpa using blank) rfl
    rw [entries_concat blank, insert_new new, List.pairwise_append]
    refine ⟨ih earlier, List.pairwise_singleton _ _, ?_⟩
    intro e listed last same
    rw [List.mem_singleton.mp same]
    exact (id?_ofLines_bounds (mem_entries_iff.mp listed)).2

/-- No token has two lines. -/
theorem Lined.nodup_idLines (lined : v.Lined) : (v.idLines.filter (· ≠ "")).Nodup := by
  rw [Vocabulary.idLines, List.filter_map]
  refine List.Nodup.map_on ?_ (List.nodup_range.filter _)
  intro n first m second same
  have filled := of_decide_eq_true (List.mem_filter.mp first).2
  have token : ∀ k : Nat, (v.token? k).getD "" = (v.token? n).getD "" → v.token? k = some ((v.token? n).getD "") := by
    intro k there
    cases found : v.token? k with
    | none =>
      rw [found] at there
      exact absurd there.symm filled
    | some token =>
      rw [found] at there
      exact congrArg some there
  have one := mem_of_token? (token n rfl)
  have other := mem_of_token? (token m same.symm)
  rw [lined.mem_iff] at one other
  rw [one] at other
  exact Int.ofNat_inj.mp (Option.some.inj other)

theorem id?_again_ofLines (text : List Char) (token : String) :
    (ofLines (lines text)).again.id? token = (ofLines (lines text)).id? token := by
  refine Option.ext fun id => ?_
  rw [(Lined.ofLines text).id?_again_iff, token?_ofLines_iff]

/-- Read again, a vocabulary has its items in the order of their ids. -/
theorem entries_again (text : List Char) : (ofLines (lines text)).again.entries =
    (ofLines (lines text)).entries.mergeSort (·.2 ≤ ·.2) := by
  have lined := Lined.ofLines text
  have joined : ((ofLines (lines text)).idLines.map String.toList).map String.ofList = (ofLines (lines text)).idLines := by
    simp
  have rising : (ofLines (lines text)).again.entries.Pairwise (·.2 ≤ ·.2) := by
    refine (pairwise_ofLines ?_).imp fun below => Int.le_of_lt below
    rw [joined]
    exact lined.nodup_idLines
  have sorted : ((ofLines (lines text)).entries.mergeSort (·.2 ≤ ·.2)).Pairwise (·.2 ≤ ·.2) := by
    refine (List.pairwise_mergeSort ?_ ?_ _).imp of_decide_eq_true
    · simp only [decide_eq_true_eq]
      exact fun _ _ _ => Int.le_trans
    · simp only [Bool.or_eq_true, decide_eq_true_eq]
      exact fun _ _ => Int.le_total _ _
  have same : (ofLines (lines text)).again.entries.Perm ((ofLines (lines text)).entries.mergeSort (·.2 ≤ ·.2)) :=
    (perm_of_lookup (nodup_ofLines _) lined.distinct (id?_again_ofLines text)).trans (List.mergeSort_perm _ _).symm
  refine List.Perm.eq_of_pairwise ?_ rising sorted same
  rintro ⟨token, i⟩ ⟨other, j⟩ here there below above
  obtain rfl : i = j := Int.le_antisymm below above
  have first := mem_entries_iff.mp here
  rw [← again, id?_again_ofLines] at first
  have second := mem_entries_iff.mp (List.mem_mergeSort.mp there)
  rw [id?_ofLines_injective first second]

end Vocabulary

/-! ## Files -/

namespace Export
variable {m : Model} {s : ExportSettings} {tokens : Tokens} {v : Vocabulary}

theorem ofBytes_fileOfLines {lines : List String} (whole : ∀ line ∈ lines, IsLine line) :
    Vocabulary.ofBytes (fileOfLines lines) = .ok (ofLines (lines.map String.toList)) := by
  obtain ⟨text, decoded, split⟩ := exists_lines_fileOfLines whole
  rw [Vocabulary.ofBytes, decoded]
  show Except.ok (ofLines (Text.lines text)) = _
  rw [split]
  by_cases empty : lines = []
  · subst empty
    rfl
  · rw [if_neg empty]

/-- A model that gives one tensor for the example, and settings with a type for its inputs. -/
def Ready (m : Model) (s : ExportSettings) : Prop :=
  ∃ type inputs output, inputType s = .ok type ∧ exampleInputs m.memory type s.length = .ok inputs ∧
    exampleOutput m.graph inputs = .ok output

/-- What comes of an export: a package with a vocabulary that has a property, or the fault that there is no
memory for the lines. -/
inductive Yields (m : Model) (s : ExportSettings) (tokens : Tokens) (holds : Vocabulary → Prop) : Prop
  | written {p : Package} {bytes : Bytes} {w : Vocabulary} (exported : (Export.package m tokens s).result = .ok p)
      (file : p.file? vocabularyFile = some bytes) (read : Vocabulary.ofBytes bytes = .ok w) (parsed : holds w)
  | cramped {v : Vocabulary} {fault : Fault} (given : tokens = .vocabulary v) (cramped : ¬ v.HasRoom m.memory)
      (failed : (Export.package m tokens s).result = .error (.fault fault))

variable {holds : Vocabulary → Prop}

/-- If the model is ready, an export fails only where the lines cannot be had. -/
theorem Ready.package_result (ready : Ready m s) (tokens : Tokens) : ∃ type output,
    (Export.package m tokens s).result = ((tokens.lines m.memory).mapError .fault).map fun lines =>
      ⟨metadata s, graphDescription s type output, m.bytes, files s lines⟩ := by
  obtain ⟨type, inputs, output, typed, example_inputs, example_output⟩ := ready
  have packed : packageOf m tokens s = ((tokens.lines m.memory).mapError .fault).map fun lines =>
      (⟨metadata s, graphDescription s type output, m.bytes, files s lines⟩, output) := by
    rw [packageOf, typed]
    show (exampleInputs m.memory type s.length).mapError Error.fault >>= _ = _
    rw [example_inputs]
    show exampleOutput m.graph inputs >>= _ = _
    rw [example_output]
    cases tokens.lines m.memory <;> rfl
  refine ⟨type, output, ?_⟩
  simp only [Export.package, Attempt.result_bind, Attempt.result_of, packed]
  cases tokens.lines m.memory <;> rfl

theorem Ready.yields (ready : Ready m s) {lines : List String} (listed : tokens.lines m.memory = .ok lines)
    (whole : ∀ line ∈ lines, IsLine line) (parsed : holds (ofLines (lines.map String.toList))) :
    Yields m s tokens holds := by
  obtain ⟨type, output, exported⟩ := ready.package_result tokens
  rw [listed] at exported
  exact .written exported rfl (ofBytes_fileOfLines whole) parsed

theorem Ready.yields_vocabulary (ready : Ready m s) (lined : v.Lined) (parsed : holds v.again) :
    Yields m s (.vocabulary v) holds := by
  by_cases room : v.HasRoom m.memory
  · have written := (toLines_ok_iff lined.natural).mpr ⟨room, rfl⟩
    exact ready.yields written lined.idLines parsed
  · cases written : v.toLines m.memory with
    | ok lines => exact absurd (hasRoom_of_toLines written) room
    | error fault =>
      obtain ⟨type, output, failed⟩ := ready.package_result (.vocabulary v)
      rw [Tokens.lines, written] at failed
      exact .cramped rfl room failed

/-- The vocabulary of a file keeps its tables, with its tokens in the order of ids. A table of tokens keeps the
token of every id, and the ids of the tokens that are found by them. A token in a list gets its last place. -/
theorem yields_vocabularies (ready : Ready m s) :
    (∀ (bytes : Bytes) (v : Vocabulary), Vocabulary.ofBytes bytes = .ok v →
      Yields m s (.vocabulary v) fun w => (∀ token : String, w.id? token = v.id? token) ∧
        (∀ id : Int, w.token? id = v.token? id) ∧ w.entries = v.entries.mergeSort (·.2 ≤ ·.2)) ∧
    (∀ table : List (String × Int), (∀ e ∈ table, 0 ≤ e.2 ∧ e.1 ≠ "" ∧ IsLine e.1) →
      Yields m s (.vocabulary (ofTable table)) fun w => (∀ id : Int, w.token? id = (ofTable table).token? id) ∧
        ∀ token : String, w.id? token =
          if ((ofTable table).id? token).bind (ofTable table).token? = some token then (ofTable table).id? token
          else none) ∧
    ∀ list : List String, (∀ token ∈ list, IsLine token) → Yields m s (.listed list) fun w =>
      ∀ (token : String) (id : Int), w.id? token = some id ↔ token ≠ "" ∧ ∃ n : Nat, id = n ∧ IsLast list n token := by
  refine ⟨fun bytes v read => ?_, fun table entries => ?_, fun list whole => ?_⟩
  · obtain ⟨text, -, rfl⟩ := map_ok_iff.mp read
    have lined := Lined.ofLines text
    exact ready.yields_vocabulary lined ⟨id?_again_ofLines text, lined.token?_again, entries_again text⟩
  · have lined := Lined.ofTable entries
    exact ready.yields_vocabulary lined ⟨lined.token?_again, lined.id?_again⟩
  · refine ready.yields rfl whole fun token id => ?_
    have joined : (list.map String.toList).map String.ofList = list := by simp
    rw [id?_ofLines_iff, joined]

/-- Two tokens with one id, and one token in two places. -/
theorem yields_vocabularies_sample :
    (Yields Package.sampleModel sampleSettings (.vocabulary (ofTable [("a", 2), ("é", 0), ("b", 2)])) fun w =>
      w.id? "a" = none ∧ w.id? "b" = some 2 ∧ w.token? 0 = some "é" ∧ w.token? 1 = none) ∧
    Yields Package.sampleModel sampleSettings (.listed ["a", "", "a", "b"]) fun w => w.id? "a" = some 2 := by
  obtain ⟨inputs, shown⟩ := exists_ok (r := exampleInputs none .float32 2) (by decide +kernel)
  have ready : Ready Package.sampleModel sampleSettings := ⟨.float32, inputs, _, rfl, shown, rfl⟩
  obtain ⟨-, tables, lists⟩ := yields_vocabularies ready
  refine ⟨?_, ?_⟩
  · cases tables [("a", 2), ("é", 0), ("b", 2)] (by decide) with
    | written exported file read parsed =>
      refine .written exported file read ⟨?_, ?_, ?_, ?_⟩
      · rw [parsed.2]
        decide
      · rw [parsed.2]
        decide
      · rw [parsed.1]
        decide
      · rw [parsed.1]
        decide
    | cramped given cramped failed => exact .cramped given cramped failed
  · cases lists ["a", "", "a", "b"] (by decide) with
    | written exported file read parsed =>
      refine .written exported file read ((parsed "a" 2).mpr ⟨by decide, 2, rfl, rfl, fun n there => ?_⟩)
      match n with
      | 0 | 1 | 2 => decide
      | 3 => exact absurd (Option.some.inj there) (by decide)
      | n + 4 => cases there
    | cramped given => cases given

end Export
end TextClassifier
