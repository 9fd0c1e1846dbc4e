import Mathlib
import TextClassifier.Archive.Zip
import TextClassifier.Proofs.Utf8Texts

/-!
# Archives are read from the files that they are written as

Every field of a written file is found at its offset (`At`). An archive with plain names whose sizes and
offsets fit their fields is read back from its file (`read?_write`).
-/
namespace TextClassifier.Zip
open Text

variable {s : Source} {offset : Nat}

/-! ## Bytes at an offset -/

/-- Bytes stand in a file at an offset. -/
def At (s : Source) (offset : Nat) (bytes : Bytes) : Prop :=
  offset + bytes.length ≤ s.size ∧ bytes <+: s.toList.drop offset

theorem at_append_iff {x y : Bytes} : At s offset (x ++ y) ↔ At s offset x ∧ At s (offset + x.length) y := by
  simp only [At, ← List.drop_drop, List.length_append]
  generalize s.toList.drop offset = text
  constructor
  · rintro ⟨inside, rest, rfl⟩
    exact ⟨⟨by omega, y ++ rest, by simp⟩, by omega, rest, by simp⟩
  · rintro ⟨⟨-, rest, rfl⟩, inside, second⟩
    rw [List.drop_left] at second
    exact ⟨by omega, (List.prefix_append_right_inj x).mpr second⟩

theorem getElem?_of_at {b : UInt8} {rest : Bytes} (stands : At s offset (b :: rest)) :
    s[offset]? = some b ∧ At s (offset + 1) rest := by
  have parts := at_append_iff.mp (show At s offset ([b] ++ rest) from stands)
  refine ⟨?_, parts.2⟩
  obtain ⟨-, behind, same⟩ := parts.1
  rw [← Array.getElem?_toList, ← Nat.add_zero offset, ← List.getElem?_drop, ← same]
  rfl

@[simp] theorem length_number (n value : Nat) : (number n value).length = n := by
  induction n generalizing value with
  | zero => rfl
  | succ n ih => simp [number, ih]

/-- A number is read where it stands, if its bytes are enough. -/
theorem numberAt?_number {n value : Nat} (fits : value < 256 ^ n) (stands : At s offset (number n value)) :
    numberAt? s n offset = some value := by
  induction n generalizing value offset with
  | zero =>
    have zero : value = 0 := by simpa using fits
    rw [numberAt?, zero]
  | succ n ih =>
    obtain ⟨low, rest⟩ := getElem?_of_at stands
    have high : value / 256 < 256 ^ n := Nat.div_lt_of_lt_mul (by rwa [Nat.pow_succ, Nat.mul_comm] at fits)
    have byte : (value % 256).toUInt8.toNat = value % 256 := by
      rw [Nat.toUInt8, UInt8.toNat_ofNat']
      omega
    rw [numberAt?, low, ih high rest]
    show some ((value % 256).toUInt8.toNat + 256 * (value / 256)) = some value
    rw [byte, Nat.mod_add_div]

theorem slice?_of_at {bytes : Bytes} (stands : At s offset bytes) : slice? s offset bytes.length = some bytes := by
  obtain ⟨inside, behind, same⟩ := stands
  rw [slice?, if_pos inside, Array.toList_extract, List.extract_eq_take_drop, ← same]
  simp

/-! ## Entries -/

/-- An archive whose names are plain and fit their fields. -/
def Named (a : Archive) : Prop := ∀ e ∈ a, (∀ c ∈ e.1.toList, Utf8.Plain c) ∧ (Utf8.encode e.1.toList).length < 0x10000

theorem readName_encode {name : String} (plain : ∀ c ∈ name.toList, Utf8.Plain c) :
    readName true (Utf8.encode name.toList) = some name := by
  have decoded : Utf8.decode (Utf8.encode name.toList) = .ok name.toList := Utf8.decodeFrom_encode 0 _
  have whole : name.toList.takeWhile (·.toNat != 0) = name.toList := by
    rw [List.takeWhile_eq_self_iff]
    exact fun c listed => bne_iff_ne.mpr (plain c listed).1.ne'
  rw [readName, nameCharacters, if_pos rfl, decoded]
  show some (String.ofList (name.toList.takeWhile (·.toNat != 0))) = some name
  rw [whole, String.ofList_toList]

theorem bind_of_eq {α β : Type} {a : Option α} {x : α} (found : a = some x) (next : α → Option β) :
    (a >>= next) = next x := by
  rw [found]
  rfl

theorem guard_bind {α : Type} {p : Prop} [Decidable p] (held : p) (next : Unit → Option α) :
    (guard p >>= next) = next () := by
  rw [guard, if_pos held]
  rfl

theorem content?_of_at {name content : Bytes} (few : name.length < 0x10000)
    (stands : At s offset (entry name content)) :
    content? s offset 0 content.length = some content := by
  simp only [entry, description, at_append_iff, length_number, List.length_append, Nat.add_assoc, Nat.reduceAdd,
    and_assoc] at stands
  obtain ⟨mark, -, -, -, -, -, -, -, -, name_size, extra_size, -, packed⟩ := stands
  have mark := numberAt?_number (by decide) mark
  have name_size := numberAt?_number few name_size
  have extra_size := numberAt?_number (by decide) extra_size
  have packed := slice?_of_at packed
  rw [content?, bind_of_eq mark, guard_bind rfl, bind_of_eq name_size, bind_of_eq extra_size, Nat.add_zero,
    Nat.add_assoc, bind_of_eq packed]
  rfl

theorem length_item (name content : Bytes) (offset : Nat) : (item name content offset).length = 46 + name.length := by
  simp only [item, description, List.length_append, length_number]

/-- The items of a directory are read, with the entries that they point to. -/
theorem items?_parts {a : Archive} (named : Named a) {entries items : Nat}
    (room : entries + (parts entries a).1.length < 0x100000000)
    (entries_stand : At s entries (parts entries a).1) (items_stand : At s items (parts entries a).2) :
    items? s a.length items = some a := by
  -- Both parts of the file are walked at once: an item ends where the next begins, and so does its entry.
  induction a generalizing entries items with
  | nil => rfl
  | cons e a ih =>
    obtain ⟨name, content⟩ := e
    obtain ⟨plain, few⟩ := named (name, content) List.mem_cons_self
    simp only [parts] at room entries_stand items_stand
    obtain ⟨entry_stands, later_entries⟩ := at_append_iff.mp entries_stand
    obtain ⟨item_stands, later_items⟩ := at_append_iff.mp items_stand
    simp only [List.length_append] at room
    have later := ih (fun e listed => named e (List.mem_cons_of_mem _ listed)) (by omega) later_entries later_items
    have content_read := content?_of_at few entry_stands
    have content_few : content.length < 0x100000000 := by
      simp only [entry, List.length_append] at room
      omega
    simp only [item, description, at_append_iff, length_number, List.length_append, Nat.add_assoc, Nat.reduceAdd,
      and_assoc] at item_stands
    obtain ⟨mark, -, -, flags, method, -, -, check, size, -, name_size, extra_size, comment_size, -, -, -, place,
      name_stands⟩ := item_stands
    have mark := numberAt?_number (by decide) mark
    have flags := numberAt?_number (by decide) flags
    have method := numberAt?_number (by decide) method
    have check := numberAt?_number (UInt32.toNat_lt _) check
    have size := numberAt?_number content_few size
    have name_size := numberAt?_number few name_size
    have extra_size := numberAt?_number (by decide) extra_size
    have comment_size := numberAt?_number (by decide) comment_size
    have place := numberAt?_number (by omega : entries < 256 ^ 4) place
    have name_bytes := slice?_of_at name_stands
    have name_read : readName (utf8Flag / utf8Flag % 2 == 1) (Utf8.encode name.toList) = some name :=
      readName_encode plain
    rw [List.length_cons, items?, bind_of_eq mark, guard_bind rfl, bind_of_eq flags, bind_of_eq method,
      bind_of_eq check, bind_of_eq size, bind_of_eq name_size, bind_of_eq extra_size, bind_of_eq comment_size, bind_of_eq place,
      bind_of_eq name_bytes, bind_of_eq name_read, bind_of_eq content_read, guard_bind rfl]
    rw [length_item, ← Nat.add_assoc] at later
    rw [Nat.add_zero, Nat.add_zero, bind_of_eq later]
    rfl

/-! ## Files -/

/-- The sizes and offsets of an archive fit their fields. -/
structure Fits (a : Archive) : Prop where
  named : Named a
  count : a.length < 0x10000
  size : (write a).length < 0x100000000

instance (a : Archive) : Decidable (Named a) :=
  decidable_of_iff
    ((a.all fun e => (e.1.toList.all fun c => decide (Utf8.Plain c)) &&
      decide ((Utf8.encode e.1.toList).length < 0x10000)) = true)
    (by simp [Named])

instance (a : Archive) : Decidable (Fits a) :=
  decidable_of_iff (Named a ∧ a.length < 0x10000 ∧ (write a).length < 0x100000000)
    ⟨fun ⟨named, count, size⟩ => ⟨named, count, size⟩, fun fits => ⟨fits.named, fits.count, fits.size⟩⟩

theorem endOffset?_of_mark (marked : numberAt? s 4 offset = some endMark) : endOffset? s offset = some offset := by
  cases offset with
  | zero => rw [endOffset?, if_pos marked]
  | succ offset => rw [endOffset?, if_pos marked]

/-- An archive is read back from its file. -/
theorem read?_write {a : Archive} (fits : Fits a) : read? (write a) = some a := by
  have whole : At (write a).toArray 0 (write a) := ⟨by simp, by simp⟩
  have length : (write a).length = (parts 0 a).1.length + (parts 0 a).2.length + 22 := by
    simp only [write, List.length_append, length_number]
  have size := fits.size
  have count_fits := fits.count
  generalize made : (write a).toArray = s at whole
  have places : s.size = (parts 0 a).1.length + (parts 0 a).2.length + 22 := by
    rw [← made, List.size_toArray, length]
  simp only [write, at_append_iff, length_number, List.length_append, Nat.add_assoc, Nat.reduceAdd, Nat.zero_add,
    and_assoc] at whole
  obtain ⟨entries_stand, items_stand, mark, -, -, -, count, -, place, -⟩ := whole
  have mark := endOffset?_of_mark (numberAt?_number (by decide) mark)
  have count := numberAt?_number count_fits count
  have place := numberAt?_number (by omega : (parts 0 a).1.length < 256 ^ 4) place
  have items := items?_parts fits.named (by omega) entries_stand items_stand
  have last : s.size - 22 = (parts 0 a).1.length + (parts 0 a).2.length := by omega
  rw [read?, made]
  show (guard (22 ≤ s.size) >>= _) = _
  rw [guard_bind (by omega), last, bind_of_eq mark, Nat.add_assoc, Nat.add_assoc, bind_of_eq count, bind_of_eq place,
    items]

end TextClassifier.Zip
