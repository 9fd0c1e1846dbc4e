import TextClassifier.Archive
import TextClassifier.Archive.Inflate
import TextClassifier.Text.Utf8

/-!
# Zip files

The file format of archives. A directory at the end of the file says where each entry begins, how
long it is and how it is packed. Entries are written as they are, and read as they are or inflated.
-/
namespace TextClassifier.Zip
open Text

/-- The bytes of a file, by their offsets. -/
abbrev Source := Array UInt8

/-- A number as `n` bytes, the least significant first. -/
def number (n value : Nat) : Bytes :=
  match n with
  | 0 => []
  | n + 1 => (value % 256).toUInt8 :: number n (value / 256)

/-- The number that `n` bytes at an offset spell, the least significant first. -/
def numberAt? (s : Source) (n offset : Nat) : Option Nat :=
  match n with
  | 0 => some 0
  | n + 1 => do
    let low ← s[offset]?
    let high ← numberAt? s n (offset + 1)
    return low.toNat + 256 * high

/-- The bytes between two offsets. -/
def slice? (s : Source) (offset size : Nat) : Option Bytes :=
  if offset + size ≤ s.size then some (s.extract offset (offset + size)).toList else none

def crcBit (crc : UInt32) : UInt32 :=
  if crc &&& 1 == 1 then (crc >>> 1) ^^^ 0xEDB88320 else crc >>> 1

def crcByte (crc : UInt32) (b : UInt8) : UInt32 :=
  let crc := crc ^^^ b.toUInt32
  crcBit (crcBit (crcBit (crcBit (crcBit (crcBit (crcBit (crcBit crc)))))))

def checksum (bytes : Bytes) : UInt32 := bytes.foldl crcByte 0xFFFFFFFF ^^^ 0xFFFFFFFF

def entryMark : Nat := 0x04034B50

def itemMark : Nat := 0x02014B50

def endMark : Nat := 0x06054B50

def utf8Flag : Nat := 0x800

/-- What the header of an entry and its item in the directory share. -/
def description (name : Bytes) (content : Bytes) : Bytes :=
  number 2 20 ++ number 2 utf8Flag ++ number 2 0 ++ number 2 0 ++ number 2 33 ++
    number 4 (checksum content).toNat ++ number 4 content.length ++ number 4 content.length ++
    number 2 name.length ++ number 2 0

/-- An entry: its header and its contents. -/
def entry (name content : Bytes) : Bytes :=
  number 4 entryMark ++ description name content ++ name ++ content

/-- The item of an entry in the directory. -/
def item (name content : Bytes) (offset : Nat) : Bytes :=
  number 4 itemMark ++ number 2 20 ++ description name content ++ number 2 0 ++ number 2 0 ++
    number 2 0 ++ number 4 0 ++ number 4 offset ++ name

/-- Entries from an offset on, and the items of their directory. -/
def parts (offset : Nat) : Archive → Bytes × Bytes
  | [] => ([], [])
  | (name, content) :: rest =>
    let name := Utf8.encode name.toList
    let first := entry name content
    let (entries, items) := parts (offset + first.length) rest
    (first ++ entries, item name content offset ++ items)

/-- The file of an archive. -/
def write (a : Archive) : Bytes :=
  let (entries, items) := parts 0 a
  entries ++ items ++ number 4 endMark ++ number 2 0 ++ number 2 0 ++ number 2 a.length ++
    number 2 a.length ++ number 4 items.length ++ number 4 entries.length ++ number 2 0

/-- The offset of the end mark: the last one from an offset downwards. -/
def endOffset? (s : Source) : Nat → Option Nat
  | 0 => if numberAt? s 4 0 = some endMark then some 0 else none
  | offset + 1 =>
    if numberAt? s 4 (offset + 1) = some endMark then some (offset + 1) else endOffset? s offset

/-- The characters of names that are not in UTF-8, from 0x80 on. -/
def oldCharacters : String :=
  "ÇüéâäàåçêëèïîìÄÅÉæÆôöòûùÿÖÜ¢£¥₧ƒáíóúñÑªº¿⌐¬½¼¡«»░▒▓│┤╡╢╖╕╣║╗╝╜╛┐└┴┬├─┼╞╟╚╔╩╦╠═╬╧╨╤╥╙╘╒╓╫╪┘┌█▄▌▐▀αßΓπΣσµτΦΘΩδ∞φε∩≡±≥≤⌠⌡÷≈°∙·√ⁿ²■\xa0"

/-- The characters that the bytes of a name spell. -/
def nameCharacters (utf8 : Bool) (bytes : Bytes) : Option (List Char) :=
  if utf8 then (Utf8.decode bytes).toOption
  else some (bytes.map fun b =>
    if b < 0x80 then Char.ofNat b.toNat else (oldCharacters.toList[b.toNat - 0x80]?).getD ' ')

/-- The name that bytes spell, up to the first byte that is zero. -/
def readName (utf8 : Bool) (bytes : Bytes) : Option String :=
  (nameCharacters utf8 bytes).map fun name => String.ofList (name.takeWhile (·.toNat != 0))

/-- The contents of the entry at an offset, packed by a method into `size` bytes. -/
def content? (s : Source) (offset method size : Nat) : Option Bytes := do
  guard ((← numberAt? s 4 offset) = entryMark)
  let nameSize ← numberAt? s 2 (offset + 26)
  let extraSize ← numberAt? s 2 (offset + 28)
  let packed ← slice? s (offset + 30 + nameSize + extraSize) size
  match method with
  | 0 => some packed
  | 8 => Inflate.inflate? packed
  | _ => none

/-- The entries of `count` items of the directory at an offset. -/
def items? (s : Source) : Nat → Nat → Option Archive
  | 0, _ => some []
  | count + 1, offset => do
    guard ((← numberAt? s 4 offset) = itemMark)
    let flags ← numberAt? s 2 (offset + 8)
    let method ← numberAt? s 2 (offset + 10)
    let check ← numberAt? s 4 (offset + 16)
    let size ← numberAt? s 4 (offset + 20)
    let nameSize ← numberAt? s 2 (offset + 28)
    let extraSize ← numberAt? s 2 (offset + 30)
    let commentSize ← numberAt? s 2 (offset + 32)
    let place ← numberAt? s 4 (offset + 42)
    let name ← readName (flags / utf8Flag % 2 == 1) (← slice? s (offset + 46) nameSize)
    let content ← content? s place method size
    guard ((checksum content).toNat = check)
    let rest ← items? s count (offset + 46 + nameSize + extraSize + commentSize)
    return (name, content) :: rest

/-- The archive of a file. -/
def read? (bytes : Bytes) : Option Archive := do
  let s := bytes.toArray
  guard (22 ≤ s.size)
  let offset ← endOffset? s (s.size - 22)
  let count ← numberAt? s 2 (offset + 10)
  let directory ← numberAt? s 4 (offset + 16)
  items? s count directory

end TextClassifier.Zip
