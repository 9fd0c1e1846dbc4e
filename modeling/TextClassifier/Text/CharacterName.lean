import TextClassifier.Text.CharacterName.Alphabets
import TextClassifier.Text.CharacterName.AncientLetters
import TextClassifier.Text.CharacterName.AncientSigns
import TextClassifier.Text.CharacterName.Forms
import TextClassifier.Text.CharacterName.Notations
import TextClassifier.Text.CharacterName.Pictographs
import TextClassifier.Text.CharacterName.Syllabaries
import TextClassifier.Text.CharacterName.Symbols
import TextClassifier.Text.Ranges

/-!
# Names of characters

Characters by their names in the standard, in its version 14.0. All names are here: most are written
down in blocks, syllables of Hangul are named by their sounds, and ideographs and some other signs
by their code points. Aliases name single characters too. Sequences of characters have names in the
standard, but they name no character.
-/
namespace TextClassifier.Text.CharacterName

/-- The names that are written down, in the order of code points. -/
def blocks : List Block :=
  alphabets ++ syllabaries ++ symbols ++ forms ++ ancientLetters ++ ancientSigns ++ notations ++
    pictographs

/-- Corrected names, abbreviations, and the names of control characters, which have no others. Bars
keep those of one character apart. -/
def aliases : List (Nat × String) :=
  [(0x0, "NUL|NULL"), (0x1, "SOH|START OF HEADING"), (0x2, "START OF TEXT|STX"),
    (0x3, "END OF TEXT|ETX"), (0x4, "END OF TRANSMISSION|EOT"), (0x5, "ENQ|ENQUIRY"),
    (0x6, "ACK|ACKNOWLEDGE"), (0x7, "ALERT|BEL"), (0x8, "BACKSPACE|BS"),
    (0x9, "CHARACTER TABULATION|HORIZONTAL TABULATION|HT|TAB"),
    (0xA, "END OF LINE|EOL|LF|LINE FEED|NEW LINE|NL"),
    (0xB, "LINE TABULATION|VERTICAL TABULATION|VT"), (0xC, "FF|FORM FEED"),
    (0xD, "CARRIAGE RETURN|CR"), (0xE, "LOCKING-SHIFT ONE|SHIFT OUT|SO"),
    (0xF, "LOCKING-SHIFT ZERO|SHIFT IN|SI"), (0x10, "DATA LINK ESCAPE|DLE"),
    (0x11, "DC1|DEVICE CONTROL ONE"), (0x12, "DC2|DEVICE CONTROL TWO"),
    (0x13, "DC3|DEVICE CONTROL THREE"), (0x14, "DC4|DEVICE CONTROL FOUR"),
    (0x15, "NAK|NEGATIVE ACKNOWLEDGE"), (0x16, "SYN|SYNCHRONOUS IDLE"),
    (0x17, "END OF TRANSMISSION BLOCK|ETB"), (0x18, "CAN|CANCEL"), (0x19, "END OF MEDIUM|EOM"),
    (0x1A, "SUB|SUBSTITUTE"), (0x1B, "ESC|ESCAPE"),
    (0x1C, "FILE SEPARATOR|FS|INFORMATION SEPARATOR FOUR"),
    (0x1D, "GROUP SEPARATOR|GS|INFORMATION SEPARATOR THREE"),
    (0x1E, "INFORMATION SEPARATOR TWO|RECORD SEPARATOR|RS"),
    (0x1F, "INFORMATION SEPARATOR ONE|UNIT SEPARATOR|US"), (0x20, "SP"), (0x7F, "DEL|DELETE"),
    (0x80, "PAD|PADDING CHARACTER"), (0x81, "HIGH OCTET PRESET|HOP"),
    (0x82, "BPH|BREAK PERMITTED HERE"), (0x83, "NBH|NO BREAK HERE"), (0x84, "IND|INDEX"),
    (0x85, "NEL|NEXT LINE"), (0x86, "SSA|START OF SELECTED AREA"),
    (0x87, "END OF SELECTED AREA|ESA"),
    (0x88, "CHARACTER TABULATION SET|HORIZONTAL TABULATION SET|HTS"),
    (0x89, "CHARACTER TABULATION WITH JUSTIFICATION|HORIZONTAL TABULATION WITH JUSTIFICATION|HTJ"),
    (0x8A, "LINE TABULATION SET|VERTICAL TABULATION SET|VTS"),
    (0x8B, "PARTIAL LINE DOWN|PARTIAL LINE FORWARD|PLD"),
    (0x8C, "PARTIAL LINE BACKWARD|PARTIAL LINE UP|PLU"),
    (0x8D, "REVERSE INDEX|REVERSE LINE FEED|RI"), (0x8E, "SINGLE SHIFT TWO|SINGLE-SHIFT-2|SS2"),
    (0x8F, "SINGLE SHIFT THREE|SINGLE-SHIFT-3|SS3"), (0x90, "DCS|DEVICE CONTROL STRING"),
    (0x91, "PRIVATE USE ONE|PRIVATE USE-1|PU1"), (0x92, "PRIVATE USE TWO|PRIVATE USE-2|PU2"),
    (0x93, "SET TRANSMIT STATE|STS"), (0x94, "CANCEL CHARACTER|CCH"), (0x95, "MESSAGE WAITING|MW"),
    (0x96, "SPA|START OF GUARDED AREA|START OF PROTECTED AREA"),
    (0x97, "END OF GUARDED AREA|END OF PROTECTED AREA|EPA"), (0x98, "SOS|START OF STRING"),
    (0x99, "SGC|SINGLE GRAPHIC CHARACTER INTRODUCER"), (0x9A, "SCI|SINGLE CHARACTER INTRODUCER"),
    (0x9B, "CONTROL SEQUENCE INTRODUCER|CSI"), (0x9C, "ST|STRING TERMINATOR"),
    (0x9D, "OPERATING SYSTEM COMMAND|OSC"), (0x9E, "PM|PRIVACY MESSAGE"),
    (0x9F, "APC|APPLICATION PROGRAM COMMAND"), (0xA0, "NBSP"), (0xAD, "SHY"),
    (0x1A2, "LATIN CAPITAL LETTER GHA"), (0x1A3, "LATIN SMALL LETTER GHA"), (0x34F, "CGJ"),
    (0x61C, "ALM"), (0x709, "SYRIAC SUBLINEAR COLON SKEWED LEFT"), (0xCDE, "KANNADA LETTER LLLA"),
    (0xE9D, "LAO LETTER FO FON"), (0xE9F, "LAO LETTER FO FAY"), (0xEA3, "LAO LETTER RO"),
    (0xEA5, "LAO LETTER LO"), (0xFD0, "TIBETAN MARK BKA- SHOG GI MGO RGYAN"),
    (0x11EC, "HANGUL JONGSEONG YESIEUNG-KIYEOK"), (0x11ED, "HANGUL JONGSEONG YESIEUNG-SSANGKIYEOK"),
    (0x11EE, "HANGUL JONGSEONG SSANGYESIEUNG"), (0x11EF, "HANGUL JONGSEONG YESIEUNG-KHIEUKH"),
    (0x180B, "FVS1"), (0x180C, "FVS2"), (0x180D, "FVS3"), (0x180E, "MVS"), (0x180F, "FVS4"),
    (0x200B, "ZWSP"), (0x200C, "ZWNJ"), (0x200D, "ZWJ"), (0x200E, "LRM"), (0x200F, "RLM"),
    (0x202A, "LRE"), (0x202B, "RLE"), (0x202C, "PDF"), (0x202D, "LRO"), (0x202E, "RLO"),
    (0x202F, "NNBSP"), (0x205F, "MMSP"), (0x2060, "WJ"), (0x2066, "LRI"), (0x2067, "RLI"),
    (0x2068, "FSI"), (0x2069, "PDI"), (0x2118, "WEIERSTRASS ELLIPTIC FUNCTION"),
    (0x2448, "MICR ON US SYMBOL"), (0x2449, "MICR DASH SYMBOL"),
    (0x2B7A, "LEFTWARDS TRIANGLE-HEADED ARROW WITH DOUBLE VERTICAL STROKE"),
    (0x2B7C, "RIGHTWARDS TRIANGLE-HEADED ARROW WITH DOUBLE VERTICAL STROKE"),
    (0xA015, "YI SYLLABLE ITERATION MARK"), (0xAA6E, "MYANMAR LETTER KHAMTI LLA"),
    (0xFE18, "PRESENTATION FORM FOR VERTICAL RIGHT WHITE LENTICULAR BRACKET"),
    (0xFEFF, "BOM|BYTE ORDER MARK|ZWNBSP"), (0x122D4, "CUNEIFORM SIGN NU11 TENU"),
    (0x122D5, "CUNEIFORM SIGN NU11 OVER NU11 BUR OVER BUR"),
    (0x16E56, "MEDEFAIDRIN CAPITAL LETTER H"), (0x16E57, "MEDEFAIDRIN CAPITAL LETTER NG"),
    (0x16E76, "MEDEFAIDRIN SMALL LETTER H"), (0x16E77, "MEDEFAIDRIN SMALL LETTER NG"),
    (0x1B001, "HENTAIGANA LETTER E-1"),
    (0x1D0C5, "BYZANTINE MUSICAL SYMBOL FTHORA SKLIRON CHROMA VASIS")]

/-- The characters that select a variation: the number of the first, its code point, and how many
there are. They have their numbers as aliases. -/
def selectors : List (Nat × Nat × Nat) := [(1, 0xFE00, 16), (17, 0xE0100, 240)]

/-- The ranges of ideographs that are named by their numbers. -/
def ideographs : Ranges :=
  [(0x3400, 0x4DBF), (0x4E00, 0x9FFF), (0x20000, 0x2A6DF), (0x2A700, 0x2B738), (0x2B740, 0x2B81D),
    (0x2B820, 0x2CEA1), (0x2CEB0, 0x2EBE0), (0x30000, 0x3134A)]

/-- What signs that are named by their code points are called, and where they are. -/
def numbered : List (String × Ranges) :=
  [("CJK COMPATIBILITY IDEOGRAPH-", [(0xF900, 0xFA6D), (0xFA70, 0xFAD9), (0x2F800, 0x2FA1D)]),
    ("KHITAN SMALL SCRIPT CHARACTER-", [(0x18B00, 0x18CD5)]),
    ("NUSHU CHARACTER-", [(0x1B170, 0x1B2FB)])]

/-- The sounds before the vowel of a syllable. -/
def leading : List String :=
  ["G", "GG", "N", "D", "DD", "R", "M", "B", "BB", "S", "SS", "", "J", "JJ", "C", "K", "T", "P", "H"]

/-- The vowels of syllables. -/
def vowels : List String :=
  ["A", "AE", "YA", "YAE", "EO", "E", "YEO", "YE", "O", "WA", "WAE", "OE", "YO", "U", "WEO", "WE",
    "WI", "YU", "EU", "YI", "I"]

/-- The sounds behind the vowel of a syllable. -/
def trailing : List String :=
  ["", "G", "GG", "GS", "N", "NJ", "NH", "D", "L", "LG", "LM", "LB", "LS", "LT", "LP", "LH", "M",
    "B", "BS", "S", "SS", "NG", "J", "C", "K", "T", "P", "H"]

/-- The rest of a text behind its beginning, if it begins so. -/
def behind? : List Char → List Char → Option (List Char)
  | [], s => some s
  | c :: beginning, d :: s => if c = d then behind? beginning s else none
  | _ :: _, [] => none

/-- The place of a text among others. -/
def place? (texts : List String) (s : List Char) : Option Nat :=
  texts.findIdx? fun t => t.toList == s

/-- The longest of `sounds` that a text begins with, by its place, with the rest of the text. -/
def longest? (sounds : List String) (s : List Char) : Option (Nat × List Char) :=
  (sounds.zipIdx.filterMap fun (sound, i) =>
    (behind? sound.toList s).map fun rest => (i, rest)).foldl (fun best next =>
      match best with
      | some (_, rest) => if next.2.length < rest.length then some next else best
      | none => some next) none

/-- The syllable with a name. -/
def syllable? (name : List Char) : Option Nat := do
  let sounds ← behind? "HANGUL SYLLABLE ".toList name
  let (l, rest) ← longest? leading sounds
  let (v, rest) ← longest? vowels rest
  let t ← place? trailing rest
  return 0xAC00 + (l * vowels.length + v) * trailing.length + t

/-- The number that four or five digits of base sixteen in upper case spell. -/
def codePoint? (digits : List Char) : Option Nat := do
  guard (digits.length = 4 ∨ digits.length = 5)
  guard (digits.all fun d => !d.isLower)
  return (← digits.mapM hexValue?).foldl (fun n d => n * 16 + d) 0

/-- The ideograph with a name. Four digits may have a zero before them. -/
def ideograph? (name : List Char) : Option Nat := do
  let code ← codePoint? (← behind? "CJK UNIFIED IDEOGRAPH-".toList name)
  if ideographs.contains code then some code else none

/-- The sign that is named by its code point, without a zero before it. -/
def numbered? (name : List Char) : Option Nat :=
  numbered.findSome? fun (beginning, ranges) => do
    let digits ← behind? beginning.toList name
    let code ← codePoint? digits
    if digits.head? ≠ some '0' ∧ ranges.contains code then some code else none

/-- The character with an alias. -/
def aliased? (name : List Char) : Option Nat :=
  (aliases.find? fun (_, names) => (pieces (· == '|') names.toList).contains name).map (·.1)

/-- The selector of a variation with an abbreviated name. -/
def selector? (name : List Char) : Option Nat :=
  selectors.findSome? fun (number, first, count) =>
    ((List.range count).find? fun i => ("VS" ++ toString (number + i)).toList == name).map (first + ·)

/-- The character with a name in upper case that is written down or has a number in it. -/
def listed? (name : List Char) : Option Nat :=
  numbered? name <|> aliased? name <|> selector? name <|>
    blocks.findSome? (·.find? (pieces (· == ' ') name))

/-- The code point of the character with a name. The case of letters does not count, save in the
names of unified ideographs and syllables, which are in upper case. -/
def lookup? (name : List Char) : Option Nat :=
  ideograph? name <|> syllable? name <|> listed? (name.map Char.toUpper)

end TextClassifier.Text.CharacterName
