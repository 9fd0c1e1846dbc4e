import TextClassifier.Number.Reading
import TextClassifier.Pattern.Search
import TextClassifier.Text.CharacterName
import TextClassifier.Text.Hex
import TextClassifier.Text.Identifier

/-!
# Reading patterns

A pattern is read from left to right by tokens: single characters, and characters behind a
backslash. Groups are numbered by their opening parentheses. A reference must name a group that is
closed already, inside an assertion about what comes before one from outside of it. Settings are
switched by `(?i)` at the very beginning for the whole pattern and by `(?i:...)` for a part. Patterns
may be nested to any depth.
-/
namespace TextClassifier.Pattern
open TextClassifier

/-- Why a text is no pattern. -/
inductive Defect where
  /-- The text breaks the grammar. -/
  | malformed
  /-- A repetition asks for too large a count. -/
  | countTooLarge
  /-- A count has more digits than are read. -/
  | tooManyDigits
  /-- The whole pattern is to be over ASCII and over all scripts. -/
  | contradictory
  deriving DecidableEq, Repr

namespace Reader

/-- A character of the pattern, behind a backslash or not. -/
structure Token where
  escaped : Bool
  char : Char
  deriving DecidableEq, Repr

/-- The tokens of a text; a backslash at the end escapes nothing. -/
def tokens? : List Char → Option (List Token)
  | [] => some []
  | '\\' :: c :: rest => (tokens? rest).map (⟨true, c⟩ :: ·)
  | ['\\'] => none
  | c :: rest => (tokens? rest).map (⟨false, c⟩ :: ·)

/-- The text of a token. -/
def Token.text (t : Token) : List Char := if t.escaped then ['\\', t.char] else [t.char]

/-- What is in force while a part is read. -/
structure Settings where
  ignoreCase : Bool := false
  multiline : Bool := false
  dotAll : Bool := false
  ascii : Bool := false
  verbose : Bool := false
  deriving DecidableEq, Repr

/-- How characters compare under the settings. -/
def Settings.folding (f : Settings) : Folding :=
  if f.ignoreCase then (if f.ascii then .ascii else .unicode) else .exact

/-- The settings by their letters. A pattern is over characters of all scripts unless it is over
ASCII, which only the first two letters decide. The last one is for whole patterns: nothing may be
repeated in a template. -/
inductive Switch where
  | ascii
  | allScripts
  | ignoreCase
  | multiline
  | dotAll
  | verbose
  | template
  deriving DecidableEq, Repr

/-- A setting switched on or off. -/
def Settings.switch (f : Settings) (on : Bool) : Switch → Settings
  | .ascii => { f with ascii := on }
  | .allScripts => { f with ascii := !on }
  | .ignoreCase => { f with ignoreCase := on }
  | .multiline => { f with multiline := on }
  | .dotAll => { f with dotAll := on }
  | .verbose => { f with verbose := on }
  | .template => f

/-- The settings that are switched on. -/
def Settings.ofSwitches (on : List Switch) : Settings := on.foldl (fun f s => f.switch true s) {}

/-- A reader's progress. -/
structure Progress where
  /-- The tokens that are left. -/
  left : List Token
  /-- The groups opened so far, with their widths once they are closed. -/
  groups : List (Option Width)
  /-- The names of groups. -/
  names : List (List Char × Nat)
  /-- Inside an assertion about what comes before: the number of the first group opened there. -/
  behindFrom : Option Nat
  /-- The groups that are asked for by their numbers. -/
  asked : List Nat
  /-- What is switched on for the whole pattern, if anything is. -/
  overall : Option (List Switch)

/-- A step of reading. -/
abbrev Read := StateT Progress (Except Defect)

/-- The pattern breaks the grammar here. -/
def refuse {α : Type} : Read α := throw .malformed

/-- The next token. -/
def peek : Read (Option Token) := return (← get).left.head?

/-- Goes behind the next token. -/
def skip : Read Unit := modify fun p => { p with left := p.left.tail }

/-- The next token, which is gone then. -/
def next : Read (Option Token) := do
  let token ← peek
  skip
  return token

/-- Goes behind a certain character if it comes next. -/
def accept (c : Char) : Read Bool := do
  if (← peek) = some ⟨false, c⟩ then
    skip
    return true
  else return false

/-- A certain character must come next. -/
def expect (c : Char) : Read Unit := do
  if ← accept c then return () else refuse

/-- The plain characters at the beginning of the tokens that satisfy a test, at most `n`. -/
def takeWhile (test : Char → Bool) : Nat → List Token → List Char × List Token
  | 0, left => ([], left)
  | _ + 1, [] => ([], [])
  | n + 1, t :: left =>
    if !t.escaped && test t.char then
      let (cs, rest) := takeWhile test n left
      (t.char :: cs, rest)
    else ([], t :: left)

/-- Reads the plain characters that satisfy a test, at most `n`. -/
def readWhile (n : Nat) (test : Char → Bool) : Read (List Char) := do
  let p ← get
  let (cs, rest) := takeWhile test n p.left
  set { p with left := rest }
  return cs

/-- The text up to a plain character, and the tokens behind that. -/
def untilChar (stop : Char) : List Token → Option (List Char × List Token)
  | [] => none
  | t :: left =>
    if t = ⟨false, stop⟩ then some ([], left)
    else (untilChar stop left).map fun (cs, rest) => (t.text ++ cs, rest)

/-- Reads a name, which must not be empty, and the character that ends it. -/
def readName (stop : Char) : Read (List Char) := do
  let p ← get
  match untilChar stop p.left with
  | some (c :: cs, rest) =>
    set { p with left := rest }
    return c :: cs
  | _ => refuse

/-- A digit of base eight. -/
def isOctal (c : Char) : Bool := '0' ≤ c && c ≤ '7'

/-- An ASCII digit. -/
def isDigit (c : Char) : Bool := '0' ≤ c && c ≤ '9'

/-- The number that digits spell in a base. -/
def inBase (base : Nat) (digits : List Char) : Nat :=
  digits.foldl (fun n c => n * base + (Text.hexValue? c).getD 0) 0

/-- A code point by exactly `n` hexadecimal digits. -/
def readHex (n : Nat) : Read Nat := do
  let digits ← readWhile n fun c => (Text.hexValue? c).isSome
  let code := inBase 16 digits
  if digits.length = n ∧ code ≤ 0x10FFFF then return code else refuse

/-- A code point by the name of its character in braces. -/
def readCharacterName : Read Nat := do
  expect '\x7b'
  match Text.CharacterName.lookup? (← readName '\x7d') with
  | some code => return code
  | none => refuse

/-- The code points that letters behind a backslash stand for, inside and outside of sets. -/
def control? : Char → Option Nat
  | 'a' => some 0x07
  | 'f' => some 0x0C
  | 'n' => some 0x0A
  | 'r' => some 0x0D
  | 't' => some 0x09
  | 'v' => some 0x0B
  | _ => none

/-- The named classes of characters by their letter; a capital letter means the complement. -/
def class? (ascii : Bool) : Char → Option SetItem
  | 'd' => some (.named .digit false ascii)
  | 'D' => some (.named .digit true ascii)
  | 's' => some (.named .blank false ascii)
  | 'S' => some (.named .blank true ascii)
  | 'w' => some (.named .word false ascii)
  | 'W' => some (.named .word true ascii)
  | _ => none

/-- A code point that a backslash spells by a number or a name, by the character behind it. -/
def readCode? (c : Char) : Read (Option Nat) := do
  match c with
  | 'x' => return some (← readHex 2)
  | 'u' => return some (← readHex 4)
  | 'U' => return some (← readHex 8)
  | 'N' => return some (← readCharacterName)
  | _ => return control? c

/-- Whether a character is an ASCII letter or digit: behind a backslash it needs a meaning. -/
def needsMeaning (c : Char) : Bool := c.isAlphanum

/-- A member of a set behind a backslash. -/
def readSetEscape (f : Settings) (c : Char) : Read SetItem := do
  if let some item := class? f.ascii c then return item
  if let some code ← readCode? c then return .range code code
  if c == 'b' then return .range 0x08 0x08
  if isOctal c then
    let code := inBase 8 (c :: (← readWhile 2 isOctal))
    if 0o377 < code then refuse else return .range code code
  if needsMeaning c then refuse else return .range c.toNat c.toNat

/-- A member of a set. -/
def readSetMember (f : Settings) (t : Token) : Read SetItem :=
  if t.escaped then readSetEscape f t.char else return .range t.char.toNat t.char.toNat

/-- The members of a set up to its closing bracket, which stands for itself at the beginning. -/
def readSetItems (f : Settings) : Nat → List SetItem → Read (List SetItem)
  | 0, _ => refuse
  | fuel + 1, items => do
    match ← next with
    | none => refuse
    | some t =>
      if t = ⟨false, ']'⟩ && !items.isEmpty then return items.reverse
      let low ← readSetMember f t
      if ← accept '-' then
        match ← next with
        | none => refuse
        | some t =>
          if t = ⟨false, ']'⟩ then return (.range 0x2D 0x2D :: low :: items).reverse
          match low, ← readSetMember f t with
          | .range first _, .range last _ =>
            if last < first then refuse
            else readSetItems f fuel (.range first last :: items)
          | _, _ => refuse
      else readSetItems f fuel (low :: items)

/-- A set behind its opening bracket. -/
def readSet (f : Settings) : Read Node := do
  let negated ← accept '^'
  let items ← readSetItems f ((← get).left.length + 1) []
  return .set ⟨items, negated, f.folding⟩

/-- One character of the pattern that stands for itself. -/
def literal (f : Settings) (code : Nat) : Node := .set ⟨[.range code code], false, f.folding⟩

/-- The width of a group if it is closed. -/
def widthOf (groups : List (Option Width)) (index : Nat) : Option Width := (groups[index]?).join

/-- A group that is referred to inside an assertion about what comes before must be closed and from
outside of the assertion. -/
def checkBehind (index : Nat) : Read Unit := do
  let p ← get
  match p.behindFrom with
  | none => return ()
  | some first =>
    if (widthOf p.groups index).isNone || first ≤ index then refuse else return ()

/-- A reference to a group, which must be closed. -/
def readReference (f : Settings) (index : Nat) : Read Node := do
  let p ← get
  if (widthOf p.groups index).isNone then refuse
  checkBehind index
  return .backref index f.folding

/-- Asks for a group by its number. -/
def ask (index : Nat) : Read Unit := modify fun p => { p with asked := index :: p.asked }

/-- A reference to a group by its number. -/
def readNumber (f : Settings) (index : Nat) : Read Node := do
  ask index
  readReference f index

/-- A digit other than zero behind a backslash: three octal digits are a code point, and up to two
digits otherwise the number of a group. -/
def readNumbered (f : Settings) (c : Char) : Read Node := do
  match ← readWhile 1 isDigit with
  | [d] =>
    if isOctal c && isOctal d then
      match ← readWhile 1 isOctal with
      | [e] =>
        let code := inBase 8 [c, d, e]
        if 0o377 < code then refuse else return literal f code
      | _ => readNumber f (inBase 10 [c, d])
    else readNumber f (inBase 10 [c, d])
  | _ => readNumber f (inBase 10 [c])

/-- What a backslash in front of a character means outside of sets. -/
def readEscape (f : Settings) (c : Char) : Read Node := do
  match c with
  | 'A' => return .anchor .textStart
  | 'Z' => return .anchor .textEnd
  | 'b' => return .anchor (.wordEdge f.ascii)
  | 'B' => return .anchor (.noWordEdge f.ascii)
  | '0' => return literal f (inBase 8 (c :: (← readWhile 2 isOctal)))
  | _ =>
    if let some item := class? f.ascii c then return .set ⟨[item], false, f.folding⟩
    if let some code ← readCode? c then return literal f code
    if isDigit c then readNumbered f c
    else if needsMeaning c then refuse
    else return literal f c.toNat

/-- The setting of a letter. -/
def switch? (t : Token) : Option Switch :=
  if t.escaped then none
  else match t.char with
    | 'a' => some .ascii
    | 'u' => some .allScripts
    | 'i' => some .ignoreCase
    | 'm' => some .multiline
    | 's' => some .dotAll
    | 'x' => some .verbose
    | 't' => some .template
    | _ => none

/-- The letters of settings at the beginning of the tokens. -/
def switches : List Token → List Switch × List Token
  | [] => ([], [])
  | t :: left =>
    match switch? t with
    | some s => let (more, rest) := switches left; (s :: more, rest)
    | none => ([], t :: left)

/-- Reads the letters of settings. -/
def readSwitches : Read (List Switch) := do
  let p ← get
  let (found, rest) := switches p.left
  set { p with left := rest }
  return found

/-- How a group begins. -/
inductive Opening where
  /-- A group that captures, perhaps with a name. -/
  | capture (name : Option (List Char))
  /-- A group that only groups. -/
  | plain
  /-- A group under settings of its own. -/
  | scoped (f : Settings)
  | atomic
  | look (behind negated : Bool)
  /-- A condition about a group. -/
  | condition (index : Nat)
  /-- A reference by name, which has no body. -/
  | reference (node : Node)
  | comment
  /-- Settings for the whole pattern. -/
  | settings (on : List Switch)

/-- The settings of a group: letters to switch on, and letters to switch off behind a minus. -/
def readSettings (f : Settings) : Read Opening := do
  let on ← readSwitches
  if on.contains .ascii && on.contains .allScripts then refuse
  match ← next with
  | some ⟨false, ')'⟩ =>
    if on.isEmpty then refuse
    return .settings ((← get).overall.getD [] ++ on)
  | some ⟨false, ':'⟩ =>
    if on.isEmpty || on.contains .template then refuse
    return .scoped (on.foldl (fun f s => f.switch true s) f)
  | some ⟨false, '-'⟩ =>
    let off ← readSwitches
    if off.isEmpty || off.contains .ascii || off.contains .allScripts then refuse
    if on.any off.contains || (on ++ off).contains .template then refuse
    expect ':'
    return .scoped (off.foldl (fun f s => f.switch false s) (on.foldl (fun f s => f.switch true s) f))
  | _ => refuse

/-- The number of the group with a name. -/
def named (name : List Char) : Read Nat := do
  if !Text.isIdentifier name then refuse
  match (← get).names.lookup name with
  | some index => return index
  | none => refuse

/-- The group that a condition is about: by name or by number. -/
def readConditionGroup : Read Nat := do
  let name ← readName ')'
  if Text.isIdentifier name then named name
  else match Number.readInt? name with
    | some n =>
      if 0 < n then
        ask n.toNat
        return n.toNat
      else refuse
    | none => refuse

/-- Skips a comment and its closing parenthesis. -/
def skipComment : Read Unit := do
  let p ← get
  match untilChar ')' p.left with
  | some (_, rest) => set { p with left := rest }
  | none => refuse

/-- The beginning of a group behind its parenthesis. -/
def readOpening (f : Settings) : Read Opening := do
  if !(← accept '?') then return .capture none
  match ← peek with
  | some ⟨false, 'P'⟩ =>
    skip
    if ← accept '<' then
      let name ← readName '>'
      if Text.isIdentifier name then return .capture (some name) else refuse
    else if ← accept '=' then
      let index ← named (← readName ')')
      return .reference (← readReference f index)
    else refuse
  | some ⟨false, ':'⟩ => skip; return .plain
  | some ⟨false, '#'⟩ => skip; skipComment; return .comment
  | some ⟨false, '='⟩ => skip; return .look false false
  | some ⟨false, '!'⟩ => skip; return .look false true
  | some ⟨false, '<'⟩ =>
    skip
    match ← next with
    | some ⟨false, '='⟩ => return .look true false
    | some ⟨false, '!'⟩ => return .look true true
    | _ => refuse
  | some ⟨false, '('⟩ =>
    skip
    let index ← readConditionGroup
    checkBehind index
    return .condition index
  | some ⟨false, '>'⟩ => skip; return .atomic
  | _ => readSettings f

/-- Numbers a new group. A name must be new. -/
def openGroup (name : Option (List Char)) : Read Nat := do
  let p ← get
  let index := p.groups.length
  match name with
  | none => set { p with groups := p.groups ++ [none] }
  | some name =>
    if (p.names.lookup name).isSome then refuse
    set { p with groups := p.groups ++ [none], names := (name, index) :: p.names }
  return index

/-- Records the width of a group that is closed. -/
def closeGroup (index : Nat) (body : Node) : Read Unit :=
  modify fun p => { p with groups := p.groups.set index (some (body.width (widthOf p.groups))) }

/-- How a part that was read last can be repeated. -/
inductive Item where
  /-- A part that can be repeated. -/
  | part (node : Node)
  /-- A place, which cannot. -/
  | place (anchor : Anchor)
  /-- A repetition, which cannot be repeated once more. -/
  | repetition (node : Node)

/-- The part that an item is. -/
def Item.node : Item → Node
  | .part node => node
  | .place anchor => .anchor anchor
  | .repetition node => node

/-- An item that can be repeated, unless it is a place. -/
def Item.ofNode : Node → Item
  | .anchor anchor => .place anchor
  | node => .part node

/-- Items one behind the other; they are given in reverse. -/
def sequence (items : List Item) : Node :=
  match items with
  | [] => .empty
  | last :: before => before.foldl (fun node item => .seq item.node node) last.node

/-- Counts from here on are too large. -/
def mostCount : Nat := 0xFFFFFFFF

/-- A count, or a limit that is absent. -/
def count? (digits : List Char) : Except Defect (Option Nat) :=
  if digits.isEmpty then .ok none
  else if Number.mostDigits < digits.length then .error .tooManyDigits
  else if mostCount ≤ inBase 10 digits then .error .countTooLarge
  else .ok (some (inBase 10 digits))

/-- The tokens behind a plain character in front. -/
def behind? (c : Char) : List Token → Option (List Token)
  | [] => none
  | t :: rest => if t = ⟨false, c⟩ then some rest else none

/-- The second count, behind a comma, or the first one once more. -/
def secondCount (low : List Char) (tokens : List Token) : List Char × List Token :=
  match behind? ',' tokens with
  | some rest => takeWhile isDigit rest.length rest
  | none => (low, tokens)

/-- Two counts as they are spelled behind an opening brace, and the tokens behind the closing one. -/
def spelledCounts? (tokens : List Token) : Option (List Char × List Char × List Token) :=
  if tokens.head? = some ⟨false, '\x7d'⟩ then none
  else
    let (low, rest) := takeWhile isDigit tokens.length tokens
    let (high, rest) := secondCount low rest
    (behind? '\x7d' rest).map fun rest => (low, high, rest)

/-- Reads two counts as they are spelled, with their closing brace, or nothing. -/
def readSpelledCounts : Read (Option (List Char × List Char)) := do
  let p ← get
  match spelledCounts? p.left with
  | none => return none
  | some (low, high, rest) =>
    set { p with left := rest }
    return some (low, high)

/-- The counts in braces behind an opening brace, or none if it stands for itself. -/
def readCounts : Read (Option (Nat × Option Nat)) := do
  match ← readSpelledCounts with
  | none => return none
  | some (low, high) =>
    let least ← count? low
    let most ← count? high
    match least, most with
    | some least, some most => if most < least then refuse
    | _, _ => pure ()
    return some (least.getD 0, most)

/-- The counts of a repetition by its sign, or none if the sign stands for itself. -/
def readRepeat (sign : Char) : Read (Option (Nat × Option Nat)) := do
  match sign with
  | '?' => return some (0, some 1)
  | '*' => return some (0, none)
  | '+' => return some (1, none)
  | _ => readCounts

/-- The manner of a repetition, by the sign behind its counts. -/
def readManner : Read Manner := do
  if ← accept '?' then return .reluctant
  else if ← accept '+' then return .possessive
  else return .greedy

/-- Repeats the item read last. -/
def repeatLast (items : List Item) (least : Nat) (most : Option Nat) : Read (List Item) := do
  match items with
  | .part node :: before =>
    return .repetition (.repeated (← readManner) least most node) :: before
  | _ => refuse

/-- Whether a character is passed over between the parts of a verbose pattern. -/
def isLayout (c : Char) : Bool := [0x09, 0x0A, 0x0B, 0x0C, 0x0D, 0x20].contains c.toNat

/-- The tokens behind a line, in which an escaped line feed ends nothing. -/
def afterLine : List Token → List Token
  | [] => []
  | t :: left => if t = ⟨false, '\n'⟩ then left else afterLine left

/-- What stands at one place of a sequence. -/
inductive Piece where
  /-- The items up to here, with the one that stands here unless it is a comment. -/
  | items (items : List Item)
  /-- Settings for the whole pattern. -/
  | settings (on : List Switch)
  /-- A group, which has been opened. -/
  | group (opening : Opening)

/-- Reads what stands at a token of a sequence, behind that token; the items before it are given. -/
def readPiece (f : Settings) (items : List Item) (t : Token) : Read Piece := do
  if t.escaped then return .items (.ofNode (← readEscape f t.char) :: items)
  else if f.verbose && isLayout t.char then return .items items
  else if f.verbose && t.char == '#' then
    modify fun p => { p with left := afterLine p.left }
    return .items items
  else match t.char with
    | '[' => return .items (.part (← readSet f) :: items)
    | '.' =>
      let excluded := if f.dotAll then [] else [.range 0x0A 0x0A]
      return .items (.part (.set ⟨excluded, true, .exact⟩) :: items)
    | '^' => return .items (.place (if f.multiline then .lineStart else .textStart) :: items)
    | '$' => return .items (.place (if f.multiline then .lineEnd else .lastLineEnd) :: items)
    | '(' =>
      match ← readOpening f with
      | .comment => return .items items
      | .settings on => return .settings on
      | .reference node => return .items (.part node :: items)
      | opening => return .group opening
    | c =>
      if c == '*' || c == '+' || c == '?' || c == '\x7b' then
        match ← readRepeat c with
        | some (least, most) => return .items (← repeatLast items least most)
        | none => return .items (.part (literal f c.toNat) :: items)
      else return .items (.part (literal f c.toNat) :: items)

mutual

/-- Alternatives. At the very beginning of the pattern, settings for all of it may stand first. -/
def readAlternatives : Nat → Settings → Bool → Read Node
  | 0, _, _ => refuse
  | fuel + 1, f, atStart => do
    let a ← readSequence fuel f atStart []
    if ← accept '|' then
      let f ← if atStart then pure (((← get).overall.map .ofSwitches).getD f) else pure f
      return .alt a (← readAlternatives fuel f false)
    else return a

/-- A sequence up to a bar, a closing parenthesis or the end. -/
def readSequence : Nat → Settings → Bool → List Item → Read Node
  | 0, _, _, _ => refuse
  | fuel + 1, f, atStart, items => do
    match ← peek with
    | none => return sequence items
    | some t =>
      if !t.escaped && (t.char == '|' || t.char == ')') then return sequence items
      else
        skip
        match ← readPiece f items t with
        | .items items => readSequence fuel f atStart items
        | .settings on =>
          if atStart && items.isEmpty then
            modify fun p => { p with overall := some on }
            readSequence fuel (.ofSwitches on) atStart items
          else refuse
        | .group opening =>
          let node ← readGroup fuel f opening
          readSequence fuel f atStart (.part node :: items)

/-- The body of a group and its closing parenthesis. -/
def readGroup : Nat → Settings → Opening → Read Node
  | 0, _, _ => refuse
  | fuel + 1, f, opening => do
    match opening with
    | .capture name =>
      let index ← openGroup name
      let body ← readAlternatives fuel f false
      expect ')'
      closeGroup index body
      return .group index body
    | .plain =>
      let body ← readAlternatives fuel f false
      expect ')'
      return body
    | .scoped inner =>
      let body ← readAlternatives fuel inner false
      expect ')'
      return .scoped body
    | .atomic =>
      let body ← readAlternatives fuel f false
      expect ')'
      return .atomic body
    | .look behind negated =>
      let outer := (← get).behindFrom
      if behind && outer.isNone then
        modify fun p => { p with behindFrom := some p.groups.length }
      let body ← readAlternatives fuel f false
      if behind then modify fun p => { p with behindFrom := outer }
      expect ')'
      if behind then
        return .behind negated (body.width (widthOf (← get).groups)) body
      else return .ahead negated body
    | .condition index =>
      let a ← readSequence fuel f false []
      let b ← if ← accept '|' then readSequence fuel f false [] else pure .empty
      expect ')'
      return .given index a b
    | _ => refuse

end

/-- Reads from the first token on, up to a closing parenthesis that has no opening one. -/
def readTokens (tokens : List Token) : Except Defect (Node × Progress) :=
  (readAlternatives (3 * tokens.length + 3) {} true).run ⟨tokens, [none], [], none, [], none⟩

/-- Whether something is switched on for the whole pattern. -/
def Progress.has (p : Progress) (s : Switch) : Bool := p.overall.any (·.contains s)

/-- Whether what has been read can stand as a whole pattern. -/
def Progress.completes (p : Progress) (node : Node) : Bool :=
  p.left.isEmpty && p.asked.all (· < p.groups.length) && node.fixedBehind &&
    !(p.has .template && node.hasRepetition)

/-- Reads a whole pattern. -/
def readPattern (tokens : List Token) : Except Defect Pattern := do
  let (node, p) ← readTokens tokens
  if p.has .ascii && p.has .allScripts then throw .contradictory
  else if p.completes node then return ⟨node, p.groups.length - 1, p.has .ascii⟩
  else throw .malformed

end Reader

/-- The pattern that a text spells. -/
def read (s : String) : Except Defect Pattern :=
  match Reader.tokens? s.toList with
  | some tokens => Reader.readPattern tokens
  | none => .error .malformed

end TextClassifier.Pattern
