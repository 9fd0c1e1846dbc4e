import TextClassifier.Text.Malformed

/-!
# Inflating

Data is packed in blocks. A block holds bytes as they are, or codes of varying length for bytes and
for copies of what came before: shorter codes for what is more frequent. The lengths of the codes
determine them, and are fixed or given at the beginning of the block.
-/
namespace TextClassifier.Inflate
open Text (Bytes)

/-- The packed data, and how many of its bits have been read. -/
structure Source where
  bytes : Array UInt8
  position : Nat

/-- What has been read, with the source behind it. -/
abbrev Read := StateT Source Option

def bit : Read Nat := do
  let s ← get
  let b ← (s.bytes[s.position / 8]? : Option UInt8)
  set { s with position := s.position + 1 }
  return (b.toNat >>> (s.position % 8)) % 2

/-- The number that the next `n` bits spell, the least significant first. -/
def bits : Nat → Read Nat
  | 0 => return 0
  | n + 1 => do
    let low ← bit
    return low + 2 * (← bits n)

def align : Read Unit := modify fun s => { s with position := (s.position + 7) / 8 * 8 }

/-- Codes by their lengths: how many there are of each, and the symbols in the order of codes. -/
structure Codes where
  counts : List Nat
  symbols : Array Nat

/-- The codes of symbols whose lengths are given; a symbol of length zero has none. -/
def Codes.ofLengths (lengths : List Nat) : Codes :=
  let sizes := (List.range 15).map (· + 1)
  let ofSize (n : Nat) := (lengths.zipIdx.filter fun (size, _) => size == n).map (·.2)
  ⟨sizes.map fun n => (ofSize n).length, (sizes.flatMap ofSize).toArray⟩

/-- Reads on in a code that is not yet complete. `code` is how far it is behind the first code of
its length, and `before` the number of symbols with shorter codes. -/
def symbolFrom (symbols : Array Nat) (code before : Nat) : List Nat → Read Nat
  | [] => failure
  | count :: longer => do
    let code := code + (← bit)
    if code < count then (symbols[before + code]? : Option Nat)
    else symbolFrom symbols ((code - count) * 2) (before + count) longer

def symbol (c : Codes) : Read Nat := symbolFrom c.symbols 0 0 c.counts

/-- The least lengths of copies, with the number of further bits. -/
def copyLengths : Array (Nat × Nat) :=
  #[(3, 0), (4, 0), (5, 0), (6, 0), (7, 0), (8, 0), (9, 0), (10, 0), (11, 1), (13, 1), (15, 1),
    (17, 1), (19, 2), (23, 2), (27, 2), (31, 2), (35, 3), (43, 3), (51, 3), (59, 3), (67, 4),
    (83, 4), (99, 4), (115, 4), (131, 5), (163, 5), (195, 5), (227, 5), (258, 0)]

/-- The least distances of copies, with the number of further bits. -/
def copyDistances : Array (Nat × Nat) :=
  #[(1, 0), (2, 0), (3, 0), (4, 0), (5, 1), (7, 1), (9, 2), (13, 2), (17, 3), (25, 3), (33, 4),
    (49, 4), (65, 5), (97, 5), (129, 6), (193, 6), (257, 7), (385, 7), (513, 8), (769, 8),
    (1025, 9), (1537, 9), (2049, 10), (3073, 10), (4097, 11), (6145, 11), (8193, 12), (12289, 12),
    (16385, 13), (24577, 13)]

/-- The number of a range, by the index of the range and its further bits. -/
def ranged (ranges : Array (Nat × Nat)) (i : Nat) : Read Nat := do
  let (least, further) ← (ranges[i]? : Option (Nat × Nat))
  return least + (← bits further)

/-- Copies bytes from a distance back, one at a time, so that a copy may reach into itself. -/
def copy (distance : Nat) : Nat → Array UInt8 → Option (Array UInt8)
  | 0, out => some out
  | n + 1, out =>
    if distance = 0 ∨ out.size < distance then none
    else match out[out.size - distance]? with
      | some b => copy distance n (out.push b)
      | none => none

/-- The symbols of a block, up to its end. -/
def block (literals distances : Codes) : Nat → Array UInt8 → Read (Array UInt8)
  | 0, _ => failure
  | fuel + 1, out => do
    let n ← symbol literals
    if n < 256 then block literals distances fuel (out.push n.toUInt8)
    else if n = 256 then return out
    else
      let length ← ranged copyLengths (n - 257)
      let distance ← ranged copyDistances (← symbol distances)
      let out ← (copy distance length out : Option (Array UInt8))
      block literals distances fuel out

/-- The codes of blocks that do not give their own. -/
def fixedCodes : Codes × Codes :=
  (.ofLengths (List.replicate 144 8 ++ List.replicate 112 9 ++ List.replicate 24 7 ++
    List.replicate 8 8), .ofLengths (List.replicate 30 5))

/-- The order in which the lengths of the codes for lengths are given. -/
def lengthOrder : List Nat := [16, 17, 18, 0, 8, 7, 9, 6, 10, 5, 11, 4, 12, 3, 13, 2, 14, 1, 15]

/-- The lengths of `n` codes; lengths are repeated by symbols of their own. -/
def codeLengths (c : Codes) : Nat → Nat → List Nat → Read (List Nat)
  | 0, _, _ => failure
  | fuel + 1, n, done => do
    if n ≤ done.length then return (done.reverse.take n)
    else
      match ← symbol c with
      | 16 =>
        let times ← bits 2
        match done with
        | [] => failure
        | last :: _ => codeLengths c fuel n (List.replicate (times + 3) last ++ done)
      | 17 => codeLengths c fuel n (List.replicate ((← bits 3) + 3) 0 ++ done)
      | 18 => codeLengths c fuel n (List.replicate ((← bits 7) + 11) 0 ++ done)
      | size => codeLengths c fuel n (size :: done)

/-- Three bits for each of `n` lengths. -/
def shortLengths : Nat → Read (List Nat)
  | 0 => return []
  | n + 1 => do
    let first ← bits 3
    return first :: (← shortLengths n)

/-- The codes that a block gives for itself. -/
def ownCodes : Read (Codes × Codes) := do
  let literals := (← bits 5) + 257
  let distances := (← bits 5) + 1
  let given ← shortLengths ((← bits 4) + 4)
  let sizes := lengthOrder.zip given
  let c := Codes.ofLengths ((List.range 19).map fun i => (sizes.lookup i).getD 0)
  let lengths ← codeLengths c (literals + distances + 1) (literals + distances) []
  return (.ofLengths (lengths.take literals), .ofLengths (lengths.drop literals))

/-- The bytes of a block that holds them as they are. -/
def plain (out : Array UInt8) : Read (Array UInt8) := do
  align
  let size ← bits 16
  let complement ← bits 16
  if size + complement ≠ 0xFFFF then failure
  let s ← get
  let first := s.position / 8
  if s.bytes.size < first + size then failure
  set { s with position := (first + size) * 8 }
  return out ++ s.bytes.extract first (first + size)

/-- All blocks, up to the one that says it is the last. -/
def blocks : Nat → Array UInt8 → Read (Array UInt8)
  | 0, _ => failure
  | fuel + 1, out => do
    let last ← bit
    let size := (← get).bytes.size * 8 + 1
    let out ← match ← bits 2 with
      | 0 => plain out
      | 1 => block fixedCodes.1 fixedCodes.2 size out
      | 2 =>
        let (literals, distances) ← ownCodes
        block literals distances size out
      | _ => failure
    if last = 1 then return out else blocks fuel out

/-- The data that was packed. -/
def inflate? (packed : Bytes) : Option Bytes :=
  let source : Source := ⟨packed.toArray, 0⟩
  ((blocks (packed.length * 8 + 1) #[]).run source).map fun (out, _) => out.toList

end TextClassifier.Inflate
