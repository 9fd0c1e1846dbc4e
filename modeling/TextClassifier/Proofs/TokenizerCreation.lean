import TextClassifier.Package.Descriptor
import TextClassifier.Proofs.ReadingDefects
import TextClassifier.Proofs.Utf8Texts

/-!
# Making the tokenizer of a description

A tokenizer is made of its description exactly if the package has the vocabulary file, its bytes are UTF-8, and the
pattern in its group can be read. Otherwise the description is refused, with two exceptions: a pattern with a count
of too many digits, or with one that is too large, gives a fault that is not wrapped, and so does one whose group
ends early and asks for ASCII and for all scripts at once (`tokenizer_result`).
-/
namespace TextClassifier.Package.Descriptor
open Json Text

variable {d : Descriptor} {p : Package} {bytes : Bytes} {text : List Char}

/-- The pattern as it is searched for. -/
def grouped (d : Descriptor) : String := "(" ++ d.pattern.display ++ ")"

/-- Why a description is refused. -/
inductive Refused (d : Descriptor) (p : Package) : ConfigurationError → Prop
  | missing (absent : p.file? d.vocabularyFile = none) : Refused d p (.vocabularyMissing d.vocabularyFile)
  | undecodable {bytes : Bytes} {malformed : Malformed} (found : p.file? d.vocabularyFile = some bytes)
    (failed : Utf8.decode bytes = .error malformed) : Refused d p (.vocabularyUndecodable d.vocabularyFile malformed)
  | pattern {text : List Char} (found : p.file? d.vocabularyFile = some (Utf8.encode text))
    (failed : Pattern.read d.grouped = .error .malformed) : Refused d p (.invalidPattern d.pattern)

/-- What making the tokenizer gives: the tokenizer, the refusal of the description, or the fault of a count in the
pattern that is too large or has too many digits, or of a pattern that contradicts itself. -/
inductive Gives (d : Descriptor) (p : Package) : Except Error Tokenizer → Prop
  | tokenizer {text : List Char} {delimiter : Pattern} (found : p.file? d.vocabularyFile = some (Utf8.encode text))
    (read : Pattern.read d.grouped = .ok delimiter) :
    Gives d p (.ok ⟨d.pattern, delimiter, .ofLines (lines text)⟩)
  | refusal {cause : ConfigurationError} (refused : d.Refused p cause) : Gives d p (.error (.configuration cause))
  | large {text : List Char} (found : p.file? d.vocabularyFile = some (Utf8.encode text))
    (failed : Pattern.read d.grouped = .error .countTooLarge)
    (has : Pattern.HasExceeding .countTooLarge d.pattern.display.toList) : Gives d p (.error (.fault .tooLarge))
  | long {text : List Char} (found : p.file? d.vocabularyFile = some (Utf8.encode text))
    (failed : Pattern.read d.grouped = .error .tooManyDigits)
    (has : Pattern.HasExceeding .tooManyDigits d.pattern.display.toList) : Gives d p (.error (.fault .unusable))
  | contradictory {text : List Char} (found : p.file? d.vocabularyFile = some (Utf8.encode text))
    (contradicts : Pattern.Reader.Contradicts d.grouped) : Gives d p (.error (.fault .unusable))

theorem Refused.code {cause : ConfigurationError} (refused : d.Refused p cause) :
    cause.code = .metadataInvalidTokenizer := by
  cases refused <;> rfl

/-! ## The three steps -/

theorem result_missing (absent : p.file? d.vocabularyFile = none) :
    (d.tokenizer p).result = .error (.configuration (.vocabularyMissing d.vocabularyFile)) := by
  rw [tokenizer, absent]
  rfl

/-- A vocabulary that is no text is refused. -/
theorem result_undecodable {malformed : Malformed} (found : p.file? d.vocabularyFile = some bytes)
    (failed : Utf8.decode bytes = .error malformed) :
    (d.tokenizer p).result = .error (.configuration (.vocabularyUndecodable d.vocabularyFile malformed)) := by
  rw [tokenizer, found]
  simp only [Attempt.result_bind, Attempt.result_mapError, Vocabulary.result_read, Vocabulary.ofBytes, failed]
  rfl

theorem result_decoded (found : p.file? d.vocabularyFile = some (Utf8.encode text)) :
    (d.tokenizer p).result = (Tokenizer.ofPattern d.pattern (.ofLines (lines text))).mapError d.patternError := by
  have decoded : Utf8.decode (Utf8.encode text) = .ok text := Utf8.decode_eq_ok_iff.mpr rfl
  rw [tokenizer, found]
  simp only [Attempt.result_bind, Attempt.result_mapError, Vocabulary.result_read, Vocabulary.ofBytes, decoded]
  show ((Tokenizer.ofPattern d.pattern (.ofLines (lines text))).mapError d.patternError >>= _) = _
  cases Tokenizer.ofPattern d.pattern (.ofLines (lines text)) <;> rfl

/-- A pattern that can be read makes a tokenizer with the vocabulary of the file. -/
theorem result_read {delimiter : Pattern} (found : p.file? d.vocabularyFile = some (Utf8.encode text))
    (read : Pattern.read d.grouped = .ok delimiter) :
    (d.tokenizer p).result = .ok ⟨d.pattern, delimiter, .ofLines (lines text)⟩ := by
  rw [result_decoded found, Tokenizer.ofPattern]
  rw [grouped] at read
  rw [read]
  rfl

theorem result_unread {defect : Pattern.Defect} (found : p.file? d.vocabularyFile = some (Utf8.encode text))
    (failed : Pattern.read d.grouped = .error defect) :
    (d.tokenizer p).result = .error (d.patternError (Tokenizer.patternFault defect)) := by
  rw [result_decoded found, Tokenizer.ofPattern]
  rw [grouped] at failed
  rw [failed]
  rfl

/-- Where the pattern cannot be read and neither breaks the grammar nor contradicts itself, it has a count that is
too large. -/
theorem hasExceeding_of_unread {defect : Pattern.Defect} (failed : Pattern.read d.grouped = .error defect)
    (other : defect ≠ .malformed) (apart : defect ≠ .contradictory) :
    Pattern.HasExceeding defect d.pattern.display.toList := by
  have has := ((Pattern.read_error failed).resolve_left other).resolve_right fun both => apart both.1
  refine Pattern.HasExceeding.of_grouped ?_
  simpa [grouped] using has

/-- Making a tokenizer gives what the description says that it gives. -/
theorem gives (d : Descriptor) (p : Package) : d.Gives p (d.tokenizer p).result := by
  cases found : p.file? d.vocabularyFile with
  | none =>
    rw [result_missing found]
    exact .refusal (.missing found)
  | some bytes =>
    cases decoded : Utf8.decode bytes with
    | error malformed =>
      rw [result_undecodable found decoded]
      exact .refusal (.undecodable found decoded)
    | ok text =>
      obtain rfl := Utf8.decode_eq_ok_iff.mp decoded
      cases read : Pattern.read d.grouped with
      | ok delimiter =>
        rw [result_read found read]
        exact .tokenizer found read
      | error defect =>
        rw [result_unread found read]
        cases defect with
        | malformed => exact .refusal (.pattern found read)
        | countTooLarge => exact .large found read (hasExceeding_of_unread read (by decide) (by decide))
        | tooManyDigits => exact .long found read (hasExceeding_of_unread read (by decide) (by decide))
        | contradictory => exact .contradictory found (Pattern.read_contradictory_iff.mp read)

theorem Gives.result {result : Except Error Tokenizer} (gives : d.Gives p result) : (d.tokenizer p).result = result := by
  cases gives with
  | tokenizer found read => exact result_read found read
  | refusal refused =>
    cases refused with
    | missing absent => exact result_missing absent
    | undecodable found failed => exact result_undecodable found failed
    | pattern found failed => exact result_unread found failed
  | large found failed _ => exact result_unread found failed
  | long found failed _ => exact result_unread found failed
  | contradictory found contradicts =>
    exact result_unread found (Pattern.read_contradictory_iff.mpr contradicts)

/-- A tokenizer is made exactly if the vocabulary file is there and is UTF-8, and the pattern can be read in its
group. For the first of the three that fails the description is refused, and the tokenizer is called invalid, unless
the pattern has a count that is too large or has too many digits, or contradicts itself in its group. -/
theorem tokenizer_result (d : Descriptor) (p : Package) :
    (∀ result, (d.tokenizer p).result = result ↔ d.Gives p result) ∧
    ∀ cause, d.Refused p cause → cause.code = .metadataInvalidTokenizer := by
  refine ⟨fun result => ⟨?_, Gives.result⟩, fun cause => Refused.code⟩
  rintro rfl
  exact gives d p

/-- A process unit with a pattern and a vocabulary file. -/
def sampleUnit (pattern : String) : ProcessUnit where
  kind := .str "RegexTokenizerOptions"
  options := [(.str "delim_regex_pattern", .str pattern),
    (.str "vocab_file", .array [.object [("name", .str "vocab.txt")]])]

def samplePackage : Package := ⟨{}, .null, [], [("vocab.txt", [97, 10, 98])]⟩

/-- A process unit whose pattern asks for the greatest count of 32 bits describes a tokenizer, which is neither made
nor refused. -/
theorem tokenizer_unrefused : ∃ d, ofUnit (sampleUnit "a\x7b4294967295\x7d") = .ok d ∧
    (d.tokenizer samplePackage).result = .error (.fault .tooLarge) := by
  let d : Descriptor := ⟨.delimited, .str "a\x7b4294967295\x7d", "vocab.txt"⟩
  have found : samplePackage.file? d.vocabularyFile = some (Utf8.encode "a\nb".toList) := by decide +kernel
  have computed : (match Pattern.read d.grouped with | .error defect => some defect | .ok _ => none) =
      some .countTooLarge := by decide +kernel
  have failed : Pattern.read d.grouped = .error .countTooLarge := by
    cases read : Pattern.read d.grouped with
    | ok delimiter => simp [read] at computed
    | error defect =>
      rw [read] at computed
      rw [Option.some.inj computed]
  exact ⟨d, by rfl, result_unread found failed⟩

end TextClassifier.Package.Descriptor
