import TextClassifier.Package
import TextClassifier.Tokenizer

/-!
# Descriptions of tokenizers

A process unit of the metadata describes the tokenizer: its kind, the pattern of its delimiters and
the files that belong to it, one of which is the vocabulary. The description is resolved first, and
then the tokenizer is built with the vocabulary that the package holds.
-/
namespace TextClassifier.Package
open Json

/-- The kinds of tokenizers. -/
inductive TokenizerKind where
  /-- A tokenizer that cuts texts at the matches of a pattern. -/
  | delimited
  deriving DecidableEq, Repr

namespace TokenizerKind

def name : TokenizerKind → String
  | .delimited => "RegexTokenizerOptions"

/-- A kind by its name. -/
def ofValue? (v : Value) : Option TokenizerKind :=
  if v.equal (.str (name .delimited)) then some .delimited else none

end TokenizerKind

/-- A tokenizer as the metadata describes it. -/
structure Descriptor where
  kind : TokenizerKind
  /-- The pattern, which need not be text. -/
  pattern : Value
  vocabularyFile : String
  deriving Repr

namespace Descriptor

def patternOption : String := "delim_regex_pattern"

def filesOption : String := "vocab_file"

/-- The name of a file in the list, and whether it is a vocabulary, which it is if it has no type.
An item that is no object with a name is refused. -/
def listedFile? : Value → Option (String × Bool)
  | .object members =>
    match Value.lookup "name" members with
    | some (.str name) =>
      let type := memberOr (.str AssociatedFile.vocabulary) "type" members
      some (name, type.equal (.str AssociatedFile.vocabulary))
    | _ => none
  | _ => none

/-- The list of files: each must have a name. -/
def listedFiles? : Value → Option (List (String × Bool))
  | .array items => items.mapM listedFile?
  | _ => none

/-- The value of an option, if it counts as present. -/
def option? (u : ProcessUnit) (key : String) : Option Value :=
  (u.options.get? key).filter Value.isPresent

/-- The description that a process unit gives. -/
def ofUnit (u : ProcessUnit) : Except ConfigurationError Descriptor := do
  let some kind := TokenizerKind.ofValue? u.kind | .error (.unsupportedTokenizer u.kind)
  let some pattern := option? u patternOption | .error .missingPattern
  let files := (option? u filesOption).getD (.array [])
  let some listed := listedFiles? files | .error (.malformedVocabularyList files)
  let some (name, _) := listed.find? (·.2) | .error .noVocabularyFile
  return ⟨kind, pattern, name⟩

/-- What a fault of the pattern means for the package: what is no pattern is a wrong configuration,
and other faults stay what they are. -/
def patternError (d : Descriptor) (fault : Fault) : Error :=
  if fault.kind.isOneOf [.notPattern] then .configuration (.invalidPattern d.pattern)
  else .fault fault

/-- The tokenizer that is described. -/
def tokenizer (d : Descriptor) (p : Package) : Attempt Error Tokenizer := do
  let some bytes := p.file? d.vocabularyFile
    | .of (.error (.configuration (.vocabularyMissing d.vocabularyFile)))
  let vocabulary ← (Vocabulary.read bytes).mapError fun malformed =>
    .configuration (.vocabularyUndecodable d.vocabularyFile malformed)
  let tokenizer ← .of ((Tokenizer.ofPattern d.pattern vocabulary).mapError d.patternError)
  .report .debug ("Created regex tokenizer with " ++ toString vocabulary.size ++
    " tokens and pattern " ++ d.pattern.literal)
  return tokenizer

end Descriptor

/-- The tokenizer that a process unit describes. -/
def tokenizerOf (u : ProcessUnit) (p : Package) : Attempt Error Tokenizer := do
  let d ← (Attempt.of (Descriptor.ofUnit u)).mapError .configuration
  d.tokenizer p

end TextClassifier.Package
