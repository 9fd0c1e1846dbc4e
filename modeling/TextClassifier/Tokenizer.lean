import TextClassifier.Fault
import TextClassifier.Json.Value
import TextClassifier.Pattern.Reader
import TextClassifier.Vocabulary

/-!
# Tokenizers

A tokenizer cuts a text at its delimiters. Delimiters are the matches of a pattern that are not
empty; they are dropped, and what is left between them are the subwords, none of which is empty.
Ids of subwords come from a vocabulary.
-/
namespace TextClassifier
open Json

/-- A vocabulary with the pattern of the delimiters between its tokens. -/
structure Tokenizer where
  /-- The pattern as it was given. -/
  pattern : Value
  /-- The pattern that is searched for: the given one as a group. -/
  delimiter : Pattern
  vocabulary : Vocabulary

namespace Tokenizer

/-- The default pattern: anything but letters, digits, underscores and apostrophes. -/
def defaultPattern : String := "[^\\w\\']+"

/-- The marker before a text. -/
def classificationToken : String := "[CLS]"

/-- The marker behind a text. -/
def separatorToken : String := "[SEP]"

/-- The reserved token for a start. -/
def startToken : String := "<START>"

/-- The reserved token for padding. -/
def padToken : String := "<PAD>"

/-- The reserved token for unknown words. -/
def unknownToken : String := "<UNKNOWN>"

/-- The fault of a pattern that cannot be read. -/
def patternFault : Pattern.Defect → Fault
  | .malformed => .notPattern
  | .countTooLarge => .tooLarge
  | .tooManyDigits => .unusable
  | .contradictory => .unusable

/-- A tokenizer for a pattern, which need not be text. -/
def ofPattern (pattern : Value) (vocabulary : Vocabulary) : Except Fault Tokenizer :=
  match Pattern.read ("(" ++ pattern.display ++ ")") with
  | .ok delimiter => .ok ⟨pattern, delimiter, vocabulary⟩
  | .error defect => .error (patternFault defect)

/-- The pieces of a text outside of spans, from a place on. Empty spans and empty pieces do not
count. -/
def between (text : Array Char) (start : Nat) : List Pattern.Span → List (List Char)
  | [] => if start < text.size then [(text.extract start text.size).toList] else []
  | span :: rest =>
    if span.last = span.first then between text start rest
    else if start < span.first then
      (text.extract start span.first).toList :: between text span.last rest
    else between text span.last rest

def tokenize (t : Tokenizer) (text : List Char) : List String :=
  (between text.toArray 0 (t.delimiter.spans text.toArray)).map String.ofList

def id? (t : Tokenizer) (token : String) : Option Int := t.vocabulary.id? token

end Tokenizer
end TextClassifier
