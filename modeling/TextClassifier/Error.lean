import TextClassifier.Fault
import TextClassifier.Json.Value
import TextClassifier.Tensor.ElementType

/-!
# Errors

Errors of a classifier carry a stable status code, so that callers need not read messages. There
are three kinds: a model package that cannot back a classifier, a single classification whose
output is not as expected, and a failure of the engine. Each cause has one code and one message.
-/
namespace TextClassifier
open Json

/-- The category of an error. -/
inductive StatusCode where
  | fileNotFound
  | invalidModelPackage
  | metadataInvalidTokenizer
  | inputTensorNotFound
  | invalidInputTensorDimensions
  | invalidInputTensorSize
  | mixedStaticDynamicTensors
  | invalidNumOutputTensors
  | invalidOutputTensorType
  | allocationError
  | executionError
  deriving DecidableEq, Repr

def StatusCode.name : StatusCode → String
  | .fileNotFound => "file_not_found"
  | .invalidModelPackage => "invalid_model_package"
  | .metadataInvalidTokenizer => "metadata_invalid_tokenizer"
  | .inputTensorNotFound => "input_tensor_not_found"
  | .invalidInputTensorDimensions => "invalid_input_tensor_dimensions"
  | .invalidInputTensorSize => "invalid_input_tensor_size"
  | .mixedStaticDynamicTensors => "mixed_static_dynamic_tensors"
  | .invalidNumOutputTensors => "invalid_num_output_tensors"
  | .invalidOutputTensorType => "invalid_output_tensor_type"
  | .allocationError => "allocation_error"
  | .executionError => "execution_error"

def separated (items : List String) : String := ", ".intercalate items

/-- Names with what is said of each in parentheses. -/
def described (items : List (String × String)) : String :=
  separated (items.map fun (name, text) => name ++ " (" ++ text ++ ")")

def bracketed (ns : List Int) : String := "[" ++ separated (ns.map Number.intText) ++ "]"

/-- A failure of a graph, while it is loaded or while it runs. -/
structure GraphFailure where
  kind : FailureClass
  wording : String
  deriving DecidableEq, Repr

/-- Why a model package cannot back a classifier. -/
inductive ConfigurationError where
  | fileNotFound (path : String)
  | notAnArchive
  | missingEntry (name : String)
  | malformedMetadata (fault : Fault)
  | malformedGraph (fault : Fault)
  | unloadableModel (failure : GraphFailure)
  | noProcessUnit
  | unsupportedTokenizer (kind : Value)
  | missingPattern
  | malformedVocabularyList (files : Value)
  | noVocabularyFile
  | vocabularyMissing (file : String)
  | invalidPattern (pattern : Value)
  | vocabularyUndecodable (file : String) (bytes : Text.Malformed)
  | inputCount (described actual : Nat)
  | inputMissing (name : String)
  | inputRanks (ranks : List (String × Nat))
  | inputBatches (batches : List (String × Int))
  | inputLengths (lengths : List (String × Int))
  | mixedLengths (dynamic : List (String × Bool))
  | lengthMismatch (requested actual : Int)
  | lengthTooShort (actual : Int) (classification separator : String)
  deriving Repr

namespace ConfigurationError

def code : ConfigurationError → StatusCode
  | .fileNotFound _ => .fileNotFound
  | .notAnArchive => .invalidModelPackage
  | .missingEntry _ => .invalidModelPackage
  | .malformedMetadata _ => .invalidModelPackage
  | .malformedGraph _ => .invalidModelPackage
  | .unloadableModel _ => .invalidModelPackage
  | .noProcessUnit => .metadataInvalidTokenizer
  | .unsupportedTokenizer _ => .metadataInvalidTokenizer
  | .missingPattern => .metadataInvalidTokenizer
  | .malformedVocabularyList _ => .metadataInvalidTokenizer
  | .noVocabularyFile => .metadataInvalidTokenizer
  | .vocabularyMissing _ => .metadataInvalidTokenizer
  | .invalidPattern _ => .metadataInvalidTokenizer
  | .vocabularyUndecodable _ _ => .metadataInvalidTokenizer
  | .inputCount _ _ => .inputTensorNotFound
  | .inputMissing _ => .inputTensorNotFound
  | .inputRanks _ => .invalidInputTensorDimensions
  | .inputBatches _ => .invalidInputTensorSize
  | .inputLengths _ => .invalidInputTensorSize
  | .mixedLengths _ => .mixedStaticDynamicTensors
  | .lengthMismatch _ _ => .invalidInputTensorSize
  | .lengthTooShort _ _ _ => .invalidInputTensorSize

def message : ConfigurationError → String
  | .fileNotFound path => "Unable to open file at " ++ path
  | .notAnArchive => "Model package is not a valid zip archive: *"
  | .missingEntry name => "Model package is missing '" ++ name ++ "'"
  | .malformedMetadata fault => "Malformed model package metadata: " ++ fault.detail
  | .malformedGraph fault => "Malformed graph description: " ++ fault.detail
  | .unloadableModel failure => "Unable to load model graph: " ++ failure.wording
  | .noProcessUnit => "No input process unit found from metadata."
  | .unsupportedTokenizer kind => "Unsupported tokenizer type '" ++ kind.display ++ "'"
  | .missingPattern => "RegexTokenizerOptions is missing 'delim_regex_pattern'"
  | .malformedVocabularyList files =>
    "RegexTokenizerOptions 'vocab_file' must be a list of associated files with a name, got " ++
      files.literal
  | .noVocabularyFile => "RegexTokenizerOptions does not reference a vocabulary file"
  | .vocabularyMissing file => "Vocabulary file '" ++ file ++ "' not found in model package"
  | .invalidPattern pattern => "Invalid delimiter pattern '" ++ pattern.display ++ "': *"
  | .vocabularyUndecodable file bytes =>
    "Vocabulary file '" ++ file ++ "' is not valid UTF-8: " ++ bytes.message
  | .inputCount described actual =>
    "Metadata describes " ++ toString described ++ " input tensors but the model has " ++
      toString actual
  | .inputMissing name => "Input tensor '" ++ name ++ "' not found in model metadata"
  | .inputRanks ranks =>
    "The three input tensors in Bert models are expected to have dim 2, but got " ++
      described (ranks.map fun (name, n) => (name, toString n)) ++ "."
  | .inputBatches batches =>
    "The three input tensors in Bert models are expected to have same batch size 1, but got " ++
      described (batches.map fun (name, n) => (name, Number.intText n)) ++ "."
  | .inputLengths lengths =>
    "The three input tensors in Bert models are expected to have same length, but got " ++
      described (lengths.map fun (name, n) => (name, Number.intText n)) ++ "."
  | .mixedLengths dynamic =>
    "Input tensors contain a mix of static and dynamic tensors: " ++
      described (dynamic.map fun (name, b) => (name, if b then "dynamic" else "static"))
  | .lengthMismatch requested actual =>
    "Requested max_seq_len " ++ Number.intText requested ++
      " does not match the model's input length " ++ Number.intText actual
  | .lengthTooShort actual classification separator =>
    "Input length " ++ Number.intText actual ++ " leaves no room for " ++ classification ++
      " and " ++ separator

end ConfigurationError

/-- Why the output of a single classification is unusable; the classifier stays usable. -/
inductive OutputError where
  | outputCount (found : Nat)
  | scoreType (tensor : Value) (type : Tensor.ElementType)
  deriving Repr

namespace OutputError

def code : OutputError → StatusCode
  | .outputCount _ => .invalidNumOutputTensors
  | .scoreType _ _ => .invalidOutputTensorType

def message : OutputError → String
  | .outputCount found =>
    "BertNLClassifier models are expected to have only 1 output, found " ++ toString found
  | .scoreType tensor type =>
    "Type mismatch for score tensor " ++ tensor.display ++ ": torch." ++ type.name ++
      " is not supported"

end OutputError

/-- Why the engine cannot resize, fill or run. -/
inductive ResourceError where
  | populateSize (tensor : Value) (shape : List Int) (count : Nat)
  | resizeRank (tensor : Value) (rank : Nat) (shape : List Int)
  | resizeNegative (tensor : Value) (shape : List Int)
  | resizeFixed (tensor : Value) (signature shape : List Int)
  | notAllocated
  | executionFailed (text : String)
  | outputCount (produced declared : Nat)
  deriving Repr

namespace ResourceError

def code : ResourceError → StatusCode
  | .populateSize _ _ _ => .allocationError
  | .resizeRank _ _ _ => .allocationError
  | .resizeNegative _ _ => .allocationError
  | .resizeFixed _ _ _ => .allocationError
  | .notAllocated => .allocationError
  | .executionFailed _ => .executionError
  | .outputCount _ _ => .executionError

def message : ResourceError → String
  | .populateSize tensor shape count =>
    "Cannot populate tensor " ++ tensor.display ++ " of shape " ++ bracketed shape ++ " with " ++
      toString count ++ " values"
  | .resizeRank tensor rank shape =>
    "Cannot resize tensor " ++ tensor.display ++ " of rank " ++ toString rank ++ " to " ++
      bracketed shape
  | .resizeNegative tensor shape =>
    "Cannot resize tensor " ++ tensor.display ++ " to negative shape " ++ bracketed shape
  | .resizeFixed tensor signature shape =>
    "Attempting to resize dimension of tensor " ++ tensor.display ++ " with signature " ++
      bracketed signature ++ " to " ++ bracketed shape
  | .notAllocated => "Input tensors were resized but not allocated before invoke"
  | .executionFailed text => "Graph execution failed: " ++ text
  | .outputCount produced declared =>
    "Graph produced " ++ toString produced ++ " outputs, " ++ toString declared ++
      " were declared"

end ResourceError

/-- Whatever a caller of this library may be told. -/
inductive Error where
  | configuration (cause : ConfigurationError)
  | output (cause : OutputError)
  | resource (cause : ResourceError)
  | fault (cause : Fault)
  | graph (failure : GraphFailure)
  deriving Repr

namespace Error

/-- The category and the message of an error of the classifier's own. -/
def status? : Error → Option (StatusCode × String)
  | .configuration cause => some (cause.code, cause.message)
  | .output cause => some (cause.code, cause.message)
  | .resource cause => some (cause.code, cause.message)
  | .fault _ => none
  | .graph _ => none

/-- The line that reports an error of the classifier's own. -/
def line? (e : Error) : Option String :=
  e.status?.map fun (code, message) => "[" ++ code.name ++ "] " ++ message

end Error
end TextClassifier
