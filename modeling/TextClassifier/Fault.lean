import TextClassifier.FailureClass
import TextClassifier.Text.Malformed
import TextClassifier.Text.Quoted

/-!
# Faults

What goes wrong with a value, a text or a tensor before any check of the classifier speaks about it.
Errors that a caller sees wrap a fault and close their message with its detail.
-/
namespace TextClassifier

/-- What can be wrong with data. -/
inductive Fault where
  /-- A value of the right kind that cannot be used. -/
  | unusable
  /-- A value of the wrong kind. -/
  | mistyped
  /-- Members were asked of a value that has none. -/
  | memberless
  /-- An object lacks a member. -/
  | missingKey (key : String)
  /-- A list has no item at an index. -/
  | outOfBounds
  /-- A number is too large for its place. -/
  | tooLarge
  /-- Bytes are not text. -/
  | undecodable (bytes : Text.Malformed)
  /-- A text is no JSON value. -/
  | notJson
  /-- A text is no pattern. -/
  | notPattern
  /-- A tensor of the shape cannot be made. -/
  | unallocatable
  /-- Memory does not hold what is asked for. -/
  | outOfMemory
  /-- A check of this library failed, with its wording. -/
  | stated (text : String)
  deriving DecidableEq, Repr

namespace Fault

/-- The class of the failure that a fault is. -/
def kind : Fault → FailureClass
  | .unusable => .unusable
  | .mistyped => .mistyped
  | .memberless => .memberless
  | .missingKey _ => .missingKey
  | .outOfBounds => .outOfBounds
  | .tooLarge => .tooLarge
  | .undecodable _ => .undecodable
  | .notJson => .notJson
  | .notPattern => .notPattern
  | .unallocatable => .runtime
  | .outOfMemory => .outOfMemory
  | .stated _ => .unusable

/-- What a message says about a fault: the quoted key, the bad bytes or the check's own wording, and
a star for a fault that has no wording. -/
def detail : Fault → String
  | .missingKey key => Text.Quoted.quote key
  | .undecodable bytes => bytes.message
  | .stated text => text
  | _ => "*"

end Fault
end TextClassifier
