/-!
# Classes of failures

Failures belong to classes, and a class derives from others. Whoever expects failures of some classes
takes those of the classes that derive from them too, and lets all others pass.
-/
namespace TextClassifier

/-- A class of failures: one that this library speaks of, or one that is made from others. -/
inductive FailureClass where
  /-- The class that all others derive from. -/
  | failure
  | runtime
  | unusable
  | mistyped
  | lookup
  | missingKey
  | outOfBounds
  | memberless
  | arithmetic
  | tooLarge
  | unicode
  | undecodable
  | notJson
  | notPattern
  | outOfMemory
  | derived (name : String) (parent : FailureClass)
  | joined (name : String) (first second : FailureClass)
  deriving DecidableEq, Repr

namespace FailureClass

def name : FailureClass → String
  | .failure => "Exception"
  | .runtime => "RuntimeError"
  | .unusable => "ValueError"
  | .mistyped => "TypeError"
  | .lookup => "LookupError"
  | .missingKey => "KeyError"
  | .outOfBounds => "IndexError"
  | .memberless => "AttributeError"
  | .arithmetic => "ArithmeticError"
  | .tooLarge => "OverflowError"
  | .unicode => "UnicodeError"
  | .undecodable => "UnicodeDecodeError"
  | .notJson => "JSONDecodeError"
  | .notPattern => "error"
  | .outOfMemory => "MemoryError"
  | .derived name _ => name
  | .joined name _ _ => name

/-- A class and all that it derives from. -/
def lineage : FailureClass → List FailureClass
  | .failure => [.failure]
  | .missingKey => [.missingKey, .lookup, .failure]
  | .outOfBounds => [.outOfBounds, .lookup, .failure]
  | .tooLarge => [.tooLarge, .arithmetic, .failure]
  | .unicode => [.unicode, .unusable, .failure]
  | .undecodable => [.undecodable, .unicode, .unusable, .failure]
  | .notJson => [.notJson, .unusable, .failure]
  | .derived name parent => .derived name parent :: parent.lineage
  | .joined name first second => .joined name first second :: (first.lineage ++ second.lineage)
  | c => [c, .failure]

/-- Whether a class is one of some classes or derives from one. -/
def isOneOf (c : FailureClass) (expected : List FailureClass) : Bool :=
  expected.any fun d => c.lineage.contains d

end FailureClass
end TextClassifier
