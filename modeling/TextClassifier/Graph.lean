import TextClassifier.Error
import TextClassifier.Tensor.Buffer

/-!
# Graphs

The compiled graph of a model is a function of its input buffers. It is given from outside: this
library says only what can come back. A graph that returns one tensor, a sequence or a mapping gives
as many values as there are; other values are taken apart if they can be iterated.
-/
namespace TextClassifier
open Json Tensor

/-- One of the values that a graph gives: a tensor or something else. -/
inductive Given where
  | tensor (b : Buffer)
  | other

/-- What a graph returns. -/
inductive Returned where
  | tensor (b : Buffer)
  | sequence (items : List Given)
  | mapping (members : List (String × Given))
  | plain (v : Value)

/-- The values that are returned, in order. -/
def Returned.values : Returned → Except Fault (List Given)
  | .tensor b => .ok [.tensor b]
  | .sequence items => .ok items
  | .mapping members => .ok (members.map (·.2))
  | .plain v => do return (← v.iterate).map fun _ => .other

/-- The compiled graph of a model. -/
abbrev Graph := List Buffer → Except GraphFailure Returned

/-- What compiled models run in. -/
structure Runtime where
  /-- How the bytes of a compiled model become a graph. -/
  load : Text.Bytes → Except GraphFailure Graph
  /-- The number of bytes from which on a buffer is too large, if there is such a limit. -/
  memory : Option Nat := none

end TextClassifier
