import ActionGraph.Failure
import ActionGraph.Wire.Reader

/-!
# Accepting JSON

A value or a text is accepted as a value of a type, or the fault becomes a
failure.
-/

namespace ActionGraph

namespace Json

def accept {α : Type} (decoder : Wire.Decoder α) (value : Json) : Except Failure α :=
  (decoder (.ofJson value)).mapError Failure.json

def acceptText {α : Type} (decoder : Wire.Decoder α) (text : String) : Except Failure α :=
  ((Wire.Document.ofText text).decode decoder).mapError Failure.json

end Json

end ActionGraph
