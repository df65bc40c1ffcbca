import ActionGraph.Accept
import ActionGraph.Json.Path

/-!
# Parameters of an action

A parameter is looked up in the parameters of an action, which need not be an
object.  A parameter that is null is as good as absent.
-/

namespace ActionGraph.Action.Params

variable {α : Type}

/-- The value of a parameter, unless it is absent or null. -/
def given? (params : Json) (name : String) : Option Json :=
  (params.field? name).bind Json.present?

def decodeAs (decoder : Wire.Decoder α) (name : String) (value : Json) : Except Failure α :=
  (decoder (.ofJson value)).mapError fun fault => .invalidParam name fault.message

def required (params : Json) (name : String) (decoder : Wire.Decoder α) : Except Failure α :=
  match given? params name with
  | some value => decodeAs decoder name value
  | none => .error (.missingParam name)

def optional (params : Json) (name : String) (decoder : Wire.Decoder α) :
    Except Failure (Option α) :=
  match given? params name with
  | some value => (decodeAs decoder name value).map some
  | none => .ok none

end ActionGraph.Action.Params
