import ActionGraph.Wire.Fault
import ActionGraph.Text.Debug

/-!
# The text of a fault

A fault reads as its cause and, if it has a place, the line and the column.
-/

namespace ActionGraph.Wire

def Found.describe : Found → String
  | .null => "null"
  | .bool b => "boolean `" ++ toString b ++ "`"
  | .int z => "integer `" ++ toString z ++ "`"
  | .float x => "floating point `" ++ Decimal.render64 Decimal.plainPoint x ++ "`"
  | .str s => "string " ++ Text.quoted s
  | .seq => "sequence"
  | .map => "map"

/-- A choice of names, each between backquotes. -/
def oneOf (names : List String) : String :=
  let quoted := names.map fun name => "`" ++ name ++ "`"
  match quoted with
  | [] => "there are no variants"
  | [a] => "expected " ++ a
  | [a, b] => "expected " ++ a ++ " or " ++ b
  | _ => "expected one of " ++ ", ".intercalate quoted

def Cause.message : Cause → String
  | .malformed why => why.message
  | .invalidType found expected => "invalid type: " ++ found.describe ++ ", expected " ++ expected
  | .invalidValue found expected =>
      "invalid value: " ++ found.describe ++ ", expected " ++ expected
  | .invalidLength length expected =>
      "invalid length " ++ toString length ++ ", expected " ++ expected
  | .unknownVariant name known => "unknown variant `" ++ name ++ "`, " ++ oneOf known
  | .missingField name => "missing field `" ++ name ++ "`"
  | .duplicateField name => "duplicate field `" ++ name ++ "`"
  | .noVariant type => "data did not match any variant of untagged enum " ++ type

def Fault.message (fault : Fault) : String :=
  match fault.spot with
  | none => fault.cause.message
  | some place =>
      fault.cause.message ++ " at line " ++ toString place.line ++ " column "
        ++ toString place.column

end ActionGraph.Wire
