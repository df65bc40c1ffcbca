import ActionGraph.Accept
import ActionGraph.Files
import ActionGraph.Graph.Definition
import ActionGraph.Toml.Decode

/-!
# Loading definitions of graphs

A definition is written in TOML if the name of its file says so, in whatever
case, and else in JSON.
-/

namespace ActionGraph.Graph.Definition

def isToml (path : String) : Bool :=
  match FilePath.extension? path with
  | none => false
  | some extension => extension.map Char.toLower == ['t', 'o', 'm', 'l']

def ofFile (path : String) : FileText → Except Failure Definition
  | .error fault => .error (.file fault.message)
  | .ok text =>
      if isToml path then
        (Toml.accept decode text).mapError fun fault => Failure.invalidGraph fault.message
      else Json.acceptText decode text

end ActionGraph.Graph.Definition
