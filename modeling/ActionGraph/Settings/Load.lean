import ActionGraph.Files
import ActionGraph.Settings
import ActionGraph.Toml.Decode

/-!
# Loading settings

A text of settings may refer to variables of the environment.  References to
variables that are set are replaced by their values, once; all others stay.
-/

namespace ActionGraph

/-- The variables that are set. -/
abbrev Variables :=
  String → Option String

namespace Variables

def reference (name : List Char) : List Char :=
  '$' :: '{' :: name ++ ['}']

def namesFrom : Nat → List Char → List String
  | 0, _ => []
  | _ + 1, [] => []
  | fuel + 1, '$' :: '{' :: rest =>
      let name := rest.takeWhile (· ≠ '}')
      String.ofList name :: namesFrom fuel ((rest.drop name.length).drop 1)
  | fuel + 1, _ :: rest => namesFrom fuel rest

def names (text : String) : List String :=
  namesFrom (text.length + 1) text.toList

/-- Replace the references in a text by what they refer to. -/
def expandFrom (known : Variables) : Nat → List Char → List Char
  | 0, _ => []
  | _ + 1, [] => []
  | fuel + 1, '$' :: '{' :: rest =>
      let name := rest.takeWhile (· ≠ '}')
      let behind := (rest.drop name.length).drop 1
      let value :=
        match known (String.ofList name) with
        | some value => value.toList
        | none => reference name
      value ++ expandFrom known fuel behind
  | fuel + 1, c :: rest => c :: expandFrom known fuel rest

def expand (known : Variables) (text : String) : String :=
  String.ofList (expandFrom known (text.length + 1) text.toList)

end Variables

namespace Settings

def ofText (known : Variables) (text : String) : Except Failure Settings := do
  let settings ← (Toml.accept decode (known.expand text)).mapError fun fault =>
    Failure.settings fault.message
  settings.validate
  return settings

def ofFile (known : Variables) (path : String) : FileText → Except Failure Settings
  | .error _ => .error (.settingsMissing path)
  | .ok text => ofText known text

end Settings

end ActionGraph
