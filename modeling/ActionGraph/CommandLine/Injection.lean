import ActionGraph.Graph.Definition
import ActionGraph.Text.Split
import ActionGraph.Wire.Reader

/-!
# Injections

An injection is a message for a port of a node, written `node.port=value` or
`node=value`.  The first equals sign ends the target, and the first dot of the
target ends the node.  A value that is no JSON text stands for itself.
-/

namespace ActionGraph.CommandLine

structure Injection where
  node : String
  port : String
  value : Json
deriving DecidableEq

inductive InjectionFault where
  | noValue (text : String)
  /-- The node or the port is empty. -/
  | badTarget (target : String)
deriving DecidableEq, Repr

def InjectionFault.message : InjectionFault → String
  | .noValue text => "expected node.port=<json>, got '" ++ text ++ "'"
  | .badTarget target => "invalid injection target '" ++ target ++ "'"

namespace Injection

def target (text : List Char) : List Char × List Char :=
  match Text.splitFirst? '.' text with
  | some sides => sides
  | none => (text, Graph.defaultTargetPort.toList)

/-- The JSON value of a text, or the text itself if it is no JSON. -/
def valueOf (text : String) : Json :=
  match Json.parse text with
  | .ok value => value
  | .error _ => .str text

def ofText (text : String) : Except InjectionFault Injection :=
  match Text.splitFirst? '=' text.toList with
  | none => .error (.noValue text)
  | some (before, value) =>
      let (node, port) := target before
      if node.isEmpty || port.isEmpty then .error (.badTarget (String.ofList before))
      else .ok ⟨String.ofList node, String.ofList port, valueOf (String.ofList value)⟩

end Injection

end ActionGraph.CommandLine
