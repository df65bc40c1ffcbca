import ActionGraph.Wire.Message
import ActionGraph.Conversation

/-!
# Failures

Every way in which an operation of the library fails, and the text in which
it is reported.  Only an expired credential may leave an action; all other
failures become part of the action's report.
-/

namespace ActionGraph

inductive EdgeEnd where
  | source
  | target
deriving DecidableEq, Repr

def EdgeEnd.name : EdgeEnd → String
  | .source => "source"
  | .target => "target"

inductive Failure where
  | credentialExpired (text : String)
  | completion (text : String)
  | embedding (text : String)
  | template (text : String)
  | unknownAction (type : String)
  | missingParam (name : String)
  | invalidParam (name : String) (text : String)
  | timedOut (milliseconds : Nat)
  | tooDeep (limit : Nat)
  | illegalMove (source target : String)
  | invalidGraph (text : String)
  | duplicateNode (id : String)
  | danglingEdge (node : String) (where_ : EdgeEnd)
  | cycle (sorted total : Nat)
  | unknownGraph (id : String)
  | unknownExecution (id : String)
  | unknownNode (execution node : String)
  | wrongState (execution current attempted : String)
  | executionLimit (limit : Nat)
  | cancelled
  | settings (text : String)
  | settingsMissing (path : String)
  | file (text : String)
  | json (fault : Wire.Fault)
deriving DecidableEq

namespace Failure

def message : Failure → String
  | .credentialExpired text => "Authentication failed: " ++ text
  | .completion text => "LLM request failed: " ++ text
  | .embedding text => "Embedding request failed: " ++ text
  | .template text => "Template error: " ++ text
  | .unknownAction type => "Unknown action type: " ++ type
  | .missingParam name => "Missing required parameter: " ++ name
  | .invalidParam name text => "Invalid parameter '" ++ name ++ "': " ++ text
  | .timedOut ms => "Action timed out after " ++ toString ms ++ "ms"
  | .tooDeep limit => "Maximum action nesting depth (" ++ toString limit ++ ") exceeded"
  | .illegalMove source target => "Invalid state transition from " ++ source ++ " to " ++ target
  | .invalidGraph text => "Graph validation failed: " ++ text
  | .duplicateNode id => "Duplicate node id: " ++ id
  | .danglingEdge node where_ =>
      "Edge references unknown node '" ++ node ++ "' (" ++ where_.name ++ ")"
  | .cycle sorted total =>
      "Graph contains a cycle (" ++ toString sorted ++ " of " ++ toString total
        ++ " nodes could be ordered)"
  | .unknownGraph id => "Graph not found: " ++ id
  | .unknownExecution id => "Execution not found: " ++ id
  | .unknownNode execution node => "Node '" ++ node ++ "' not found in execution " ++ execution
  | .wrongState execution current attempted =>
      "Cannot " ++ attempted ++ " execution " ++ execution ++ ": execution is " ++ current
  | .executionLimit limit => "Concurrent execution limit reached (" ++ toString limit ++ ")"
  | .cancelled => "Execution cancelled"
  | .settings text => "Config error: " ++ text
  | .settingsMissing path => "Config file not found: " ++ path
  | .file text => "I/O error: " ++ text
  | .json fault => "JSON error: " ++ fault.message

def isCredential : Failure → Bool
  | .credentialExpired _ => true
  | _ => false

end Failure

end ActionGraph
