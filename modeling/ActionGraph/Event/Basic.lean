import ActionGraph.Json.Basic

/-!
# Events

What is told to everybody who listens: graphs that come and go, executions
that change their state, nodes that start and finish, and messages that
arrive or are driven out.
-/

namespace ActionGraph

inductive Event where
  | graphLoaded (graph name : String) (nodes : Nat)
  | graphUnloaded (graph : String) (cancelled : Nat)
  | executionStarted (execution graph : String)
  | executionPaused (execution : String)
  | executionResumed (execution : String)
  | executionCancelled (execution : String)
  | executionCompleted (execution : String) (duration : Nat)
  | executionFailed (execution error : String)
  | nodeStarted (execution node component : String)
  | nodeFinished (execution node : String) (success : Bool) (duration : Nat)
  | messageInjected (execution node port : String)
  | backpressure (execution node port : String) (depth : Nat)
deriving DecidableEq

namespace Event

/-- The execution that an event is about; events of graphs have none. -/
def execution? : Event → Option String
  | .graphLoaded .. => none
  | .graphUnloaded .. => none
  | .executionStarted execution _ => some execution
  | .executionPaused execution => some execution
  | .executionResumed execution => some execution
  | .executionCancelled execution => some execution
  | .executionCompleted execution _ => some execution
  | .executionFailed execution _ => some execution
  | .nodeStarted execution _ _ => some execution
  | .nodeFinished execution _ _ _ => some execution
  | .messageInjected execution _ _ => some execution
  | .backpressure execution _ _ _ => some execution

/-- Whether an execution ends with an event. -/
def isTerminal : Event → Bool
  | .executionCancelled _ => true
  | .executionCompleted .. => true
  | .executionFailed .. => true
  | _ => false

def kind : Event → String
  | .graphLoaded .. => "GraphLoaded"
  | .graphUnloaded .. => "GraphUnloaded"
  | .executionStarted .. => "ExecutionStarted"
  | .executionPaused .. => "ExecutionPaused"
  | .executionResumed .. => "ExecutionResumed"
  | .executionCancelled .. => "ExecutionCancelled"
  | .executionCompleted .. => "ExecutionCompleted"
  | .executionFailed .. => "ExecutionFailed"
  | .nodeStarted .. => "NodeStarted"
  | .nodeFinished .. => "NodeFinished"
  | .messageInjected .. => "MessageInjected"
  | .backpressure .. => "Backpressure"

def details : Event → List (String × Json)
  | .graphLoaded graph name nodes =>
      [("graphId", .str graph), ("name", .str name), ("nodes", .ofNat nodes)]
  | .graphUnloaded graph cancelled =>
      [("graphId", .str graph), ("cancelledExecutions", .ofNat cancelled)]
  | .executionStarted execution graph =>
      [("executionId", .str execution), ("graphId", .str graph)]
  | .executionPaused execution => [("executionId", .str execution)]
  | .executionResumed execution => [("executionId", .str execution)]
  | .executionCancelled execution => [("executionId", .str execution)]
  | .executionCompleted execution duration =>
      [("executionId", .str execution), ("durationMs", .ofNat duration)]
  | .executionFailed execution error =>
      [("executionId", .str execution), ("error", .str error)]
  | .nodeStarted execution node component =>
      [("executionId", .str execution), ("nodeId", .str node), ("component", .str component)]
  | .nodeFinished execution node success duration =>
      [("executionId", .str execution), ("nodeId", .str node), ("success", .bool success),
       ("durationMs", .ofNat duration)]
  | .messageInjected execution node port =>
      [("executionId", .str execution), ("nodeId", .str node), ("port", .str port)]
  | .backpressure execution node port depth =>
      [("executionId", .str execution), ("nodeId", .str node), ("port", .str port),
       ("depth", .ofNat depth)]

def toJson (event : Event) : Json :=
  Json.ofFields (("kind", .str event.kind) :: event.details)

end Event

end ActionGraph
