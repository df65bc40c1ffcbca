import ActionGraph.Json.Basic

/-!
# States of executions and of their nodes

An execution is running or paused until it ends.  It ends because it was
stopped, because every node had its turn, or because a node failed.  Each
node waits for its turn; a node that never gets one is skipped.
-/

namespace ActionGraph

namespace Execution

inductive State where
  | running
  | paused
  | cancelled
  | completed
  | failed
deriving DecidableEq, Repr

namespace State

def name : State → String
  | .running => "running"
  | .paused => "paused"
  | .cancelled => "cancelled"
  | .completed => "completed"
  | .failed => "failed"

def isTerminal : State → Bool
  | .running => false
  | .paused => false
  | .cancelled => true
  | .completed => true
  | .failed => true

def toJson (state : State) : Json :=
  .str state.name

end State

inductive Status where
  | pending
  | running
  | completed
  | failed
  | skipped
deriving DecidableEq, Repr

namespace Status

def name : Status → String
  | .pending => "pending"
  | .running => "running"
  | .completed => "completed"
  | .failed => "failed"
  | .skipped => "skipped"

/-- Whether a node had its turn or lost it. -/
def isSettled : Status → Bool
  | .pending => false
  | .running => false
  | .completed => true
  | .failed => true
  | .skipped => true

def toJson (status : Status) : Json :=
  .str status.name

end Status

end Execution

end ActionGraph
