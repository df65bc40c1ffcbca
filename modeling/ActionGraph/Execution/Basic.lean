import ActionGraph.Action.Spec
import ActionGraph.Context.Basic
import ActionGraph.Event.Basic
import ActionGraph.Execution.Mailbox
import ActionGraph.Execution.Metrics
import ActionGraph.Execution.State
import ActionGraph.Graph.Topology
import ActionGraph.Time

/-!
# Executions

An execution is one run of a graph.  It has an instance of every node, with
the node's mailbox, and the context that nodes hand on to each other.

The functions below are the sections in which an execution changes.  Each is
one step: it takes the execution at a time and gives what it becomes, and the
events that are published about it.
-/

namespace ActionGraph

namespace Execution

open ActionGraph.Action (optionalField)

structure Instance where
  node : String
  component : String
  status : Status
  inbox : Mailbox
  output : Option Json
  error : Option String
  invocations : Nat
  lastDuration : Option Nat
deriving DecidableEq

namespace Instance

/-- A node before its turn, with room for so many messages at each port. -/
def ofNode (capacity : Nat) (node : Graph.Node) : Instance :=
  ⟨node.id, node.component, .pending, .ofCapacity capacity, none, none, 0, none⟩

def skip (i : Instance) : Instance :=
  if i.status.isSettled then i else { i with status := .skipped }

def toJson (i : Instance) : Json :=
  Json.ofFields <|
    [("nodeId", .str i.node), ("component", .str i.component), ("status", i.status.toJson),
     ("inbox", i.inbox.toJson)]
      ++ optionalField "output" i.output
      ++ optionalField "error" (i.error.map Json.str)
      ++ [("invocations", .ofNat i.invocations)]
      ++ optionalField "lastDurationMs" (i.lastDuration.map Json.ofNat)

end Instance

end Execution

structure Execution where
  id : String
  graph : String
  state : Execution.State
  /-- The state as it is read by whoever waits for an execution, counts or removes it. -/
  mirror : Execution.State
  instances : Dict Execution.Instance
  metrics : Execution.Metrics
  context : Context
  /-- When the execution was started. -/
  started : Nat
  /-- When it was last active. -/
  touched : Nat
  /-- When it ended. -/
  ended : Option Nat
  error : Option String
  /-- Whether it is in the table of executions. -/
  listed : Bool
  /-- Whether a run has taken it up. -/
  driven : Bool
  /-- Every change of the state is mirrored at once. -/
  mirrored : mirror = state
deriving DecidableEq

namespace Execution

open ActionGraph.Action (optionalField)

/-- What an execution becomes, and what is published about it. -/
abbrev Change :=
  Execution × List Event

def start (id graph : String) (nodes : List Graph.Node) (capacity : Nat) (context : Context)
    (now : Nat) : Execution where
  id := id
  graph := graph
  state := .running
  mirror := .running
  instances := Dict.ofList (nodes.map fun node => (node.id, .ofNode capacity node))
  metrics := .zero
  context := context
  started := now
  touched := now
  ended := none
  error := none
  listed := true
  driven := false
  mirrored := rfl

/-- Come to a state, and mirror it. -/
def setState (e : Execution) (state : State) : Execution :=
  { e with state, mirror := state, mirrored := rfl }

def amend (e : Execution) (node : String) (f : Instance → Instance) : Execution :=
  match e.instances.get? node with
  | none => e
  | some i => { e with instances := e.instances.insert node (f i) }

/-- Nodes that did not have their turn lose it. -/
def skipPending (e : Execution) : Execution :=
  { e with instances := e.instances.map Instance.skip }

def refusal (e : Execution) (attempted : String) : Failure :=
  .wrongState e.id e.state.name attempted

/-! ## Messages -/

def deliver (e : Execution) (now : Nat) (node port : String) (value : Json) :
    Except Failure Change :=
  match e.instances.get? node with
  | none => .error (.unknownNode e.id node)
  | some i =>
      let (inbox, delivery) := i.inbox.push port value
      let after :=
        { e with instances := e.instances.insert node { i with inbox }, touched := now }
      match delivery with
      | .queued _ => .ok (after, [])
      | .droppedOldest depth =>
          .ok ({ after with metrics := after.metrics.overflow },
            [.backpressure e.id node port depth])

def inject (e : Execution) (now : Nat) (node port : String) (value : Json) :
    Except Failure Change :=
  if e.state ≠ .running then .error (e.refusal "inject a message into")
  else
    (e.deliver now node port value).map fun (after, events) =>
      (after, events ++ [.messageInjected e.id node port])

/-! ## Control -/

def pause (e : Execution) (now : Nat) : Except Failure Change :=
  if e.state ≠ .running then .error (e.refusal "pause")
  else .ok ({ e.setState .paused with touched := now }, [.executionPaused e.id])

def resume (e : Execution) (now : Nat) : Except Failure Change :=
  if e.state ≠ .paused then .error (e.refusal "resume")
  else .ok ({ e.setState .running with touched := now }, [.executionResumed e.id])

/-- Cancel an execution; one that has ended is left as it is. -/
def stop (e : Execution) (now : Nat) : Change :=
  if e.state.isTerminal then (e, [])
  else
    ({ e.setState .cancelled with ended := some now, touched := now },
      [.executionCancelled e.id])

/-- Take an execution that has ended out of the table. -/
def remove (e : Execution) : Except Failure Change :=
  if e.mirror.isTerminal then .ok ({ e with listed := false }, [])
  else .error (.wrongState e.id e.mirror.name "remove")

/-! ## Turns of nodes -/

/-- Take up an execution; at most one run ever does. -/
def drive (e : Execution) : Except Failure Execution :=
  if e.state.isTerminal then .error (e.refusal "run")
  else if e.driven then
    .error (.wrongState e.id (e.state.name ++ " (already being run)") "run")
  else .ok { e with driven := true }

def inputsKey : String :=
  "inputs"

/-- The messages of each port: a single one as it is, several as an array. -/
def inputs (drained : Dict (List Json)) : Json :=
  .ofDict <| drained.map fun values =>
    match values with
    | [value] => value
    | values => .arr values

/-- What comes of the attempt to give a node its turn. -/
inductive Claim where
  /-- The execution is not running. -/
  | refused
  /-- There is no such node. -/
  | absent
  /-- The node is running on a context of its own. -/
  | taken (after : Execution) (context : Context)
deriving DecidableEq

/-- Give a node its turn with the messages in its mailbox. -/
def claim (e : Execution) (now : Nat) (node : String) : Claim :=
  if e.state ≠ .running then .refused
  else
    match e.instances.get? node with
    | none => .absent
    | some i =>
        let (inbox, drained) := i.inbox.drain
        let i := { i with status := .running, invocations := i.invocations + 1, inbox }
        .taken
          { e with
            instances := e.instances.insert node i
            metrics := e.metrics.process (countAll drained)
            touched := now }
          (e.context.set inputsKey (inputs drained))

/-- The execution fails; nodes that did not have their turn lose it. -/
def fail (e : Execution) (now : Nat) (message : String) : Change :=
  (skipPending { e.setState .failed with ended := some now, error := some message },
    [.executionFailed e.id message])

def failureAt (node text : String) : String :=
  "Node '" ++ node ++ "' failed: " ++ text

/-- A node ended with an expired credential, and the execution fails. -/
def recordExpired (e : Execution) (now : Nat) (node : Graph.Node) (duration : Nat)
    (text : String) : Change :=
  let e := { e with metrics := e.metrics.invocation node.component duration false, touched := now }
  let e := e.amend node.id fun i =>
    { i with status := .failed, error := some text, lastDuration := some duration }
  e.fail now (failureAt node.id text)

/-- The field of an output that is named after a port, or the whole output. -/
def portValue (output : Json) (port : String) : Json :=
  (output.field? port).getD output

/-- Forward an output along edges in order, and say what went wrong if something did. -/
def forward (now : Nat) (output : Json) : List Graph.Edge → Change → Change × Option Failure
  | [], change => (change, none)
  | edge :: rest, (e, events) =>
      match e.deliver now edge.target.node edge.targetPort (portValue output edge.sourcePort) with
      | .error failure => ((e, events), some failure)
      | .ok (after, more) =>
          forward now output rest
            ({ after with metrics := after.metrics.emit, touched := now }, events ++ more)

/-- What a run does after the outcome of a node is recorded. -/
inductive Onward where
  /-- The next node has its turn. -/
  | next
  /-- No further node has its turn. -/
  | settle
  /-- The run breaks off. -/
  | abort (failure : Failure)
deriving DecidableEq

/--
Record the report of a node.  A node that succeeded hands on its context, less
the messages it saw, and its output; one that did not makes the execution fail.
-/
def record (e : Execution) (now : Nat) (node : Graph.Node) (edges : List Graph.Edge)
    (duration : Nat) (report : Action.Report) (context : Context) : Change × Onward :=
  let e :=
    { e with
      metrics := e.metrics.invocation node.component duration report.success, touched := now }
  let e := e.amend node.id fun i =>
    { i with
      lastDuration := some duration
      output := report.output
      error := report.error
      status := if report.success then .completed else .failed }
  if report.success then
    let e := { e with context := context.remove inputsKey }
    match forward now (report.output.getD .null) edges (e, []) with
    | (change, none) => (change, .next)
    | (change, some failure) => (change, .abort failure)
  else if e.state.isTerminal then ((e, []), .settle)
  else
    (e.fail now (failureAt node.id (report.error.getD "unknown error")), .settle)

/-- The last section of a run: an execution that is still running is complete. -/
def finish (e : Execution) (now duration : Nat) : Change :=
  if e.state = .running then
    (skipPending { e.setState .completed with ended := some now },
      [.executionCompleted e.id duration])
  else (skipPending e, [])

/-! ## Encoding -/

def metricsJson (e : Execution) : Json :=
  Json.ofFields <|
    e.metrics.counters
      ++ [("startedAt", .str (Time.short e.started)),
          ("lastActivityAt", .str (Time.short e.touched))]

def toJson (e : Execution) : Json :=
  Json.ofFields <|
    [("id", .str e.id), ("graphId", .str e.graph), ("state", e.state.toJson),
     ("instances", .ofDict (e.instances.map Instance.toJson)), ("metrics", e.metricsJson),
     ("context", e.context.view), ("startedAt", .str (Time.short e.started))]
      ++ optionalField "completedAt" (e.ended.map fun time => .str (Time.short time))
      ++ optionalField "error" (e.error.map Json.str)

structure Report where
  execution : Execution
  /-- How long the run took. -/
  duration : Nat
deriving DecidableEq

namespace Report

def outputs (report : Report) : List (String × Json) :=
  report.execution.instances.entries.filterMap fun (id, i) =>
    i.output.map fun output => (id, output)

def toJson (report : Report) : Json :=
  let e := report.execution
  Json.ofFields <|
    [("executionId", .str e.id), ("graphId", .str e.graph), ("state", e.state.toJson),
     ("outputs", Json.ofFields report.outputs), ("context", e.context.view),
     ("metrics", e.metricsJson)]
      ++ optionalField "error" (e.error.map Json.str)
      ++ [("durationMs", .ofNat report.duration)]

end Report

def summary (e : Execution) : Json :=
  Json.ofFields
    [("id", .str e.id), ("graphId", .str e.graph), ("state", e.state.toJson),
     ("startedAt", .str (Time.short e.started))]

end Execution

end ActionGraph
