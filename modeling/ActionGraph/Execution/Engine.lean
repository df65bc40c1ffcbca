import ActionGraph.Event.Bus
import ActionGraph.Execution.Basic
import ActionGraph.Settings

/-!
# The engine

The engine holds the loaded graphs and the executions, each in the order in
which they were made, and publishes what happens to them.  An execution that
was taken out of the table is kept for the run that may still drive it.

Operations that are refused have no effect: they answer a failure and no
engine.  Starting an execution and unloading a graph go through both tables,
one after the other; their sections are given one by one.
-/

namespace ActionGraph

/-- Graphs, executions, and the bus on which is published what happens to them. -/
structure Engine where
  limits : ExecutorSettings
  graphs : List Graph.Loaded
  /-- How many graphs were ever loaded. -/
  graphsMade : Nat
  executions : List Execution
  bus : Bus
deriving DecidableEq

namespace Engine

def ofSettings (settings : Settings) : Engine :=
  ⟨settings.executor, [], 0, [], .ofCapacity settings.eventCapacity⟩

/-- An engine without graphs, if there can be a bus of the capacity that is set. -/
def ofSettings? (settings : Settings) : Option Engine :=
  (Bus.ofCapacity? settings.eventCapacity).map fun bus => { ofSettings settings with bus }

def graphId (before : Nat) : String :=
  "g" ++ toString (before + 1)

def executionId (before : Nat) : String :=
  "e" ++ toString (before + 1)

def publish (engine : Engine) (event : Event) : Engine :=
  { engine with bus := (engine.bus.publish event).1 }

def history (engine : Engine) : List Event :=
  engine.bus.history.toList

/-- The execution of an identifier, whether it is in the table or not. -/
def held? (engine : Engine) (id : String) : Option Execution :=
  engine.executions.find? fun e => e.id = id

/-- The execution of an identifier in the table. -/
def execution? (engine : Engine) (id : String) : Except Failure Execution :=
  match engine.executions.find? fun e => e.listed && e.id = id with
  | some e => .ok e
  | none => .error (.unknownExecution id)

def listed (engine : Engine) : List Execution :=
  engine.executions.filter (·.listed)

/-- Enter what became of an execution, and publish what there is to publish. -/
def enter (engine : Engine) (change : Execution.Change) : Engine :=
  { engine with
    executions := engine.executions.map fun e => if e.id = change.1.id then change.1 else e
    bus := engine.bus.publishAll change.2 }

def control (engine : Engine) (id : String)
    (f : Execution → Except Failure Execution.Change) : Except Failure Engine := do
  let e ← engine.execution? id
  return engine.enter (← f e)

/-! ## Graphs -/

def graph? (engine : Engine) (id : String) : Except Failure Graph.Loaded :=
  match engine.graphs.find? fun g => g.id = id with
  | some g => .ok g
  | none => .error (.unknownGraph id)

def load (engine : Engine) (now : Nat) (d : Graph.Definition) :
    Except Failure (Engine × String) := do
  let g ← Graph.Loaded.ofDefinition (graphId engine.graphsMade) now d
  let engine := engine.publish (.graphLoaded g.id d.name g.topology.sorted.length)
  let engine :=
    { engine with graphs := engine.graphs ++ [g], graphsMade := engine.graphsMade + 1 }
  return (engine, g.id)

/-- Take every execution of a graph out of the table, and answer their identifiers. -/
def withdraw (engine : Engine) (graph : String) : Engine × List String :=
  let mine := fun (e : Execution) => e.listed && e.graph = graph
  ({ engine with
      executions := engine.executions.map fun e =>
        if mine e then { e with listed := false } else e },
    (engine.executions.filter mine).map (·.id))

/-- Cancel an execution that was taken out of the table, unless it has ended. -/
def cancel (engine : Engine) (now : Nat) (id : String) : Engine :=
  match engine.held? id with
  | none => engine
  | some e => engine.enter (e.stop now)

/-- Forget a graph whose executions were taken out of the table; so many were they. -/
def discard (engine : Engine) (graph : String) (removed : Nat) : Engine :=
  { engine with graphs := engine.graphs.filter fun g => g.id ≠ graph }.publish
    (.graphUnloaded graph removed)

def unload (engine : Engine) (now : Nat) (graph : String) : Except Failure (Engine × Nat) := do
  let _ ← engine.graph? graph
  let (engine, removed) := engine.withdraw graph
  let engine := removed.foldl (fun engine id => engine.cancel now id) engine
  return (engine.discard graph removed.length, removed.length)

/-! ## Executions -/

/-- The count of executions in the table that have not ended. -/
def active (engine : Engine) : Nat :=
  (engine.listed.filter fun e => !e.mirror.isTerminal).length

def enroll (engine : Engine) (now : Nat) (g : Graph.Loaded) (context : Context) :
    Except Failure (Engine × String) :=
  if engine.limits.maxConcurrent ≤ engine.active then
    .error (.executionLimit engine.limits.maxConcurrent)
  else
    let id := executionId engine.executions.length
    let e := Execution.start id g.id g.nodes engine.limits.maxQueueDepth context now
    .ok
      ({ engine with executions := engine.executions ++ [e] }.publish
        (.executionStarted id g.id), id)

def start (engine : Engine) (now : Nat) (graph : String) (context : Context) :
    Except Failure (Engine × String) := do
  engine.enroll now (← engine.graph? graph) context

def inject (engine : Engine) (now : Nat) (id node port : String) (value : Json) :
    Except Failure Engine :=
  engine.control id fun e => e.inject now node port value

def pause (engine : Engine) (now : Nat) (id : String) : Except Failure Engine :=
  engine.control id fun e => e.pause now

def resume (engine : Engine) (now : Nat) (id : String) : Except Failure Engine :=
  engine.control id fun e => e.resume now

/-- Cancel an execution unless it has ended, and answer its state. -/
def stop (engine : Engine) (now : Nat) (id : String) :
    Except Failure (Engine × Execution.State) := do
  let e ← engine.execution? id
  let change := e.stop now
  return (engine.enter change, change.1.state)

def remove (engine : Engine) (id : String) : Except Failure Engine :=
  engine.control id Execution.remove

end Engine

end ActionGraph
