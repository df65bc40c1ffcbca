import ActionGraph.Execution.Engine

/-!
# Calls

The operations as they are carried out, on one engine in place.  Each write
takes effect at once, and a call that is refused leaves what was written
before.
-/

namespace ActionGraph

/-- Something that is done to an engine in place, unless it is refused on the way. -/
abbrev Call (α : Type) :=
  ExceptT Failure (StateM Engine) α

namespace Call

variable {α : Type}

def on (call : Call α) (engine : Engine) : Except Failure α × Engine :=
  (ExceptT.run call).run engine

/-! ## Reads and writes -/

def execution (id : String) : Call Execution := do
  match (← get).execution? id with
  | .ok e => return e
  | .error failure => throw failure

def graph (id : String) : Call Graph.Loaded := do
  match (← get).graph? id with
  | .ok g => return g
  | .error failure => throw failure

def write (id : String) (f : Execution → Execution) : Call Unit :=
  modify fun engine =>
    { engine with executions := engine.executions.map fun e => if e.id = id then f e else e }

def touch (id : String) (now : Nat) : Call Unit :=
  write id fun e => { e with touched := now }

def publish (event : Event) : Call Unit :=
  modify fun engine => engine.publish event

/-! ## Graphs -/

def load (now : Nat) (d : Graph.Definition) : Call String := do
  let engine ← get
  match Graph.Loaded.ofDefinition (Engine.graphId engine.graphsMade) now d with
  | .error failure => throw failure
  | .ok g =>
      publish (.graphLoaded g.id d.name g.topology.sorted.length)
      modify fun engine =>
        { engine with graphs := engine.graphs ++ [g], graphsMade := engine.graphsMade + 1 }
      return g.id

def cancel (now : Nat) (id : String) : Call Unit := do
  write id fun e => e.setState .cancelled
  write id fun e => { e with ended := some now }
  touch id now
  publish (.executionCancelled id)

/-- Cancel an execution, whether it is in the table or not, unless it has ended. -/
def quit (now : Nat) (id : String) : Call Unit := do
  match (← get).held? id with
  | none => return ()
  | some e => unless e.state.isTerminal do cancel now id

def quitAll (now : Nat) : List String → Call Unit
  | [] => return ()
  | id :: rest => do
      quit now id
      quitAll now rest

/-- Cancel and remove every execution of a graph, forget it, and answer how many there were. -/
def unload (now : Nat) (id : String) : Call Nat := do
  let _ ← graph id
  let engine ← get
  let (withdrawn, removed) := engine.withdraw id
  set withdrawn
  quitAll now removed
  modify fun engine => { engine with graphs := engine.graphs.filter fun g => g.id ≠ id }
  publish (.graphUnloaded id removed.length)
  return removed.length

/-! ## Executions -/

def enroll (now : Nat) (g : Graph.Loaded) (context : Context) : Call String := do
  let engine ← get
  if engine.limits.maxConcurrent ≤ engine.active then
    throw (.executionLimit engine.limits.maxConcurrent)
  let id := Engine.executionId engine.executions.length
  let e := Execution.start id g.id g.nodes engine.limits.maxQueueDepth context now
  set { engine with executions := engine.executions ++ [e] }
  publish (.executionStarted id g.id)
  return id

def start (now : Nat) (id : String) (context : Context) : Call String := do
  enroll now (← graph id) context

def deliver (now : Nat) (e : Execution) (node port : String) (value : Json) : Call Unit := do
  match e.instances.get? node with
  | none => throw (.unknownNode e.id node)
  | some i =>
      let (inbox, delivery) := i.inbox.push port value
      write e.id fun e => { e with instances := e.instances.insert node { i with inbox } }
      match delivery with
      | .queued _ => touch e.id now
      | .droppedOldest depth =>
          write e.id fun e => { e with metrics := e.metrics.overflow }
          touch e.id now
          publish (.backpressure e.id node port depth)

def inject (now : Nat) (id node port : String) (value : Json) : Call Unit := do
  let e ← execution id
  if e.state ≠ .running then throw (e.refusal "inject a message into")
  deliver now e node port value
  publish (.messageInjected id node port)

/-- Lead an execution from one state to another, and say so. -/
def lead (source target : Execution.State) (attempted : String) (event : String → Event)
    (now : Nat) (id : String) : Call Unit := do
  let e ← execution id
  if e.state ≠ source then throw (e.refusal attempted)
  write id fun e => e.setState target
  touch id now
  publish (event id)

def pause : Nat → String → Call Unit :=
  lead .running .paused "pause" .executionPaused

def resume : Nat → String → Call Unit :=
  lead .paused .running "resume" .executionResumed

def stop (now : Nat) (id : String) : Call Execution.State := do
  let e ← execution id
  if e.state.isTerminal then return e.state
  cancel now id
  return .cancelled

def remove (id : String) : Call Unit := do
  let e ← execution id
  if e.mirror.isTerminal then write id fun e => { e with listed := false }
  else throw (.wrongState e.id e.mirror.name "remove")

/--
Take up an execution, unless it has ended or is being run.  That it is taken
up is written before it is known whether it was already.
-/
def take (id : String) : Call (List Graph.Turn) := do
  let e ← execution id
  let g ← graph e.graph
  if e.state.isTerminal then throw (e.refusal "run")
  write id fun e => { e with driven := true }
  if e.driven then
    throw (.wrongState e.id (e.state.name ++ " (already being run)") "run")
  return g.turns

end Call

end ActionGraph
