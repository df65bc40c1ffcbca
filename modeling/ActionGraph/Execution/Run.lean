import ActionGraph.Action.Registry
import ActionGraph.Execution.Call
import ActionGraph.Process.Pool
import ActionGraph.Process.Timeout

/-!
# Runs

A run drives an execution: the nodes of its graph have their turns in
dependency order, each on the messages in its mailbox.  A run goes in steps,
and between any two of them the execution may be paused, resumed, stopped or
sent a message.  A run that can make no step waits: for the end of a pause, or
for the alarm of the node at work.
-/

namespace ActionGraph

structure Workplace (σ : Type) where
  engine : Engine
  world : Action.World σ

namespace Workplace

variable {σ : Type}

def now (w : Workplace σ) : Nat :=
  w.world.now

end Workplace

namespace Execution

open ActionGraph.Action ActionGraph.Graph

variable {σ : Type}

/-- The work of a node: what its dispatch ends with, or nothing if the time was up. -/
abbrev Work (σ : Type) :=
  Task σ (Option Dispatched)

inductive Phase (σ : Type) where
  /-- The turn of a node is next, once the execution is not paused. -/
  | resting (turn : Turn) (rest : List Turn)
  /-- The node takes its messages. -/
  | claiming (turn : Turn) (rest : List Turn)
  /-- The node has its context and is about to start. -/
  | announcing (turn : Turn) (rest : List Turn) (context : Context)
  /-- The node is at work since some time. -/
  | working (turn : Turn) (rest : List Turn) (context : Context) (since : Nat) (work : Work σ)
  /-- The node ended with a report. -/
  | reporting (turn : Turn) (rest : List Turn) (duration : Nat) (report : Action.Report)
      (context : Context)
  /-- The end of the node is published, and its report not yet recorded. -/
  | recording (turn : Turn) (rest : List Turn) (duration : Nat) (report : Action.Report)
      (context : Context)
  /-- The node ended with an expired credential. -/
  | expiring (turn : Turn) (duration : Nat) (failure : Failure)
  /-- No node has a further turn; the run ends once the execution is not paused. -/
  | settling
  | finishing
  | ended (result : Except Failure Execution.Report)

def Phase.before : List Turn → Phase σ
  | [] => .settling
  | turn :: rest => .resting turn rest

structure Run (σ : Type) where
  execution : String
  started : Nat
  phase : Phase σ

namespace Run

def result? (run : Run σ) : Option (Except Failure Execution.Report) :=
  match run.phase with
  | .ended result => some result
  | _ => none

def isOver (run : Run σ) : Bool :=
  run.result?.isSome

def alarm? (run : Run σ) : Option Alarm :=
  match run.phase with
  | .working _ _ _ _ work => work.alarm?
  | _ => none

def spec (node : Node) : Spec :=
  ⟨node.component, some node.id, node.config⟩

def overdue (node : Node) (limit elapsed : Nat) : Action.Report :=
  { Action.Report.failed node.component ("Node timed out after " ++ toString limit ++ "ms")
      elapsed with id := some node.id }

/-- Take up an execution of the table, unless it has ended or is being run, in one section. -/
def take (engine : Engine) (id : String) : Except Failure (Engine × List Turn) := do
  let e ← engine.execution? id
  let g ← engine.graph? e.graph
  return (engine.enter (← e.drive, []), g.turns)

/-- A run that begins now; it is over at once if it is refused. -/
def start (id : String) (w : Workplace σ) : Run σ × Workplace σ :=
  match (Call.take id).on w.engine with
  | (.error failure, engine) => (⟨id, w.now, .ended (.error failure)⟩, { w with engine })
  | (.ok turns, engine) => (⟨id, w.now, .before turns⟩, { w with engine })

/-- The phase and the engine after a step that leaves the world of actions alone. -/
abbrev Turned (σ : Type) :=
  Phase σ × Engine

/-- The step of a run that is not at work, given its execution. -/
def stepEngine (registry : Registry σ) (now started : Nat) (e : Execution) (engine : Engine) :
    Phase σ → Option (Turned σ)
  | .resting turn rest =>
      match e.mirror with
      | .running => some (.claiming turn rest, engine)
      | .paused => none
      | _ => some (.settling, engine)
  | .claiming turn rest =>
      match e.claim now turn.node.id with
      | .refused => some (.settling, engine)
      | .absent => some (.before rest, engine)
      | .taken after context => some (.announcing turn rest context, engine.enter (after, []))
  | .announcing turn rest context =>
      let work := Process.timeout engine.limits.nodeTimeout
        (registry.dispatch (spec turn.node) context)
      some
        (.working turn rest context now work,
          engine.publish (.nodeStarted e.id turn.node.id turn.node.component))
  | .working turn rest context since work =>
      if e.state = .cancelled then some (.settling, engine)
      else
        match work with
        | .done none =>
            some
              (.reporting turn rest (now - since)
                (overdue turn.node engine.limits.nodeTimeout (now - since)) context, engine)
        | .done (some (.ok report, after)) =>
            some (.reporting turn rest (now - since) report after, engine)
        | .done (some (.error failure, _)) =>
            some (.expiring turn (now - since) failure, engine)
        | _ => none
  | .reporting turn rest duration report context =>
      some
        (.recording turn rest duration report context,
          engine.publish (.nodeFinished e.id turn.node.id report.success duration))
  | .recording turn rest duration report context =>
      let (change, onward) := e.record now turn.node turn.edges duration report context
      let phase := match onward with
        | .next => .before rest
        | .settle => .settling
        | .abort failure => .ended (.error failure)
      some (phase, engine.enter change)
  | .expiring turn duration failure =>
      some
        (.ended (.error failure),
          engine.enter (e.recordExpired now turn.node duration failure.message))
  | .settling =>
      match e.mirror with
      | .paused => none
      | _ => some (.finishing, engine)
  | .finishing =>
      let change := e.finish now (now - started)
      some (.ended (.ok ⟨change.1, now - started⟩), engine.enter change)
  | .ended _ => none

def stepWork (world : Action.World σ) : Phase σ → Option (Phase σ × Action.World σ)
  | .working turn rest context since (.act change next) =>
      some (.working turn rest context since (next world), change world)
  | .working turn rest context since (.wait alarm next) =>
      if alarm.due ≤ world.now then some (.working turn rest context since next, world) else none
  | _ => none

def step (registry : Registry σ) (run : Run σ) (w : Workplace σ) :
    Option (Run σ × Workplace σ) :=
  match w.engine.held? run.execution with
  | none => none
  | some e =>
      match stepEngine registry w.now run.started e w.engine run.phase with
      | some (phase, engine) => some ({ run with phase }, { w with engine })
      | none =>
          match stepWork w.world run.phase with
          | some (phase, world) => some ({ run with phase }, { w with world })
          | none => none

end Run

/-! ## Every run comes to rest -/

namespace Phase

/-- How far a run is from its end, the work of the node apart. -/
def distance : Phase σ → Nat
  | .resting _ rest => 10 * rest.length + 17
  | .claiming _ rest => 10 * rest.length + 16
  | .announcing _ rest _ => 10 * rest.length + 15
  | .working _ rest _ _ _ => 10 * rest.length + 14
  | .reporting _ rest _ _ _ => 10 * rest.length + 13
  | .recording _ rest _ _ _ => 10 * rest.length + 12
  | .expiring _ _ _ => 3
  | .settling => 2
  | .finishing => 1
  | .ended _ => 0

def work : Phase σ → Work σ
  | .working _ _ _ _ work => work
  | _ => .done none

def Nearer : Phase σ → Phase σ → Prop :=
  InvImage (Prod.Lex (· < ·) Process.Child) fun phase => (phase.distance, phase.work)

theorem nearer_wf : WellFounded (Nearer (σ := σ)) :=
  InvImage.wf _ (Prod.lex Nat.lt_wfRel ⟨_, Process.child_wf⟩).wf

theorem nearer_of_distance_lt {a b : Phase σ} (h : a.distance < b.distance) : Nearer a b :=
  Prod.Lex.left _ _ h

theorem distance_before (rest : List Turn) :
    (before rest : Phase σ).distance ≤ 10 * rest.length + 7 := by
  cases rest with
  | nil => simp [before, distance]
  | cons turn rest =>
      simp only [before, distance, List.length_cons]
      omega

theorem nearer_stepEngine {registry : Registry σ} {now started : Nat} {e : Execution}
    {engine after : Engine} {a b : Phase σ}
    (h : Run.stepEngine registry now started e engine a = some (b, after)) : Nearer b a := by
  apply nearer_of_distance_lt
  cases a with
  | resting turn rest =>
      simp only [Run.stepEngine] at h
      split at h <;> simp only [Option.some.injEq, Prod.mk.injEq, reduceCtorEq] at h
      all_goals
        obtain ⟨rfl, _⟩ := h
        simp only [distance]
        omega
  | claiming turn rest =>
      simp only [Run.stepEngine] at h
      have bound := distance_before (σ := σ) rest
      have here : (claiming turn rest : Phase σ).distance = 10 * rest.length + 16 := rfl
      split at h <;> simp only [Option.some.injEq, Prod.mk.injEq] at h <;> obtain ⟨rfl, _⟩ := h
      · exact Nat.lt_of_lt_of_le (by decide : 2 < 16) (Nat.le_add_left _ _)
      · omega
      · exact Nat.lt_succ_self _
  | announcing turn rest context =>
      simp only [Run.stepEngine, Option.some.injEq, Prod.mk.injEq] at h
      obtain ⟨rfl, _⟩ := h
      simp only [distance]
      omega
  | working turn rest context since work =>
      simp only [Run.stepEngine] at h
      split at h
      · simp only [Option.some.injEq, Prod.mk.injEq] at h
        obtain ⟨rfl, _⟩ := h
        simp only [distance]
        omega
      · split at h <;> simp only [Option.some.injEq, Prod.mk.injEq, reduceCtorEq] at h
        all_goals
          obtain ⟨rfl, _⟩ := h
          simp only [distance]
          omega
  | reporting turn rest duration report context =>
      simp only [Run.stepEngine, Option.some.injEq, Prod.mk.injEq] at h
      obtain ⟨rfl, _⟩ := h
      simp only [distance]
      omega
  | recording turn rest duration report context =>
      simp only [Run.stepEngine, Option.some.injEq, Prod.mk.injEq] at h
      have bound := distance_before (σ := σ) rest
      have here : (recording turn rest duration report context : Phase σ).distance
          = 10 * rest.length + 12 := rfl
      obtain ⟨rfl, _⟩ := h
      split
      · omega
      · exact Nat.lt_of_lt_of_le (by decide : 2 < 12) (Nat.le_add_left _ _)
      · exact Nat.lt_of_lt_of_le (by decide : 0 < 12) (Nat.le_add_left _ _)
  | expiring turn duration failure =>
      simp only [Run.stepEngine, Option.some.injEq, Prod.mk.injEq] at h
      obtain ⟨rfl, _⟩ := h
      simp only [distance]
      omega
  | settling =>
      simp only [Run.stepEngine] at h
      split at h <;> simp only [Option.some.injEq, Prod.mk.injEq, reduceCtorEq] at h
      obtain ⟨rfl, _⟩ := h
      simp only [distance]
      omega
  | finishing =>
      simp only [Run.stepEngine, Option.some.injEq, Prod.mk.injEq] at h
      obtain ⟨rfl, _⟩ := h
      simp only [distance]
      omega
  | ended result => simp [Run.stepEngine] at h

theorem nearer_stepWork {world after : Action.World σ} {a b : Phase σ}
    (h : Run.stepWork world a = some (b, after)) : Nearer b a := by
  unfold Run.stepWork at h
  split at h
  · simp only [Option.some.injEq, Prod.mk.injEq] at h
    obtain ⟨rfl, _⟩ := h
    exact Prod.Lex.right _ (.act _ _ _)
  · split at h <;> simp only [Option.some.injEq, Prod.mk.injEq, reduceCtorEq] at h
    obtain ⟨rfl, _⟩ := h
    exact Prod.Lex.right _ (.wait _ _)
  · simp at h

end Phase

namespace Run

def Nearer : Run σ → Run σ → Prop :=
  InvImage Phase.Nearer Run.phase

theorem nearer_wf : WellFounded (Nearer (σ := σ)) :=
  InvImage.wf _ Phase.nearer_wf

theorem nearer_step {registry : Registry σ} {run after : Run σ} {w v : Workplace σ}
    (h : run.step registry w = some (after, v)) : Nearer after run := by
  unfold step at h
  split at h
  · simp at h
  · split at h
    · rename_i phase engine found
      simp only [Option.some.injEq, Prod.mk.injEq] at h
      obtain ⟨rfl, _⟩ := h
      exact Phase.nearer_stepEngine found
    · split at h
      · rename_i phase world found
        simp only [Option.some.injEq, Prod.mk.injEq] at h
        obtain ⟨rfl, _⟩ := h
        exact Phase.nearer_stepWork found
      · simp at h

instance : WellFoundedRelation (Run σ) :=
  ⟨Nearer, nearer_wf⟩

/-- Run as far as possible without waiting. -/
def proceed (registry : Registry σ) (run : Run σ) (w : Workplace σ) : Run σ × Workplace σ :=
  match _h : run.step registry w with
  | none => (run, w)
  | some (after, v) => proceed registry after v
termination_by run
decreasing_by exact nearer_step _h

end Run

end Execution

end ActionGraph
