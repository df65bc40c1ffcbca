import ActionGraph.Proofs.Execution.Operations

/-!
# What acts do to an engine

Whatever the act, an engine keeps its executions, or what became of one of
them is entered, or those of a graph are taken out of the table, or a new one
is started.  `System.Effect` says so once, with all that is published.
-/

namespace ActionGraph

open Execution (Run Phase)
open ActionGraph.Graph (Turn)

variable {σ : Type}

/-! ## Steps of a run -/

namespace Execution

/-- What a run tells of a node where it is: that it started, or that it finished. -/
def Phase.tells : Phase σ → List (String × Bool)
  | .announcing turn _ _ => [(turn.node.id, false)]
  | .reporting turn _ _ _ _ => [(turn.node.id, true)]
  | _ => []

namespace Run

inductive Changes : Execution → Phase σ → Execution.Change → Prop where
  | silent (e : Execution) {phase : Phase σ} (mute : phase.tells = []) : Changes e phase (e, [])
  | claim {e after : Execution} {turn : Turn} {rest : List Turn} {now : Nat} {context : Context}
      (taken : e.claim now turn.node.id = .taken after context) :
      Changes e (.claiming turn rest) (after, [])
  | announce {e : Execution} {turn : Turn} {rest : List Turn} {context : Context} :
      Changes e (.announcing turn rest context)
        (e, [.nodeStarted e.id turn.node.id turn.node.component])
  | publish {e : Execution} {turn : Turn} {rest : List Turn} {duration : Nat}
      {report : Action.Report} {context : Context} :
      Changes e (.reporting turn rest duration report context)
        (e, [.nodeFinished e.id turn.node.id report.success duration])
  | record {e : Execution} {turn : Turn} {rest : List Turn} {duration : Nat}
      {report : Action.Report} {context : Context} (now : Nat) :
      Changes e (.recording turn rest duration report context)
        (e.record now turn.node turn.edges duration report context).1
  | recordExpired {e : Execution} {turn : Turn} {duration : Nat} {failure : Failure}
      (now : Nat) :
      Changes e (.expiring turn duration failure)
        (e.recordExpired now turn.node duration failure.message)
  | finish {e : Execution} (now duration : Nat) :
      Changes e .finishing (e.finish now duration)

theorem Changes.id {e : Execution} {phase : Phase σ} {change : Execution.Change}
    (changes : Changes e phase change) : change.1.id = e.id := by
  cases changes with
  | claim taken => exact congrArg Standing.id (standing_claim taken).2
  | @record turn rest duration report context now =>
      cases success : report.success with
      | true =>
          exact congrArg Standing.id
            (record_success e now turn.node turn.edges duration report context success).1
      | false =>
          refine (congrArg Standing.id
            (record_failure e now turn.node turn.edges duration report context success).1).trans ?_
          split <;> rfl
  | recordExpired now => exact congrArg Standing.id (standing_recordExpired e now _ _ _)
  | finish now duration =>
      exact (congrArg Standing.id (standing_finish e now duration)).trans (Standing.finish_id _ _)
  | _ => rfl

end Run

end Execution

namespace Engine

@[simp] theorem history_publish (engine : Engine) (event : Event) :
    (engine.publish event).history = engine.history ++ [event] :=
  Array.toList_push

theorem history_publishAll (bus : Bus) (events : List Event) :
    (bus.publishAll events).history.toList = bus.history.toList ++ events := by
  induction events generalizing bus with
  | nil => exact (List.append_nil _).symm
  | cons event rest ih =>
      refine (ih (bus.publish event).1).trans ?_
      rw [Bus.publish, Array.toList_push, List.append_assoc]
      rfl

@[simp] theorem history_enter (engine : Engine) (change : Execution.Change) :
    (engine.enter change).history = engine.history ++ change.2 :=
  history_publishAll _ _

theorem history_enroll {engine after : Engine} {now : Nat} {g : Graph.Loaded} {context : Context}
    {made : String} (enrolled : engine.enroll now g context = .ok (after, made)) :
    after.history = engine.history ++ [.executionStarted made g.id] := by
  obtain ⟨_, _, rfl⟩ := enroll_eq_ok enrolled
  exact history_publish _ _

/-- Entering an execution as it is only publishes. -/
theorem enter_self {engine : Engine} (apart : (engine.executions.map (·.id)).Nodup) {id : String}
    {e : Execution} (held : engine.held? id = some e) (events : List Event) :
    engine.enter (e, events) = { engine with bus := engine.bus.publishAll events } := by
  have mem : e ∈ engine.executions := List.mem_of_find?_eq_some held
  have same : (engine.executions.map fun other => if other.id = e.id then e else other) =
      engine.executions := by
    refine (List.map_congr_left fun other there => ?_).trans (List.map_id _)
    split
    · rename_i named
      exact (List.inj_on_of_nodup_map apart there mem named).symm
    · rfl
  rw [enter, same]

end Engine

namespace Execution.Run

section Step

variable {registry : Action.Registry σ} {e : Execution}

/-- A step that leaves the world of actions alone enters what it changes. -/
theorem changes_of_stepEngine {now started : Nat} {engine after : Engine}
    (apart : (engine.executions.map (·.id)).Nodup) {id : String}
    (held : engine.held? id = some e) {phase phase' : Phase σ}
    (stepped : stepEngine registry now started e engine phase = some (phase', after)) :
    ∃ change, Changes e phase change ∧ after = engine.enter change := by
  have silent : engine = engine.enter (e, []) := (Engine.enter_self apart held []).symm
  have published (event : Event) : engine.publish event = engine.enter (e, [event]) :=
    (Engine.enter_self apart held [event]).symm
  cases phase with
  | resting turn rest =>
      simp only [stepEngine] at stepped
      split at stepped
      · cases stepped
        exact ⟨_, .silent _ rfl, silent⟩
      · cases stepped
      · cases stepped
        exact ⟨_, .silent _ rfl, silent⟩
  | claiming turn rest =>
      simp only [stepEngine] at stepped
      split at stepped
      · cases stepped
        exact ⟨_, .silent _ rfl, silent⟩
      · cases stepped
        exact ⟨_, .silent _ rfl, silent⟩
      · rename_i taken
        cases stepped
        exact ⟨_, .claim taken, rfl⟩
  | announcing turn rest context =>
      cases stepped
      exact ⟨_, .announce, published _⟩
  | working turn rest context since work =>
      simp only [stepEngine] at stepped
      split at stepped
      · cases stepped
        exact ⟨_, .silent _ rfl, silent⟩
      · split at stepped <;> cases stepped <;> exact ⟨_, .silent _ rfl, silent⟩
  | reporting turn rest duration report context =>
      cases stepped
      exact ⟨_, .publish, published _⟩
  | recording turn rest duration report context =>
      cases stepped
      exact ⟨_, .record now, rfl⟩
  | expiring turn duration failure =>
      cases stepped
      exact ⟨_, .recordExpired now, rfl⟩
  | settling =>
      simp only [stepEngine] at stepped
      split at stepped <;> cases stepped
      exact ⟨_, .silent _ rfl, silent⟩
  | finishing =>
      cases stepped
      exact ⟨_, .finish now _, rfl⟩
  | ended result => cases stepped

/-- The step of a node at work tells nothing. -/
theorem tells_of_stepWork {world : Action.World σ} {phase : Phase σ}
    {after : Phase σ × Action.World σ} (worked : stepWork world phase = some after) :
    phase.tells = [] := by
  unfold stepWork at worked
  split at worked
  · rfl
  · rfl
  · cases worked

theorem changes_of_step {run after : Run σ} {w v : Workplace σ}
    (apart : (w.engine.executions.map (·.id)).Nodup)
    (stepped : run.step registry w = some (after, v)) :
    ∃ e change, w.engine.held? run.execution = some e ∧ Changes e run.phase change ∧
      v.engine = w.engine.enter change := by
  obtain ⟨e, held⟩ := held_of_step stepped
  refine ⟨e, ?_⟩
  simp only [step, held] at stepped
  split at stepped
  · rename_i phase engine found
    cases stepped
    obtain ⟨change, changes, entered⟩ := changes_of_stepEngine apart held found
    exact ⟨change, held, changes, entered⟩
  · split at stepped
    · rename_i worked
      cases stepped
      refine ⟨(e, []), held, .silent _ (tells_of_stepWork worked), ?_⟩
      exact (Engine.enter_self apart held []).symm
    · cases stepped

end Step

end Execution.Run

/-! ## Acts -/

namespace System

inductive Alters (s : System σ) (id : String) (e : Execution) : Execution.Change → Prop where
  | request {request : Request} {change : Execution.Change}
      (accepted : request.apply s.now e = .ok change) : Alters s id e change
  | take {after : Execution} (accepted : e.drive = .ok after) : Alters s id e (after, [])
  | go {run : Run σ} {change : Execution.Change} (running : s.run? id = some run)
      (changes : Run.Changes e run.phase change) : Alters s id e change

theorem Alters.id {s : System σ} {id : String} {e : Execution} {change : Execution.Change}
    (alters : s.Alters id e change) : change.1.id = e.id := by
  cases alters with
  | request accepted => exact (Request.steered accepted).id
  | take accepted => exact congrArg Execution.Standing.id (Execution.standing_drive accepted).2.2
  | go running changes => exact changes.id

inductive Effect (s : System σ) : Engine → Prop where
  /-- Nothing is published about any execution. -/
  | still {engine : Engine} {events : List Event}
      (executions : engine.executions = s.engine.executions)
      (limits : engine.limits = s.engine.limits)
      (history : engine.history = s.engine.history ++ events)
      (unowned : ∀ event ∈ events, event.execution? = none) : Effect s engine
  | alter {id : String} {e : Execution} {change : Execution.Change}
      (held : s.held? id = some e) (alters : s.Alters id e change) :
      Effect s (s.engine.enter change)
  | withdraw (graph : String) : Effect s (s.engine.withdraw graph).1
  | enroll {engine : Engine} {g : Graph.Loaded} {context : Context} {made : String}
      (enrolled : s.engine.enroll s.now g context = .ok (engine, made)) : Effect s engine

variable {registry : Action.Registry σ} {s s' : System σ} {act : Act}

theorem effect_of_attempt (numbered : s.Numbered) (done : s.attempt registry act = some s') :
    s.Effect s'.engine := by
  have apart := Engine.Numbered.executions_apart numbered
  cases act with
  | load d =>
      obtain ⟨engine, made, loaded, rfl⟩ := attempt_load_iff.mp done
      obtain ⟨g, _, same⟩ := bind_eq_ok_iff.mp loaded
      cases same
      refine .still rfl rfl (Engine.history_publish _ _) ?_
      exact List.forall_mem_singleton.mpr rfl
  | start graph context =>
      obtain ⟨g, _, engine, made, enrolled, rfl⟩ := attempt_start_iff.mp done
      exact .enroll enrolled
  | withdraw graph =>
      cases done
      exact .withdraw graph
  | discard graph removed =>
      cases done
      refine .still rfl rfl (Engine.history_publish _ _) ?_
      exact List.forall_mem_singleton.mpr rfl
  | request execution request =>
      obtain ⟨e, held, change, accepted, rfl⟩ := attempt_request_iff.mp done
      exact .alter held (.request accepted)
  | take execution =>
      obtain ⟨e, held, g, _, after, accepted, rfl⟩ := attempt_take_iff.mp done
      exact .alter held (.take accepted)
  | go execution =>
      obtain ⟨run, running, after, place, stepped, rfl⟩ := attempt_go_iff.mp done
      obtain ⟨e, change, held, changes, entered⟩ := Run.changes_of_step apart stepped
      rw [run?_execution running] at held
      show s.Effect place.engine
      rw [entered]
      exact .alter held (.go running changes)
  | pass milliseconds =>
      cases done
      exact .still rfl rfl (List.append_nil _).symm nofun

/-- An act that is refused or has to wait changes nothing. -/
theorem effect_of_perform (numbered : s.Numbered) (registry : Action.Registry σ) (act : Act) :
    s.Effect (s.perform registry act).engine := by
  cases done : s.attempt registry act with
  | none =>
      rw [perform_of_none done]
      exact .still rfl rfl (List.append_nil _).symm nofun
  | some s' =>
      rw [perform_of_some done]
      exact effect_of_attempt numbered done

end System

end ActionGraph
