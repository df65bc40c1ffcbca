import ActionGraph.Execution.Call
import ActionGraph.Proofs.Execution.Course
import ActionGraph.Proofs.Execution.Effects

/-!
# Calls are carried out as a whole or not at all

A call works on an engine in place, so that nothing but the order of its steps
keeps a refusal from leaving traces.  Each call is shown to answer what the
operation answers that gives a new engine, and to leave that engine if it is
accepted and the old one if it is refused.
-/

namespace ActionGraph

open Execution (Change Run)

/-! ## Steps of calls -/

namespace Call

variable {α β : Type} {engine : Engine}

@[simp] theorem on_pure (a : α) (engine : Engine) : (pure a : Call α).on engine = (.ok a, engine) :=
  rfl

@[simp] theorem on_throw (failure : Failure) (engine : Engine) :
    (throw failure : Call α).on engine = (.error failure, engine) :=
  rfl

@[simp] theorem on_get (engine : Engine) : (get : Call Engine).on engine = (.ok engine, engine) :=
  rfl

@[simp] theorem on_set (engine after : Engine) :
    (set after : Call PUnit).on engine = (.ok (), after) :=
  rfl

@[simp] theorem on_modify (f : Engine → Engine) (engine : Engine) :
    (modify f : Call PUnit).on engine = (.ok (), f engine) :=
  rfl

/-- A call goes on with what was answered, on what was left. -/
theorem on_bind (call : Call α) (next : α → Call β) (engine : Engine) :
    (call >>= next).on engine =
      match call.on engine with
      | (.ok a, after) => (next a).on after
      | (.error failure, after) => (.error failure, after) := by
  unfold on ExceptT.run StateT.run
  simp only [bind, ExceptT.bind, ExceptT.mk, StateT.bind]
  rcases call engine with ⟨answer, after⟩
  cases answer <;> rfl

theorem on_bind_of_ok {call : Call α} {next : α → Call β} {a : α} {after : Engine}
    (done : call.on engine = (.ok a, after)) :
    (call >>= next).on engine = (next a).on after := by
  rw [on_bind, done]

theorem on_bind_of_error {call : Call α} {next : α → Call β} {failure : Failure} {after : Engine}
    (refused : call.on engine = (.error failure, after)) :
    (call >>= next).on engine = (.error failure, after) := by
  rw [on_bind, refused]

theorem on_bind_eq_ok {call : Call α} {next : α → Call β} {b : β} {after : Engine}
    (done : (call >>= next).on engine = (.ok b, after)) :
    ∃ a between, call.on engine = (.ok a, between) ∧ (next a).on between = (.ok b, after) := by
  rw [on_bind] at done
  split at done
  · rename_i a between first
    exact ⟨a, between, first, done⟩
  · cases done

theorem on_get_bind (next : Engine → Call β) (engine : Engine) :
    (get >>= next).on engine = (next engine).on engine :=
  on_bind_of_ok (on_get engine)

theorem on_execution (id : String) (engine : Engine) :
    (execution id).on engine = (engine.execution? id, engine) := by
  rw [execution, on_get_bind]
  cases engine.execution? id <;> simp only [on_pure, on_throw]

theorem on_graph (id : String) (engine : Engine) :
    (graph id).on engine = (engine.graph? id, engine) := by
  rw [graph, on_get_bind]
  cases engine.graph? id <;> simp only [on_pure, on_throw]

end Call

/-! ## Writes to an execution -/

namespace Engine

/-- An execution is held, and no other has its identifier. -/
structure Holds (engine : Engine) (e : Execution) : Prop where
  apart : (engine.executions.map (·.id)).Nodup
  held : engine.held? e.id = some e

variable {engine : Engine} {e : Execution}

theorem Holds.enter (holds : engine.Holds e) {change : Change} (named : change.1.id = e.id) :
    (engine.enter change).Holds change.1 := by
  constructor
  · rw [ids_enter]
    exact holds.apart
  · rw [held?_enter_of_held holds.held named, if_pos named]

theorem Holds.enter_same (holds : engine.Holds e) : engine.enter (e, []) = engine :=
  enter_self holds.apart holds.held []

/-- Of two changes that are entered for an execution the later one stays. -/
theorem enter_enter (engine : Engine) {first second : Change} (named : second.1.id = first.1.id) :
    (engine.enter first).enter second = engine.enter (second.1, first.2 ++ second.2) := by
  have executions : ((engine.executions.map fun e => if e.id = first.1.id then first.1 else e).map
      fun e => if e.id = second.1.id then second.1 else e) =
      engine.executions.map fun e => if e.id = second.1.id then second.1 else e := by
    rw [List.map_map]
    refine List.map_congr_left fun e _ => ?_
    rw [Function.comp_apply, named]
    by_cases here : e.id = first.1.id
    · rw [if_pos here, if_pos rfl, if_pos here]
    · rw [if_neg here, if_neg here]
  have bus : (engine.bus.publishAll first.2).publishAll second.2 =
      engine.bus.publishAll (first.2 ++ second.2) := List.foldl_append.symm
  rw [enter, enter, enter]
  simp only [executions, bus]

end Engine

namespace Call

/-- A call writes to an execution and publishes what is entered as one change. -/
def Writes (call : Call Unit) (e : Execution) (change : Change) : Prop :=
  change.1.id = e.id ∧
    ∀ engine : Engine, engine.Holds e → call.on engine = (.ok (), engine.enter change)

namespace Writes

variable {e : Execution} {first second : Change}

theorem write {f : Execution → Execution} (named : (f e).id = e.id) :
    (write e.id f).Writes e (f e, []) := by
  refine ⟨named, fun engine holds => ?_⟩
  have mem : e ∈ engine.executions := List.mem_of_find?_eq_some holds.held
  have executions : (engine.executions.map fun other => if other.id = e.id then f other else other)
      = engine.executions.map fun other => if other.id = (f e).id then f e else other := by
    refine List.map_congr_left fun other there => ?_
    rw [named]
    split
    · rename_i same
      rw [List.inj_on_of_nodup_map holds.apart there mem same]
    · rfl
  rw [Call.write, on_modify, Engine.enter, executions]
  rfl

theorem publish (event : Event) : (publish event).Writes e (e, [event]) := by
  refine ⟨rfl, fun engine holds => ?_⟩
  rw [Call.publish, on_modify, Engine.enter_self holds.apart holds.held]
  rfl

theorem bind {call next : Call Unit} (one : call.Writes e first)
    (other : next.Writes first.1 second) :
    (call >>= fun _ => next).Writes e (second.1, first.2 ++ second.2) := by
  refine ⟨other.1.trans one.1, fun engine holds => ?_⟩
  rw [on_bind_of_ok (one.2 engine holds), other.2 _ (holds.enter one.1),
    engine.enter_enter other.1]

end Writes

theorem touch_writes (e : Execution) (now : Nat) :
    (touch e.id now).Writes e ({ e with touched := now }, []) :=
  .write rfl

theorem cancel_writes {e : Execution} (live : e.state.isTerminal = false) (now : Nat) :
    (cancel now e.id).Writes e (e.stop now) := by
  rw [Execution.stop, if_neg (Bool.eq_false_iff.mp live)]
  exact .bind (.write rfl) (.bind (.write rfl) (.bind (touch_writes _ now) (.publish _)))

/-! ## What calls come to -/

end Call

/-- What a call comes to that answers as an operation does, and leaves no trace if refused. -/
def Engine.settle {α : Type} (engine : Engine) :
    Except Failure (Engine × α) → Except Failure α × Engine
  | .ok (after, a) => (.ok a, after)
  | .error failure => (.error failure, engine)

theorem Engine.settle_eq_ok {α : Type} {engine after : Engine}
    {result : Except Failure (Engine × α)} {a : α}
    (settled : engine.settle result = (.ok a, after)) : result = .ok (after, a) := by
  cases result with
  | error failure => cases settled
  | ok pair =>
      cases settled
      rfl

def Engine.settleChange (engine : Engine) (result : Except Failure Change) :
    Except Failure Unit × Engine :=
  engine.settle (result.map fun change => (engine.enter change, ()))

/-- An execution of the table is held, and it has the identifier under which it was found. -/
theorem Engine.Numbered.holds {engine : Engine} {loaded : List Graph.Loaded}
    (numbered : engine.Numbered loaded) {id : String} {e : Execution}
    (found : engine.execution? id = .ok e) : e.id = id ∧ engine.Holds e := by
  have held := numbered.execution? found
  have named := held?_id held
  rw [← named] at held
  exact ⟨named, numbered.executions_apart, held⟩

namespace Call

variable {α β : Type} {engine : Engine}

/-- A call that is stopped by a guard leaves what it found. -/
theorem on_guard (stopped : Prop) [Decidable stopped] (failure : Failure) (next : Unit → Call β)
    (engine : Engine) :
    (if stopped then throw failure >>= next else next ()).on engine =
      if stopped then (.error failure, engine) else (next ()).on engine := by
  split
  · exact on_bind_of_error (on_throw failure engine)
  · rfl

/-! ### Sections on an execution -/

section Section

variable {e : Execution}

theorem on_deliver (holds : engine.Holds e) (now : Nat) (node port : String) (value : Json) :
    (deliver now e node port value).on engine =
      engine.settleChange (e.deliver now node port value) := by
  unfold deliver Execution.deliver
  cases found : e.instances.get? node with
  | none => rfl
  | some i =>
      dsimp only
      cases (i.inbox.push port value).2 with
      | queued depth => exact (Writes.bind (.write rfl) (touch_writes _ now)).2 engine holds
      | droppedOldest depth =>
          exact (Writes.bind (.write rfl)
            (.bind (.write rfl) (.bind (touch_writes _ now) (.publish _)))).2 engine holds

/-- What is published after an accepted change is part of it. -/
theorem on_publish_after {call : Call Unit} {result : Except Failure Change}
    (settled : call.on engine = engine.settleChange result) (event : Event) :
    (call >>= fun _ => publish event).on engine =
      engine.settleChange (result.map fun change => (change.1, change.2 ++ [event])) := by
  cases result with
  | error failure => exact on_bind_of_error settled
  | ok change =>
      have published : (engine.enter change).publish event =
          engine.enter (change.1, change.2 ++ [event]) := by
        simp only [Engine.enter, Engine.publish, Bus.publishAll, List.foldl_append,
          List.foldl_cons, List.foldl_nil]
      rw [on_bind_of_ok settled, publish, on_modify, published]
      rfl

theorem on_injected (holds : engine.Holds e) (now : Nat) (node port : String) (value : Json) :
    (do
      if e.state ≠ .running then throw (e.refusal "inject a message into")
      deliver now e node port value
      publish (.messageInjected e.id node port) : Call Unit).on engine =
      engine.settleChange (e.inject now node port value) := by
  dsimp only
  rw [on_guard, Execution.inject]
  split
  · rfl
  · exact on_publish_after (on_deliver holds now node port value) _

theorem lead_writes (e : Execution) (target : Execution.State) (now : Nat) (event : Event) :
    Writes (do
      write e.id fun e => e.setState target
      touch e.id now
      publish event) e ({ e.setState target with touched := now }, [event]) :=
  .bind (.write rfl) (.bind (touch_writes _ now) (.publish event))

/--
An execution that is being run already is written to before the refusal, but
what is written is what was there.
-/
theorem on_taken (holds : engine.Holds e) (turns : List Graph.Turn) :
    (do
      if e.state.isTerminal then throw (e.refusal "run")
      write e.id fun e => { e with driven := true }
      if e.driven then
        throw (.wrongState e.id (e.state.name ++ " (already being run)") "run")
      return turns : Call (List Graph.Turn)).on engine =
      engine.settle (e.drive.map fun after => (engine.enter (after, []), turns)) := by
  dsimp only
  rw [on_guard, Execution.drive]
  split
  · rfl
  · rw [on_bind_of_ok ((Writes.write rfl).2 engine holds), on_guard]
    split
    · rename_i driven
      have same : { e with driven := true } = e := by rw [← driven]
      rw [same, holds.enter_same]
      rfl
    · rfl

end Section

/-! ### Calls about an execution -/

section Request

variable {loaded : List Graph.Loaded}

/-- A call that finds an execution and goes on with it comes to what its section comes to. -/
theorem on_control (numbered : engine.Numbered loaded) {id : String} {body : Execution → Call Unit}
    {f : Execution → Except Failure Change}
    (settled : ∀ e : Execution, e.id = id → engine.Holds e →
      (body e).on engine = engine.settleChange (f e)) :
    (execution id >>= body).on engine = engine.settle ((engine.control id f).map (·, ())) := by
  rw [on_bind, on_execution, Engine.control]
  cases found : engine.execution? id with
  | error failure => rfl
  | ok e =>
      obtain ⟨named, holds⟩ := numbered.holds found
      refine (settled e named holds).trans ?_
      dsimp only [bind, Except.bind]
      cases f e <;> rfl

theorem on_inject (numbered : engine.Numbered loaded) (now : Nat) (id node port : String)
    (value : Json) :
    (inject now id node port value).on engine =
      engine.settle ((engine.inject now id node port value).map (·, ())) := by
  refine on_control numbered ?_
  rintro e rfl holds
  exact on_injected holds now node port value

theorem on_lead (numbered : engine.Numbered loaded) (source target : Execution.State)
    (attempted : String) (event : String → Event) (now : Nat) (id : String) :
    (lead source target attempted event now id).on engine =
      engine.settle ((engine.control id fun e =>
        if e.state ≠ source then .error (e.refusal attempted)
        else .ok ({ e.setState target with touched := now }, [event e.id])).map (·, ())) := by
  refine on_control numbered ?_
  rintro e rfl holds
  dsimp only
  rw [on_guard]
  split
  · rfl
  · exact (lead_writes e target now (event e.id)).2 engine holds

theorem on_remove (numbered : engine.Numbered loaded) (id : String) :
    (remove id).on engine = engine.settle ((engine.remove id).map (·, ())) := by
  refine on_control numbered ?_
  rintro e rfl holds
  unfold Execution.remove
  split
  · exact (Writes.write rfl).2 engine holds
  · rfl

theorem on_stop (numbered : engine.Numbered loaded) (now : Nat) (id : String) :
    (stop now id).on engine = engine.settle (engine.stop now id) := by
  rw [stop, on_bind, on_execution, Engine.stop]
  cases found : engine.execution? id with
  | error failure => rfl
  | ok e =>
      obtain ⟨rfl, holds⟩ := numbered.holds found
      dsimp only [bind, Except.bind]
      split
      · rename_i terminal
        have stays : e.stop now = (e, []) := if_pos terminal
        rw [stays, holds.enter_same]
        rfl
      · rename_i live
        have ends : (e.stop now).1.state = .cancelled := by rw [Execution.stop, if_neg live]; rfl
        rw [ends]
        exact on_bind_of_ok ((cancel_writes (Bool.eq_false_iff.mpr live) now).2 engine holds)

theorem on_take (numbered : engine.Numbered loaded) (id : String) :
    (take id).on engine = engine.settle (Run.take engine id) := by
  rw [take, on_bind, on_execution, Run.take]
  cases found : engine.execution? id with
  | error failure => rfl
  | ok e =>
      obtain ⟨rfl, holds⟩ := numbered.holds found
      dsimp only
      rw [on_bind, on_graph]
      cases known : engine.graph? e.graph with
      | error failure =>
          dsimp only [bind, Except.bind]
          rw [known]
          rfl
      | ok g =>
          refine (on_taken holds g.turns).trans ?_
          dsimp only [bind, Except.bind]
          rw [known]
          cases e.drive <;> rfl

end Request

/-! ### Calls about a graph -/

section Graphs

theorem on_load (now : Nat) (d : Graph.Definition) (engine : Engine) :
    (load now d).on engine = engine.settle (engine.load now d) := by
  rw [load, on_get_bind, Engine.load]
  cases Graph.Loaded.ofDefinition (Engine.graphId engine.graphsMade) now d <;> rfl

theorem on_enroll (now : Nat) (g : Graph.Loaded) (context : Context) (engine : Engine) :
    (enroll now g context).on engine = engine.settle (engine.enroll now g context) := by
  rw [enroll, on_get_bind]
  dsimp only
  rw [on_guard, Engine.enroll]
  split <;> rfl

theorem on_start (now : Nat) (id : String) (context : Context) (engine : Engine) :
    (start now id context).on engine = engine.settle (engine.start now id context) := by
  rw [start, on_bind, on_graph, Engine.start]
  cases engine.graph? id with
  | error failure => rfl
  | ok g => exact on_enroll now g context engine

theorem on_quit (apart : (engine.executions.map (·.id)).Nodup) (now : Nat) (id : String) :
    (quit now id).on engine = (.ok (), engine.cancel now id) := by
  rw [quit, on_get_bind, Engine.cancel]
  cases held : engine.held? id with
  | none => rfl
  | some e =>
      obtain rfl := Engine.held?_id held
      have holds : engine.Holds e := ⟨apart, held⟩
      dsimp only
      by_cases terminal : e.state.isTerminal = true
      · have stays : e.stop now = (e, []) := if_pos terminal
        rw [if_pos terminal, stays, holds.enter_same]
        rfl
      · rw [if_neg terminal]
        exact (cancel_writes (Bool.eq_false_iff.mpr terminal) now).2 engine holds

theorem on_quitAll (apart : (engine.executions.map (·.id)).Nodup) (now : Nat)
    (ids : List String) :
    (quitAll now ids).on engine =
      (.ok (), ids.foldl (fun engine id => engine.cancel now id) engine) := by
  induction ids generalizing engine with
  | nil => rfl
  | cons id rest ih =>
      rw [quitAll, on_bind_of_ok (on_quit apart now id), List.foldl_cons]
      have later : ((engine.cancel now id).executions.map (·.id)).Nodup := by
        rwa [Engine.ids_cancel]
      exact ih later

theorem on_unload {loaded : List Graph.Loaded} (numbered : engine.Numbered loaded) (now : Nat)
    (id : String) : (unload now id).on engine = engine.settle (engine.unload now id) := by
  rw [unload, on_bind, on_graph, Engine.unload]
  cases engine.graph? id with
  | error failure => rfl
  | ok g =>
      have apart := (numbered.withdraw id).executions_apart
      dsimp only
      rw [on_get_bind, on_bind_of_ok (on_set engine _),
        on_bind_of_ok (on_quitAll apart now _)]
      rfl

end Graphs

end Call

/-- A run that is refused begins on the place as it was. -/
theorem Execution.Run.start_eq {σ : Type} {w : Workplace σ} {loaded : List Graph.Loaded}
    (numbered : w.engine.Numbered loaded) (id : String) :
    Run.start id w =
      match Run.take w.engine id with
      | .error failure => (⟨id, w.now, .ended (.error failure)⟩, w)
      | .ok (engine, turns) => (⟨id, w.now, .before turns⟩, { w with engine }) := by
  rw [Run.start, Call.on_take numbered id]
  cases Run.take w.engine id with
  | error failure => rfl
  | ok taken => rfl

/-! ## Operations as calls -/

def Request.call (now : Nat) (id : String) : Request → Call Unit
  | .inject node port value => Call.inject now id node port value
  | .pause => Call.pause now id
  | .resume => Call.resume now id
  | .stop => do let _ ← Call.stop now id
  | .remove => Call.remove id

namespace Operation

def call (now : Nat) : Operation → Call Unit
  | .load d => do let _ ← Call.load now d
  | .unload graph => do let _ ← Call.unload now graph
  | .start graph context => do let _ ← Call.start now graph context
  | .request id asked => asked.call now id

variable {α : Type} {engine : Engine}

theorem on_discard {call : Call α} {result : Except Failure (Engine × α)}
    (settled : call.on engine = engine.settle result) :
    (do let _ ← call : Call Unit).on engine =
      engine.settle ((result.map Prod.fst).map (·, ())) := by
  cases result with
  | error failure => exact Call.on_bind_of_error settled
  | ok pair => exact Call.on_bind_of_ok settled

/-- A call in place leaves what the operation gives, or what it found. -/
theorem on_call {loaded : List Graph.Loaded} (numbered : engine.Numbered loaded) (now : Nat)
    (operation : Operation) :
    (operation.call now).on engine =
      engine.settle ((operation.apply now engine).map (·, ())) := by
  cases operation with
  | load d => exact on_discard (Call.on_load now d engine)
  | unload graph => exact on_discard (Call.on_unload numbered now graph)
  | start graph context => exact on_discard (Call.on_start now graph context engine)
  | request id request =>
      cases request with
      | inject node port value => exact Call.on_inject numbered now id node port value
      | pause => exact Call.on_lead numbered .running .paused "pause" .executionPaused now id
      | resume => exact Call.on_lead numbered .paused .running "resume" .executionResumed now id
      | stop => exact on_discard (Call.on_stop numbered now id)
      | remove => exact Call.on_remove numbered id

end Operation

/-! ## Refused and accepted calls -/

/-- A call that is refused leaves the engine as it was. -/
def Call.Whole {α : Type} (call : Call α) (engine : Engine) : Prop :=
  ∀ failure after, call.on engine = (.error failure, after) → after = engine

/-- A call is accepted, whatever it answers. -/
def Call.Accepted {α : Type} (call : Call α) (engine : Engine) : Prop :=
  ∃ a after, call.on engine = (.ok a, after)

namespace Engine

variable {α : Type} {engine : Engine}

theorem whole_of_settle {call : Call α} {result : Except Failure (Engine × α)}
    (settled : call.on engine = engine.settle result) : call.Whole engine := by
  intro failure after refused
  rw [settled] at refused
  cases result with
  | error _ =>
      cases refused
      rfl
  | ok _ => cases refused

theorem accepted_iff_of_settle {call : Call α} {result : Except Failure (Engine × α)}
    (settled : call.on engine = engine.settle result) :
    call.Accepted engine ↔ ∃ answer, result = .ok answer := by
  rw [Call.Accepted, settled]
  cases result with
  | error failure => exact iff_of_false nofun nofun
  | ok answer => exact iff_of_true ⟨answer.2, answer.1, rfl⟩ ⟨answer, rfl⟩

theorem control_eq_ok_iff {id : String} {f : Execution → Except Failure Change} :
    (∃ after, engine.control id f = .ok after) ↔
      ∃ e, engine.execution? id = .ok e ∧ ∃ change, f e = .ok change := by
  constructor
  · rintro ⟨after, accepted⟩
    obtain ⟨e, found, rest⟩ := bind_eq_ok_iff.mp accepted
    obtain ⟨change, changed, _⟩ := bind_eq_ok_iff.mp rest
    exact ⟨e, found, change, changed⟩
  · rintro ⟨e, found, change, changed⟩
    refine ⟨engine.enter change, ?_⟩
    rw [control, found]
    exact bind_eq_ok_iff.mpr ⟨e, rfl, bind_eq_ok_iff.mpr ⟨change, changed, rfl⟩⟩

end Engine

namespace Execution

variable {e : Execution} {now : Nat}

theorem deliver_eq_ok_iff {node port : String} {value : Json} :
    (∃ change, e.deliver now node port value = .ok change) ↔ (e.status? node).isSome := by
  unfold deliver status?
  cases e.instances.get? node with
  | none =>
      constructor
      · rintro ⟨change, ⟨⟩⟩
      · rintro ⟨⟩
  | some i =>
      refine iff_of_true ?_ rfl
      dsimp only
      cases (i.inbox.push port value).2 with
      | queued depth => exact ⟨_, rfl⟩
      | droppedOldest depth => exact ⟨_, rfl⟩

theorem inject_eq_ok_iff {node port : String} {value : Json} :
    (∃ change, e.inject now node port value = .ok change) ↔
      e.state = .running ∧ (e.status? node).isSome := by
  rw [inject, exists_guard_eq_ok_iff, not_not, exists_map_eq_ok_iff, deliver_eq_ok_iff]

theorem pause_eq_ok_iff : (∃ change, e.pause now = .ok change) ↔ e.state = .running := by
  rw [pause, exists_guard_eq_ok_iff, not_not]
  exact and_iff_left ⟨_, rfl⟩

theorem resume_eq_ok_iff : (∃ change, e.resume now = .ok change) ↔ e.state = .paused := by
  rw [resume, exists_guard_eq_ok_iff, not_not]
  exact and_iff_left ⟨_, rfl⟩

theorem remove_eq_ok_iff : (∃ change, e.remove = .ok change) ↔ e.state.isTerminal = true := by
  rw [← congrArg State.isTerminal e.mirrored, remove, ← ite_not, exists_guard_eq_ok_iff, not_not]
  exact and_iff_left ⟨_, rfl⟩

end Execution

namespace System

variable {σ : Type} {registry : Action.Registry σ} {settings : Settings}
  {world : Action.World σ} {acts : List Act}

/-- An execution has the nodes that its graph declares. -/
theorem known_iff_declared {id : String} {e : Execution}
    (held : ((initial settings world).performAll registry acts).held? id = some e)
    (node : String) :
    (e.status? node).isSome ↔
      ∃ g, ((initial settings world).performAll registry acts).graph? e.graph = some g ∧
        node ∈ g.definition.ids := by
  obtain ⟨g, loaded, accepted, onCourse⟩ := course (track?_of_held held)
  rw [onCourse.keyed node, accepted.mem_sorted_iff]
  constructor
  · exact fun declared => ⟨g, loaded, declared⟩
  · rintro ⟨g', loaded', declared⟩
    cases loaded.symm.trans loaded'
    exact declared

/-- Which requests about an execution are accepted. -/
theorem request_accepted_iff {engine : Engine} {loaded : List Graph.Loaded}
    (numbered : engine.Numbered loaded) (now : Nat) (id : String) (request : Request) :
    (request.call now id).Accepted engine ↔
      ∃ e, engine.execution? id = .ok e ∧ ∃ change, request.apply now e = .ok change := by
  have settled := Operation.on_call numbered now (.request id request)
  rw [Operation.apply_request] at settled
  refine (Engine.accepted_iff_of_settle settled).trans ?_
  exact exists_map_eq_ok_iff.trans Engine.control_eq_ok_iff

/--
After any acts in any order, an operation that is refused leaves the engine as
it was, with its graphs, its executions and all that was published, and so does
a run that is not taken up.  A request is refused exactly where the execution
is not in a state for it, is not in the table, or lacks the node.
-/
theorem refused_whole_and_accepted_iff (registry : Action.Registry σ) (settings : Settings)
    (world : Action.World σ) (acts : List Act) (now : Nat) :
    let s := (initial settings world).performAll registry acts
    (∀ operation : Operation, (operation.call now).Whole s.engine) ∧
      (∀ id, (Call.take id).Whole s.engine) ∧
      (∀ id, (Call.pause now id).Accepted s.engine ↔
        ∃ e, s.engine.execution? id = .ok e ∧ e.state = .running) ∧
      (∀ id, (Call.resume now id).Accepted s.engine ↔
        ∃ e, s.engine.execution? id = .ok e ∧ e.state = .paused) ∧
      (∀ id node port value, (Call.inject now id node port value).Accepted s.engine ↔
        ∃ e, s.engine.execution? id = .ok e ∧ e.state = .running ∧
          ∃ g, s.graph? e.graph = some g ∧ node ∈ g.definition.ids) ∧
      ∀ id, (Call.remove id).Accepted s.engine ↔
        ∃ e, s.engine.execution? id = .ok e ∧ e.state.isTerminal = true := by
  intro s
  have numbered : s.engine.Numbered s.loaded :=
    (numbered_initial settings world).performAll acts
  refine ⟨?whole, ?take, ?pause, ?resume, ?inject, ?remove⟩
  case whole =>
    intro operation
    exact Engine.whole_of_settle (operation.on_call numbered now)
  case take =>
    intro id
    exact Engine.whole_of_settle (Call.on_take numbered id)
  case pause =>
    intro id
    refine (request_accepted_iff numbered now id .pause).trans ?_
    exact exists_congr fun e => and_congr_right fun _ => Execution.pause_eq_ok_iff
  case resume =>
    intro id
    refine (request_accepted_iff numbered now id .resume).trans ?_
    exact exists_congr fun e => and_congr_right fun _ => Execution.resume_eq_ok_iff
  case inject =>
    intro id node port value
    refine (request_accepted_iff numbered now id (.inject node port value)).trans ?_
    refine exists_congr fun e => and_congr_right fun found => ?_
    refine Execution.inject_eq_ok_iff.trans (and_congr_right fun _ => ?_)
    exact known_iff_declared (numbered.execution? found) node
  case remove =>
    intro id
    refine (request_accepted_iff numbered now id .remove).trans ?_
    exact exists_congr fun e => and_congr_right fun _ => Execution.remove_eq_ok_iff

/-- A paused execution that a run took up is not run a second time. -/
example :
    let s := (initial default quiet).performAll answering
      [.load loneNode, .start "g1" default, .take "e1", .request "e1" .pause]
    (Call.take "e1").on s.engine =
      (.error (.wrongState "e1" "paused (already being run)" "run"), s.engine) := by
  rfl

end System

end ActionGraph
