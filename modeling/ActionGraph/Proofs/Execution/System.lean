import ActionGraph.Proofs.Execution.Advance
import ActionGraph.Proofs.Graph.Turns
import ActionGraph.Proofs.Refusals

/-!
# Operations and runs side by side

Operations and runs go on in sections, and the sections of different calls
follow each other in any order.  An act is one section.  A call that looked up
a graph or an execution keeps it: acts find both whether or not they are still
in their table.
-/

namespace ActionGraph

open Execution (Run Phase Report)

inductive Request where
  | inject (node port : String) (value : Json)
  | pause
  | resume
  | stop
  | remove

def Request.apply (now : Nat) (e : Execution) : Request → Except Failure Execution.Change
  | .inject node port value => e.inject now node port value
  | .pause => e.pause now
  | .resume => e.resume now
  | .stop => .ok (e.stop now)
  | .remove => e.remove

/--
What requests do to the standing of an execution: one that has ended stays as
it is, and no other ends in success or failure.
-/
structure Execution.Standing.Steered (s after : Execution.Standing) : Prop where
  id : after.id = s.id
  graph : after.graph = s.graph
  driven : after.driven = s.driven
  error : after.error = s.error
  status : after.status = s.status
  ended : s.state.isTerminal = true → after.state = s.state ∧ after.ended = s.ended
  live : s.state.isTerminal = false → after.state ≠ .completed ∧ after.state ≠ .failed

namespace Execution.Standing.Steered

variable {s : Execution.Standing}

theorem refl (s : Execution.Standing) : Steered s s where
  id := rfl
  graph := rfl
  driven := rfl
  error := rfl
  status := rfl
  ended _ := ⟨rfl, rfl⟩
  live := by
    intro live
    constructor
    · intro completed
      rw [completed] at live
      cases live
    · intro failed
      rw [failed] at live
      cases live

/-- A state that is no success and no failure, and perhaps an end, for one that has not ended. -/
theorem of_live {state : Execution.State} {ended : Option Nat}
    (live : s.state.isTerminal = false) (notCompleted : state ≠ .completed)
    (notFailed : state ≠ .failed) : Steered s { s with state, ended } where
  id := rfl
  graph := rfl
  driven := rfl
  error := rfl
  status := rfl
  ended terminal := absurd (live.symm.trans terminal) Bool.false_ne_true
  live _ := ⟨notCompleted, notFailed⟩

end Execution.Standing.Steered

theorem Request.steered {request : Request} {now : Nat} {e : Execution}
    {change : Execution.Change} (accepted : request.apply now e = .ok change) :
    e.standing.Steered change.1.standing := by
  cases request with
  | inject node port value =>
      rw [Execution.standing_inject accepted]
      exact .refl _
  | pause =>
      obtain ⟨running, same⟩ := Execution.standing_pause accepted
      rw [same]
      exact .of_live (congrArg Execution.State.isTerminal running) nofun nofun
  | resume =>
      obtain ⟨paused, same⟩ := Execution.standing_resume accepted
      rw [same]
      exact .of_live (congrArg Execution.State.isTerminal paused) nofun nofun
  | stop =>
      cases accepted
      rw [Execution.standing_stop]
      split
      · exact .refl _
      · rename_i live
        exact .of_live (Bool.eq_false_iff.mpr live) nofun nofun
  | remove =>
      rw [Execution.standing_remove accepted]
      exact .refl _

/-- A request other than a message changes where an execution is in its life, and tells it. -/
theorem Request.apply_eq_ok {request : Request} {now : Nat} {e : Execution}
    {change : Execution.Change} (accepted : request.apply now e = .ok change) :
    (∃ node port value, e.inject now node port value = .ok change) ∨
      ∃ state touched ended listed, change.1 = { e.setState state with touched, ended, listed } ∧
        change.2 ⊆
          [.executionPaused e.id, .executionResumed e.id, .executionCancelled e.id] := by
  cases request with
  | inject node port value => exact .inl ⟨node, port, value, accepted⟩
  | pause =>
      obtain ⟨_, rfl⟩ := Execution.pause_eq_ok accepted
      exact .inr ⟨_, _, e.ended, e.listed, rfl, by simp⟩
  | resume =>
      obtain ⟨_, rfl⟩ := Execution.resume_eq_ok accepted
      exact .inr ⟨_, _, e.ended, e.listed, rfl, by simp⟩
  | stop =>
      cases accepted
      rw [Execution.stop]
      split
      · exact .inr ⟨e.state, e.touched, e.ended, e.listed, by rw [e.setState_state], by simp⟩
      · exact .inr ⟨_, _, _, e.listed, rfl, by simp⟩
  | remove =>
      obtain ⟨_, rfl⟩ := Execution.remove_eq_ok accepted
      exact .inr ⟨e.state, e.touched, e.ended, _, by rw [e.setState_state], by simp⟩

inductive Act where
  | load (d : Graph.Definition)
  /-- A graph that was looked up gets an execution. -/
  | start (graph : String) (context : Context)
  /-- The executions of a graph are taken out of their table. -/
  | withdraw (graph : String)
  | discard (graph : String) (removed : Nat)
  | request (execution : String) (request : Request)
  /-- A run takes up an execution. -/
  | take (execution : String)
  /-- The run of an execution makes a step. -/
  | go (execution : String)
  | pass (milliseconds : Nat)

/-- Graphs, executions and the runs that took one up. -/
structure System (σ : Type) where
  place : Workplace σ
  /-- Every graph that was ever loaded. -/
  loaded : List Graph.Loaded
  runs : List (Run σ)

namespace System

variable {σ : Type}

def initial (settings : Settings) (world : Action.World σ) : System σ :=
  ⟨⟨Engine.ofSettings settings, world⟩, [], []⟩

def engine (s : System σ) : Engine :=
  s.place.engine

def now (s : System σ) : Nat :=
  s.place.now

def withEngine (s : System σ) (engine : Engine) : System σ :=
  { s with place := { s.place with engine } }

def held? (s : System σ) (id : String) : Option Execution :=
  s.engine.held? id

def graph? (s : System σ) (id : String) : Option Graph.Loaded :=
  s.loaded.find? fun g => g.id = id

def run? (s : System σ) (id : String) : Option (Run σ) :=
  s.runs.find? fun run => run.execution = id

def result? (s : System σ) (id : String) : Option (Except Failure Report) :=
  (s.run? id).bind Run.result?

/-- What becomes of a system in an act, unless the act is refused or has to wait. -/
def attempt (registry : Action.Registry σ) (s : System σ) : Act → Option (System σ)
  | .load d => do
      let (engine, _) ← (s.engine.load s.now d).toOption
      return { s.withEngine engine with loaded := s.loaded ++ engine.graphs.getLast?.toList }
  | .start graph context => do
      let g ← s.graph? graph
      let (engine, _) ← (s.engine.enroll s.now g context).toOption
      return s.withEngine engine
  | .withdraw graph => some (s.withEngine (s.engine.withdraw graph).1)
  | .discard graph removed => some (s.withEngine (s.engine.discard graph removed))
  | .request id request => do
      let e ← s.held? id
      let change ← (request.apply s.now e).toOption
      return s.withEngine (s.engine.enter change)
  | .take id => do
      let e ← s.held? id
      let g ← s.graph? e.graph
      let after ← e.drive.toOption
      let runs := s.runs ++ [⟨id, s.now, .before g.turns⟩]
      return { s.withEngine (s.engine.enter (after, [])) with runs }
  | .go id => do
      let run ← s.run? id
      let (after, place) ← run.step registry s.place
      return { s with place, runs := s.runs.map fun r => if r.execution = id then after else r }
  | .pass milliseconds =>
      some { s with place := { s.place with world := s.place.world.advance milliseconds } }

/-- An act that is refused or has to wait changes nothing. -/
def perform (registry : Action.Registry σ) (s : System σ) (act : Act) : System σ :=
  (s.attempt registry act).getD s

def performAll (registry : Action.Registry σ) (s : System σ) (acts : List Act) : System σ :=
  acts.foldl (perform registry) s

end System

/-! ## Executions in an engine -/

namespace Engine

section Enroll

variable {engine after : Engine} {now : Nat} {g : Graph.Loaded} {context : Context}
  {made : String} (enrolled : engine.enroll now g context = .ok (after, made))
include enrolled

/-- There was room for a new execution, which is the last one and is told. -/
theorem enroll_eq_ok :
    engine.active < engine.limits.maxConcurrent ∧
      made = executionId engine.executions.length ∧
      after =
        { engine with
          executions := engine.executions ++
            [Execution.start made g.id g.nodes engine.limits.maxQueueDepth context now] }.publish
          (.executionStarted made g.id) := by
  unfold enroll at enrolled
  split at enrolled
  · cases enrolled
  · rename_i room
    cases enrolled
    exact ⟨Nat.not_le.mp room, rfl, rfl⟩

/-- A new execution is found under its identifier, unless that was taken. -/
theorem held?_enroll (id : String) :
    after.held? id = (engine.held? id).or
      (if made = id then
        some (Execution.start made g.id g.nodes engine.limits.maxQueueDepth context now)
      else none) := by
  obtain ⟨_, _, rfl⟩ := enroll_eq_ok enrolled
  by_cases here : made = id
  · simp [held?, publish, List.find?_append, Execution.start, here]
  · simp [held?, publish, List.find?_append, Execution.start, here]

end Enroll

theorem held?_withdraw (engine : Engine) (graph id : String) :
    (engine.withdraw graph).1.held? id =
      (engine.held? id).map fun e =>
        if e.listed && e.graph = graph then { e with listed := false } else e := by
  simp only [held?, withdraw, List.find?_map]
  congr 2
  funext e
  simp only [Function.comp_apply]
  split <;> rfl

/-- A loaded graph is the last of its table and is accepted; executions are left alone. -/
theorem load_eq_ok {engine after : Engine} {now : Nat} {d : Graph.Definition} {id : String}
    (loaded : engine.load now d = .ok (after, id)) :
    (∃ g : Graph.Loaded, after.graphs.getLast? = some g ∧ g.Accepted) ∧
      after.executions = engine.executions := by
  obtain ⟨g, made, same⟩ := bind_eq_ok_iff.mp loaded
  cases same
  refine ⟨⟨g, ?_, (Graph.Loaded.accepted_of_ofDefinition made).1⟩, rfl⟩
  exact List.getLast?_concat

end Engine

namespace System

variable {σ : Type} {registry : Action.Registry σ}

theorem graph?_id {s : System σ} {id : String} {g : Graph.Loaded}
    (found : s.graph? id = some g) : g.id = id := by
  have chosen := List.find?_some found
  exact of_decide_eq_true chosen

theorem run?_execution {s : System σ} {id : String} {run : Run σ}
    (found : s.run? id = some run) : run.execution = id := by
  have chosen := List.find?_some found
  exact of_decide_eq_true chosen

theorem run?_append (s : System σ) (run : Run σ) (id : String) :
    (s.runs ++ [run]).find? (fun r => r.execution = id) =
      (s.run? id).or (if run.execution = id then some run else none) := by
  by_cases here : run.execution = id
  · simp [run?, List.find?_append, here]
  · simp [run?, List.find?_append, here]

theorem run?_replace {s : System σ} {id : String} {run after : Run σ}
    (found : s.run? id = some run) (named : after.execution = id) (other : String) :
    (s.runs.map fun r => if r.execution = id then after else r).find?
        (fun r => r.execution = other) =
      if other = id then some after else s.run? other := by
  have place : ∀ r : Run σ, (if r.execution = id then after else r).execution = r.execution := by
    intro r
    split
    · rename_i same
      rw [named, same]
    · rfl
  have mapped : (s.runs.map fun r => if r.execution = id then after else r).find?
        (fun r => r.execution = other) =
      (s.run? other).map fun r => if r.execution = id then after else r := by
    rw [run?, List.find?_map]
    congr 2
    funext r
    simp only [Function.comp_apply, place]
  rw [mapped]
  by_cases here : other = id
  · rw [if_pos here, here, found, Option.map_some, if_pos (run?_execution found)]
  · rw [if_neg here]
    cases sought : s.run? other with
    | none => rfl
    | some r =>
        have elsewhere : r.execution ≠ id := fun same =>
          here ((run?_execution sought).symm.trans same)
        rw [Option.map_some, if_neg elsewhere]

/-! ## What an act does -/

section Attempt

variable {s s' : System σ}

theorem attempt_load_iff {d : Graph.Definition} :
    s.attempt registry (.load d) = some s' ↔
      ∃ engine made, s.engine.load s.now d = .ok (engine, made) ∧
        { s.withEngine engine with loaded := s.loaded ++ engine.graphs.getLast?.toList } = s' := by
  simp only [attempt, Option.bind_eq_bind, Option.bind_eq_some_iff, Option.pure_def,
    Option.some.injEq, toOption_eq_some_iff, Prod.exists]

theorem attempt_start_iff {graph : String} {context : Context} :
    s.attempt registry (.start graph context) = some s' ↔
      ∃ g, s.graph? graph = some g ∧
        ∃ engine made, s.engine.enroll s.now g context = .ok (engine, made) ∧
          s.withEngine engine = s' := by
  simp only [attempt, Option.bind_eq_bind, Option.bind_eq_some_iff, Option.pure_def,
    Option.some.injEq, toOption_eq_some_iff, Prod.exists]

theorem attempt_request_iff {execution : String} {request : Request} :
    s.attempt registry (.request execution request) = some s' ↔
      ∃ e, s.held? execution = some e ∧
        ∃ change, request.apply s.now e = .ok change ∧
          s.withEngine (s.engine.enter change) = s' := by
  simp only [attempt, Option.bind_eq_bind, Option.bind_eq_some_iff, Option.pure_def,
    Option.some.injEq, toOption_eq_some_iff]

theorem attempt_take_iff {execution : String} :
    s.attempt registry (.take execution) = some s' ↔
      ∃ e, s.held? execution = some e ∧ ∃ g, s.graph? e.graph = some g ∧
        ∃ after, e.drive = .ok after ∧
          { s.withEngine (s.engine.enter (after, [])) with
            runs := s.runs ++ [⟨execution, s.now, .before g.turns⟩] } = s' := by
  simp only [attempt, Option.bind_eq_bind, Option.bind_eq_some_iff, Option.pure_def,
    Option.some.injEq, toOption_eq_some_iff]

theorem attempt_go_iff {execution : String} :
    s.attempt registry (.go execution) = some s' ↔
      ∃ run, s.run? execution = some run ∧
        ∃ after place, run.step registry s.place = some (after, place) ∧
          { s with
            place
            runs := s.runs.map fun r => if r.execution = execution then after else r } = s' := by
  simp only [attempt, Option.bind_eq_bind, Option.bind_eq_some_iff, Option.pure_def,
    Option.some.injEq, Prod.exists]

theorem attempt_load {d : Graph.Definition} (done : s.attempt registry (.load d) = some s') :
    s'.held? = s.held? ∧ s'.runs = s.runs ∧
      ∃ g : Graph.Loaded, g.Accepted ∧ s'.loaded = s.loaded ++ [g] := by
  obtain ⟨engine, made, loaded, rfl⟩ := attempt_load_iff.mp done
  obtain ⟨⟨g, last, accepted⟩, same⟩ := Engine.load_eq_ok loaded
  refine ⟨?_, rfl, g, accepted, ?_⟩
  · funext id
    exact congrArg (List.find? _) same
  · simp only [last, Option.toList_some]

theorem attempt_start {graph : String} {context : Context}
    (done : s.attempt registry (.start graph context) = some s') :
    s'.runs = s.runs ∧ s'.loaded = s.loaded ∧
      ∃ g made capacity, s.graph? graph = some g ∧ ∀ id, s'.held? id = (s.held? id).or
        (if made = id then some (.start made g.id g.nodes capacity context s.now) else none) := by
  obtain ⟨g, found, engine, made, enrolled, rfl⟩ := attempt_start_iff.mp done
  exact ⟨rfl, rfl, g, made, _, found, Engine.held?_enroll enrolled⟩

theorem attempt_request {execution : String} {request : Request}
    (done : s.attempt registry (.request execution request) = some s') :
    s'.runs = s.runs ∧ s'.loaded = s.loaded ∧
      ∃ e change, s.held? execution = some e ∧ request.apply s.now e = .ok change ∧
        ∀ id, s'.held? id = if id = execution then some change.1 else s.held? id := by
  obtain ⟨e, held, change, applied, rfl⟩ := attempt_request_iff.mp done
  have named : change.1.id = e.id := (Request.steered applied).id
  exact ⟨rfl, rfl, e, change, held, applied, Engine.held?_enter_of_held held named⟩

theorem attempt_take {execution : String}
    (done : s.attempt registry (.take execution) = some s') :
    s'.loaded = s.loaded ∧
      ∃ e g after, s.held? execution = some e ∧ s.graph? e.graph = some g ∧
        e.drive = .ok after ∧ after.graph = e.graph ∧
        (∀ id, s'.held? id = if id = execution then some after else s.held? id) ∧
        ∀ id, s'.run? id = (s.run? id).or
          (if execution = id then some ⟨execution, s.now, .before g.turns⟩ else none) := by
  obtain ⟨e, held, g, found, after, driven, rfl⟩ := attempt_take_iff.mp done
  have same := (Execution.standing_drive driven).2.2
  have named : ((after, []) : Execution.Change).1.id = e.id :=
    congrArg Execution.Standing.id same
  exact ⟨rfl, e, g, after, held, found, driven, congrArg Execution.Standing.graph same,
    Engine.held?_enter_of_held held named, s.run?_append ⟨execution, s.now, .before g.turns⟩⟩

theorem attempt_go {execution : String} {e : Execution} (held : s.held? execution = some e)
    (done : s.attempt registry (.go execution) = some s') :
    s'.loaded = s.loaded ∧
      ∃ run next after, s.run? execution = some run ∧
        Run.Advances registry e run.phase after next.phase ∧
        (∀ id, s'.held? id = if id = execution then some after else s.held? id) ∧
        ∀ id, s'.run? id = if id = execution then some next else s.run? id := by
  obtain ⟨run, found, next, place, stepped, rfl⟩ := attempt_go_iff.mp done
  have named := run?_execution found
  rw [← named] at held
  obtain ⟨same, after, advances, others⟩ := Run.advances_of_step held stepped
  rw [named] at others
  exact ⟨rfl, run, next, after, found, advances, others,
    run?_replace found (same.trans named)⟩

/-- The run of an execution that makes no step waits. -/
theorem waits_of_attempt_none {execution : String} {e : Execution} {run : Run σ}
    (held : s.held? execution = some e) (found : s.run? execution = some run)
    (refused : s.attempt registry (.go execution) = none) : run.phase.Waits e := by
  have named := run?_execution found
  rw [← named] at held
  apply Run.waits_of_step_none held
  cases stepped : run.step registry s.place with
  | none => rfl
  | some after => simp [attempt, found, stepped] at refused

end Attempt

section Perform

variable {s : System σ} {act : Act} {id : String}

theorem perform_of_some {s' : System σ} (done : s.attempt registry act = some s') :
    s.perform registry act = s' := by
  rw [perform, done]
  rfl

theorem perform_of_none (refused : s.attempt registry act = none) :
    s.perform registry act = s := by
  rw [perform, refused]
  rfl

/-- Graphs are never forgotten, and those that come are accepted. -/
theorem perform_loaded (registry : Action.Registry σ) (s : System σ) (act : Act) :
    ∃ more : List Graph.Loaded, (∀ g ∈ more, g.Accepted) ∧
      (s.perform registry act).loaded = s.loaded ++ more := by
  have none : s.loaded = s.loaded ++ [] := (List.append_nil _).symm
  cases done : s.attempt registry act with
  | none => exact ⟨[], nofun, by rw [perform_of_none done, ← none]⟩
  | some s' =>
      rw [perform_of_some done]
      cases act with
      | load d =>
          obtain ⟨_, _, g, accepted, same⟩ := attempt_load done
          refine ⟨[g], ?_, same⟩
          rintro _ (_ | ⟨_, ⟨⟩⟩)
          exact accepted
      | start graph context => exact ⟨[], nofun, (attempt_start done).2.1.trans none⟩
      | request execution request => exact ⟨[], nofun, (attempt_request done).2.1.trans none⟩
      | take execution => exact ⟨[], nofun, (attempt_take done).1.trans none⟩
      | go execution =>
          obtain ⟨_, _, _, _, _, rfl⟩ := attempt_go_iff.mp done
          exact ⟨[], nofun, none⟩
      | withdraw graph =>
          cases done
          exact ⟨[], nofun, none⟩
      | discard graph removed =>
          cases done
          exact ⟨[], nofun, none⟩
      | pass milliseconds =>
          cases done
          exact ⟨[], nofun, none⟩

theorem graph?_perform {g : Graph.Loaded} (found : s.graph? id = some g) :
    (s.perform registry act).graph? id = some g := by
  obtain ⟨more, _, same⟩ := perform_loaded registry s act
  rw [graph?, same, List.find?_append]
  exact congrArg (Option.or · _) found

theorem performAll_append (registry : Action.Registry σ) (s : System σ) (first rest : List Act) :
    s.performAll registry (first ++ rest) =
      (s.performAll registry first).performAll registry rest :=
  List.foldl_append

theorem performAll_snoc (registry : Action.Registry σ) (s : System σ) (acts : List Act)
    (act : Act) :
    s.performAll registry (acts ++ [act]) = (s.performAll registry acts).perform registry act :=
  performAll_append registry s acts [act]

theorem graph?_performAll {g : Graph.Loaded} (found : s.graph? id = some g) (acts : List Act) :
    (s.performAll registry acts).graph? id = some g := by
  induction acts generalizing s with
  | nil => exact found
  | cons act rest ih => exact ih (graph?_perform found)

end Perform

end System

end ActionGraph
