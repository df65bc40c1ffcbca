import ActionGraph.Proofs.Execution.Conservation
import ActionGraph.Proofs.Execution.FinalShape
import ActionGraph.Proofs.Execution.Verdicts

/-!
# What is told of an execution

What a listener is told of an execution begins with its start, names each
state that it comes to, and ends where the execution ends.  This is so where
requests take effect only when a run lets go of its thread: a run looks at the
state some steps before it publishes, and a request in between could end the
execution that it speaks of.
-/

namespace ActionGraph

open Execution (Run Phase Change State Standing)
open ActionGraph.Graph (Loaded Turn)

variable {σ : Type}

/-! ## Lists of events -/

namespace Event

/-- The state that an execution is in from an event on; most events leave it as it is. -/
def state? : Event → Option State
  | .executionStarted .. => some .running
  | .executionPaused _ => some .paused
  | .executionResumed _ => some .running
  | .executionCancelled _ => some .cancelled
  | .executionCompleted .. => some .completed
  | .executionFailed .. => some .failed
  | _ => none

theorem state?_of_isTerminal {event : Event} (terminal : event.isTerminal = true) :
    ∃ state, event.state? = some state ∧ state.isTerminal = true := by
  cases event with
  | executionCancelled execution => exact ⟨.cancelled, rfl, rfl⟩
  | executionCompleted execution duration => exact ⟨.completed, rfl, rfl⟩
  | executionFailed execution error => exact ⟨.failed, rfl, rfl⟩
  | _ => cases terminal

theorem isTerminal_of_state?_eq_none {event : Event} (quiet : event.state? = none) :
    event.isTerminal = false := by
  rw [← Bool.not_eq_true]
  intro terminal
  obtain ⟨state, named, _⟩ := state?_of_isTerminal terminal
  rw [quiet] at named
  cases named

def latest (events : List Event) : Option State :=
  (events.filterMap state?).getLast?

theorem latest_append (events more : List Event) :
    latest (events ++ more) = (latest more).or (latest events) := by
  rw [latest, List.filterMap_append, List.getLast?_append]
  rfl

theorem latest_of_quiet {events : List Event} (quiet : ∀ event ∈ events, event.state? = none) :
    latest events = none := by
  have none : events.filterMap state? = [] := List.filterMap_eq_nil_iff.mpr quiet
  rw [latest, none]
  rfl

/-- No event follows one that ends the execution. -/
def Closed (events : List Event) : Prop :=
  events.Pairwise fun earlier _ => earlier.isTerminal = false

theorem Closed.of_live {events : List Event}
    (live : ∀ event ∈ events, event.isTerminal = false) : Closed events :=
  List.pairwise_of_forall_mem_list fun event mem _ _ => live event mem

/-- At most one event ends the execution. -/
theorem Closed.countP_le_one {events : List Event} (closed : Closed events) :
    events.countP (·.isTerminal) ≤ 1 := by
  induction events with
  | nil => exact Nat.zero_le 1
  | cons event rest ih =>
      obtain ⟨here, later⟩ := List.pairwise_cons.mp closed
      rw [List.countP_cons]
      cases rest with
      | nil =>
          rw [List.countP_nil]
          split <;> omega
      | cons next rest =>
          have live : event.isTerminal = false := here next List.mem_cons_self
          rw [if_neg (Bool.eq_false_iff.mp live)]
          exact ih later

/-- If an event of the list ends the execution, the state that is named last is an end. -/
theorem Closed.latest_of_terminal {events : List Event} (closed : Closed events) {event : Event}
    (mem : event ∈ events) (terminal : event.isTerminal = true) :
    ∃ state, latest events = some state ∧ state.isTerminal = true := by
  obtain ⟨before, after, rfl⟩ := List.append_of_mem mem
  have last : after = [] := by
    obtain ⟨_, closed, _⟩ := List.pairwise_append.mp closed
    cases after with
    | nil => rfl
    | cons next rest =>
        have live := (List.pairwise_cons.mp closed).1 next List.mem_cons_self
        rw [live] at terminal
        cases terminal
  obtain ⟨state, named, ends⟩ := state?_of_isTerminal terminal
  refine ⟨state, ?_, ends⟩
  rw [last, latest_append, latest, List.filterMap_cons_some named]
  rfl

end Event

/-! ## Executions -/

namespace Execution

/-- An execution has an end exactly if it has ended, and an error exactly if it failed. -/
structure Fits (e : Execution) : Prop where
  ended : e.ended.isSome = true ↔ e.state.isTerminal = true
  error : e.error.isSome = true ↔ e.state = .failed

theorem Fits.of_verdict {e after : Execution} (fits : e.Fits)
    (same : after.verdict = e.verdict) : after.Fits := by
  have state : after.state = e.state := congrArg Prod.fst same
  have ended : after.ended = e.ended := congrArg (fun v => v.2.1) same
  have error : after.error = e.error := congrArg (fun v => v.2.2) same
  constructor
  · rw [ended, state]
    exact fits.ended
  · rw [error, state]
    exact fits.error

theorem Fits.error_of_live {e : Execution} (fits : e.Fits) (live : e.state.isTerminal = false) :
    e.error = none := by
  rw [← Option.not_isSome_iff_eq_none, fits.error]
  intro failed
  rw [failed] at live
  cases live

theorem Fits.ended_of_live {e : Execution} (fits : e.Fits) (live : e.state.isTerminal = false) :
    e.ended = none := by
  rw [← Option.not_isSome_iff_eq_none, fits.ended, live]
  exact Bool.false_ne_true

/-- From one state that is no end to another. -/
theorem Fits.of_live {e after : Execution} (fits : e.Fits) (before : e.state.isTerminal = false)
    (live : after.state.isTerminal = false) (ended : after.ended = e.ended)
    (error : after.error = e.error) : after.Fits := by
  constructor
  · rw [ended, fits.ended_of_live before, live]
    exact iff_of_false Bool.false_ne_true Bool.false_ne_true
  · rw [error, fits.error_of_live before]
    refine iff_of_false Bool.false_ne_true ?_
    intro failed
    rw [failed] at live
    cases live

/-- From a state that is no end to one that is, but no failure. -/
theorem Fits.of_end {e after : Execution} (fits : e.Fits) (before : e.state.isTerminal = false)
    (terminal : after.state.isTerminal = true) (notFailed : after.state ≠ .failed)
    (ended : after.ended.isSome = true) (error : after.error = e.error) : after.Fits := by
  constructor
  · exact iff_of_true ended terminal
  · rw [error, fits.error_of_live before]
    exact iff_of_false Bool.false_ne_true notFailed

structure Story (told : List Event) (e : Execution) : Prop where
  first : told.head? = some (.executionStarted e.id e.graph)
  closed : Event.Closed told
  state : Event.latest told = some e.state
  fits : e.Fits

/-- What becomes of an execution is told: only of one that has not ended, and up to its end. -/
structure Narrates (e : Execution) (change : Change) : Prop where
  id : change.1.id = e.id
  graph : change.1.graph = e.graph
  live : e.state.isTerminal = true → change.2 = []
  closed : Event.Closed change.2
  state : ((Event.latest change.2).or (some e.state)) = some change.1.state
  fits : e.Fits → change.1.Fits

variable {e : Execution} {change : Change}

/-- While an execution has not ended, nothing that was told ends it. -/
theorem Story.live {told : List Event} (story : Story told e)
    (live : e.state.isTerminal = false) : ∀ event ∈ told, event.isTerminal = false := by
  intro event mem
  rw [← Bool.not_eq_true]
  intro terminal
  obtain ⟨state, named, ends⟩ := story.closed.latest_of_terminal mem terminal
  rw [story.state, Option.some.injEq] at named
  rw [named, ends] at live
  cases live

/-- The story goes on with whatever is told next. -/
theorem Story.append {told : List Event} (story : Story told e) (narrates : e.Narrates change) :
    Story (told ++ change.2) change.1 where
  first := by
    rw [List.head?_append, story.first, narrates.id, narrates.graph]
    rfl
  closed := by
    refine List.pairwise_append.mpr ⟨story.closed, narrates.closed, fun event mem other next => ?_⟩
    have live : e.state.isTerminal = false := by
      rw [← Bool.not_eq_true]
      intro terminal
      rw [narrates.live terminal] at next
      cases next
    exact story.live live event mem
  state := by
    rw [Event.latest_append, story.state]
    exact narrates.state
  fits := narrates.fits story.fits

theorem Story.start (id graph : String) (nodes : List Graph.Node) (capacity : Nat)
    (context : Context) (now : Nat) :
    Story [.executionStarted id graph] (start id graph nodes capacity context now) where
  first := rfl
  closed := List.pairwise_singleton _ _
  state := rfl
  fits := ⟨iff_of_false nofun nofun, iff_of_false nofun nofun⟩

namespace Narrates

/-- Where the verdict stays, no state is named. -/
theorem of_quiet {after : Execution} {events : List Event} {s : Standing}
    (same : after.standing = s) (id : s.id = e.id) (graph : s.graph = e.graph)
    (verdict : after.verdict = e.verdict)
    (quiet : ∀ event ∈ events, event.state? = none)
    (live : e.state.isTerminal = true → events = []) : e.Narrates (after, events) where
  id := (congrArg Standing.id same).trans id
  graph := (congrArg Standing.graph same).trans graph
  live := live
  closed := .of_live fun event mem => Event.isTerminal_of_state?_eq_none (quiet event mem)
  state := by
    have none : Event.latest events = none := Event.latest_of_quiet quiet
    have state : after.state = e.state := congrArg Prod.fst verdict
    rw [none, state]
    rfl
  fits fits := fits.of_verdict verdict

/-- A change that nobody can see is not told. -/
theorem of_standing {after : Execution} (same : after.standing = e.standing) :
    e.Narrates (after, []) :=
  of_quiet same rfl rfl (verdict_of_standing same rfl rfl rfl)
        (List.forall_mem_nil _) fun _ => rfl

/-- An event names the state that an execution comes to. -/
theorem of_event {after : Execution} {event : Event} (id : after.id = e.id)
    (graph : after.graph = e.graph) (live : e.state.isTerminal = false)
    (named : event.state? = some after.state) (fits : e.Fits → after.Fits) :
    e.Narrates (after, [event]) where
  id := id
  graph := graph
  live terminal := absurd (live.symm.trans terminal) Bool.false_ne_true
  closed := List.pairwise_singleton _ _
  state := by
    rw [Event.latest, List.filterMap_cons_some named]
    rfl
  fits := fits

end Narrates

/-! ## What each section tells -/

theorem narrates_deliver {now : Nat} {node port : String} {value : Json} {sent : Change}
    (delivered : e.deliver now node port value = .ok sent) :
    ∀ event ∈ sent.2, event.state? = none := by
  obtain ⟨i, _, _, told⟩ := deliver_eq_ok delivered
  intro event mem
  rw [told] at mem
  cases outcome : (i.inbox.push port value).2 with
  | queued depth =>
      rw [outcome] at mem
      cases mem
  | droppedOldest depth =>
      rw [outcome] at mem
      rw [List.mem_singleton.mp mem]
      rfl

theorem narrates_forward (now : Nat) (output : Json) (edges : List Graph.Edge) :
    ∀ event ∈ (forward now output edges (e, [])).1.2, event.state? = none := by
  refine forward_keeps (P := fun change => ∀ event ∈ change.2, event.state? = none) ?_ nofun
  intro edge _ before events sent quiet delivered
  exact List.forall_mem_append.mpr ⟨quiet, narrates_deliver delivered⟩

theorem narrates_inject {now : Nat} {node port : String} {value : Json}
    (accepted : e.inject now node port value = .ok change) : e.Narrates change := by
  obtain ⟨running, sent, delivered, rfl⟩ := inject_eq_ok accepted
  have same : sent.1.standing = e.standing := standing_deliver delivered
  refine .of_quiet same rfl rfl (verdict_of_standing same rfl rfl rfl) ?_ ?_
  · exact List.forall_mem_append.mpr
      ⟨narrates_deliver delivered, List.forall_mem_singleton.mpr rfl⟩
  · intro terminal
    rw [running] at terminal
    cases terminal

theorem narrates_apply {request : Request} {now : Nat}
    (accepted : request.apply now e = .ok change) : e.Narrates change := by
  cases request with
  | inject node port value => exact narrates_inject accepted
  | pause =>
      obtain ⟨running, rfl⟩ := pause_eq_ok accepted
      have live : e.state.isTerminal = false := congrArg State.isTerminal running
      exact .of_event rfl rfl live rfl fun fits => fits.of_live live rfl rfl rfl
  | resume =>
      obtain ⟨paused, rfl⟩ := resume_eq_ok accepted
      have live : e.state.isTerminal = false := congrArg State.isTerminal paused
      exact .of_event rfl rfl live rfl fun fits => fits.of_live live rfl rfl rfl
  | stop =>
      cases accepted
      unfold stop
      split
      · exact .of_standing rfl
      · rename_i notEnded
        have live : e.state.isTerminal = false := Bool.eq_false_iff.mpr notEnded
        have notFailed : State.cancelled ≠ .failed := by decide
        exact .of_event rfl rfl live rfl fun fits => fits.of_end live rfl notFailed rfl rfl
  | remove =>
      obtain ⟨_, rfl⟩ := remove_eq_ok accepted
      exact .of_standing rfl

/-- A node that failed ends its execution, which has not ended before. -/
theorem narrates_fail (live : e.state.isTerminal = false) (now : Nat) (node : Graph.Node)
    (duration : Nat) (f : Instance → Instance) (message : String) :
    e.Narrates ((e.counted now node duration false f).fail now message) := by
  rw [counted_eq]
  refine .of_event rfl rfl live rfl fun _ => ?_
  exact ⟨iff_of_true rfl rfl, iff_of_true rfl rfl⟩

theorem narrates_record (live : e.state.isTerminal = false) (now : Nat) (node : Graph.Node)
    (edges : List Graph.Edge) (duration : Nat) (report : Action.Report) (context : Context) :
    e.Narrates (e.record now node edges duration report context).1 := by
  cases success : report.success with
  | true =>
      have same := (record_success e now node edges duration report context success).1
      rw [record_of_success e now node edges duration context success] at same ⊢
      refine .of_quiet same rfl rfl (verdict_of_standing same rfl rfl rfl) ?_ fun terminal => ?_
      · exact narrates_forward _ _ _
      · exact absurd (live.symm.trans terminal) Bool.false_ne_true
  | false =>
      rw [record_of_failure _ _ _ _ _ _ success, if_neg (Bool.eq_false_iff.mp live)]
      exact narrates_fail live _ _ _ _ _

theorem narrates_finish (now duration : Nat) : e.Narrates (e.finish now duration) := by
  unfold finish
  split
  · rename_i running
    have live : e.state.isTerminal = false := congrArg State.isTerminal running
    have notFailed : State.completed ≠ .failed := by decide
    exact .of_event rfl rfl live rfl fun fits => fits.of_end live rfl notFailed rfl rfl
  · exact .of_quiet rfl rfl rfl rfl (List.forall_mem_nil _) fun _ => rfl

/-- Where a run is about to publish, its execution has not ended. -/
def Phase.Speaks (e : Execution) : Phase σ → Prop
  | .announcing _ _ _ => e.state.isTerminal = false
  | .reporting _ _ _ _ _ => e.state.isTerminal = false
  | .recording _ _ _ _ _ => e.state.isTerminal = false
  | .expiring _ _ _ => e.state.isTerminal = false
  | _ => True

theorem Run.Changes.narrates {phase : Phase σ} (changes : Run.Changes e phase change)
    (speaks : phase.Speaks e) : e.Narrates change := by
  have published (event : Event) (live : e.state.isTerminal = false)
      (quiet : event.state? = none) : e.Narrates (e, [event]) := by
    refine .of_quiet rfl rfl rfl rfl (List.forall_mem_singleton.mpr quiet) fun terminal => ?_
    exact absurd (live.symm.trans terminal) Bool.false_ne_true
  cases changes with
  | silent => exact .of_standing rfl
  | claim taken =>
      have same := (standing_claim taken).2
      exact .of_quiet same rfl rfl (verdict_of_standing same rfl rfl rfl)
        (List.forall_mem_nil _) fun _ => rfl
  | announce => exact published _ speaks rfl
  | publish => exact published _ speaks rfl
  | record now => exact narrates_record speaks _ _ _ _ _ _
  | recordExpired now =>
      rw [recordExpired_eq]
      exact narrates_fail speaks _ _ _ _ _
  | finish now duration => exact narrates_finish now duration

end Execution

/-! ## Engines -/

namespace Engine

def told (engine : Engine) (id : String) : List Event :=
  engine.history.filter fun event => event.execution? = some id

theorem told_of_own {engine after : Engine} {id : String} {events : List Event}
    (history : after.history = engine.history ++ events)
    (own : ∀ event ∈ events, event.execution? = some id) :
    after.told id = engine.told id ++ events := by
  have all : events.filter (fun event => event.execution? = some id) = events :=
    List.filter_eq_self.mpr fun event mem => decide_eq_true (own event mem)
  rw [told, history, List.filter_append, all]
  rfl

theorem told_of_other {engine after : Engine} {id : String} {events : List Event}
    (history : after.history = engine.history ++ events)
    (other : ∀ event ∈ events, event.execution? ≠ some id) : after.told id = engine.told id := by
  have none : events.filter (fun event => event.execution? = some id) = [] :=
    List.filter_eq_nil_iff.mpr fun event mem => by simpa using other event mem
  rw [told, history, List.filter_append, none, List.append_nil]
  rfl

/-- What is told of an execution tells how it stands; nothing is told of one that is not there. -/
structure Truthful (engine : Engine) (id : String) : Prop where
  held : ∀ e, engine.held? id = some e → Execution.Story (engine.told id) e
  silent : engine.held? id = none → engine.told id = []

namespace Truthful

variable {engine after : Engine} {id : String}

theorem of_same (truthful : engine.Truthful id) (held : after.held? id = engine.held? id)
    (told : after.told id = engine.told id) : after.Truthful id where
  held := by
    rw [held, told]
    exact truthful.held
  silent := by
    rw [held, told]
    exact truthful.silent

theorem enter (truthful : engine.Truthful id) {other : String} {e : Execution}
    (held : engine.held? other = some e) {change : Change}
    (handles : Execution.Handles 0 e change.1 change.2)
    (narrates : id = other → e.Narrates change) :
    (engine.enter change).Truthful id := by
  have own := handles.own
  have there := held?_enter_of_held held handles.id id
  have history := history_enter engine change
  by_cases here : id = other
  · subst here
    rw [if_pos rfl] at there
    rw [held?_id held] at own
    refine ⟨fun after found => ?_, fun absent => ?_⟩
    · rw [there, Option.some.injEq] at found
      rw [told_of_own history own, ← found]
      exact (truthful.held e held).append (narrates rfl)
    · rw [there] at absent
      cases absent
  · rw [if_neg here] at there
    refine truthful.of_same there (told_of_other history fun event mem about => ?_)
    rw [own event mem, held?_id held] at about
    exact here (Option.some.inj about).symm

theorem withdraw (truthful : engine.Truthful id) (graph : String) :
    (engine.withdraw graph).1.Truthful id := by
  have there := held?_withdraw engine graph id
  have told : (engine.withdraw graph).1.told id = engine.told id := rfl
  refine ⟨fun e found => ?_, fun absent => ?_⟩
  · rw [there] at found
    obtain ⟨f, held, rfl⟩ := Option.map_eq_some_iff.mp found
    have story := truthful.held f held
    rw [told]
    split
    · exact ⟨story.first, story.closed, story.state, story.fits.of_verdict rfl⟩
    · exact story
  · rw [there, Option.map_eq_none_iff] at absent
    rw [told]
    exact truthful.silent absent

theorem enroll (truthful : engine.Truthful id) {now : Nat} {g : Loaded} {context : Context}
    {made : String} (fresh : engine.held? made = none)
    (enrolled : engine.enroll now g context = .ok (after, made)) : after.Truthful id := by
  have found := held?_enroll enrolled
  have history := history_enroll enrolled
  by_cases here : made = id
  · subst here
    have own : after.told made = engine.told made ++ [.executionStarted made g.id] :=
      told_of_own history (List.forall_mem_singleton.mpr rfl)
    rw [truthful.silent fresh, List.nil_append] at own
    have there := found made
    rw [fresh, Option.none_or, if_pos rfl] at there
    refine ⟨fun e held => ?_, fun absent => ?_⟩
    · rw [there, Option.some.injEq] at held
      rw [own, ← held]
      exact .start _ _ _ _ _ _
    · rw [there] at absent
      cases absent
  · have there := found id
    rw [if_neg here, Option.or_none] at there
    refine truthful.of_same there (told_of_other history ?_)
    refine List.forall_mem_singleton.mpr fun about => here ?_
    exact Option.some.inj about

end Truthful

/-- A new execution has an identifier that no other has. -/
theorem Numbered.fresh {engine after : Engine} {loaded : List Loaded}
    (numbered : engine.Numbered loaded) {now : Nat} {g : Loaded} {context : Context}
    {made : String} (enrolled : engine.enroll now g context = .ok (after, made)) :
    engine.held? made = none := by
  obtain ⟨_, named, _⟩ := enroll_eq_ok enrolled
  cases held : engine.held? made with
  | none => rfl
  | some e =>
      have mem : e.id ∈ engine.executions.map (·.id) :=
        List.mem_map_of_mem (List.mem_of_find?_eq_some held)
      rw [held?_id held, named, numbered.executions] at mem
      obtain ⟨i, below, same⟩ := List.mem_map.mp mem
      have last := executionId_injective same
      rw [List.mem_range] at below
      omega

end Engine

/-! ## Systems -/

/-- On one thread an execution has not ended where the run of it is about to publish. -/
theorem Track.Calm.speaks {g : Loaded} {t : Track σ} (course : t.Course False False g)
    (calm : t.Calm) {phase : Phase σ} (there : t.phase = some phase) :
    phase.Speaks t.execution := by
  have known := calm phase there
  have stage := course.stage
  rw [there] at stage
  have of_live {turn : Turn} {rest : List Turn}
      (atTurn : Execution.AtTurn False g.turns t.execution.standing turn rest .running)
      (notCancelled : t.execution.state ≠ .cancelled) : t.execution.state.isTerminal = false := by
    rw [← Bool.not_eq_true]
    intro terminal
    exact notCancelled (State.eq_cancelled_of_live atTurn.live terminal)
  cases phase with
  | announcing turn rest context =>
      refine of_live stage ?_
      rw [show t.execution.state = .running from known]
      exact nofun
  | reporting turn rest duration report context => exact of_live stage known
  | recording turn rest duration report context => exact of_live stage known
  | expiring turn duration failure =>
      obtain ⟨rest, atTurn⟩ := stage
      exact of_live atTurn known
  | _ => trivial

namespace System

variable {registry : Action.Registry σ} {s : System σ} {id : String}

theorem Alters.narrates {e : Execution} {change : Change} (alters : s.Alters id e change)
    (speaks : ∀ run, s.run? id = some run → run.phase.Speaks e) : e.Narrates change := by
  cases alters with
  | request accepted => exact Execution.narrates_apply accepted
  | take accepted =>
      have same := (Execution.standing_drive accepted).2.2
      refine .of_quiet same rfl rfl ?_ nofun fun _ => rfl
      exact Execution.verdict_of_standing same rfl rfl rfl
  | go running changes => exact changes.narrates (speaks _ running)

/-- What is told of an execution stays true if the run of it speaks only while it has not ended. -/
theorem Effect.truthful {engine : Engine} (effect : s.Effect engine) (numbered : s.Numbered)
    (balanced : s.engine.Balanced) (truthful : s.engine.Truthful id)
    (speaks : ∀ e run, s.held? id = some e → s.run? id = some run → run.phase.Speaks e) :
    engine.Truthful id := by
  cases effect with
  | still executions limits history unowned =>
      refine truthful.of_same (congrArg (List.find? _) executions) ?_
      refine Engine.told_of_other history fun event mem about => ?_
      rw [unowned event mem] at about
      cases about
  | alter held alters =>
      have roomy := (balanced.held _ _ held).roomy
      refine truthful.enter held (alters.handles roomy) ?_
      rintro rfl
      exact alters.narrates fun run running => speaks _ run held running
  | withdraw graph => exact truthful.withdraw graph
  | enroll enrolled => exact truthful.enroll (Engine.Numbered.fresh numbered enrolled) enrolled

theorem truthful_initial (settings : Settings) (world : Action.World σ) (id : String) :
    (initial settings world).engine.Truthful id := by
  have notHeld : (initial settings world).engine.held? id = none := rfl
  refine ⟨fun e held => ?_, fun _ => rfl⟩
  rw [notHeld] at held
  cases held

theorem truthful_performAll {settings : Settings} {world : Action.World σ} {acts : List Act}
    (uninterrupted : ¬ Seen registry id Track.Interrupts (initial settings world) acts) :
    ((initial settings world).performAll registry acts).engine.Truthful id := by
  induction acts using List.reverseRecOn with
  | nil => exact truthful_initial settings world id
  | append_singleton acts act ih =>
      rw [seen_snoc, not_or] at uninterrupted
      have numbered : ((initial settings world).performAll registry acts).Numbered :=
        (numbered_initial settings world).performAll acts
      have balanced : ((initial settings world).performAll registry acts).engine.Balanced :=
        balanced_performAll (numbered_initial settings world) (balanced_initial settings world)
          acts
      rw [performAll_snoc]
      refine (effect_of_perform numbered registry act).truthful numbered balanced
        (ih uninterrupted.1) fun e run held running => ?_
      have tracked := track?_of_held held
      obtain ⟨g, _, _, onCourse, calm⟩ := calm_course tracked uninterrupted.1
      refine calm.speaks onCourse ?_
      rw [running]
      rfl

/--
If the acts of operations fall only where a run lets go, then what is told of
an execution tells how it stands: its start comes first, at most one event
ends it and nothing follows, the latest event of its life names its state, it
has an end exactly if it has ended, and an error exactly if it failed.
-/
theorem story_of_uninterrupted {settings : Settings} {world : Action.World σ} {acts : List Act}
    {e : Execution}
    (uninterrupted : ¬ Seen registry id Track.Interrupts (initial settings world) acts)
    (held : ((initial settings world).performAll registry acts).held? id = some e) :
    let told := ((initial settings world).performAll registry acts).engine.told id
    told.head? = some (.executionStarted id e.graph) ∧
      told.countP (·.isTerminal) ≤ 1 ∧
      told.Pairwise (fun earlier _ => earlier.isTerminal = false) ∧
      (told.filterMap Event.state?).getLast? = some e.state ∧
      (e.ended.isSome = true ↔ e.state.isTerminal = true) ∧
      (e.error.isSome = true ↔ e.state = .failed) := by
  have truthful := truthful_performAll uninterrupted
  have story := truthful.held e held
  rw [← Engine.held?_id held] at story ⊢
  exact ⟨story.first, story.closed.countP_le_one, story.closed, story.state, story.fits.ended,
    story.fits.error⟩

/-- An execution that is paused and resumed before a run takes it up and completes it. -/
def resumedRun : List Act :=
  [.load loneNode, .start "g1" default, .request "e1" .pause, .request "e1" .resume, .take "e1"]
    ++ List.replicate 11 (.go "e1")

theorem story_of_resumedRun :
    ∃ e, ((initial default quiet).performAll answering resumedRun).held? "e1" = some e ∧
      ((initial default quiet).performAll answering resumedRun).engine.told "e1" =
        [.executionStarted "e1" "g1", .executionPaused "e1", .executionResumed "e1",
          .nodeStarted "e1" "a" "task", .nodeFinished "e1" "a" true 0,
          .executionCompleted "e1" 0] ∧
      let told := ((initial default quiet).performAll answering resumedRun).engine.told "e1"
      told.head? = some (.executionStarted "e1" e.graph) ∧
        told.countP (·.isTerminal) ≤ 1 ∧
        told.Pairwise (fun earlier _ => earlier.isTerminal = false) ∧
        (told.filterMap Event.state?).getLast? = some e.state ∧
        (e.ended.isSome = true ↔ e.state.isTerminal = true) ∧
        (e.error.isSome = true ↔ e.state = .failed) := by
  have there :
      (((initial default quiet).performAll answering resumedRun).held? "e1").isSome := by
    rfl
  obtain ⟨e, held⟩ := Option.isSome_iff_exists.mp there
  have uninterrupted :
      ¬ Seen answering "e1" Track.Interrupts (initial default quiet) resumedRun := by
    decide +kernel
  exact ⟨e, held, by decide +kernel, story_of_uninterrupted uninterrupted held⟩

end System

end ActionGraph
