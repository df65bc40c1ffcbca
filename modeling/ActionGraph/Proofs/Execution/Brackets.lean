import ActionGraph.Proofs.Execution.Tallies
import ActionGraph.Proofs.Execution.Tidings

/-!
# Brackets

The start of a node is told, and its end: a node that succeeded, failed or ran
out of time has finished before the next one starts and before the execution
ends.  A node at which a credential expired is the one that never finishes.
-/

namespace ActionGraph

open Execution (Run Phase Keyed Stage)
open ActionGraph.Graph (Loaded Turn)

variable {σ : Type}

/-! ## Starts and ends of nodes -/

namespace Event

def turn? : Event → Option (String × Bool)
  | .nodeStarted _ node _ => some (node, false)
  | .nodeFinished _ node _ _ => some (node, true)
  | _ => none

def turns (events : List Event) : List (String × Bool) :=
  events.filterMap turn?

theorem turns_append (events more : List Event) :
    turns (events ++ more) = turns events ++ turns more :=
  List.filterMap_append

theorem turns_of_mute {events : List Event} (mute : ∀ event ∈ events, event.turn? = none) :
    turns events = [] :=
  List.filterMap_eq_nil_iff.mpr mute

/--
After the start of a node comes one end of it, and between the two no node
starts or finishes and the execution does not end.
-/
def Bracketed (execution : String) (told : List Event) : Prop :=
  ∀ before node component after,
    told = before ++ .nodeStarted execution node component :: after →
      ∃ within success duration rest,
        after = within ++ .nodeFinished execution node success duration :: rest ∧
          (∀ event ∈ within, event.turn? = none ∧ event.isTerminal = false) ∧
          ∀ event ∈ rest, event.turn? ≠ some (node, true)

def brackets (nodes : List String) : List (String × Bool) :=
  nodes.flatMap fun node => [(node, false), (node, true)]

theorem brackets_concat (nodes : List String) (node : String) :
    brackets (nodes ++ [node]) = brackets nodes ++ [(node, false)] ++ [(node, true)] := by
  rw [brackets, List.flatMap_append, List.append_assoc]
  rfl

theorem mem_of_mem_brackets {nodes : List String} {turn : String × Bool}
    (mem : turn ∈ brackets nodes) : turn.1 ∈ nodes := by
  obtain ⟨node, there, here⟩ := List.mem_flatMap.mp mem
  simp only [List.mem_cons, List.not_mem_nil, or_false] at here
  rcases here with rfl | rfl <;> exact there

/-- After its start a node finishes at once, and it does not come again. -/
theorem brackets_of_start {nodes : List String} (distinct : nodes.Nodup) {node : String}
    {earlier later : List (String × Bool)}
    (split : brackets nodes = earlier ++ (node, false) :: later) :
    ∃ rest, later = (node, true) :: brackets rest ∧ node ∉ rest := by
  induction nodes generalizing earlier with
  | nil => cases earlier <;> cases split
  | cons first nodes ih =>
      obtain ⟨notLater, distinct⟩ := List.nodup_cons.mp distinct
      have unfolded : brackets (first :: nodes) =
          (first, false) :: (first, true) :: brackets nodes := rfl
      rw [unfolded] at split
      match earlier, split with
      | [], split =>
          cases split
          exact ⟨nodes, rfl, notLater⟩
      | [_], split => cases split
      | _ :: _ :: earlier, split =>
          rw [List.cons_append, List.cons_append, List.cons.injEq, List.cons.injEq] at split
          exact ih distinct split.2.2

section Own

variable {execution node : String} {event : Event} (own : event.execution? = some execution)
include own

theorem eq_nodeStarted (starts : event.turn? = some (node, false)) :
    ∃ component, event = .nodeStarted execution node component := by
  cases event with
  | nodeStarted other started component =>
      cases own
      cases starts
      exact ⟨component, rfl⟩
  | _ => cases starts

theorem eq_nodeFinished (finishes : event.turn? = some (node, true)) :
    ∃ success duration, event = .nodeFinished execution node success duration := by
  cases event with
  | nodeFinished other finished success duration =>
      cases own
      cases finishes
      exact ⟨success, duration, rfl⟩
  | _ => cases finishes

end Own

section Told

variable {execution : String} {told : List Event}
  (own : ∀ event ∈ told, event.execution? = some execution)
include own

/-- Where every node that started has finished, what is told is in brackets. -/
theorem Bracketed.of_brackets (closed : Closed told) {nodes : List String}
    (distinct : nodes.Nodup) (finished : turns told = brackets nodes) :
    Bracketed execution told := by
  rintro before node component after rfl
  have started : (nodeStarted execution node component).turn? = some (node, false) := rfl
  rw [turns_append, turns, turns, List.filterMap_cons_some started] at finished
  obtain ⟨rest, finishes, notLater⟩ := brackets_of_start distinct finished.symm
  obtain ⟨within, finish, later, rfl, mute, ends, follows⟩ :=
    List.filterMap_eq_cons_iff.mp finishes
  obtain ⟨success, duration, rfl⟩ := eq_nodeFinished (own finish (by simp)) ends
  refine ⟨within, success, duration, later, rfl, fun event mem => ⟨mute event mem, ?_⟩, ?_⟩
  · -- the end of the node comes after the event
    have inner := (List.pairwise_cons.mp (List.pairwise_append.mp closed).2.1).2
    exact (List.pairwise_append.mp inner).2.2 event mem _ List.mem_cons_self
  · intro event mem again
    have there : (node, true) ∈ brackets rest := by
      rw [← follows]
      exact List.mem_filterMap.mpr ⟨event, mem, again⟩
    exact notLater (mem_of_mem_brackets there)

/-- Where the last node to start has not finished, what is told is not in brackets. -/
theorem not_bracketed_of_start {earlier : List (String × Bool)} {node : String}
    (unfinished : turns told = earlier ++ [(node, false)]) : ¬ Bracketed execution told := by
  intro bracketed
  obtain ⟨before, after, rfl, _, starts⟩ := List.filterMap_eq_append_iff.mp unfinished
  obtain ⟨mute, start, later, rfl, _, started, nothing⟩ := List.filterMap_eq_cons_iff.mp starts
  obtain ⟨component, rfl⟩ := eq_nodeStarted (own start (by simp)) started
  obtain ⟨within, success, duration, rest, rfl, _⟩ :=
    bracketed (before ++ mute) node component later (List.append_assoc _ _ _).symm
  have none := List.filterMap_eq_nil_iff.mp nothing (.nodeFinished execution node success duration)
    (List.mem_append_right _ List.mem_cons_self)
  cases none

end Told

end Event

/-! ## Where a run is and what was told of its nodes -/

namespace Execution

def Past (turns rest : List Turn) (told : List (String × Bool)) : Prop :=
  ∃ done, turns = done ++ rest ∧ told = Event.brackets (done.map (·.node.id))

def Amid (turns rest : List Turn) (turn : Turn) (told : List (String × Bool)) : Prop :=
  ∃ earlier, Past turns (turn :: rest) earlier ∧ told = earlier ++ [(turn.node.id, false)]

/-- What was told of the nodes of an execution, given where the run of it is. -/
def Phase.Recounted (turns : List Turn) (e : Execution) (told : List (String × Bool)) :
    Phase σ → Prop
  | .resting turn rest => Past turns (turn :: rest) told
  | .claiming turn rest => Past turns (turn :: rest) told
  | .announcing turn rest _ => Past turns (turn :: rest) told
  | .working turn rest _ _ _ => Amid turns rest turn told
  | .reporting turn rest _ _ _ => Amid turns rest turn told
  | .recording _ rest _ _ _ => Past turns rest told
  | .expiring turn _ _ => ∃ rest, Amid turns rest turn told
  | .ended (.error _) => ∃ turn rest, Amid turns rest turn told
  | _ => e.state = .cancelled ∨ ∃ rest, Past turns rest told

section Told

variable {turns : List Turn} {e after : Execution} {told : List (String × Bool)}

theorem Past.finish {rest : List Turn} {turn : Turn} (amid : Amid turns rest turn told) :
    Past turns rest (told ++ [(turn.node.id, true)]) := by
  obtain ⟨_, ⟨done, split, rfl⟩, rfl⟩ := amid
  refine ⟨done ++ [turn], ?_, ?_⟩
  · rw [split, List.append_assoc]
    rfl
  · rw [List.map_append, List.map_singleton, Event.brackets_concat]

theorem Phase.told_before {rest : List Turn} (past : Past turns rest told) :
    (Phase.before rest : Phase σ).Recounted turns e told := by
  cases rest with
  | nil => exact .inr ⟨[], past⟩
  | cons turn rest => exact past

/-- An execution that is cancelled stays so, and nothing else about it matters. -/
theorem Phase.Recounted.steer {phase : Phase σ} (tells : phase.Recounted turns e told)
    (cancelled : e.state = .cancelled → after.state = .cancelled) :
    phase.Recounted turns after told := by
  cases phase with
  | settling => exact Or.imp_left cancelled tells
  | finishing => exact Or.imp_left cancelled tells
  | ended result =>
      cases result with
      | ok report => exact Or.imp_left cancelled tells
      | error failure => exact tells
  | _ => exact tells

end Told

/-- A step of the run tells what it is about to tell. -/
theorem Phase.Recounted.advance {registry : Action.Registry σ} {g : Loaded} (accepted : g.Accepted)
    {lost late : Prop} {e after : Execution} (keyed : Keyed g e) {phase phase' : Phase σ}
    (stage : Stage lost late g.turns e.standing (some phase)) {told : List (String × Bool)}
    (tells : phase.Recounted g.turns e told)
    (advances : Run.Advances registry e phase after phase') :
    phase'.Recounted g.turns after (told ++ phase.tells) := by
  have silent : phase.tells = [] → told ++ phase.tells = told := fun none => by
    rw [none, List.append_nil]
  cases advances with
  | announce limit now => exact ⟨told, tells, rfl⟩
  | publish => exact Past.finish tells
  | giveUp terminal =>
      rw [silent rfl]
      exact .inr ⟨_, tells⟩
  | refused notRunning =>
      rw [silent rfl]
      exact .inr ⟨_, tells⟩
  | absent unknown => exact absurd (unknown.symm.trans stage.stands.here) nofun
  | interrupt cancelled => exact .inl cancelled
  | expire live elapsed =>
      rw [silent rfl]
      exact ⟨_, tells⟩
  | record now =>
      rw [silent rfl, record_onward accepted keyed stage.stands.mem]
      split
      · exact told_before tells
      · exact .inr ⟨_, tells⟩
  | recordExpired now =>
      rw [silent rfl]
      exact ⟨_, tells⟩
  | finish now duration =>
      rw [silent rfl]
      refine Or.imp_left (fun cancelled => ?_) tells
      have same := congrArg Standing.state (standing_finish e now duration)
      have here : e.standing.state = .cancelled := cancelled
      rw [Standing.finish_state, here] at same
      exact same
  | _ =>
      rw [silent rfl]
      exact tells

end Execution

namespace Track

variable {registry : Action.Registry σ} {g : Loaded} {act : Act} {t t' : Track σ}

def tells (t : Track σ) (act : Act) : List (String × Bool) :=
  match act with
  | .go id => if id = t.execution.id then (t.phase.map Phase.tells).getD [] else []
  | _ => []

def Recounted (g : Loaded) (told : List (String × Bool)) (t : Track σ) : Prop :=
  match t.phase with
  | none => told = []
  | some phase => phase.Recounted g.turns t.execution told

/-- A run that waits has nothing to tell. -/
theorem tells_of_waits
    (waits : ∀ phase, act = .go t.execution.id → t.phase = some phase →
      phase.Waits t.execution) : t.tells act = [] := by
  cases act with
  | go id =>
      rw [tells]
      split
      · rename_i here
        cases there : t.phase with
        | none => rfl
        | some phase =>
            have stuck := waits phase (congrArg Act.go here) there
            cases phase with
            | announcing turn rest context => exact stuck.elim
            | reporting turn rest duration report context => exact stuck.elim
            | _ => rfl
      · rfl
  | _ => rfl

theorem Recounted.move (accepted : g.Accepted) {lost late : Prop} (course : t.Course lost late g)
    {told : List (String × Bool)} (tells : t.Recounted g told) (moves : t.Moves registry g act t') :
    t'.Recounted g (told ++ t.tells act) := by
  cases moves with
  | stay waits =>
      rw [tells_of_waits waits, List.append_nil]
      exact tells
  | @request e phase request now change applied =>
      rw [tells_of_waits (by rintro _ ⟨⟩), List.append_nil]
      cases phase with
      | none => exact tells
      | some phase =>
          exact Phase.Recounted.steer tells ((Request.steered applied).state_of_terminal rfl)
  | @withdraw e phase =>
      rw [tells_of_waits (by rintro _ ⟨⟩), List.append_nil]
      cases phase with
      | none => exact tells
      | some phase => exact Phase.Recounted.steer tells fun cancelled => cancelled
  | take driven =>
      obtain rfl : told = [] := tells
      exact Phase.told_before ⟨[], rfl, rfl⟩
  | @go e after phase phase' advances =>
      have here : Track.tells ⟨e, some phase⟩ (.go e.id) = phase.tells := if_pos rfl
      rw [here]
      exact Phase.Recounted.advance accepted course.keyed course.stage tells advances

/--
Of an execution that ended otherwise than by being cancelled, every node that
started has finished and no credential expired, or the run answers a failure
and the last node to start has not finished.
-/
theorem Recounted.of_terminal {lost late : Prop} (course : t.Course lost late g)
    {told : List (String × Bool)} (tells : t.Recounted g told)
    (terminal : t.execution.state.isTerminal = true)
    (notCancelled : t.execution.state ≠ .cancelled) :
    ((∃ rest, Execution.Past g.turns rest told) ∧
        ∀ phase node failure, t.phase = some phase →
          ¬ phase.Aftermath node failure t.execution) ∨
      ∃ failure turn rest, t.phase = some (.ended (.error failure)) ∧
        Execution.Amid g.turns rest turn told := by
  obtain ⟨e, phase⟩ := t
  have notLive : ¬ e.standing.Live := fun live =>
    notCancelled (Execution.State.eq_cancelled_of_live live terminal)
  have stage := course.stage
  cases phase with
  | none => exact absurd stage.1 notLive
  | some phase =>
      have settled (past : e.state = .cancelled ∨ ∃ rest, Execution.Past g.turns rest told)
          (blameless : ∀ node failure, phase.Aftermath node failure e → e.state = .cancelled) :
          (∃ rest, Execution.Past g.turns rest told) ∧
            ∀ other node failure, some phase = some other →
              ¬ other.Aftermath node failure e := by
        refine ⟨past.resolve_left notCancelled, ?_⟩
        rintro _ node failure ⟨⟩ aftermath
        exact notCancelled (blameless node failure aftermath)
      cases phase with
      | settling => exact .inl (settled tells fun _ _ cancelled => cancelled)
      | finishing => exact .inl (settled tells fun _ _ cancelled => cancelled)
      | ended result =>
          cases result with
          | ok report => exact .inl (settled tells fun _ _ cancelled => cancelled)
          | error failure =>
              obtain ⟨turn, rest, amid⟩ := tells
              exact .inr ⟨failure, turn, rest, rfl, amid⟩
      | expiring turn duration failure =>
          obtain ⟨rest, atTurn⟩ := stage
          exact absurd atTurn.live notLive
      | _ => exact absurd stage.live notLive

end Track

/-! ## What an act tells of nodes -/

namespace Engine

/-- What is published of no node, or of another execution, tells nothing of its nodes. -/
theorem turns_told_of_mute {engine after : Engine} {id : String} {events : List Event}
    (history : after.history = engine.history ++ events)
    (mute : ∀ event ∈ events, event.execution? = some id → event.turn? = none) :
    Event.turns (after.told id) = Event.turns (engine.told id) := by
  have none : Event.turns (events.filter fun event => event.execution? = some id) = [] := by
    refine Event.turns_of_mute fun event mem => ?_
    obtain ⟨there, about⟩ := List.mem_filter.mp mem
    exact mute event there (of_decide_eq_true about)
  rw [told, history, List.filter_append, Event.turns_append, none, List.append_nil]
  rfl

end Engine

namespace Execution

variable {e : Execution} {now : Nat}

theorem mute_deliver {node port : String} {value : Json} {sent : Change}
    (delivered : e.deliver now node port value = .ok sent) :
    ∀ event ∈ sent.2, event.turn? = none := by
  obtain ⟨i, _, _, told⟩ := deliver_eq_ok delivered
  rw [told]
  cases (i.inbox.push port value).2 with
  | queued depth => exact nofun
  | droppedOldest depth => exact List.forall_mem_singleton.mpr rfl

theorem mute_apply {request : Request} {change : Change}
    (accepted : request.apply now e = .ok change) : ∀ event ∈ change.2, event.turn? = none := by
  rcases Request.apply_eq_ok accepted with ⟨node, port, value, injected⟩ | ⟨_, _, _, _, _, told⟩
  · obtain ⟨_, sent, delivered, rfl⟩ := inject_eq_ok injected
    exact List.forall_mem_append.mpr
      ⟨mute_deliver delivered, List.forall_mem_singleton.mpr rfl⟩
  · intro event mem
    have one := told mem
    simp only [List.mem_cons, List.not_mem_nil, or_false] at one
    rcases one with rfl | rfl | rfl <;> rfl

theorem mute_record (node : Graph.Node) (edges : List Graph.Edge) (duration : Nat)
    (report : Action.Report) (context : Context) :
    ∀ event ∈ (e.record now node edges duration report context).1.2, event.turn? = none := by
  cases success : report.success with
  | true =>
      rw [record_of_success _ _ _ _ _ _ success]
      refine forward_keeps (P := fun change => ∀ event ∈ change.2, event.turn? = none) ?_ nofun
      intro edge _ before events sent mute delivered
      exact List.forall_mem_append.mpr ⟨mute, mute_deliver delivered⟩
  | false =>
      rw [record_of_failure _ _ _ _ _ _ success]
      split
      · exact nofun
      · exact List.forall_mem_singleton.mpr rfl

/-- A step of the run tells of nodes what it is about to tell. -/
theorem Run.Changes.turns {phase : Phase σ} {change : Change}
    (changes : Run.Changes e phase change) : Event.turns change.2 = phase.tells := by
  cases changes with
  | silent mute => exact mute.symm
  | claim taken => rfl
  | announce => rfl
  | publish => rfl
  | record now => exact Event.turns_of_mute (mute_record _ _ _ _ _)
  | recordExpired now => rfl
  | finish now duration =>
      refine Event.turns_of_mute ?_
      unfold Execution.finish
      split
      · exact List.forall_mem_singleton.mpr rfl
      · exact List.forall_mem_nil _

end Execution

namespace System

variable {registry : Action.Registry σ} {s : System σ} {id : String}

/-- A step of the run of an execution tells of its nodes what the run is about to tell. -/
theorem turns_go (numbered : s.Numbered) (balanced : s.engine.Balanced) {t : Track σ}
    (tracked : s.track? id = some t) {execution : String} {s' : System σ}
    (done : s.attempt registry (.go execution) = some s') :
    Event.turns (s'.engine.told id) =
      Event.turns (s.engine.told id) ++ t.tells (.go execution) := by
  have apart := Engine.Numbered.executions_apart numbered
  obtain ⟨run, running, next, place, stepped, rfl⟩ := attempt_go_iff.mp done
  obtain ⟨e, change, held, changes, entered⟩ := Run.changes_of_step apart stepped
  rw [run?_execution running] at held
  have own := (changes.handles (balanced.held _ _ held).roomy).own
  have history : place.engine.history = s.engine.history ++ change.2 := by
    rw [entered]
    exact Engine.history_enter _ _
  rw [Engine.held?_id held] at own
  obtain ⟨heldHere, phase⟩ := track?_eq_some_iff.mp tracked
  show Event.turns (place.engine.told id) = _
  by_cases here : execution = id
  · subst here
    have tells : t.tells (.go execution) = run.phase.tells := by
      rw [Track.tells, if_pos (track?_id tracked).symm, phase, running]
      rfl
    rw [Engine.told_of_own history own, Event.turns_append, changes.turns, tells]
  · have tells : t.tells (.go execution) = [] := by
      rw [Track.tells, track?_id tracked, if_neg here]
    rw [tells, List.append_nil]
    refine Engine.turns_told_of_mute history fun event mem about => ?_
    exact absurd (Option.some.inj ((own event mem).symm.trans about)) here

/-- Every act tells of the nodes of an execution what the run of it is about to tell. -/
theorem turns_perform (numbered : s.Numbered) (balanced : s.engine.Balanced) {t : Track σ}
    (tracked : s.track? id = some t) (act : Act) :
    Event.turns ((s.perform registry act).engine.told id) =
      Event.turns (s.engine.told id) ++ t.tells act := by
  have silent {s' : System σ} {events : List Event} (idle : t.tells act = [])
      (history : s'.engine.history = s.engine.history ++ events)
      (mute : ∀ event ∈ events, event.turn? = none) :
      Event.turns (s'.engine.told id) = Event.turns (s.engine.told id) ++ t.tells act := by
    rw [idle, List.append_nil]
    exact Engine.turns_told_of_mute history fun event mem _ => mute event mem
  cases done : s.attempt registry act with
  | none =>
      rw [perform_of_none done]
      refine silent (Track.tells_of_waits ?_) (List.append_nil _).symm nofun
      rintro phase rfl there
      obtain ⟨held, same⟩ := track?_eq_some_iff.mp tracked
      obtain ⟨run, running, rfl⟩ := Option.map_eq_some_iff.mp (same.symm.trans there)
      rw [track?_id tracked] at done
      exact waits_of_attempt_none held running done
  | some s' =>
      rw [perform_of_some done]
      cases act with
      | load d =>
          obtain ⟨engine, made, loaded, rfl⟩ := attempt_load_iff.mp done
          obtain ⟨g, _, same⟩ := bind_eq_ok_iff.mp loaded
          cases same
          exact silent rfl (Engine.history_publish _ _) (List.forall_mem_singleton.mpr rfl)
      | start graph context =>
          obtain ⟨g, _, engine, made, enrolled, rfl⟩ := attempt_start_iff.mp done
          exact silent rfl (Engine.history_enroll enrolled) (List.forall_mem_singleton.mpr rfl)
      | withdraw graph =>
          cases done
          exact silent rfl (List.append_nil _).symm nofun
      | discard graph removed =>
          cases done
          exact silent rfl (Engine.history_publish _ _) (List.forall_mem_singleton.mpr rfl)
      | request execution request =>
          obtain ⟨e, held, change, accepted, rfl⟩ := attempt_request_iff.mp done
          exact silent rfl (Engine.history_enter _ _) (Execution.mute_apply accepted)
      | take execution =>
          obtain ⟨e, held, g, _, after, accepted, rfl⟩ := attempt_take_iff.mp done
          exact silent rfl (Engine.history_enter _ _) nofun
      | go execution => exact turns_go numbered balanced tracked done
      | pass milliseconds =>
          cases done
          exact silent rfl (List.append_nil _).symm nofun

/-- An act tells nothing of the nodes of an execution that was not there before. -/
theorem turns_perform_of_absent (numbered : s.Numbered) (balanced : s.engine.Balanced)
    (absent : s.held? id = none) (act : Act) :
    Event.turns ((s.perform registry act).engine.told id) = Event.turns (s.engine.told id) := by
  have effect := effect_of_perform numbered registry act
  generalize (s.perform registry act).engine = after at effect
  cases effect with
  | still executions limits history unowned =>
      refine Engine.turns_told_of_mute history fun event mem about => ?_
      rw [unowned event mem] at about
      cases about
  | @alter other e change held alters =>
      have own := (alters.handles (balanced.held _ _ held).roomy).own
      refine Engine.turns_told_of_mute (Engine.history_enter _ _) fun event mem about => ?_
      rw [own event mem, Engine.held?_id held, Option.some.injEq] at about
      rw [about, absent] at held
      cases held
  | withdraw graph => rfl
  | enroll enrolled =>
      exact Engine.turns_told_of_mute (Engine.history_enroll enrolled)
        (List.forall_mem_singleton.mpr fun _ => rfl)

theorem turns_of_absent (numbered : s.Numbered) (balanced : s.engine.Balanced) (sound : s.Sound)
    {acts : List Act} (absent : (s.performAll registry acts).held? id = none) :
    Event.turns ((s.performAll registry acts).engine.told id) =
      Event.turns (s.engine.told id) := by
  induction acts generalizing s with
  | nil => rfl
  | cons act rest ih =>
      have before : s.held? id = none := by
        cases held : s.held? id with
        | none => rfl
        | some e =>
            obtain ⟨t, after⟩ := track?_performAll sound (track?_of_held held) (act :: rest)
            rw [track?, absent] at after
            cases after
      have effect := effect_of_perform numbered registry act
      refine (ih (numbered.perform act) (effect.balanced balanced) (sound.perform registry act)
        absent).trans ?_
      exact turns_perform_of_absent numbered balanced before act

/-- After any acts in any order the nodes were told of as the run has come. -/
theorem nodes_told {settings : Settings} {world : Action.World σ} {acts : List Act} {t : Track σ}
    (tracked : ((initial settings world).performAll registry acts).track? id = some t) :
    ∃ g, ((initial settings world).performAll registry acts).graph? t.execution.graph = some g ∧
      g.Accepted ∧ t.Recounted g
        (Event.turns (((initial settings world).performAll registry acts).engine.told id)) := by
  have numbered (acts : List Act) : ((initial settings world).performAll registry acts).Numbered :=
    (numbered_initial settings world).performAll acts
  have balanced (acts : List Act) :
      ((initial settings world).performAll registry acts).engine.Balanced :=
    balanced_performAll (numbered_initial settings world) (balanced_initial settings world) acts
  refine follow (P := fun acts g t => t.Recounted g
    (Event.turns (((initial settings world).performAll registry acts).engine.told id))) ?_ ?_
    tracked
  · intro acts act g capacity context now absent accepted
    have none := turns_of_absent (numbered_initial settings world)
      (balanced_initial settings world) (sound_initial settings world) absent
    rw [performAll_snoc, turns_perform_of_absent (numbered acts) (balanced acts) absent, none]
    rfl
  · intro acts act g t t' there found accepted holds moves
    obtain ⟨g', found', _, onCourse⟩ := course there
    obtain rfl : g' = g := Option.some.inj (found'.symm.trans found)
    rw [performAll_snoc, turns_perform (numbered acts) (balanced acts) there]
    exact holds.move accepted onCourse moves

/--
On one thread, once an execution has ended and was not cancelled, its nodes
were told of in brackets, whether they succeeded, failed or ran out of time,
unless a credential expired at one of them: exactly then a node started of
which no end is told.
-/
theorem bracketed_iff_no_expiry {settings : Settings} {world : Action.World σ} {acts : List Act}
    {e : Execution}
    (uninterrupted : ¬ Seen registry id Track.Interrupts (initial settings world) acts)
    (held : ((initial settings world).performAll registry acts).held? id = some e)
    (terminal : e.state.isTerminal = true) (notCancelled : e.state ≠ .cancelled) :
    Event.Bracketed id (((initial settings world).performAll registry acts).engine.told id) ↔
      ¬ ∃ node failure,
        Seen registry id (Track.Expired node failure) (initial settings world) acts := by
  have tracked := track?_of_held held
  have closed := ((truthful_performAll uninterrupted).held e held).closed
  have own : ∀ event ∈ ((initial settings world).performAll registry acts).engine.told id,
      event.execution? = some id := fun event mem => of_decide_eq_true (List.mem_filter.mp mem).2
  obtain ⟨g, found, accepted, tells⟩ := nodes_told tracked
  obtain ⟨g', found', _, onCourse⟩ := course tracked
  obtain rfl : g' = g := Option.some.inj (found'.symm.trans found)
  have account := account tracked
  rcases tells.of_terminal onCourse terminal notCancelled with
    ⟨⟨rest, done, split, finished⟩, blameless⟩ | ⟨failure, turn, rest, there, amid⟩
  · have distinct : (done.map (·.node.id)).Nodup := by
      have all := accepted.turns_ids ▸ accepted.sorted_nodup
      rw [split, List.map_append] at all
      exact (List.nodup_append.mp all).1
    refine iff_of_true (.of_brackets own closed distinct finished) ?_
    rintro ⟨node, failure, seen⟩
    obtain ⟨phase, there, aftermath⟩ := account.aftermath node failure seen
    exact blameless phase node failure there aftermath
  · obtain ⟨earlier, _, unfinished⟩ := amid
    refine iff_of_false (Event.not_bracketed_of_start own unfinished) (not_not_intro ?_)
    obtain ⟨node, seen, _⟩ := account.blames _ there
    exact ⟨node, failure, seen⟩

/-- The second node fails, and is told of in brackets as the first one is. -/
theorem bracketed_iff_of_falteringRun :
    ∃ e, ((initial default quiet).performAll answering falteringRun).held? "e1" = some e ∧
      e.state = .failed ∧
      (((initial default quiet).performAll answering falteringRun).engine.told "e1").take 5 =
        [.executionStarted "e1" "g1", .nodeStarted "e1" "a" "task",
          .nodeFinished "e1" "a" true 0, .nodeStarted "e1" "b" "absent",
          .nodeFinished "e1" "b" false 0] ∧
      (Event.Bracketed "e1"
          (((initial default quiet).performAll answering falteringRun).engine.told "e1") ↔
        ¬ ∃ node failure, Seen answering "e1" (Track.Expired node failure)
          (initial default quiet) falteringRun) := by
  have failed : (((initial default quiet).performAll answering falteringRun).held? "e1").map
      (·.state) = some .failed := by
    decide +kernel
  obtain ⟨e, held, state⟩ := Option.map_eq_some_iff.mp failed
  have uninterrupted :
      ¬ Seen answering "e1" Track.Interrupts (initial default quiet) falteringRun := by
    decide +kernel
  refine ⟨e, held, state, by decide +kernel, bracketed_iff_no_expiry uninterrupted held ?_ ?_⟩
  · rw [state]
    rfl
  · rw [state]
    exact nofun

/-- A node at which a credential expired starts, and its execution fails before it finishes. -/
theorem expiredRun_not_bracketed :
    ¬ Seen expired "e1" Track.Interrupts (initial default quiet) expiredRun ∧
      (((initial default quiet).performAll expired expiredRun).held? "e1").map (·.state) =
        some .failed ∧
      ¬ Event.Bracketed "e1"
        (((initial default quiet).performAll expired expiredRun).engine.told "e1") := by
  have told : ((initial default quiet).performAll expired expiredRun).engine.told "e1" =
      [.executionStarted "e1" "g1", .nodeStarted "e1" "a" "task",
        .executionFailed "e1" "Node 'a' failed: Authentication failed: token expired"] := by
    decide +kernel
  have unfinished : Event.turns
      (((initial default quiet).performAll expired expiredRun).engine.told "e1") =
        [] ++ [("a", false)] := by
    rw [told]
    rfl
  refine ⟨by decide +kernel, by decide +kernel, Event.not_bracketed_of_start ?_ unfinished⟩
  rw [told]
  decide

end System

end ActionGraph
