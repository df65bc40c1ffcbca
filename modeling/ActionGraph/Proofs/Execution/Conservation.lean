import ActionGraph.Proofs.Execution.Course
import ActionGraph.Proofs.Execution.Effects
import ActionGraph.Proofs.Execution.Sections

/-!
# Conservation of messages

Messages come from outside or are forwarded along edges, and each is taken by
its node, driven out by a later one, or still queued.  The counters of an
execution and the events that are published about it tell the same.
-/

namespace ActionGraph

namespace Event

def isInjection (execution : String) : Event → Bool
  | .messageInjected id _ _ => id == execution
  | _ => false

def isOverflow (execution : String) : Event → Bool
  | .backpressure id _ _ _ => id == execution
  | _ => false

def counts (execution : String) (event : Event) : Bool :=
  event.isInjection execution || event.isOverflow execution

theorem execution?_of_counts {execution : String} {event : Event}
    (counts : event.counts execution = true) : event.execution? = some execution := by
  cases event with
  | messageInjected id node port =>
      have same : (id == execution) = true := (Bool.or_false _).symm.trans counts
      exact congrArg some (beq_iff_eq.mp same)
  | backpressure id node port depth =>
      have same : (id == execution) = true := (Bool.false_or _).symm.trans counts
      exact congrArg some (beq_iff_eq.mp same)
  | _ => cases counts

theorem countP_eq_zero_of_quiet {execution : String} {events : List Event}
    (quiet : ∀ event ∈ events, event.counts execution = false) :
    events.countP (·.isInjection execution) = 0 ∧
      events.countP (·.isOverflow execution) = 0 := by
  have none : ∀ event ∈ events, ¬ event.isInjection execution = true ∧
      ¬ event.isOverflow execution = true := by
    intro event mem
    have neither := quiet event mem
    rw [counts, Bool.or_eq_false_iff] at neither
    exact ⟨Bool.eq_false_iff.mp neither.1, Bool.eq_false_iff.mp neither.2⟩
  exact ⟨List.countP_eq_zero.mpr fun event mem => (none event mem).1,
    List.countP_eq_zero.mpr fun event mem => (none event mem).2⟩

end Event

namespace Execution

def Instance.Roomy (i : Instance) : Prop :=
  0 < i.inbox.capacity

def queued (e : Execution) : Nat :=
  e.instances.sum fun i => i.inbox.total

/--
What an execution becomes handles messages: so many more have arrived than
were injected or forwarded, each is accounted for, and the events say so.
-/
structure Handles (arrived : Nat) (e after : Execution) (events : List Event) : Prop where
  id : after.id = e.id
  own : ∀ event ∈ events, event.execution? = some e.id
  roomy : after.All Instance.Roomy
  messages :
    arrived + events.countP (·.isInjection e.id) + after.metrics.emitted
        + (e.metrics.processed + e.metrics.backpressure + e.queued) =
      after.metrics.processed + after.metrics.backpressure + after.queued + e.metrics.emitted
  overflows :
    after.metrics.backpressure =
      e.metrics.backpressure + events.countP (·.isOverflow e.id)

namespace Handles

variable {e after last : Execution} {events more : List Event} {m n : Nat}

/-- Where counters and mailboxes stay as they are, nothing is handled. -/
theorem of_still (id : after.id = e.id) (roomy : after.All Instance.Roomy)
    (processed : after.metrics.processed = e.metrics.processed)
    (emitted : after.metrics.emitted = e.metrics.emitted)
    (backpressure : after.metrics.backpressure = e.metrics.backpressure)
    (queued : after.queued = e.queued) : Handles 0 e after [] := by
  refine ⟨id, nofun, roomy, ?_, backpressure⟩
  rw [processed, emitted, backpressure, queued, List.countP_nil]
  omega

theorem refl (roomy : e.All Instance.Roomy) : Handles 0 e e [] :=
  of_still rfl roomy rfl rfl rfl rfl

theorem trans (first : Handles m e after events) (second : Handles n after last more) :
    Handles (m + n) e last (events ++ more) := by
  obtain ⟨id, own, _, messages, overflows⟩ := first
  obtain ⟨idLast, ownLast, roomy, messagesLast, overflowsLast⟩ := second
  rw [id] at idLast ownLast messagesLast overflowsLast
  refine ⟨idLast, List.forall_mem_append.mpr ⟨own, ownLast⟩, roomy, ?_, ?_⟩
  · rw [List.countP_append]
    omega
  · rw [List.countP_append]
    omega

/-- Events that count no message may be published as well. -/
theorem announce (handles : Handles n e after [])
    (quiet : ∀ event ∈ events, event.execution? = some e.id ∧ event.counts e.id = false) :
    Handles n e after events := by
  obtain ⟨id, _, roomy, messages, overflows⟩ := handles
  obtain ⟨injections, drops⟩ :=
    Event.countP_eq_zero_of_quiet fun event mem => (quiet event mem).2
  refine ⟨id, fun event mem => (quiet event mem).1, roomy, ?_, ?_⟩
  · rw [injections]
    exact messages
  · rw [drops]
    exact overflows

end Handles

/-! ## What each section handles -/

theorem queued_amend (e : Execution) (node : String) {f : Instance → Instance}
    (keeps : ∀ i, (f i).inbox = i.inbox) : (e.amend node f).queued = e.queued := by
  unfold amend
  cases found : e.instances.get? node with
  | none => rfl
  | some i =>
      have sum := Dict.sum_insert_of_get? (f := fun i => i.inbox.total) found (f i)
      rw [keeps] at sum
      exact Nat.add_right_cancel sum

theorem Instance.skip_inbox (i : Instance) : i.skip.inbox = i.inbox := by
  unfold skip
  split <;> rfl

theorem queued_skipPending (e : Execution) : e.skipPending.queued = e.queued := by
  refine (Dict.sum_map _ _ _).trans ?_
  simp only [Instance.skip_inbox]
  rfl

section Sections

variable {e : Execution} (roomy : e.All Instance.Roomy)
include roomy

theorem handles_deliver {now : Nat} {node port : String} {value : Json} {sent : Change}
    (delivered : e.deliver now node port value = .ok sent) : Handles 1 e sent.1 sent.2 := by
  obtain ⟨after, events⟩ := sent
  obtain ⟨i, found, rfl, rfl⟩ := deliver_eq_ok delivered
  have room : 0 < i.inbox.capacity := roomy node i found
  have total : (i.receive port value).inbox.total + (i.inbox.push port value).2.lost =
      i.inbox.total + 1 := Mailbox.total_push room port value
  have sum := Dict.sum_insert_of_get? (f := fun i => i.inbox.total) found (i.receive port value)
  refine ⟨rfl, ?_, roomy.insert ?_, ?_, ?_⟩
  · intro event mem
    cases outcome : (i.inbox.push port value).2 with
    | queued depth =>
        rw [outcome] at mem
        cases mem
    | droppedOldest depth =>
        rw [outcome] at mem
        rw [List.mem_singleton.mp mem]
        rfl
  · exact (congrArg (0 < ·) (i.inbox.push_capacity port value)).mpr room
  · have none : ((i.inbox.push port value).2.events e.id node port).countP
        (·.isInjection e.id) = 0 := by
      cases (i.inbox.push port value).2 <;> rfl
    rw [none]
    simp only [queued]
    omega
  · cases (i.inbox.push port value).2 with
    | queued depth => rfl
    | droppedOldest depth => simp [Delivery.lost, Delivery.events, Event.isOverflow]

/-- A message from outside is told by an event. -/
theorem handles_inject {now : Nat} {node port : String} {value : Json} {change : Change}
    (accepted : e.inject now node port value = .ok change) :
    Handles 0 e change.1 change.2 := by
  obtain ⟨_, sent, delivered, rfl⟩ := inject_eq_ok accepted
  obtain ⟨id, own, roomy, messages, overflows⟩ := handles_deliver roomy delivered
  refine ⟨id, ?_, roomy, ?_, ?_⟩
  · exact List.forall_mem_append.mpr ⟨own, List.forall_mem_singleton.mpr rfl⟩
  · simp only [List.countP_append, List.countP_singleton, Event.isInjection, beq_self_eq_true,
      if_true] at messages ⊢
    omega
  · simp only [List.countP_append, List.countP_singleton, Event.isOverflow, Bool.false_eq_true,
      if_false, Nat.add_zero]
    exact overflows

/-- A message that is forwarded is told by a counter. -/
theorem handles_forward (now : Nat) (output : Json) (edges : List Graph.Edge) :
    Handles 0 e (forward now output edges (e, [])).1.1 (forward now output edges (e, [])).1.2 := by
  refine forward_keeps (P := fun change => Handles 0 e change.1 change.2) ?_ (.refl roomy)
  intro edge _ before events sent handles delivered
  obtain ⟨id, own, roomy, messages, overflows⟩ :=
    handles.trans (handles_deliver handles.roomy delivered)
  refine ⟨id, own, roomy, ?_, overflows⟩
  simp only [Metrics.emit, queued] at messages ⊢
  omega

/-- A node takes the messages that wait for it. -/
theorem handles_claim {after : Execution} {now : Nat} {node : String} {context : Context}
    (taken : e.claim now node = .taken after context) : Handles 0 e after [] := by
  obtain ⟨i, found, rfl, _⟩ := claim_eq_taken taken
  have sum := Dict.sum_insert_of_get? (f := fun i => i.inbox.total) found i.begin
  have emptied : i.begin.inbox.total = 0 := rfl
  have drained := i.inbox.countAll_drain
  refine ⟨rfl, nofun, roomy.insert (roomy node i found), ?_, rfl⟩
  simp only [queued, Metrics.process, List.countP_nil]
  omega

theorem handles_counted (now : Nat) (node : Graph.Node) (duration : Nat) (success : Bool)
    {f : Instance → Instance} (keeps : ∀ i, (f i).inbox = i.inbox) :
    Handles 0 e (e.counted now node duration success f) [] := by
  have queued : (e.counted now node duration success f).queued = e.queued :=
    queued_amend _ _ keeps
  have all : (e.counted now node duration success f).All Instance.Roomy :=
    roomy.counted _ _ _ _ fun i room => (congrArg (0 < ·.capacity) (keeps i)).mpr room
  rw [counted_eq] at queued all ⊢
  exact .of_still rfl all rfl rfl rfl queued

theorem handles_skipPending : Handles 0 e e.skipPending [] := by
  have all : e.skipPending.All Instance.Roomy :=
    roomy.skipPending fun i room => (congrArg (0 < ·.capacity) i.skip_inbox).mpr room
  exact .of_still rfl all rfl rfl rfl (queued_skipPending e)

/-- Coming to an end handles no message. -/
theorem handles_end (state : State) (ended : Option Nat) (error : Option String) :
    Handles 0 e (skipPending { e.setState state with ended, error }) [] := by
  obtain ⟨id, own, all, messages, overflows⟩ := handles_skipPending roomy
  exact ⟨id, own, all, messages, overflows⟩

theorem handles_fail (now : Nat) (message : String) :
    Handles 0 e (e.fail now message).1 (e.fail now message).2 :=
  (handles_end roomy _ _ _).announce (List.forall_mem_singleton.mpr ⟨rfl, rfl⟩)

theorem handles_recordExpired (now : Nat) (node : Graph.Node) (duration : Nat) (text : String) :
    Handles 0 e (e.recordExpired now node duration text).1
      (e.recordExpired now node duration text).2 := by
  have counted := handles_counted roomy now node duration false
    (f := (·.expire duration text)) fun _ => rfl
  exact counted.trans (handles_fail counted.roomy now _)

theorem handles_record (now : Nat) (node : Graph.Node) (edges : List Graph.Edge)
    (duration : Nat) (report : Action.Report) (context : Context) :
    Handles 0 e (e.record now node edges duration report context).1.1
      (e.record now node edges duration report context).1.2 := by
  have inbox : ∀ i : Instance, (i.conclude duration report).inbox = i.inbox := fun _ => rfl
  cases success : report.success with
  | true =>
      obtain ⟨id, own, roomy, messages, overflows⟩ :=
        handles_counted roomy now node duration true inbox
      have handedOn : Handles 0 e
          { e.counted now node duration true (·.conclude duration report) with
            context := context.remove inputsKey } [] :=
        ⟨id, own, roomy, messages, overflows⟩
      rw [record_of_success _ _ _ _ _ _ success]
      exact handedOn.trans (handles_forward handedOn.roomy _ _ _)
  | false =>
      have counted := handles_counted roomy now node duration false inbox
      rw [record_of_failure _ _ _ _ _ _ success]
      split
      · exact counted
      · exact counted.trans (handles_fail counted.roomy now _)

theorem handles_finish (now duration : Nat) :
    Handles 0 e (e.finish now duration).1 (e.finish now duration).2 := by
  unfold finish
  split
  · exact (handles_end roomy _ _ _).announce (List.forall_mem_singleton.mpr ⟨rfl, rfl⟩)
  · exact handles_skipPending roomy

end Sections

/-! ## What requests handle -/

theorem handles_apply {e : Execution} (roomy : e.All Instance.Roomy) {request : Request}
    {now : Nat} {change : Change} (accepted : request.apply now e = .ok change) :
    Handles 0 e change.1 change.2 := by
  rcases Request.apply_eq_ok accepted with
    ⟨node, port, value, injected⟩ | ⟨state, touched, ended, listed, same, told⟩
  · exact handles_inject roomy injected
  · have still : Handles 0 e change.1 [] := by
      rw [same]
      exact .of_still rfl roomy rfl rfl rfl rfl
    refine still.announce fun event mem => ?_
    have one := told mem
    simp only [List.mem_cons, List.not_mem_nil, or_false] at one
    rcases one with rfl | rfl | rfl <;> exact ⟨rfl, rfl⟩

theorem handles_drive {e after : Execution} (roomy : e.All Instance.Roomy)
    (accepted : e.drive = .ok after) : Handles 0 e after [] := by
  obtain ⟨_, _, rfl⟩ := drive_eq_ok accepted
  exact .of_still rfl roomy rfl rfl rfl rfl

/-- Every step of a run accounts for messages. -/
theorem Run.Changes.handles {σ : Type} {e : Execution} (roomy : e.All Instance.Roomy)
    {phase : Phase σ} {change : Change} (changes : Run.Changes e phase change) :
    Handles 0 e change.1 change.2 := by
  cases changes with
  | silent => exact .refl roomy
  | claim taken => exact handles_claim roomy taken
  | announce => exact (Handles.refl roomy).announce (List.forall_mem_singleton.mpr ⟨rfl, rfl⟩)
  | publish => exact (Handles.refl roomy).announce (List.forall_mem_singleton.mpr ⟨rfl, rfl⟩)
  | record now => exact handles_record roomy _ _ _ _ _ _
  | recordExpired now => exact handles_recordExpired roomy _ _ _ _
  | finish now duration => exact handles_finish roomy _ _

/-- The counters and the mailboxes of an execution agree with what was published about it. -/
structure Balanced (history : List Event) (e : Execution) : Prop where
  roomy : e.All Instance.Roomy
  messages :
    history.countP (·.isInjection e.id) + e.metrics.emitted =
      e.metrics.processed + e.metrics.backpressure + e.queued
  overflows : e.metrics.backpressure = history.countP (·.isOverflow e.id)

namespace Balanced

variable {history events : List Event} {e after : Execution}

theorem handle (balanced : e.Balanced history) (handles : Handles 0 e after events) :
    after.Balanced (history ++ events) := by
  obtain ⟨_, messages, overflows⟩ := balanced
  obtain ⟨id, _, roomy, messagesAfter, overflowsAfter⟩ := handles
  refine ⟨roomy, ?_, ?_⟩
  · rw [id, List.countP_append]
    omega
  · rw [id, List.countP_append]
    omega

/-- Events that count no message of the execution do not matter to it. -/
theorem ignore (balanced : e.Balanced history)
    (quiet : ∀ event ∈ events, event.counts e.id = false) : e.Balanced (history ++ events) := by
  obtain ⟨injections, drops⟩ := Event.countP_eq_zero_of_quiet quiet
  refine ⟨balanced.roomy, ?_, ?_⟩
  · rw [List.countP_append, injections]
    exact balanced.messages
  · rw [List.countP_append, drops]
    exact balanced.overflows

theorem start {id graph : String}
    (quiet : ∀ event ∈ history, event.counts id = false) (nodes : List Graph.Node)
    (capacity : Nat) (context : Context) (now : Nat) :
    (start id graph nodes capacity context now).Balanced history := by
  obtain ⟨injections, drops⟩ := Event.countP_eq_zero_of_quiet quiet
  have empty : (Execution.start id graph nodes capacity context now).queued = 0 := by
    refine Dict.sum_ofList_eq_zero fun entry mem => ?_
    obtain ⟨node, _, rfl⟩ := List.mem_map.mp mem
    rfl
  refine ⟨.start (fun _ => Nat.le_max_right _ _) id graph nodes context now, ?_, drops.symm⟩
  rw [empty]
  exact injections

end Balanced

end Execution

/-! ## Engines -/

namespace Engine

open Execution (Run Phase Handles)

/--
Every execution is balanced, and no message was counted of one that is not
there.
-/
structure Balanced (engine : Engine) : Prop where
  held : ∀ id e, engine.held? id = some e → e.Balanced engine.history
  silent : ∀ id, engine.held? id = none → ∀ event ∈ engine.history, event.counts id = false

namespace Balanced

variable {engine : Engine}

/-- Events that are about no execution count no message. -/
theorem still (balanced : engine.Balanced) {after : Engine} {events : List Event}
    (executions : after.executions = engine.executions)
    (history : after.history = engine.history ++ events)
    (unowned : ∀ event ∈ events, event.execution? = none) : after.Balanced := by
  have held : ∀ id, after.held? id = engine.held? id := fun id =>
    congrArg (List.find? _) executions
  have quiet : ∀ id, ∀ event ∈ events, event.counts id = false := by
    intro id event mem
    by_contra counted
    have about := Event.execution?_of_counts (Bool.not_eq_false _ ▸ counted)
    rw [unowned event mem] at about
    cases about
  refine ⟨fun id e there => ?_, fun id absent => ?_⟩
  · rw [held] at there
    rw [history]
    exact (balanced.held id e there).ignore (quiet e.id)
  · rw [held] at absent
    rw [history]
    exact List.forall_mem_append.mpr ⟨balanced.silent id absent, quiet id⟩

/-- What handles messages may be entered for an execution that is there. -/
theorem enter (balanced : engine.Balanced) {id : String} {e : Execution}
    (held : engine.held? id = some e) {change : Execution.Change}
    (handles : Handles 0 e change.1 change.2) : (engine.enter change).Balanced := by
  have elsewhere : ∀ {other : String}, other ≠ id →
      ∀ event ∈ change.2, event.counts other = false := by
    intro other ne event mem
    by_contra counted
    have about := Event.execution?_of_counts (Bool.not_eq_false _ ▸ counted)
    rw [handles.own event mem, held?_id held] at about
    exact ne (Option.some.inj about).symm
  refine ⟨fun other f there => ?_, fun other absent => ?_⟩
  · rw [history_enter]
    rw [held?_enter_of_held held handles.id] at there
    split at there
    · rw [← Option.some.inj there]
      exact (balanced.held id e held).handle handles
    · rename_i ne
      rw [← held?_id there] at ne
      exact (balanced.held other f there).ignore (elsewhere ne)
  · rw [history_enter]
    rw [held?_enter_of_held held handles.id] at absent
    split at absent
    · cases absent
    · rename_i ne
      exact List.forall_mem_append.mpr ⟨balanced.silent other absent, elsewhere ne⟩

theorem enroll (balanced : engine.Balanced) {after : Engine} {now : Nat} {g : Graph.Loaded}
    {context : Context} {made : String}
    (enrolled : engine.enroll now g context = .ok (after, made)) : after.Balanced := by
  have found := held?_enroll enrolled
  have published := history_enroll enrolled
  have quiet : ∀ id, ∀ event ∈ [Event.executionStarted made g.id], event.counts id = false :=
    fun id => List.forall_mem_singleton.mpr rfl
  refine ⟨fun id e held => ?_, fun id absent => ?_⟩
  · rw [found] at held
    rw [published]
    cases before : engine.held? id with
    | some f =>
        rw [before] at held
        cases held
        exact (balanced.held id e before).ignore (quiet _)
    | none =>
        rw [before, Option.none_or] at held
        split at held
        · rename_i here
          subst here
          cases held
          have silent := List.forall_mem_append.mpr ⟨balanced.silent made before, quiet made⟩
          exact .start silent _ _ _ _
        · cases held
  · rw [found, Option.or_eq_none_iff] at absent
    rw [published]
    exact List.forall_mem_append.mpr ⟨balanced.silent id absent.1, quiet id⟩

theorem withdraw (balanced : engine.Balanced) (graph : String) :
    (engine.withdraw graph).1.Balanced := by
  refine ⟨fun id e held => ?_, fun id absent => ?_⟩
  · rw [held?_withdraw] at held
    obtain ⟨f, there, rfl⟩ := Option.map_eq_some_iff.mp held
    obtain ⟨roomy, messages, overflows⟩ := balanced.held id f there
    split
    · exact ⟨roomy, messages, overflows⟩
    · exact ⟨roomy, messages, overflows⟩
  · rw [held?_withdraw, Option.map_eq_none_iff] at absent
    exact balanced.silent id absent

end Balanced

end Engine

/-! ## Systems -/

namespace System

open Execution (Handles)

variable {σ : Type} {registry : Action.Registry σ}

theorem Alters.handles {s : System σ} {id : String} {e : Execution} {change : Execution.Change}
    (roomy : e.All Execution.Instance.Roomy) (alters : s.Alters id e change) :
    Handles 0 e change.1 change.2 := by
  cases alters with
  | request accepted => exact Execution.handles_apply roomy accepted
  | take accepted => exact Execution.handles_drive roomy accepted
  | go running changes => exact changes.handles roomy

theorem Effect.balanced {s : System σ} {engine : Engine} (effect : s.Effect engine)
    (balanced : s.engine.Balanced) : engine.Balanced := by
  cases effect with
  | still executions limits history unowned => exact balanced.still executions history unowned
  | alter held alters => exact balanced.enter held (alters.handles (balanced.held _ _ held).roomy)
  | withdraw graph => exact balanced.withdraw graph
  | enroll enrolled => exact balanced.enroll enrolled

theorem balanced_performAll {s : System σ} (numbered : s.Numbered)
    (balanced : s.engine.Balanced) (acts : List Act) :
    (s.performAll registry acts).engine.Balanced := by
  induction acts generalizing s with
  | nil => exact balanced
  | cons act rest ih =>
      have effect := effect_of_perform numbered registry act
      exact ih (numbered.perform act) (effect.balanced balanced)

theorem balanced_initial (settings : Settings) (world : Action.World σ) :
    (initial settings world).engine.Balanced := by
  have notHeld : ∀ id, (initial settings world).engine.held? id = none := fun _ => rfl
  refine ⟨fun id e held => ?_, fun id _ event mem => absurd mem List.not_mem_nil⟩
  rw [notHeld] at held
  cases held

/--
Messages are conserved.  After any acts in any order, the messages that were
injected into an execution or forwarded within it are those that its nodes
took, those that were driven out and those that are queued; and as many were
driven out as events say.
-/
theorem messages_conserved {settings : Settings} {world : Action.World σ} {acts : List Act}
    {id : String} {e : Execution}
    (held : ((initial settings world).performAll registry acts).held? id = some e) :
    let history := ((initial settings world).performAll registry acts).engine.history
    history.countP (·.isInjection id) + e.metrics.emitted =
        e.metrics.processed + e.metrics.backpressure + e.queued ∧
      e.metrics.backpressure = history.countP (·.isOverflow id) := by
  have balanced : ((initial settings world).performAll registry acts).engine.Balanced :=
    balanced_performAll (numbered_initial settings world) (balanced_initial settings world) acts
  have balanced := balanced.held id e held
  rw [← Engine.held?_id held]
  exact ⟨balanced.messages, balanced.overflows⟩

/-- Two messages come to the second node from outside and two from the first one. -/
def crowdedRun : List Act :=
  [.load twice, .start "g1" default, .request "e1" (.inject "b" "in" .null),
    .request "e1" (.inject "b" "in" .null), .take "e1"] ++ List.replicate 9 (.go "e1")

theorem messages_conserved_of_crowdedRun :
    ∃ e, ((initial narrow quiet).performAll answering crowdedRun).held? "e1" = some e ∧
      e.metrics.emitted = 2 ∧ e.metrics.backpressure = 3 ∧ e.queued = 1 ∧
      let history := ((initial narrow quiet).performAll answering crowdedRun).engine.history
      history.countP (·.isInjection "e1") + e.metrics.emitted =
          e.metrics.processed + e.metrics.backpressure + e.queued ∧
        e.metrics.backpressure = history.countP (·.isOverflow "e1") := by
  have counters :
      (((initial narrow quiet).performAll answering crowdedRun).held? "e1").map
        (fun e => (e.metrics.emitted, e.metrics.backpressure, e.queued)) = some (2, 3, 1) := by
    decide +kernel
  obtain ⟨e, held, same⟩ := Option.map_eq_some_iff.mp counters
  simp only [Prod.mk.injEq] at same
  exact ⟨e, held, same.1, same.2.1, same.2.2, messages_conserved held⟩

end System

end ActionGraph
