import ActionGraph.Proofs.Execution.Dataflow
import ActionGraph.Proofs.Process.Endings

/-!
# Undisturbed runs

An execution is sent messages, and then a run takes it up.  While nothing more
is asked of the execution, the run comes to the flow of its graph; and if it is
let go on, it comes to an end.
-/

namespace ActionGraph

open Execution ActionGraph.Graph

/-! ## What is asked of an execution -/

namespace Act

/-- Nothing is asked of the execution. -/
def Spares (id : String) : Act → Prop
  | .request execution _ => execution ≠ id
  | _ => True

/-- Nothing but to take a message is asked of the execution, and no run takes it up. -/
def Prepares (id : String) : Act → Prop
  | .request execution asked =>
      execution = id → ∃ node port value, asked = .inject node port value
  | .take execution => execution ≠ id
  | _ => True

def posting? (id : String) : Act → Option Posting
  | .request execution (.inject node port value) =>
      if execution = id then some ⟨node, port, value⟩ else none
  | _ => none

theorem posting?_of_spares {id : String} {act : Act} (spares : act.Spares id) :
    act.posting? id = none := by
  cases act with
  | request execution asked =>
      cases asked with
      | inject node port value => exact if_neg spares
      | _ => rfl
  | _ => rfl

end Act

namespace Execution

/-- Whatever its node may end with, it comes to what the behaviour says. -/
def Phase.Owes {σ : Type} (b : Behaviour) : Phase σ → Prop
  | .working turn _ context _ work => work.Ends fun result => Tells result (b turn.node context)
  | _ => True

section Owes

variable {σ : Type} {registry : Action.Registry σ} {b : Behaviour}

theorem Phase.owes_before (b : Behaviour) (rest : List Turn) :
    (Phase.before rest : Phase σ).Owes b := by
  cases rest with
  | nil => trivial
  | cons turn rest => trivial

theorem Phase.Owes.told {phase : Phase σ} (owes : phase.Owes b) : phase.Told b := by
  cases phase with
  | working turn rest context since work =>
      cases work with
      | done result => exact owes
      | _ => trivial
  | _ => trivial

theorem Phase.Owes.advance {e after : Execution} {phase phase' : Phase σ}
    (honest : ∀ limit node context,
      (Run.assigned registry limit node context).Ends fun result => Tells result (b node context))
    (owes : phase.Owes b) (advances : Run.Advances registry e phase after phase') :
    phase'.Owes b := by
  cases advances with
  | absent unknown => exact owes_before b _
  | announce limit now => exact honest limit _ _
  | work child => exact owes.of_child child
  | @record turn rest duration report context now =>
      generalize (e.record now turn.node turn.edges duration report context).2 = onward
      cases onward with
      | next => exact owes_before b rest
      | _ => trivial
  | _ => trivial

end Owes

end Execution

namespace Track

variable {σ : Type} {registry : Action.Registry σ} {b : Behaviour} {capacity : Nat}
  {g : Loaded} {context : Context} {messages : List Posting} {whole : Flow} {act : Act}
  {t t' : Track σ}

def Strays (b : Behaviour) (t : Track σ) (_ : Act) : Prop :=
  ∃ phase, t.phase = some phase ∧ ¬ phase.Told b

structure Ready (capacity : Nat) (g : Loaded) (context : Context) (messages : List Posting)
    (t : Track σ) : Prop where
  keyed : Keyed g t.execution
  free : t.phase = none
  undriven : t.execution.driven = false
  context : t.execution.context = context
  midway : Midway capacity g.turns t.execution.scene [] messages g.turns g.turns

theorem Ready.start (accepted : g.Accepted) (id : String) (capacity : Nat) (context : Context)
    (now : Nat) :
    Ready (σ := σ) capacity g context [] ⟨.start id g.id g.nodes capacity context now, none⟩ := by
  have distinct : (g.nodes.map (·.id)).Nodup := accepted.nodes_ids ▸ accepted.sorted_nodup
  have fresh : ∀ turn ∈ g.turns,
      (Execution.start id g.id g.nodes capacity context now).instances.get? turn.node.id =
        some (.ofNode capacity turn.node) := by
    intro turn mem
    obtain ⟨node, declared, rfl⟩ := List.mem_map.mp mem
    exact get?_start distinct _ _ _ _ _ declared
  refine ⟨keyed_start accepted id capacity context now, rfl, rfl, rfl,
    List.suffix_rfl, rfl, rfl, nofun, ?_, ?_⟩
  · rintro _ mem
    obtain ⟨turn, listed, rfl⟩ := List.mem_map.mp mem
    exact congrArg (Option.map Instance.face) (fresh turn listed)
  · rintro _ mem i found
    obtain ⟨turn, listed, rfl⟩ := List.mem_map.mp mem
    rw [Option.some.inj (found.symm.trans (fresh turn listed))]
    exact .ofCapacity capacity _

/-- What is not about the execution leaves it ready. -/
theorem Ready.move (ready : t.Ready capacity g context messages)
    (spares : act.Spares t.execution.id) (notTake : act ≠ .take t.execution.id)
    (moves : t.Moves registry g act t') : t'.Ready capacity g context messages := by
  have keyed := moves.keyed ready.keyed
  cases moves with
  | stay waits => exact ready
  | request accepted => exact absurd rfl spares
  | withdraw => exact ⟨keyed, ready.free, ready.undriven, ready.context, ready.midway⟩
  | take accepted => exact absurd rfl notTake
  | go advances => cases ready.free

structure Flows (b : Behaviour) (capacity : Nat) (g : Loaded) (whole : Flow) (t : Track σ) :
    Prop where
  keyed : Keyed g t.execution
  unpaused : t.execution.state ≠ .paused
  flowing : ∃ phase, t.phase = some phase ∧
    Flowing b capacity g.turns whole t.execution.scene phase

theorem Flows.move (accepted : g.Accepted)
    (settled : ∀ r ∈ whole.results, r.2.1.isSettled = true) (flows : t.Flows b capacity g whole)
    (spares : act.Spares t.execution.id) (told : ¬ t.Strays b act)
    (moves : t.Moves registry g act t') : t'.Flows b capacity g whole := by
  have keyed := moves.keyed flows.keyed
  obtain ⟨known, unpaused, phase, there, flowing⟩ := flows
  cases moves with
  | stay waits => exact ⟨keyed, unpaused, phase, there, flowing⟩
  | request accepted => exact absurd rfl spares
  | withdraw => exact ⟨keyed, unpaused, phase, there, flowing⟩
  | take accepted => cases there
  | go advances =>
      cases there
      have heard : phase.Told b := by_contra fun strays => told ⟨phase, rfl, strays⟩
      exact ⟨keyed, advances.unpaused unpaused, _, rfl,
        flowing.advance accepted known settled heard advances⟩

end Track

namespace System

variable {σ : Type} {registry : Action.Registry σ} {b : Behaviour} {capacity : Nat} {g : Loaded}
  {context : Context} {messages : List Posting} {whole : Flow} {s : System σ} {id : String}
  {t : Track σ}

/-! ## Before the run -/

/-- A message that is refused is for no node, and would come to no mailbox. -/
theorem unknown_of_refused (held : s.held? id = some t.execution)
    (running : t.execution.state = .running) {node port : String} {value : Json}
    (refused : s.attempt registry (.request id (.inject node port value)) = none) :
    t.execution.scene.face? node = none := by
  cases delivered : t.execution.deliver s.now node port value with
  | error failure =>
      rw [← Option.not_isSome_iff_eq_none, isSome_face?, deliver_of_error delivered]
      exact nofun
  | ok sent =>
      have accepted : (Request.inject node port value).apply s.now t.execution =
          .ok (sent.1, sent.2 ++ [.messageInjected t.execution.id node port]) := by
        rw [Request.apply, inject, if_neg (not_not_intro running), delivered]
        rfl
      rw [attempt_request_iff.mpr ⟨_, held, _, accepted, rfl⟩] at refused
      cases refused

theorem ready_inject (tracked : s.track? id = some t)
    (ready : t.Ready capacity g context messages) (node port : String) (value : Json) :
    ∃ t', (s.perform registry (.request id (.inject node port value))).track? id = some t' ∧
      t'.Ready capacity g context (messages ++ [⟨node, port, value⟩]) := by
  obtain ⟨held, idle⟩ := track?_eq_some_iff.mp tracked
  cases done : s.attempt registry (.request id (.inject node port value)) with
  | none =>
      rw [perform_of_none done]
      have unknown := unknown_of_refused held ready.midway.running done
      exact ⟨t, tracked, ready.keyed, ready.free, ready.undriven, ready.context,
        ready.midway.receive (Scene.receives_of_unknown _ unknown)⟩
  | some s' =>
      obtain ⟨sameRuns, _, e, change, heldThere, applied, heldAfter⟩ := attempt_request done
      obtain rfl : e = t.execution := Option.some.inj (heldThere.symm.trans held)
      have steered := Request.steered applied
      have moves : t.Moves registry g (.request t.execution.id (.inject node port value))
          ⟨change.1, t.phase⟩ := .request applied
      obtain ⟨_, sent, delivered, rfl⟩ := inject_eq_ok applied
      have received := receives_deliver delivered
      rw [perform_of_some done]
      refine ⟨⟨sent.1, t.phase⟩, ?_, moves.keyed ready.keyed, ready.free,
        steered.driven.trans ready.undriven, received.context.trans ready.context,
        ready.midway.receive received⟩
      rw [track?_eq_some_iff, heldAfter, if_pos rfl, run?, sameRuns]
      exact ⟨rfl, idle⟩

/-- Whose execution it is and of which graph stays the same in every act. -/
theorem graph_of_perform (sound : s.Sound) (tracked : s.track? id = some t)
    (found : s.graph? t.execution.graph = some g) {act : Act} {t' : Track σ}
    (after : (s.perform registry act).track? id = some t') :
    (s.perform registry act).graph? t'.execution.graph = some g := by
  obtain ⟨t'', there, moves⟩ : ∃ t'', (s.perform registry act).track? id = some t'' ∧
      t.Moves registry g act t'' := moves_of_perform sound tracked found
  obtain rfl : t'' = t' := Option.some.inj (there.symm.trans after)
  rw [moves.frame.2]
  exact graph?_perform found

theorem ready_perform (sound : s.Sound) (tracked : s.track? id = some t)
    (found : s.graph? t.execution.graph = some g) (ready : t.Ready capacity g context messages)
    {act : Act} (prepares : act.Prepares id) :
    ∃ t', (s.perform registry act).track? id = some t' ∧
      t'.Ready capacity g context (messages ++ (act.posting? id).toList) := by
  have elsewhere : act.Spares id → act ≠ .take id → ∃ t',
      (s.perform registry act).track? id = some t' ∧
        t'.Ready capacity g context (messages ++ (act.posting? id).toList) := by
    intro spares notTake
    rw [Act.posting?_of_spares spares, Option.toList_none, List.append_nil]
    obtain ⟨t', after, moves⟩ : ∃ t', (s.perform registry act).track? id = some t' ∧
        t.Moves registry g act t' := moves_of_perform sound tracked found
    rw [← track?_id tracked] at spares notTake
    exact ⟨t', after, ready.move spares notTake moves⟩
  cases act with
  | request execution asked =>
      by_cases here : execution = id
      · subst here
        obtain ⟨node, port, value, rfl⟩ := prepares rfl
        rw [Act.posting?, if_pos rfl]
        exact ready_inject tracked ready node port value
      · exact elsewhere here nofun
  | take execution => exact elsewhere trivial fun same => prepares (Act.take.inj same)
  | _ => exact elsewhere trivial nofun

theorem ready_performAll (sound : s.Sound) (tracked : s.track? id = some t)
    (found : s.graph? t.execution.graph = some g) (ready : t.Ready capacity g context messages)
    {acts : List Act} (prepares : ∀ act ∈ acts, act.Prepares id) :
    ∃ t', (s.performAll registry acts).track? id = some t' ∧
      (s.performAll registry acts).graph? t'.execution.graph = some g ∧
      t'.Ready capacity g context (messages ++ acts.filterMap (·.posting? id)) := by
  induction acts generalizing s t messages with
  | nil =>
      rw [List.filterMap_nil, List.append_nil]
      exact ⟨t, tracked, found, ready⟩
  | cons act rest ih =>
      rw [List.forall_mem_cons] at prepares
      obtain ⟨t', after, still⟩ : ∃ t', (s.perform registry act).track? id = some t' ∧ _ :=
        ready_perform sound tracked found ready prepares.1
      have later := ih (sound.perform registry act) after
        (graph_of_perform sound tracked found after) still prepares.2
      have split : (act :: rest).filterMap (·.posting? id) =
          (act.posting? id).toList ++ rest.filterMap (·.posting? id) := by
        cases posted : act.posting? id with
        | none => exact List.filterMap_cons_none posted
        | some message => exact List.filterMap_cons_some posted
      rw [split, ← List.append_assoc]
      exact later

/-! ## The run -/

/-- A run takes up an execution that is ready. -/
theorem flows_take (sound : s.Sound) (tracked : s.track? id = some t)
    (found : s.graph? t.execution.graph = some g) (ready : t.Ready capacity g context messages)
    (registry : Action.Registry σ) (b : Behaviour) :
    ∃ t', (s.perform registry (.take id)).track? id = some t' ∧
      t'.Flows b capacity g (Flow.ofTurns b capacity g.turns context messages) := by
  obtain ⟨held, idle⟩ := track?_eq_some_iff.mp tracked
  have running : t.execution.state = .running := ready.midway.running
  have live : ¬ t.execution.state.isTerminal = true := by
    rw [running]
    exact nofun
  have free : ¬ t.execution.driven = true := by
    rw [ready.undriven]
    exact nofun
  have driven : t.execution.drive = .ok { t.execution with driven := true } := by
    rw [drive, if_neg live, if_neg free]
  obtain ⟨s', done⟩ : ∃ s', s.attempt registry (.take id) = some s' :=
    ⟨_, attempt_take_iff.mpr ⟨_, held, g, found, _, driven, rfl⟩⟩
  obtain ⟨_, e, g', after, heldThere, foundThere, accepted, _, heldAfter, runAfter⟩ :=
    attempt_take done
  obtain rfl : e = t.execution := Option.some.inj (heldThere.symm.trans held)
  obtain rfl : g' = g := Option.some.inj (foundThere.symm.trans found)
  obtain ⟨_, _, rfl⟩ := drive_eq_ok accepted
  rw [perform_of_some done]
  refine ⟨⟨{ t.execution with driven := true }, some (.before g'.turns)⟩, ?_, ready.keyed, ?_, ?_⟩
  · rw [track?_eq_some_iff, heldAfter, runAfter, sound.run?_of_free held ready.undriven,
      if_pos rfl, if_pos rfl]
    exact ⟨rfl, rfl⟩
  · exact fun paused => nomatch running.symm.trans paused
  · refine ⟨_, rfl, Waiting.before ⟨[], messages, ready.midway, ?_⟩⟩
    rw [show Scene.context _ = context from ready.context]
    rfl

/-- A run goes on with the flow while nothing is asked of its execution. -/
theorem flows_performAll (accepted : g.Accepted)
    (settled : ∀ r ∈ whole.results, r.2.1.isSettled = true) (sound : s.Sound)
    (tracked : s.track? id = some t) (found : s.graph? t.execution.graph = some g)
    (flows : t.Flows b capacity g whole) {acts : List Act}
    (spares : ∀ act ∈ acts, act.Spares id)
    (follows : ¬ Seen registry id (Track.Strays b) s acts) :
    ∃ t', (s.performAll registry acts).track? id = some t' ∧ t'.Flows b capacity g whole := by
  induction acts generalizing s t with
  | nil => exact ⟨t, tracked, flows⟩
  | cons act rest ih =>
      rw [List.forall_mem_cons] at spares
      rw [Seen, not_or] at follows
      obtain ⟨t', after, moves⟩ : ∃ t', (s.perform registry act).track? id = some t' ∧
          t.Moves registry g act t' := moves_of_perform sound tracked found
      have spared : act.Spares t.execution.id := track?_id tracked ▸ spares.1
      have told : ¬ t.Strays b act := fun strays => follows.1 ⟨t, tracked, strays⟩
      exact ih (sound.perform registry act) after (graph_of_perform sound tracked found after)
        (flows.move accepted settled spared told moves) spares.2 follows.2

/-- If every dispatch can only end as the behaviour says, no run strays from it. -/
theorem not_strays
    (honest : ∀ limit node context,
      (Run.assigned registry limit node context).Ends fun result => Tells result (b node context))
    (sound : s.Sound) (tracked : s.track? id = some t)
    (owes : ∀ phase, t.phase = some phase → phase.Owes b) (acts : List Act) :
    ¬ Seen registry id (Track.Strays b) s acts := by
  induction acts generalizing s t with
  | nil => exact not_false
  | cons act rest ih =>
      obtain ⟨g, found⟩ := sound.graphs id t.execution (track?_eq_some_iff.mp tracked).1
      obtain ⟨t', after, moves⟩ : ∃ t', (s.perform registry act).track? id = some t' ∧
          t.Moves registry g act t' := moves_of_perform sound tracked found
      have still : ∀ phase, t'.phase = some phase → phase.Owes b := by
        cases moves with
        | stay waits => exact owes
        | request accepted => exact owes
        | withdraw => exact owes
        | take accepted =>
            rintro _ ⟨⟩
            exact Phase.owes_before b _
        | go advances =>
            rintro _ ⟨⟩
            exact (owes _ rfl).advance honest advances
      rintro (⟨_, there, phase, here, strays⟩ | later)
      · obtain rfl : t = _ := Option.some.inj (tracked.symm.trans there)
        exact strays (owes phase here).told
      · exact ih (sound.perform registry act) after still later

/-! ## The end of the run -/

/-- A step of a run brings it nearer to its end. -/
theorem nearer_of_go {s' : System σ} {run : Run σ} (running : s.run? id = some run)
    (done : s.attempt registry (.go id) = some s') :
    ∃ next, s'.run? id = some next ∧ next.Nearer run := by
  obtain ⟨run', running', next, place, stepped, rfl⟩ := attempt_go_iff.mp done
  obtain rfl : run' = run := Option.some.inj (running'.symm.trans running)
  have named : next.execution = id :=
    (Run.execution_of_step stepped).trans (run?_execution running)
  exact ⟨next, (run?_replace running named id).trans (if_pos rfl), Run.nearer_step stepped⟩

/-- The run of an execution answers if it is let go on while time passes. -/
def Completes (registry : Action.Registry σ) (s : System σ) (id : String) : Prop :=
  ∃ more : List Act, (∀ act ∈ more, act = .go id ∨ ∃ milliseconds, act = .pass milliseconds) ∧
    ((s.performAll registry more).result? id).isSome

theorem Completes.of_perform {act : Act}
    (lets : act = .go id ∨ ∃ milliseconds, act = .pass milliseconds)
    (completes : (s.perform registry act).Completes registry id) : s.Completes registry id := by
  obtain ⟨more, later, ends⟩ := completes
  exact ⟨act :: more, List.forall_mem_cons.mpr ⟨lets, later⟩, ends⟩

theorem completes_of_ended {run : Run σ} (running : s.run? id = some run)
    {result : Except Failure Report} (here : run.phase = .ended result) :
    s.Completes registry id := by
  refine ⟨[], List.forall_mem_nil _, ?_⟩
  rw [performAll, List.foldl_nil, result?, running, Option.bind_some, Run.result?, here]
  rfl

/-- A run that waits for its node goes on when the alarm rings. -/
theorem exists_go_of_waits (registry : Action.Registry σ) {e : Execution}
    (held : s.held? id = some e) {run : Run σ} (running : s.run? id = some run) {turn : Turn}
    {rest : List Turn} {since : Nat} {alarm : Alarm} {next : Work σ}
    (here : run.phase = .working turn rest context since (.wait alarm next)) :
    ∃ s', (s.perform registry (.pass alarm.due)).attempt registry (.go id) = some s' := by
  have due : alarm.due ≤ (s.perform registry (.pass alarm.due)).place.world.now :=
    Nat.le_add_left _ _
  have there : (s.perform registry (.pass alarm.due)).place.engine.held? run.execution =
      some e := by
    rw [run?_execution running]
    exact held
  obtain ⟨⟨after, place⟩, stepped⟩ := Run.exists_step_of_due registry there here due
  exact ⟨_, attempt_go_iff.mpr ⟨run, running, after, place, stepped, rfl⟩⟩

/-- A run that no pause holds up comes to its end. -/
theorem completes_of_unpaused (registry : Action.Registry σ) (sound : s.Sound) {e : Execution}
    (held : s.held? id = some e) (unpaused : e.state ≠ .paused) {run : Run σ}
    (running : s.run? id = some run) : s.Completes registry id := by
  induction run using Run.nearer_wf.induction generalizing s e with
  | h run nearer_completes =>
      have goOn : ∀ s : System σ, s.Sound → s.held? id = some e → s.run? id = some run →
          ∀ s', s.attempt registry (.go id) = some s' → s.Completes registry id := by
        intro s sound held running s' done
        obtain ⟨next, running', nearer⟩ := nearer_of_go running done
        obtain ⟨_, _, _, after, _, advances, heldAfter, _⟩ := attempt_go held done
        have held' := heldAfter id
        rw [if_pos rfl] at held'
        have sound' := sound.perform registry (.go id)
        refine .of_perform (.inl rfl) ?_
        rw [perform_of_some done] at sound' ⊢
        exact nearer_completes next nearer sound' held' (advances.unpaused unpaused) running'
      cases done : s.attempt registry (.go id) with
      | some s' => exact goOn s sound held running s' done
      | none =>
          rcases (waits_of_attempt_none held running done).unpaused unpaused with
            ⟨turn, rest, context, since, alarm, next, here⟩ | ⟨result, here⟩
          · obtain ⟨s', later⟩ := exists_go_of_waits registry held running here
            refine .of_perform (.inr ⟨alarm.due, rfl⟩) ?_
            exact goOn _ (sound.perform registry _) held running s' later
          · exact completes_of_ended running here

end System

/-! ## The run and the flow -/

namespace Execution.Flow

variable {flow : Flow} {e : Execution} {g : Loaded}

structure ShownBy (flow : Flow) (e : Execution) : Prop where
  state : e.state = flow.state
  context : e.context = flow.context
  /-- There is no other node, and each stands and has put out as it says. -/
  nodes : ∀ node, (e.instances.get? node).map (fun i => (i.status, i.output)) =
    Entries.find? node flow.results

def Answers (flow : Flow) : Except Failure Report → Prop
  | .ok report => flow.failure = none ∧ flow.ShownBy report.execution ∧
      ∀ node output,
        (node, output) ∈ report.outputs ↔ ∃ status, (node, status, some output) ∈ flow.results
  | .error failure => flow.failure = some failure

theorem Reached.shownBy (accepted : g.Accepted) (keyed : Keyed g e)
    (ids : flow.results.map (·.1) = g.turns.map (·.node.id)) (reached : flow.Reached e.scene) :
    flow.ShownBy e := by
  refine ⟨reached.state, reached.context, fun node => ?_⟩
  have sorted : flow.results.map (·.1) = g.topology.sorted := ids.trans accepted.turns_ids
  by_cases mem : node ∈ g.topology.sorted
  · rw [← sorted] at mem
    obtain ⟨⟨_, shown⟩, listed, rfl⟩ := List.mem_map.mp mem
    refine (reached.results _ listed).trans (Entries.find?_of_mem ?_ listed).symm
    exact sorted ▸ accepted.sorted_nodup
  · have absent : e.scene.face? node = none := by
      rw [← Option.not_isSome_iff_eq_none, isSome_face?, keyed]
      exact mem
    refine absent.trans ?_
    cases found : Entries.find? node flow.results with
    | none => rfl
    | some shown =>
        have listed := List.mem_map_of_mem (f := (·.1)) (Entries.mem_of_find? found)
        exact absurd (sorted ▸ listed) mem

/-- Nothing but the scene matters. -/
theorem ShownBy.congr (shown : flow.ShownBy e) {other : Execution} (same : other.scene = e.scene) :
    flow.ShownBy other where
  state := (congrArg Scene.state same).trans shown.state
  context := (congrArg Scene.context same).trans shown.context
  nodes node := (congrArg (·.face? node) same).trans (shown.nodes node)

theorem ShownBy.mem_outputs {report : Report} (shown : flow.ShownBy report.execution)
    (apart : (flow.results.map (·.1)).Nodup) (node : String) (output : Json) :
    (node, output) ∈ report.outputs ↔ ∃ status, (node, status, some output) ∈ flow.results := by
  have nodes := shown.nodes node
  rw [Report.outputs, List.mem_filterMap]
  constructor
  · rintro ⟨⟨id, i⟩, mem, same⟩
    obtain ⟨_, there, same⟩ := Option.map_eq_some_iff.mp same
    cases same
    rw [(Dict.mem_entries_iff _ _ _).mp mem, Option.map_some, there] at nodes
    exact ⟨i.status, Entries.mem_of_find? nodes.symm⟩
  · rintro ⟨status, listed⟩
    rw [Entries.find?_of_mem apart listed] at nodes
    obtain ⟨i, found, same⟩ := Option.map_eq_some_iff.mp nodes
    obtain ⟨_, there⟩ := Prod.mk.inj same
    exact ⟨(node, i), (Dict.mem_entries_iff _ _ _).mpr found,
      congrArg (Option.map fun output => (node, output)) there⟩

theorem ShownBy.answers (accepted : g.Accepted)
    (ids : flow.results.map (·.1) = g.turns.map (·.node.id)) (shown : flow.ShownBy e)
    {result : Except Failure Report} (ends : flow.Ends e.scene result) : flow.Answers result := by
  cases result with
  | error failure => exact ends
  | ok report =>
      obtain ⟨whole, still⟩ := ends
      have reported : flow.ShownBy report.execution := shown.congr still
      refine ⟨whole, reported, reported.mem_outputs ?_⟩
      rw [ids, accepted.turns_ids]
      exact accepted.sorted_nodup

end Execution.Flow

namespace System

variable {σ : Type} {registry : Action.Registry σ}

/-- The whole way from the start of an execution: messages, a run, and its steps. -/
theorem flows_of_fresh {s : System σ} (sound : s.Sound) {before during : List Act} {id : String}
    {g : Loaded} {capacity now : Nat} {context : Context} {b : Behaviour}
    (found : s.graph? g.id = some g)
    (fresh : s.held? id = some (.start id g.id g.nodes capacity context now))
    (prepares : ∀ act ∈ before, act.Prepares id) (spares : ∀ act ∈ during, act.Spares id)
    (follows : ¬ Seen registry id (Track.Strays b) s (before ++ .take id :: during)) :
    ∃ t, (s.performAll registry (before ++ .take id :: during)).track? id = some t ∧
      t.Flows b capacity g
        (Flow.ofTurns b capacity g.turns context (before.filterMap (·.posting? id))) := by
  have accepted := graph?_accepted sound found
  have tracked : s.track? id = some ⟨.start id g.id g.nodes capacity context now, none⟩ := by
    rw [track?_of_held fresh, sound.run?_of_free fresh rfl]
    rfl
  obtain ⟨t, tracked, found, ready⟩ :=
    ready_performAll sound tracked found (.start accepted id capacity context now) prepares
  rw [List.nil_append] at ready
  have sound := sound.performAll registry before
  obtain ⟨t', tracked', begun⟩ := flows_take sound tracked found ready registry b
  rw [seen_append, not_or, Seen, not_or] at follows
  rw [performAll_append]
  exact flows_performAll accepted (Flow.results_settled b capacity g.turns context _)
    (sound.perform registry (.take id)) tracked' (graph_of_perform sound tracked found tracked')
    begun spares follows.2.2

/--
An execution was started, was sent messages and was taken up by a run, and then
nothing was asked of it.  If its nodes come to what a behaviour says, the run
comes to the flow of that behaviour over the turns of the graph: what it answers
is the answer of the flow, and the execution shows it.  And the run does answer.
-/
theorem run_equals_flow {s : System σ} {settings : Settings} {world : Action.World σ}
    {earlier before during : List Act} {id : String} {g : Loaded} {capacity now : Nat}
    {context : Context} {b : Behaviour}
    (reached : s = (initial settings world).performAll registry earlier)
    (found : s.graph? g.id = some g)
    (fresh : s.held? id = some (.start id g.id g.nodes capacity context now))
    (prepares : ∀ act ∈ before, act.Prepares id) (spares : ∀ act ∈ during, act.Spares id)
    (follows : ¬ Seen registry id (Track.Strays b) s (before ++ .take id :: during)) :
    let after := s.performAll registry (before ++ .take id :: during)
    let flow := Flow.ofTurns b capacity g.turns context (before.filterMap (·.posting? id))
    (∀ result, after.result? id = some result →
      flow.Answers result ∧ ∃ e, after.held? id = some e ∧ flow.ShownBy e) ∧
    after.Completes registry id := by
  intro after flow
  have sound : s.Sound := reached ▸ (sound_initial settings world).performAll registry earlier
  have accepted := graph?_accepted sound found
  obtain ⟨t, tracked, flows⟩ := flows_of_fresh sound found fresh prepares spares follows
  obtain ⟨held, there⟩ := track?_eq_some_iff.mp tracked
  obtain ⟨phase, here, flowing⟩ := flows.flowing
  obtain ⟨run, running, rfl⟩ := Option.map_eq_some_iff.mp (there.symm.trans here)
  refine ⟨fun result answered => ?_, ?_⟩
  · rw [result?, running, Option.bind_some] at answered
    rw [Run.phase_of_result? answered] at flowing
    obtain ⟨all, ends⟩ := flowing
    have ids := Flow.results_ids b capacity g.turns context (before.filterMap (·.posting? id))
    have shown : flow.ShownBy t.execution := all.shownBy accepted flows.keyed ids
    exact ⟨shown.answers accepted ids ends, t.execution, held, shown⟩
  · exact completes_of_unpaused registry (sound.performAll registry _) held flows.unpaused running

/-! ## Nodes that tell what they saw -/

/-- The output of a node that tells what it saw. -/
def tale (saw : Json) : Json :=
  .ofFields [("left", .str "l"), ("saw", saw)]

def taleOf (context : Context) : Json :=
  tale ((context.get? inputsKey).getD .null)

def telling : Action.Registry Unit :=
  Action.Registry.empty.register
    { type := "task"
      description := ""
      run := fun _ _ context => .done (.unchanged context (.ok (.ok (taleOf context)))) }

def told : Behaviour := fun node context =>
  if node.component = "task" then .success (taleOf context) context else .failure none

theorem tells_told (limit : Nat) (node : Node) (context : Context) :
    (Run.assigned telling limit node context).Ends fun result =>
      Tells result (told node context) := by
  by_cases task : node.component = "task"
  · rw [told, if_pos task, Run.assigned, Run.spec, task]
    intro limited start stop
    exact .success rfl rfl
  · have unknown : telling.get? (Run.spec node).type = none := by
      rw [telling, Action.Registry.register, Action.Registry.get?, Dict.get?_insert]
      exact if_neg task
    rw [told, if_neg task, Run.assigned, Action.Registry.dispatch, Action.Registry.dispatchWithin,
      unknown]
    intro limited
    exact .failure rfl

def roomForTwo : Settings :=
  { Settings.defaults with
    executor := { Settings.Defaults.executor with maxQueueDepth := 2 } }

/-- An execution of two nodes, the first of which sends two messages to a port of the second. -/
def begun : System Unit :=
  (initial roomForTwo quiet).performAll telling [.load twice, .start "g1" default]

/-- One message comes to a port of the second node from outside and two from the first one. -/
def toldRun : List Act :=
  [.request "e1" (.inject "b" "in" .null)] ++ .take "e1" :: List.replicate 20 (.go "e1")

/-- One port selects a field and the other one all, and the oldest message is driven out. -/
theorem run_equals_flow_of_toldRun :
    ∃ g result e, begun.graph? g.id = some g ∧
      (begun.performAll telling toldRun).result? "e1" = some result ∧
      (begun.performAll telling toldRun).held? "e1" = some e ∧
      let flow := Flow.ofTurns told 2 g.turns default [⟨"b", "in", .null⟩]
      flow.Answers result ∧ flow.ShownBy e ∧
        flow.results =
          [("a", .completed, some (tale (.ofFields []))),
            ("b", .completed,
              some (tale (.ofFields [("in", .arr [.str "l", tale (.ofFields [])])])))] := by
  have loaded : (begun.graph? "g1").isSome := by decide +kernel
  obtain ⟨g, found⟩ := Option.isSome_iff_exists.mp loaded
  have computed : (begun.graph? "g1").map (fun g =>
      ((Flow.ofTurns told 2 g.turns default [⟨"b", "in", .null⟩]).results, begun.held? "e1")) =
      (begun.graph? "g1").map fun g =>
        ([("a", .completed, some (tale (.ofFields []))),
            ("b", .completed,
              some (tale (.ofFields [("in", .arr [.str "l", tale (.ofFields [])])])))],
          some (.start "e1" g.id g.nodes 2 default 0)) := by
    decide +kernel
  rw [found, Option.map_some, Option.map_some, Option.some.injEq, Prod.mk.injEq] at computed
  obtain ⟨results, fresh⟩ := computed
  rw [← graph?_id found] at found
  have prepares : ∀ act ∈ [Act.request "e1" (.inject "b" "in" .null)], act.Prepares "e1" :=
    List.forall_mem_singleton.mpr fun _ => ⟨"b", "in", .null, rfl⟩
  have spares : ∀ act ∈ List.replicate 20 (Act.go "e1"), act.Spares "e1" := by
    intro act mem
    rw [List.eq_of_mem_replicate mem]
    trivial
  have sound : begun.Sound := (sound_initial roomForTwo quiet).performAll telling _
  have follows : ¬ Seen telling "e1" (Track.Strays told) begun toldRun := by
    refine not_strays tells_told sound (track?_of_held fresh) (fun phase there => ?_) toldRun
    rw [sound.run?_of_free fresh rfl, Option.map_none] at there
    cases there
  have answered : ((begun.performAll telling toldRun).result? "e1").isSome := by
    decide +kernel
  obtain ⟨result, returned⟩ := Option.isSome_iff_exists.mp answered
  obtain ⟨answers, e, held, shown⟩ :=
    (run_equals_flow rfl found fresh prepares spares follows).1 result returned
  exact ⟨g, result, e, found, returned, held, answers, shown, results⟩

end System

end ActionGraph
