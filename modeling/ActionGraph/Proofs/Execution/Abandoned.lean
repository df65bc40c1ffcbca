import ActionGraph.Proofs.Execution.Pauses
import ActionGraph.Proofs.Execution.Sections

/-!
# Executions that no run took up

A run leaves no node without an end: what had no turn is skipped when the run
ends, and when a node fails.  An execution that is stopped before a run takes
it up keeps its nodes as they were at the start.
-/

namespace ActionGraph

open Execution ActionGraph.Graph

variable {σ : Type}

namespace Execution

/-- What holds of completed nodes, of the one of the turn and of the later ones, holds of all. -/
theorem Stands.forall {turns rest : List Turn} {status : String → Option Status} {turn : Turn}
    {here there : Status} (stands : Stands turns status turn rest here there)
    {P : Status → Prop} (completed : P .completed) (holdsHere : P here) (holdsThere : P there) :
    ∀ t ∈ turns, ∃ st, status t.node.id = some st ∧ P st := by
  obtain ⟨done, split, earlier⟩ := stands.done
  rw [split, List.forall_mem_append, List.forall_mem_cons]
  exact ⟨fun t mem => ⟨_, earlier t mem, completed⟩, ⟨_, stands.here, holdsHere⟩,
    fun t mem => ⟨_, stands.there t mem, holdsThere⟩⟩

/-- Once a run has ended, every node is completed, failed or skipped. -/
theorem Settled.all_settled {lost late : Prop} {turns : List Turn} {s : Standing}
    (settled : Settled lost late turns (· = .skipped) s) :
    ∀ t ∈ turns, ∃ status, s.status t.node.id = some status ∧ status.isSettled = true := by
  cases settled with
  | whole kept notFailed completed => exact fun t mem => ⟨_, completed t mem, rfl⟩
  | broken failed stands => exact stands.forall rfl rfl rfl
  | short hereIdle thereIdle cause stands =>
      exact stands.forall rfl (hereIdle ▸ rfl) (thereIdle ▸ rfl)
  | belated thereIdle happened cancelled stands => exact stands.forall rfl rfl (thereIdle ▸ rfl)

end Execution

theorem Graph.Loaded.Accepted.turns_ne_nil {g : Loaded} (accepted : g.Accepted) :
    g.turns ≠ [] := by
  intro none
  have ids := accepted.orders.sorted
  rw [← accepted.turns_ids, none] at ids
  exact accepted.valid.nodes_ne_nil (List.map_eq_nil_iff.mp ids.nil_eq.symm)

/-- An execution is being driven exactly if there is a run of it. -/
theorem Track.Moves.driven_iff {registry : Action.Registry σ} {g : Loaded} {act : Act}
    {t t' : Track σ} (moves : t.Moves registry g act t')
    (before : t.execution.driven = true ↔ t.phase.isSome) :
    t'.execution.driven = true ↔ t'.phase.isSome := by
  cases moves with
  | stay waits => exact before
  | request accepted =>
      have same : _ = _ := (Request.steered accepted).driven
      exact (congrArg (· = true) same).to_iff.trans before
  | withdraw => exact before
  | take accepted =>
      obtain ⟨_, _, rfl⟩ := drive_eq_ok accepted
      exact iff_of_true rfl rfl
  | go advances =>
      rw [advances.frame.2.2]
      exact before

namespace System

variable {registry : Action.Registry σ} {settings : Settings} {world : Action.World σ}
  {acts : List Act} {id : String} {e : Execution}

theorem driven_iff_run
    (held : ((initial settings world).performAll registry acts).held? id = some e) :
    e.driven = true ↔ (((initial settings world).performAll registry acts).run? id).isSome := by
  have holds := follow (P := fun _ _ t => t.execution.driven = true ↔ t.phase.isSome) ?_ ?_
    (track?_of_held held)
  · obtain ⟨_, _, _, holds⟩ := holds
    rwa [Option.isSome_map] at holds
  · exact fun _ _ _ _ _ _ _ _ => iff_of_false Bool.false_ne_true Bool.false_ne_true
  · exact fun _ _ _ _ _ _ _ _ before moves => moves.driven_iff before

/--
An execution that has ended, and of which no run is under way, has only nodes
that are completed, failed or skipped exactly if a run took it up, whatever
happened in whatever order.  If none did, it was cancelled, and all of its
nodes are pending.
-/
theorem settled_iff_driven
    (held : ((initial settings world).performAll registry acts).held? id = some e)
    (terminal : e.state.isTerminal = true)
    (ended : ∀ run, ((initial settings world).performAll registry acts).run? id = some run →
      run.isOver = true) :
    ((∀ node i, e.instances.get? node = some i → i.status.isSettled = true) ↔
      e.driven = true) ∧
    (e.driven = false → e.state = .cancelled ∧
      ∀ node i, e.instances.get? node = some i → i.status = .pending) := by
  obtain ⟨g, _, accepted, onCourse⟩ := course (track?_of_held held)
  rw [onCourse.keyed.forall_iff accepted (·.isSettled = true),
    onCourse.keyed.forall_status_iff accepted]
  have driven_iff := driven_iff_run held
  have stage := onCourse.stage
  cases running : ((initial settings world).performAll registry acts).run? id with
  | none =>
      rw [running] at driven_iff stage
      obtain ⟨live, _, pending⟩ := stage
      refine ⟨iff_of_false (fun settled => ?_) fun driven => ?_, fun _ => ⟨?_, pending⟩⟩
      · obtain ⟨turn, mem⟩ := List.exists_mem_of_ne_nil _ accepted.turns_ne_nil
        obtain ⟨status, same, ended⟩ := settled turn mem
        rw [← Option.some.inj ((pending turn mem).symm.trans same)] at ended
        cases ended
      · exact absurd (driven_iff.mp driven) Bool.false_ne_true
      · exact State.eq_cancelled_of_live live terminal
  | some run =>
      rw [running] at driven_iff stage
      have driven : e.driven = true := driven_iff.mpr rfl
      obtain ⟨result, answered⟩ := Option.isSome_iff_exists.mp (ended run running)
      rw [Option.map_some, Run.phase_of_result? answered] at stage
      refine ⟨iff_of_true stage.1.all_settled driven, fun free => ?_⟩
      exact absurd (driven.symm.trans free) nofun

def stoppedEarly : List Act :=
  [.load loneNode, .start "g1" default, .request "e1" .stop]

/-- It has ended, no run can take it up any more, and its node is pending. -/
theorem stoppedEarly_leaves_pending :
    let s := (initial default quiet).performAll .empty stoppedEarly
    (s.run? "e1").isNone ∧ (s.attempt .empty (.take "e1")).isNone ∧
      (s.held? "e1").map (fun e => (e.state, (e.instances.get? "a").map (·.status))) =
        some (.cancelled, some .pending) :=
  ⟨rfl, rfl, rfl⟩

theorem settled_iff_of_stoppedEarly :
    ∃ e, ((initial default quiet).performAll .empty stoppedEarly).held? "e1" = some e ∧
      e.state.isTerminal = true ∧
      ((∀ node i, e.instances.get? node = some i → i.status.isSettled = true) ↔
        e.driven = true) ∧
      (e.driven = false → e.state = .cancelled ∧
        ∀ node i, e.instances.get? node = some i → i.status = .pending) := by
  have ended : (((initial default quiet).performAll .empty stoppedEarly).held? "e1").map
      (fun e => e.state.isTerminal) = some true := by
    rfl
  obtain ⟨e, held, terminal⟩ := Option.map_eq_some_iff.mp ended
  refine ⟨e, held, terminal, settled_iff_driven held terminal fun run running => ?_⟩
  cases running

end System

end ActionGraph
