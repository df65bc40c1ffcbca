import ActionGraph.Proofs.Execution.Course

/-!
# Pauses and lost turns

A run looks whether its execution is paused before the claim of a node, not in
the claim.  A pause in between makes the claim fail and ends the turns; after
a resume the execution is completed without the nodes that were left.  That is
the only way in which a completed execution has a node that is not.
-/

namespace ActionGraph

open Execution ActionGraph.Graph

variable {σ : Type}

/-- Once completed, the nodes of an execution are so exactly if no turn was lost. -/
theorem Execution.Settled.completed_iff {lost late : Prop} {turns : List Turn}
    {idle : Status → Prop} {s : Standing} (settled : Settled lost late turns idle s)
    (completed : s.state = .completed) (notIdle : ¬ idle .completed) :
    (∀ t ∈ turns, s.status t.node.id = some .completed) ↔ ¬ lost := by
  cases settled with
  | whole kept notFailed all => exact iff_of_true all kept
  | broken failed stands => exact absurd (failed.symm.trans completed) nofun
  | @short turn rest here there hereIdle thereIdle cause stands =>
      have lost := cause.resolve_right fun cancelled =>
        absurd (cancelled.symm.trans completed) nofun
      refine iff_of_false (fun all => ?_) (not_not.mpr lost)
      have same := stands.here.symm.trans (all turn stands.mem)
      rw [Option.some.inj same] at hereIdle
      exact notIdle hereIdle
  | belated thereIdle happened cancelled stands =>
      exact absurd (cancelled.symm.trans completed) nofun

theorem Execution.Stage.completed_iff {lost late : Prop} {turns : List Turn} {s : Standing}
    {phase : Option (Phase σ)} (stage : Stage lost late turns s phase)
    (completed : s.state = .completed) :
    (∀ t ∈ turns, s.status t.node.id = some .completed) ↔ ¬ lost := by
  cases phase with
  | none => exact absurd completed stage.1.1
  | some phase =>
      cases phase with
      | settling => exact Settled.completed_iff stage completed nofun
      | finishing => exact Settled.completed_iff stage completed nofun
      | ended result => exact stage.1.completed_iff completed nofun
      | expiring turn duration failure =>
          obtain ⟨rest, atTurn⟩ := stage
          exact absurd completed atTurn.live.1
      | _ => exact absurd completed stage.live.1

/-- Every instance stands as said exactly if the node of every turn does. -/
theorem Execution.Keyed.forall_iff {g : Loaded} (accepted : g.Accepted) {e : Execution}
    (keyed : Keyed g e) (P : Status → Prop) :
    (∀ node i, e.instances.get? node = some i → P i.status) ↔
      ∀ t ∈ g.turns, ∃ status, e.status? t.node.id = some status ∧ P status := by
  have mem_iff : ∀ node, (e.status? node).isSome ↔ ∃ t ∈ g.turns, t.node.id = node := by
    intro node
    rw [keyed node, ← accepted.turns_ids, List.mem_map]
  constructor
  · intro all t mem
    obtain ⟨status, found⟩ := Option.isSome_iff_exists.mp ((mem_iff _).mpr ⟨t, mem, rfl⟩)
    obtain ⟨i, there, rfl⟩ := Option.map_eq_some_iff.mp found
    exact ⟨i.status, found, all _ i there⟩
  · intro all node i there
    have found : e.status? node = some i.status := by
      rw [status?, there]
      rfl
    obtain ⟨t, mem, rfl⟩ := (mem_iff node).mp (found ▸ rfl)
    obtain ⟨status, same, holds⟩ := all t mem
    rwa [Option.some.inj (found.symm.trans same)]

theorem Execution.Keyed.forall_status_iff {g : Loaded} (accepted : g.Accepted) {e : Execution}
    (keyed : Keyed g e) (status : Status) :
    (∀ node i, e.instances.get? node = some i → i.status = status) ↔
      ∀ t ∈ g.turns, e.status? t.node.id = some status := by
  rw [keyed.forall_iff accepted (· = status)]
  simp only [exists_eq_right]

namespace System

/--
A completed execution has only completed nodes exactly if none of its turns
was lost, whatever else happened in whatever order.
-/
theorem completed_iff_no_turn_lost {registry : Action.Registry σ} {settings : Settings}
    {world : Action.World σ} {acts : List Act} {id : String} {e : Execution}
    (held : ((initial settings world).performAll registry acts).held? id = some e)
    (completed : e.state = .completed) :
    (∀ node i, e.instances.get? node = some i → i.status = .completed) ↔
      ¬ Seen registry id Track.LosesTurn (initial settings world) acts := by
  obtain ⟨g, _, accepted, onCourse⟩ := course (track?_of_held held)
  rw [onCourse.keyed.forall_status_iff accepted]
  exact onCourse.stage.completed_iff completed

/-- A pause between the look at the state and the claim, and a resume after the claim. -/
def pausedClaim : List Act :=
  [.load loneNode, .start "g1" default, .take "e1", .go "e1", .request "e1" .pause, .go "e1",
    .request "e1" .resume, .go "e1", .go "e1"]

/-- The only node is skipped, and yet the execution is completed. -/
theorem pausedClaim_skips_node :
    (((initial default quiet).performAll .empty pausedClaim).held? "e1").map
        (fun e => (e.state, (e.instances.get? "a").map (·.status))) =
      some (.completed, some .skipped) := by
  rfl

theorem completed_iff_of_pausedClaim :
    ∃ e, ((initial default quiet).performAll .empty pausedClaim).held? "e1" = some e ∧
      e.state = .completed ∧
      ((∀ node i, e.instances.get? node = some i → i.status = .completed) ↔
        ¬ Seen .empty "e1" Track.LosesTurn (initial default quiet) pausedClaim) := by
  have ended : (((initial default quiet).performAll .empty pausedClaim).held? "e1").map
      (fun e => e.state) = some .completed := by
    rfl
  obtain ⟨e, held, completed⟩ := Option.map_eq_some_iff.mp ended
  exact ⟨e, held, completed, completed_iff_no_turn_lost held completed⟩

end System

end ActionGraph
