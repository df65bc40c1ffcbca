import ActionGraph.Proofs.Execution.Abandoned
import ActionGraph.Proofs.Execution.Calls
import ActionGraph.Proofs.Execution.Expiry
import ActionGraph.Proofs.Execution.Orphans
import ActionGraph.Proofs.Execution.Scenes
import ActionGraph.Proofs.Execution.Tallies

/-!
# Forwarding

Forwarding never fails.  The checks of a definition find a node at both ends
of every edge, an execution has an instance of every node, and no act takes
one away; so a run finds whatever it looks for.  What is left are the failures
that `Setback` lists.  A call that meets with one changes nothing, except that
an expired credential ends the execution.
-/

namespace ActionGraph

open Execution ActionGraph.Graph

variable {σ : Type}

namespace Execution

/-! ## Lookups of a run -/

def Phase.turns : Phase σ → List Turn
  | .resting turn rest => turn :: rest
  | .claiming turn rest => turn :: rest
  | .announcing turn rest _ => turn :: rest
  | .working turn rest _ _ _ => turn :: rest
  | .reporting turn rest _ _ _ => turn :: rest
  | .recording turn rest _ _ _ => turn :: rest
  | .expiring turn _ _ => [turn]
  | .settling => []
  | .finishing => []
  | .ended _ => []

theorem Stage.turns_subset {lost late : Prop} {turns : List Turn} {s : Standing}
    {phase : Phase σ} (stage : Stage lost late turns s (some phase)) : phase.turns ⊆ turns := by
  have subset : ∀ {turn : Turn} {rest : List Turn} {here there : Status},
      Stands turns s.status turn rest here there → turn :: rest ⊆ turns := by
    intro turn rest here there stands
    obtain ⟨done, rfl, _⟩ := stands.done
    exact List.subset_append_right _ _
  cases phase with
  | expiring turn duration failure =>
      obtain ⟨rest, atTurn⟩ := stage
      exact List.cons_subset.mpr ⟨atTurn.stands.mem, List.nil_subset _⟩
  | settling => exact List.nil_subset _
  | finishing => exact List.nil_subset _
  | ended result => exact List.nil_subset _
  | _ => exact subset stage.stands

/-- Whatever a run looks for in a graph and in an execution of it, it finds. -/
structure Equipped (g : Loaded) (e : Execution) : Prop where
  /-- There is exactly one instance for each node of the definition. -/
  instances : e.instances.keys.Perm g.definition.ids
  /-- No node is passed over for want of a turn. -/
  turns : g.turns.map (·.node.id) = g.topology.sorted
  /-- The node and the instance of an identifier are found, and belong together. -/
  found : ∀ id ∈ g.topology.sorted, ∃ node i, g.node? id = some node ∧
    e.instances.get? id = some i ∧ i.node = id ∧ i.component = node.component
  /-- No claim misses its node. -/
  claims : ∀ turn ∈ g.turns, ∀ now, e.claim now turn.node.id ≠ .absent
  /-- A message along an edge always reaches a mailbox. -/
  delivers : ∀ edge ∈ g.definition.edges, ∀ now value,
    ∃ change, e.deliver now edge.target.node edge.targetPort value = .ok change
  /-- Recording a report never breaks off. -/
  records : ∀ turn ∈ g.turns, ∀ now duration report context,
    (e.record now turn.node turn.edges duration report context).2 =
      if report.success then .next else .settle
  /-- A success is forwarded whole: for every edge a message comes to the mailboxes. -/
  forwards : ∀ turn ∈ g.turns, ∀ now duration report context, report.success = true →
    ∀ capacity messages, e.scene.Keeps capacity messages g.topology.sorted →
      (e.record now turn.node turn.edges duration report context).1.1.scene.Keeps capacity
        (messages ++ postings turn (report.output.getD .null)) g.topology.sorted
  /-- As many messages were forwarded as edges leave the nodes that completed. -/
  emitted : e.metrics.emitted = e.instances.sum fun i =>
    if i.status = .completed then (g.definition.outgoing i.node).length else 0

theorem Keyed.equipped {g : Loaded} (accepted : g.Accepted) {e : Execution} (keyed : Keyed g e)
    (agrees : e.ledger.Agrees g) : Equipped g e := by
  have known : ∀ id, (e.instances.get? id).isSome ↔ id ∈ g.topology.sorted := by
    intro id
    rw [← keyed id, status?, Option.isSome_map]
  have turnMem : ∀ turn ∈ g.turns, turn.node.id ∈ g.topology.sorted := by
    intro turn mem
    rw [← accepted.turns_ids]
    exact List.mem_map_of_mem mem
  constructor
  case instances =>
    refine (List.perm_ext_iff_of_nodup e.instances.keys_apart accepted.valid.distinct).mpr ?_
    intro id
    rw [Dict.mem_keys_iff, known, accepted.mem_sorted_iff]
  case turns => exact accepted.turns_ids
  case found =>
    intro id mem
    obtain ⟨node, found⟩ := Loaded.exists_node? ((accepted.mem_sorted_iff id).mp mem)
    obtain ⟨i, there⟩ := Option.isSome_iff_exists.mp ((known id).mpr mem)
    obtain rfl := Loaded.node?_id found
    have entry : e.ledger.entries.get? node.id = some i.entry := by
      rw [ledger, Dict.get?_map, there]
      rfl
    have mine : node ∈ g.nodes := List.mem_filterMap.mpr ⟨node.id, mem, found⟩
    obtain ⟨named, component⟩ := agrees.named node mine i.entry entry
    exact ⟨node, i, found, there, named, component⟩
  case claims =>
    intro turn mem now absent
    have status := (keyed _).mpr (turnMem turn mem)
    rw [claim_absent absent] at status
    cases status
  case delivers =>
    intro edge declared now value
    refine deliver_eq_ok_iff.mpr ((keyed _).mpr ((accepted.mem_sorted_iff _).mpr ?_))
    exact (accepted.valid.ends edge declared).2
  case records => exact fun turn mem => record_onward accepted keyed mem
  case forwards =>
    intro turn mem now duration report context success capacity messages keeps
    have targets : ∀ edge ∈ turn.edges, (e.status? edge.target.node).isSome :=
      fun edge leaves => (keyed _).mpr (accepted.target_mem_sorted mem leaves)
    have received := receives_record e now turn.node turn.edges duration context success targets
    refine received.keeps _ _ _ (keeps_counted e now turn.node duration true ?_ keeps)
    exact fun _ => rfl
  case emitted =>
    have summed := Dict.sum_map (Entry.sent g.definition) Instance.entry e.instances
    refine (agrees.emitted.trans summed).trans ?_
    simp only [Instance.entry_sent]

/-- An execution is not taken up only if it has ended or was taken up before. -/
theorem drive_eq_error {e : Execution} {failure : Failure} (refused : e.drive = .error failure) :
    (e.state.isTerminal = true ∧ failure = .wrongState e.id e.state.name "run") ∨
      e.state.isTerminal = false ∧ e.driven = true ∧
        failure = .wrongState e.id (e.state.name ++ " (already being run)") "run" := by
  unfold drive at refused
  split at refused
  · rename_i terminal
    cases refused
    exact .inl ⟨terminal, rfl⟩
  · rename_i live
    split at refused
    · rename_i driven
      cases refused
      exact .inr ⟨Bool.eq_false_iff.mpr live, driven, rfl⟩
    · cases refused

end Execution

/-! ## Failures of a call -/

namespace Engine

theorem execution?_eq_error {engine : Engine} {id : String} {failure : Failure}
    (missed : engine.execution? id = .error failure) :
    failure = .unknownExecution id ∧ ∀ e ∈ engine.listed, e.id ≠ id := by
  unfold execution? at missed
  split at missed
  · cases missed
  · rename_i none
    cases missed
    refine ⟨rfl, fun e mem same => ?_⟩
    obtain ⟨there, listed⟩ := List.mem_filter.mp mem
    have other := List.find?_eq_none.mp none e there
    simp only [listed, same, decide_true, Bool.and_self, not_true] at other

theorem graph?_eq_error {engine : Engine} {graph : String} {failure : Failure}
    (missed : engine.graph? graph = .error failure) :
    failure = .unknownGraph graph ∧ engine.Lacks graph := by
  constructor
  · unfold graph? at missed
    split at missed
    · cases missed
    · cases missed
      rfl
  · refine lacks_iff.mpr ?_
    rintro ⟨g, found⟩
    rw [missed] at found
    cases found

end Engine

namespace System

/-- How a call that runs an execution fails: in a lookup, at a guard, or in the run itself. -/
inductive Fails (s : System σ) (id : String) (failure : Failure) : Prop where
  | lookup (missed : s.engine.execution? id = .error failure)
  | graph {e : Execution} (held : s.held? id = some e)
      (missed : s.engine.graph? e.graph = .error failure)
  | guard {e : Execution} (held : s.held? id = some e) (refused : e.drive = .error failure)
  /-- Lookups and guards follow each other at once. -/
  | start (refused : (Run.start id s.place).1.result? = some (.error failure))
  | run (answered : s.result? id = some (.error failure))

inductive Setback (s : System σ) (id : String) : Failure → Prop where
  | unknownExecution (absent : ∀ e ∈ s.engine.listed, e.id ≠ id) :
      Setback s id (.unknownExecution id)
  | unknownGraph {e : Execution} (held : s.held? id = some e) (lacks : s.engine.Lacks e.graph) :
      Setback s id (.unknownGraph e.graph)
  | ended {e : Execution} (held : s.held? id = some e) (terminal : e.state.isTerminal = true) :
      Setback s id (.wrongState id e.state.name "run")
  | driven {e : Execution} (held : s.held? id = some e) (live : e.state.isTerminal = false)
      (driven : e.driven = true) :
      Setback s id (.wrongState id (e.state.name ++ " (already being run)") "run")
  | credentialExpired {e : Execution} {node text : String} (held : s.held? id = some e)
      (failed : e.state = .failed) (here : e.status? node = some .failed) :
      Setback s id (.credentialExpired text)

section Start

variable {s : System σ} {id : String} {failure : Failure}

theorem Setback.of_missed (missed : s.engine.execution? id = .error failure) :
    s.Setback id failure := by
  obtain ⟨rfl, absent⟩ := Engine.execution?_eq_error missed
  exact .unknownExecution absent

theorem Setback.of_missed_graph {e : Execution} (held : s.held? id = some e)
    (missed : s.engine.graph? e.graph = .error failure) : s.Setback id failure := by
  obtain ⟨rfl, lacks⟩ := Engine.graph?_eq_error missed
  exact .unknownGraph held lacks

theorem Setback.of_refused {e : Execution} (held : s.held? id = some e)
    (refused : e.drive = .error failure) : s.Setback id failure := by
  obtain rfl := Engine.held?_id held
  rcases drive_eq_error refused with ⟨terminal, rfl⟩ | ⟨live, driven, rfl⟩
  · exact .ended held terminal
  · exact .driven held live driven

/-- A run that is over when it begins was refused, and nothing was changed. -/
theorem start_eq_error (numbered : s.Numbered)
    (refused : (Run.start id s.place).1.result? = some (.error failure)) :
    Run.take s.engine id = .error failure ∧ (Run.start id s.place).2 = s.place := by
  rw [Run.start_eq numbered] at refused ⊢
  cases taken : Run.take s.place.engine id with
  | error other =>
      rw [taken] at refused
      cases refused
      exact ⟨taken, rfl⟩
  | ok accepted =>
      obtain ⟨engine, turns⟩ := accepted
      rw [taken] at refused
      cases turns with
      | nil => cases refused
      | cons turn rest => cases refused

theorem Setback.of_take (numbered : s.Numbered) (refused : Run.take s.engine id = .error failure) :
    s.Setback id failure := by
  rcases bind_eq_error_iff.mp refused with missed | ⟨e, found, rest⟩
  · exact .of_missed missed
  · have held := numbered.execution? found
    rcases bind_eq_error_iff.mp rest with missed | ⟨g, _, rest⟩
    · exact .of_missed_graph held missed
    · rcases bind_eq_error_iff.mp rest with refused | ⟨after, _, ⟨⟩⟩
      exact .of_refused held refused

end Start

section Reached

variable {registry : Action.Registry σ} {settings : Settings} {world : Action.World σ}
  {acts : List Act} {id : String} {failure : Failure}

/-- A run breaks off only for an expired credential, and its execution has failed. -/
theorem Setback.of_answer
    (answered : ((initial settings world).performAll registry acts).result? id =
      some (.error failure)) :
    ((initial settings world).performAll registry acts).Setback id failure := by
  have sound := (sound_initial settings world).performAll registry acts
  obtain ⟨run, running, answer⟩ := Option.bind_eq_some_iff.mp answered
  obtain ⟨e, held, _⟩ := sound.driven id run running
  have tracked := track?_of_held held
  rw [running, Option.map_some, Run.phase_of_result? answer] at tracked
  obtain ⟨g, _, _, onCourse⟩ := course tracked
  have account := account tracked
  obtain ⟨node, expired, here⟩ := account.blames _ rfl
  obtain ⟨text, rfl⟩ := Failure.isCredential_iff.mp (account.credential node failure expired)
  exact .credentialExpired held (onCourse.stage.2 _ rfl) here

/--
Forwarding never fails, after any acts in any order.  A run finds whatever it
looks for, and all that it is still to do is of the graph.  A call that runs
an execution fails only with a setback; if it is refused it changes nothing,
and if its run breaks off the execution has failed.
-/
theorem forwarding_never_fails (registry : Action.Registry σ) (settings : Settings)
    (world : Action.World σ) (acts : List Act) (id : String) :
    let s := (initial settings world).performAll registry acts
    (∀ e, s.held? id = some e → ∃ g, s.graph? e.graph = some g ∧ Equipped g e ∧
      (e.driven = true → ∃ run, s.run? id = some run ∧ run.phase.turns ⊆ g.turns ∧
        ∀ failure, run.result? = some (.error failure) → e.state = .failed)) ∧
      (∀ failure, s.Fails id failure → s.Setback id failure) ∧
      ∀ failure, (Run.start id s.place).1.result? = some (.error failure) →
        (Run.start id s.place).2 = s.place := by
  intro s
  have numbered : s.Numbered := (numbered_initial settings world).performAll acts
  refine ⟨fun e held => ?_, fun failure fails => ?_, fun failure refused => ?_⟩
  · obtain ⟨g, found, accepted, onCourse⟩ := course (track?_of_held held)
    obtain ⟨g', found', _, agrees⟩ := agrees (track?_of_held held)
    obtain rfl : g' = g := Option.some.inj (found'.symm.trans found)
    refine ⟨g', found, onCourse.keyed.equipped accepted agrees, fun driven => ?_⟩
    obtain ⟨run, running⟩ := Option.isSome_iff_exists.mp ((driven_iff_run held).mp driven)
    have stage := onCourse.stage
    rw [running, Option.map_some] at stage
    refine ⟨run, running, stage.turns_subset, fun failure answer => ?_⟩
    rw [Run.phase_of_result? answer] at stage
    exact stage.2 failure rfl
  · cases fails with
    | lookup missed => exact .of_missed missed
    | graph held missed => exact .of_missed_graph held missed
    | guard held refused => exact .of_refused held refused
    | start refused => exact .of_take numbered (start_eq_error numbered refused).1
    | run answered => exact .of_answer answered
  · exact (start_eq_error numbered refused).2

end Reached

def lapsing : Definition :=
  ((Definition.named "lapsing" "1").withNode (.plain "a" "task")).withNode (.plain "b" "login")
    |>.withEdge (.ported "a" "left" "b" "in")
    |>.withEdge (.ported "a" "right" "b" "in")

def lapsed : Action.Registry Unit :=
  answering.register
    { type := "login"
      description := ""
      run := fun _ _ context => .done (.failed context (.credentialExpired "token expired")) }

/-- The first node forwards two messages, and at the second the run breaks off. -/
def lapsedRun : List Act :=
  [.load lapsing, .start "g1" default, .take "e1"] ++ List.replicate 17 (.go "e1")

theorem forwarding_never_fails_of_lapsedRun :
    let s := (initial default quiet).performAll lapsed lapsedRun
    (∃ e g run, s.held? "e1" = some e ∧ s.graph? e.graph = some g ∧ Equipped g e ∧
      s.run? "e1" = some run ∧ run.phase.turns ⊆ g.turns ∧ e.state = .failed) ∧
      s.Setback "e1" (.credentialExpired "token expired") ∧
      s.Setback "e1" (.wrongState "e1" "failed" "run") ∧
      (Run.start "e1" s.place).2 = s.place := by
  intro s
  have driven : (s.held? "e1").map (·.driven) = some true := by decide +kernel
  have answered : s.result? "e1" = some (.error (.credentialExpired "token expired")) := by rfl
  have refused : (Run.start "e1" s.place).1.result? =
      some (.error (.wrongState "e1" "failed" "run")) := by
    rfl
  obtain ⟨e, held, drives⟩ := Option.map_eq_some_iff.mp driven
  obtain ⟨all, fails, unchanged⟩ := forwarding_never_fails lapsed default quiet lapsedRun "e1"
  obtain ⟨g, found, equipped, runs⟩ := all e held
  obtain ⟨run, running, within, breaksOff⟩ := runs drives
  have answer : run.result? = some (.error (.credentialExpired "token expired")) := by
    rw [result?, running] at answered
    exact answered
  exact ⟨⟨e, g, run, held, found, equipped, running, within, breaksOff _ answer⟩,
    fails _ (.run answered), fails _ (.start refused), unchanged _ refused⟩

end System

end ActionGraph
