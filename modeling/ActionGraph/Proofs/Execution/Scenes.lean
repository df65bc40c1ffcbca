import ActionGraph.Proofs.Execution.Flow
import ActionGraph.Proofs.Execution.Sections
import ActionGraph.Proofs.Execution.Standing

/-!
# Scenes

The scene of an execution is what the flow of data is told by: its state, its
context and its instances.  Of an instance it matters how the node stands, what
its output is, and that its mailbox keeps what the messages so far leave there.
-/

namespace ActionGraph.Execution

open ActionGraph.Action ActionGraph.Graph

/-! ## Mailboxes -/

/-- A mailbox holds what messages leave at the ports of a node. -/
structure Mailbox.Keeps (capacity : Nat) (messages : List Posting) (node : String)
    (m : Mailbox) : Prop where
  room : m.capacity = max capacity 1
  queues : ∀ port, m.queue port = queueAt capacity messages node port

namespace Mailbox.Keeps

variable {capacity : Nat} {messages : List Posting} {node : String} {m : Mailbox}

theorem ofCapacity (capacity : Nat) (node : String) :
    (Mailbox.ofCapacity capacity).Keeps capacity [] node :=
  ⟨rfl, fun _ => List.drop_nil.symm⟩

theorem push (keeps : m.Keeps capacity messages node) (port : String) (value : Json) :
    (m.push port value).1.Keeps capacity (messages ++ [⟨node, port, value⟩]) node := by
  refine ⟨(m.push_capacity port value).trans keeps.room, fun other => ?_⟩
  rw [queueAt, valuesAt_append, valuesAt_singleton]
  by_cases here : other = port
  · subst here
    have both : node = node ∧ other = other := ⟨rfl, rfl⟩
    rw [if_pos both]
    exact queue_push_of_newest keeps.room (keeps.queues other) value
  · have apart : ¬ (node = node ∧ port = other) := fun same => here same.2.symm
    rw [if_neg apart, List.append_nil, m.queue_push, if_neg here]
    exact keeps.queues other

/-- A message for another node does not matter. -/
theorem ignore (keeps : m.Keeps capacity messages node) {posting : Posting}
    (elsewhere : posting.node ≠ node) : m.Keeps capacity (messages ++ [posting]) node := by
  refine ⟨keeps.room, fun port => ?_⟩
  have apart : ¬ (posting.node = node ∧ posting.port = port) := fun same => elsewhere same.1
  rw [keeps.queues, queueAt, queueAt, valuesAt_append, valuesAt_singleton, if_neg apart,
    List.append_nil]

/-- What is taken is what the node is to see. -/
theorem inputs_drain (keeps : m.Keeps capacity messages node) :
    inputs m.drain.2 = inputsAt capacity messages node := by
  rw [inputs_eq, inputsAt, Json.ofFields]
  refine congrArg (fun d : Dict Json => Json.obj d.entries) (Dict.ext_get? fun port => ?_)
  have listed := Dict.get?_ofList_map (messages.filter fun m => m.node = node) (·.port)
    (fun port => shown (queueAt capacity messages node port)) port
  rw [Dict.get?_map, get?_drain, keeps.queues, listed]
  have some : 0 < max capacity 1 := Nat.le_max_right _ _
  by_cases absent : queueAt capacity messages node port = []
  · rw [if_pos absent, if_neg, Option.map_none]
    exact (valuesAt_eq_nil_iff _ _ _).mp ((newest_eq_nil_iff some _).mp absent)
  · rw [if_neg absent, if_pos, Option.map_some]
    refine Decidable.byContradiction fun missing => ?_
    exact absent ((newest_eq_nil_iff some _).mpr ((valuesAt_eq_nil_iff _ _ _).mpr missing))

end Mailbox.Keeps

/-! ## Scenes -/

structure Scene where
  state : State
  context : Context
  instances : Dict Instance

def scene (e : Execution) : Scene :=
  ⟨e.state, e.context, e.instances⟩

def Instance.face (i : Instance) : Status × Option Json :=
  (i.status, i.output)

namespace Scene

variable {s s' last : Scene} {capacity : Nat} {messages more later : List Posting}

def face? (s : Scene) (id : String) : Option (Status × Option Json) :=
  (s.instances.get? id).map Instance.face

def Keeps (s : Scene) (capacity : Nat) (messages : List Posting) (nodes : List String) : Prop :=
  ∀ id ∈ nodes, ∀ i, s.instances.get? id = some i → i.inbox.Keeps capacity messages id

/-- Some messages come to the mailboxes, and nothing else changes. -/
structure Receives (s s' : Scene) (more : List Posting) : Prop where
  state : s'.state = s.state
  context : s'.context = s.context
  face : s'.face? = s.face?
  keeps : ∀ capacity messages nodes,
    s.Keeps capacity messages nodes → s'.Keeps capacity (messages ++ more) nodes

theorem Receives.refl (s : Scene) : s.Receives s [] := by
  refine ⟨rfl, rfl, rfl, fun capacity messages nodes keeps => ?_⟩
  rwa [List.append_nil]

theorem Receives.trans (first : s.Receives s' more) (second : s'.Receives last later) :
    s.Receives last (more ++ later) := by
  refine ⟨second.state.trans first.state, second.context.trans first.context,
    second.face.trans first.face, fun capacity messages nodes keeps => ?_⟩
  rw [← List.append_assoc]
  exact second.keeps _ _ _ (first.keeps _ _ _ keeps)

theorem face?_insert (s : Scene) (node : String) (i : Instance) (id : String) :
    ({ s with instances := s.instances.insert node i } : Scene).face? id =
      if id = node then some i.face else s.face? id := by
  rw [face?, Dict.get?_insert]
  split <;> rfl

/-- A message for no node comes to no mailbox. -/
theorem receives_of_unknown (s : Scene) {posting : Posting}
    (unknown : s.face? posting.node = none) : s.Receives s [posting] := by
  refine ⟨rfl, rfl, rfl, fun capacity messages nodes keeps id mem i found => ?_⟩
  refine (keeps id mem i found).ignore ?_
  rintro rfl
  rw [face?, found] at unknown
  cases unknown

end Scene

theorem isSome_face? (e : Execution) (id : String) :
    (e.scene.face? id).isSome = (e.status? id).isSome := by
  rw [Scene.face?, status?, Option.isSome_map, Option.isSome_map]
  rfl

/-! ## What each section does to the scene -/

theorem receives_deliver {e : Execution} {now : Nat} {node port : String} {value : Json}
    {sent : Change} (delivered : e.deliver now node port value = .ok sent) :
    e.scene.Receives sent.1.scene [⟨node, port, value⟩] := by
  obtain ⟨i, found, same, _⟩ := deliver_eq_ok delivered
  rw [same]
  refine ⟨rfl, rfl, funext fun id => ?_, fun capacity messages nodes keeps id mem j there => ?_⟩
  · refine (e.scene.face?_insert node (i.receive port value) id).trans ?_
    split
    · rename_i here
      rw [here, Scene.face?, show e.scene.instances.get? node = some i from found]
      rfl
    · rfl
  · have inserted : (e.instances.insert node (i.receive port value)).get? id = some j := there
    rw [Dict.get?_insert] at inserted
    split at inserted
    · rename_i here
      subst here
      rw [← Option.some.inj inserted]
      exact (keeps id mem i found).push port value
    · rename_i elsewhere
      exact (keeps id mem j inserted).ignore (Ne.symm elsewhere)

/-- An output reaches every node that an edge leads to. -/
theorem receives_forward (now : Nat) (output : Json) {edges : List Edge} {e : Execution}
    (events : List Event) (known : ∀ edge ∈ edges, (e.status? edge.target.node).isSome) :
    e.scene.Receives (forward now output edges (e, events)).1.1.scene
      (edges.map fun edge =>
        ⟨edge.target.node, edge.targetPort, selected output edge.sourcePort⟩) := by
  induction edges generalizing e events with
  | nil => exact .refl _
  | cons edge rest ih =>
      rw [List.forall_mem_cons] at known
      rw [forward, portValue_eq_selected]
      cases delivered : e.deliver now edge.target.node edge.targetPort
          (selected output edge.sourcePort) with
      | error failure =>
          rw [deliver_of_error delivered] at known
          cases known.1
      | ok sent =>
          obtain ⟨after, more⟩ := sent
          have statuses : after.status? = e.status? :=
            congrArg Standing.status (standing_deliver delivered)
          have further := ih (e := { after with metrics := after.metrics.emit, touched := now })
            (events ++ more) fun other mem => statuses ▸ known.2 other mem
          exact (receives_deliver delivered).trans further

/-- A node that has its turn sees its messages, and its mailbox is empty. -/
theorem scene_claim {e after : Execution} {now : Nat} {node : String} {context : Context}
    (taken : e.claim now node = .taken after context) :
    ∃ i, e.instances.get? node = some i ∧
      after.scene =
        { e.scene with instances := e.scene.instances.insert node i.begin } ∧
      context = e.context.set inputsKey (inputs i.inbox.drain.2) := by
  obtain ⟨i, found, rfl, seen⟩ := claim_eq_taken taken
  exact ⟨i, found, rfl, seen⟩

section Sections

variable (e : Execution) (now : Nat) (node : Node) (edges : List Edge) (duration : Nat)

section Counted

variable (success : Bool) {f : Instance → Instance}
  {g : Status × Option Json → Status × Option Json} (face : ∀ i, (f i).face = g i.face)
include face

theorem face?_counted (id : String) :
    (e.counted now node duration success f).scene.face? id =
      if id = node.id then (e.scene.face? id).map g else e.scene.face? id := by
  have looked := get?_counted e now node duration success f id
  rw [Scene.face?, show (e.counted now node duration success f).scene.instances.get? id = _ from
    looked]
  split
  · rw [Scene.face?, Option.map_map, Option.map_map]
    exact congrArg (Option.map · _) (funext face)
  · rfl

end Counted

theorem keeps_counted (success : Bool) {f : Instance → Instance}
    (inbox : ∀ i, (f i).inbox = i.inbox) {capacity : Nat} {messages : List Posting}
    {nodes : List String} (keeps : e.scene.Keeps capacity messages nodes) :
    (e.counted now node duration success f).scene.Keeps capacity messages nodes := by
  intro id mem j there
  have found := (get?_counted e now node duration success f id).symm.trans there
  split at found
  · obtain ⟨i, here, rfl⟩ := Option.map_eq_some_iff.mp found
    rw [inbox]
    exact keeps id mem i here
  · exact keeps id mem j found

/-- A node that succeeded hands on its output. -/
theorem receives_record {report : Action.Report} (context : Context)
    (success : report.success = true)
    (known : ∀ edge ∈ edges, (e.status? edge.target.node).isSome) :
    Scene.Receives
      { (e.counted now node duration true (·.conclude duration report)).scene with
        context := context.remove inputsKey }
      (e.record now node edges duration report context).1.1.scene
      (postings ⟨node, edges⟩ (report.output.getD .null)) := by
  rw [record_of_success _ _ _ _ _ _ success]
  have still : ∀ edge ∈ edges,
      (status? { e.counted now node duration true (·.conclude duration report) with
        context := context.remove inputsKey } edge.target.node).isSome := by
    intro edge mem
    have target := known edge mem
    unfold status? at target ⊢
    rw [Option.isSome_map] at target ⊢
    refine (congrArg Option.isSome (get?_counted e now node duration true _ _)).trans ?_
    split
    · rw [Option.isSome_map]
      exact target
    · exact target
  exact receives_forward now _ [] still

theorem face_skip (i : Instance) : i.skip.face = (i.face.1.skip, i.face.2) := by
  by_cases settled : i.status.isSettled = true
  · simp [Instance.face, Instance.skip, Status.skip, settled]
  · simp [Instance.face, Instance.skip, Status.skip, settled]

theorem face?_skipPending (id : String) :
    e.skipPending.scene.face? id =
      (e.scene.face? id).map fun shown => (shown.1.skip, shown.2) := by
  refine (congrArg (Option.map _) (get?_skipPending e id)).trans ?_
  rw [Scene.face?, Option.map_map, Option.map_map]
  exact congrArg (Option.map · _) (funext face_skip)

/-- A node does not succeed, and the nodes that are left are skipped. -/
theorem face?_fail {f : Instance → Instance} {g : Status × Option Json → Status × Option Json}
    (face : ∀ i, (f i).face = g i.face) (message id : String) :
    ((e.counted now node duration false f).fail now message).1.scene.face? id =
      (if id = node.id then (e.scene.face? id).map g else e.scene.face? id).map
        fun shown => (shown.1.skip, shown.2) := by
  rw [← face?_counted e now node duration false face]
  exact face?_skipPending _ id

theorem scene_fail (success : Bool) (f : Instance → Instance) (message : String) :
    ((e.counted now node duration success f).fail now message).1.scene =
      ⟨.failed, e.context,
        (e.counted now node duration success f).instances.map Instance.skip⟩ := by
  rw [counted_eq]
  rfl

theorem scene_finish :
    (e.finish now duration).1.scene =
      ⟨if e.state = .running then .completed else e.state, e.context,
        e.instances.map Instance.skip⟩ := by
  unfold finish
  split
  · rfl
  · rfl

end Sections

end ActionGraph.Execution
