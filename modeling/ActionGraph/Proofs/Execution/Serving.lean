import ActionGraph.CommandLine.Program
import ActionGraph.Proofs.Execution.Scenes
import ActionGraph.Proofs.Execution.Slots
import ActionGraph.Proofs.Execution.Tidings

/-!
# Engines that serve

On an engine with a free slot an execution of every accepted graph starts.
Its nodes take as many messages at each port as the engine is set to hold
there, and none of them is driven out.
-/

namespace ActionGraph

open ActionGraph.Execution ActionGraph.Graph ActionGraph.CommandLine

variable {capacity : Nat} {nodes : List String} {messages : List Posting}

def CommandLine.Injection.posting (injection : Injection) : Posting :=
  ⟨injection.node, injection.port, injection.value⟩

namespace Execution

theorem newest_of_le {room : Nat} {values : List Json} (enough : values.length ≤ room) :
    newest room values = values := by
  rw [newest, Nat.sub_eq_zero_of_le enough, List.drop_zero]

/-- An execution that runs, and whose nodes hold these messages; none was driven out. -/
structure Attends (capacity : Nat) (nodes : List String) (messages : List Posting)
    (e : Execution) : Prop where
  listed : e.listed = true
  running : e.state = .running
  present : ∀ node ∈ nodes, ∃ i, e.instances.get? node = some i
  keeps : e.scene.Keeps capacity messages nodes
  calm : e.metrics.backpressure = 0

namespace Attends

theorem start {g : Loaded} (accepted : g.Accepted) (id : String) (capacity : Nat)
    (context : Context) (now : Nat) :
    (Execution.start id g.id g.nodes capacity context now).Attends capacity g.definition.ids
      [] := by
  have distinct : (g.nodes.map (·.id)).Nodup := accepted.nodes_ids ▸ accepted.sorted_nodup
  have fresh : ∀ node ∈ g.definition.ids, ∃ declared,
      (Execution.start id g.id g.nodes capacity context now).instances.get? node =
        some (.ofNode capacity declared) := by
    intro node mem
    rw [← accepted.mem_sorted_iff, ← accepted.nodes_ids] at mem
    obtain ⟨declared, listed, rfl⟩ := List.mem_map.mp mem
    exact ⟨declared, get?_start distinct _ _ _ _ _ listed⟩
  refine ⟨rfl, rfl, fun node mem => ?_, fun node mem i found => ?_, rfl⟩
  · obtain ⟨declared, there⟩ := fresh node mem
    exact ⟨_, there⟩
  · obtain ⟨declared, there⟩ := fresh node mem
    rw [Option.some.inj (found.symm.trans there)]
    exact .ofCapacity capacity node

variable {e : Execution} (attends : e.Attends capacity nodes messages)
include attends

/-- A port with room for one more message takes it. -/
theorem inject {posting : Posting} (known : posting.node ∈ nodes)
    (room : (valuesAt messages posting.node posting.port).length < max capacity 1)
    (now : Nat) :
    ∃ change, e.inject now posting.node posting.port posting.value = .ok change ∧
      change.1.id = e.id ∧ change.1.Attends capacity nodes (messages ++ [posting]) := by
  obtain ⟨i, found⟩ := attends.present posting.node known
  have keeps := attends.keeps posting.node known i found
  have free : ¬ i.inbox.capacity ≤ (i.inbox.queue posting.port).length := by
    rw [keeps.room, keeps.queues, queueAt]
    exact Nat.not_le.mpr (((length_newest _ _).trans_le (Nat.min_le_left _ _)).trans_lt room)
  have delivered : e.deliver now posting.node posting.port posting.value =
      .ok ({ e with
        instances := e.instances.insert posting.node
          { i with inbox := (i.inbox.push posting.port posting.value).1 }
        touched := now }, []) := by
    simp only [deliver, found, Mailbox.push, if_neg free]
  have injected := Execution.inject.eq_def e now posting.node posting.port posting.value
  rw [if_neg (not_not_intro attends.running), delivered] at injected
  refine ⟨_, injected, rfl, attends.listed, attends.running, fun node mem => ?_,
    (receives_deliver delivered).keeps _ _ _ attends.keeps, attends.calm⟩
  refine Option.isSome_iff_exists.mp ?_
  dsimp only
  rw [Dict.get?_insert]
  split
  · rfl
  · exact Option.isSome_iff_exists.mpr (attends.present node mem)

/-- While no port was sent more than it holds, it holds all that it was sent. -/
theorem queue {node : String} (known : node ∈ nodes)
    (few : ∀ port, (valuesAt messages node port).length ≤ max capacity 1) :
    ∃ i, e.instances.get? node = some i ∧
      ∀ port, i.inbox.queue port = valuesAt messages node port := by
  obtain ⟨i, found⟩ := attends.present node known
  refine ⟨i, found, fun port => ?_⟩
  rw [(attends.keeps node known i found).queues, queueAt, newest_of_le (few port)]

end Attends

end Execution

/-! ## Engines -/

namespace Engine

variable {engine : Engine} {id : String}

/-- What is held and in the table is found there. -/
theorem execution?_of_held {e : Execution} (held : engine.held? id = some e)
    (listed : e.listed = true) : engine.execution? id = .ok e := by
  obtain ⟨named, before, after, split, none⟩ := List.find?_eq_some_iff_append.mp held
  have found : engine.executions.find? (fun e => e.listed && e.id = id) = some e := by
    refine List.find?_eq_some_iff_append.mpr ⟨?_, before, after, split, fun other mem => ?_⟩
    · rw [listed, named]
      rfl
    · have apart := none other mem
      simp only [Bool.not_eq_eq_eq_not, Bool.not_true] at apart ⊢
      rw [apart, Bool.and_false]
  rw [Engine.execution?, found]

structure Attends (engine : Engine) (id : String) (capacity : Nat) (nodes : List String)
    (messages : List Posting) : Prop where
  numbered : ∃ loaded, engine.Numbered loaded
  held : ∃ e, engine.held? id = some e ∧ e.Attends capacity nodes messages

theorem Attends.inject (attends : engine.Attends id capacity nodes messages)
    {injection : Injection} (known : injection.node ∈ nodes)
    (room : (valuesAt messages injection.node injection.port).length < max capacity 1)
    (now : Nat) :
    ∃ after, (Call.inject now id injection.node injection.port injection.value).on engine =
        (.ok (), after) ∧
      after.Attends id capacity nodes
        (messages ++ [injection.posting]) := by
  obtain ⟨loaded, numbered⟩ := attends.numbered
  obtain ⟨e, held, attending⟩ := attends.held
  obtain ⟨change, injected, named, attended⟩ := attending.inject
    (show injection.posting.node ∈ nodes from known) room now
  have done : engine.inject now id injection.node injection.port injection.value =
      .ok (engine.enter change) :=
    bind_eq_ok_iff.mpr ⟨e, execution?_of_held held attending.listed,
      bind_eq_ok_iff.mpr ⟨change, injected, rfl⟩⟩
  refine ⟨engine.enter change, ?_, ⟨loaded, numbered.enter change⟩, change.1, ?_, attended⟩
  · rw [Call.on_inject numbered, done]
    rfl
  · rw [held?_enter_of_held held named, if_pos rfl]

/-- Messages that no port is sent too many of are all taken. -/
theorem Attends.injectAll (attends : engine.Attends id capacity nodes messages)
    {injections : List Injection} (known : ∀ injection ∈ injections, injection.node ∈ nodes)
    (few : ∀ node port,
      (valuesAt (messages ++ injections.map Injection.posting) node port).length ≤ max capacity 1)
    (now : Nat) :
    ∃ after, (CommandLine.injectAll now id injections).on engine = (.ok (), after) ∧
      after.Attends id capacity nodes (messages ++ injections.map Injection.posting) := by
  induction injections generalizing engine messages with
  | nil =>
      rw [List.map_nil, List.append_nil]
      exact ⟨engine, rfl, attends⟩
  | cons injection rest ih =>
      obtain ⟨here, later⟩ := List.forall_mem_cons.mp known
      have split : messages ++ (injection :: rest).map Injection.posting =
          messages ++ [injection.posting] ++ rest.map Injection.posting := by
        rw [List.map_cons, List.append_assoc, List.singleton_append]
      rw [split] at few ⊢
      have room : (valuesAt messages injection.node injection.port).length < max capacity 1 := by
        have enough := few injection.node injection.port
        have own : valuesAt [injection.posting] injection.node injection.port =
            [injection.value] :=
          (valuesAt_singleton _ _ _).trans (if_pos ⟨rfl, rfl⟩)
        rw [valuesAt_append, valuesAt_append, own, List.length_append, List.length_append,
          List.length_singleton] at enough
        omega
      obtain ⟨next, injected, attended⟩ := attends.inject here room now
      obtain ⟨after, done, served⟩ := ih attended later few
      refine ⟨after, ?_, served⟩
      rw [CommandLine.injectAll, Call.on_bind_of_ok injected]
      exact done

/--
An execution of every accepted graph starts, and takes messages for its nodes.
Each port that is sent no more than so many messages holds all of them.
-/
def Serves (engine : Engine) (depth : Nat) : Prop :=
  ∀ (now : Nat) (d : Graph.Definition) (t : Topology) (context : Context)
    (injections : List Injection), d.compile = .ok t →
    (∀ injection ∈ injections, injection.node ∈ d.ids) →
    (∀ node port, (valuesAt (injections.map Injection.posting) node port).length ≤ depth) →
    ∃ id after e, (enlist now d context injections).on engine = (.ok id, after) ∧
      after.execution? id = .ok e ∧ e.state = .running ∧ e.metrics.backpressure = 0 ∧
      ∀ node ∈ d.ids, ∃ i, e.instances.get? node = some i ∧
        ∀ port, i.inbox.queue port = valuesAt (injections.map Injection.posting) node port

/-- A graph that is accepted is loaded, and found under its identifier. -/
theorem exists_load {loaded : List Loaded} (numbered : engine.Numbered loaded) (now : Nat)
    {d : Graph.Definition} {t : Topology} (accepted : d.compile = .ok t) :
    ∃ after g, engine.load now d = .ok (after, g.id) ∧ g.Accepted ∧ g.definition = d ∧
      after.graph? g.id = .ok g ∧ after.occupied = engine.occupied ∧
      after.limits = engine.limits ∧ ∃ all, after.Numbered all := by
  let g : Loaded := ⟨graphId engine.graphsMade, d, t, now⟩
  have made : Loaded.ofDefinition (graphId engine.graphsMade) now d = .ok g := by
    rw [Loaded.ofDefinition, accepted]
    rfl
  obtain ⟨after, done, graphs, executions, limits⟩ :
      ∃ after, engine.load now d = .ok (after, g.id) ∧ after.graphs = engine.graphs ++ [g] ∧
        after.executions = engine.executions ∧ after.limits = engine.limits :=
    ⟨_, bind_eq_ok_iff.mpr ⟨g, made, rfl⟩, rfl, rfl, rfl⟩
  have numberedAfter := numbered.load done
  have mem : g ∈ after.graphs := graphs ▸ List.mem_append_right _ (List.mem_singleton_self g)
  have apart : (after.graphs.map (·.id)).Nodup :=
    numberedAfter.loaded_apart.sublist (numberedAfter.graphs.map _)
  refine ⟨after, g, done, accepted, rfl, ?_, ?_, limits, _, numberedAfter⟩
  · rw [Engine.graph?, find?_of_mem apart mem]
  · rw [occupied, occupied, executions]

/-- An engine with a free slot serves as its limits say. -/
theorem serves_of_free {loaded : List Loaded} (numbered : engine.Numbered loaded)
    (free : engine.occupied < engine.limits.maxConcurrent) :
    engine.Serves (max engine.limits.maxQueueDepth 1) := by
  intro now d t context injections accepted known few
  obtain ⟨ready, g, done, sound, rfl, found, occupied, limits, all, numberedReady⟩ :=
    exists_load numbered now accepted
  rw [← occupied, ← limits] at free
  obtain ⟨begun, id, enrolled⟩ := (enroll_eq_ok_iff ready now g context).mpr free
  have started : ready.start now g.id context = .ok (begun, id) :=
    bind_eq_ok_iff.mpr ⟨g, found, enrolled⟩
  have held := held?_enroll enrolled id
  rw [numberedReady.fresh enrolled, if_pos rfl, Option.none_or, limits] at held
  have attends : begun.Attends id engine.limits.maxQueueDepth g.definition.ids [] :=
    ⟨⟨all, numberedReady.enroll enrolled⟩, _, held, .start sound _ _ _ _⟩
  obtain ⟨after, injected, attended⟩ := attends.injectAll known few now
  obtain ⟨e, heldAfter, serving⟩ := attended.held
  refine ⟨id, after, e, ?_, execution?_of_held heldAfter serving.listed, serving.running,
    serving.calm, fun node mem => serving.queue mem (few node)⟩
  have loads : (Call.load now g.definition).on engine = (.ok g.id, ready) := by
    rw [Call.on_load, done]
    rfl
  have starts : (Call.start now g.id context).on ready = (.ok id, begun) := by
    rw [Call.on_start, started]
    rfl
  rw [enlist, Call.on_bind_of_ok loads, Call.on_bind_of_ok starts, Call.on_bind_of_ok injected]
  rfl

end Engine

end ActionGraph
