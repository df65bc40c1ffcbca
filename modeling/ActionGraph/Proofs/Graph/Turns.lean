import ActionGraph.Proofs.Graph.Compilation

/-!
# Turns of an accepted graph

The turns of an accepted graph are those of its nodes in dependency order,
each once, and every edge of a turn leads to a node that has a turn.
-/

namespace ActionGraph.Graph.Loaded

/-- The order of the graph is the one its definition was accepted with. -/
def Accepted (g : Loaded) : Prop :=
  g.definition.compile = .ok g.topology

theorem accepted_of_ofDefinition {id : String} {now : Nat} {d : Definition} {g : Loaded}
    (made : ofDefinition id now d = .ok g) : g.Accepted ∧ g.id = id := by
  unfold ofDefinition at made
  cases compiled : d.compile with
  | error failure =>
      rw [compiled] at made
      cases made
  | ok t =>
      rw [compiled] at made
      cases made
      exact ⟨compiled, rfl⟩

theorem node?_id {g : Loaded} {id : String} {node : Node} (found : g.node? id = some node) :
    node.id = id := by
  have chosen := List.find?_some found
  exact of_decide_eq_true chosen

theorem exists_node? {g : Loaded} {id : String} (mem : id ∈ g.definition.ids) :
    ∃ node, g.node? id = some node := by
  obtain ⟨node, declared, rfl⟩ := List.mem_map.mp mem
  refine Option.isSome_iff_exists.mp (List.find?_isSome.mpr ⟨node, declared, ?_⟩)
  exact decide_eq_true rfl

theorem map_id_filterMap_node? {g : Loaded} {ids : List String}
    (known : ∀ id ∈ ids, id ∈ g.definition.ids) : (ids.filterMap g.node?).map (·.id) = ids := by
  induction ids with
  | nil => rfl
  | cons id rest ih =>
      obtain ⟨node, found⟩ := exists_node? (known id List.mem_cons_self)
      rw [List.filterMap_cons_some found, List.map_cons, node?_id found,
        ih fun other mem => known other (List.mem_cons_of_mem _ mem)]

namespace Accepted

variable {g : Loaded} (accepted : g.Accepted)
include accepted

theorem orders : g.topology.Orders g.definition :=
  (Definition.orders_of_compile accepted).2.2

theorem valid : g.definition.Valid :=
  (Definition.orders_of_compile accepted).1

theorem mem_sorted_iff (id : String) : id ∈ g.topology.sorted ↔ id ∈ g.definition.ids :=
  accepted.orders.sorted.mem_iff

theorem nodes_ids : g.nodes.map (·.id) = g.topology.sorted :=
  map_id_filterMap_node? fun id mem => (accepted.mem_sorted_iff id).mp mem

/-- Every node has exactly one turn, in dependency order. -/
theorem turns_ids : g.turns.map (·.node.id) = g.topology.sorted := by
  rw [turns, List.map_map, ← accepted.nodes_ids]
  rfl

theorem sorted_nodup : g.topology.sorted.Nodup :=
  accepted.orders.sorted.nodup_iff.mpr accepted.valid.distinct

/-- The edges of a turn lead to nodes of the graph. -/
theorem target_mem_sorted {turn : Turn} (mem : turn ∈ g.turns) {edge : Edge}
    (leaves : edge ∈ turn.edges) : edge.target.node ∈ g.topology.sorted := by
  obtain ⟨node, _, rfl⟩ := List.mem_map.mp mem
  have declared : edge ∈ g.definition.edges := (List.mem_filter.mp leaves).1
  exact (accepted.mem_sorted_iff _).mpr (accepted.valid.ends edge declared).2

/-- They lead to nodes whose turns come later. -/
theorem target_mem_later {turn : Turn} {done rest : List Turn}
    (split : g.turns = done ++ turn :: rest) {edge : Edge} (leaves : edge ∈ turn.edges) :
    edge.target.node ∈ rest.map (·.node.id) := by
  have mem : turn ∈ g.turns := by
    rw [split]
    exact List.mem_append_right _ List.mem_cons_self
  have listed := accepted.target_mem_sorted mem leaves
  obtain ⟨node, _, rfl⟩ := List.mem_map.mp mem
  obtain ⟨declared, source⟩ := List.mem_filter.mp leaves
  have source : edge.source.node = node.id := of_decide_eq_true source
  have first := accepted.orders.sources_first edge declared
  have apart := accepted.sorted_nodup
  rw [← accepted.turns_ids, split, List.map_append, List.map_cons] at listed first apart
  have notDone : node.id ∉ done.map (·.node.id) := by
    have one := List.nodup_middle.mp apart
    rw [List.nodup_cons, List.mem_append, not_or] at one
    exact one.1.1
  rw [source, List.idxOf_append_of_notMem notDone, List.idxOf_cons_self] at first
  rcases List.mem_append.mp listed with earlier | here
  · rw [List.idxOf_append_of_mem earlier] at first
    have place := List.idxOf_lt_length_of_mem earlier
    omega
  · rcases List.mem_cons.mp here with same | later
    · rw [same, List.idxOf_append_of_notMem notDone, List.idxOf_cons_self] at first
      omega
    · exact later

end Accepted

end ActionGraph.Graph.Loaded
