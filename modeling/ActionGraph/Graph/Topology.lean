import ActionGraph.Graph.Definition
import ActionGraph.Failure
import ActionGraph.Time

/-!
# The order of a graph

A definition is accepted if its fields are filled in, its identifiers are
distinct, its edges end at its nodes and it has no cycle.  An accepted graph
has its nodes in dependency order: a node is taken up as soon as all of its
sources are, nodes that wait longer first, and at the beginning in the order
of their declaration.
-/

namespace ActionGraph.Graph

structure Topology where
  /-- The nodes in dependency order. -/
  sorted : List String
  /-- The greatest distance of each node from a node without sources. -/
  levels : Dict Nat
  /-- The nodes without incoming edges. -/
  inputs : List String
  /-- The nodes without outgoing edges. -/
  outputs : List String
deriving DecidableEq

namespace Topology

def toJson (t : Topology) : Json :=
  Json.ofFields
    [("sorted", .ofStrings t.sorted), ("levels", .ofDict (t.levels.map Json.ofNat)),
     ("inputNodes", .ofStrings t.inputs), ("outputNodes", .ofStrings t.outputs)]

end Topology

namespace Definition

def isBlankText (s : String) : Bool :=
  (Text.trim s.toList).isEmpty

/-- The first node, from an index on, that lacks its identifier or its component. -/
def checkNodes : Nat → List Node → Except Failure Unit
  | _, [] => .ok ()
  | index, node :: rest =>
      if isBlankText node.id then
        .error (.invalidGraph ("node at index " ++ toString index ++ " has no id"))
      else if isBlankText node.component then
        .error (.invalidGraph ("node '" ++ node.id ++ "' has no component"))
      else checkNodes (index + 1) rest

/-- The first identifier that was seen before. -/
def checkDistinct (seen : List String) : List Node → Except Failure Unit
  | [] => .ok ()
  | node :: rest =>
      if seen.contains node.id then .error (.duplicateNode node.id)
      else checkDistinct (node.id :: seen) rest

/-- The first end of an edge that is no node. -/
def checkEdges (ids : List String) : List Edge → Except Failure Unit
  | [] => .ok ()
  | edge :: rest =>
      if !ids.contains edge.source.node then .error (.danglingEdge edge.source.node .source)
      else if !ids.contains edge.target.node then .error (.danglingEdge edge.target.node .target)
      else checkEdges ids rest

def validate (d : Definition) : Except Failure Unit :=
  if isBlankText d.name then .error (.invalidGraph "graph name is required")
  else if isBlankText d.version then .error (.invalidGraph "graph version is required")
  else if d.nodes.isEmpty then .error (.invalidGraph "graph must contain at least one node")
  else do
    checkNodes 0 d.nodes
    checkDistinct [] d.nodes
    checkEdges d.ids d.edges

end Definition

/-! ## Dependency order -/

abbrev Arc := Nat × Nat

/-- The arcs of a definition; an edge without a node at each end has none. -/
def Definition.arcs (d : Definition) : List Arc :=
  d.edges.filterMap fun edge =>
    match d.ids.idxOf? edge.source.node, d.ids.idxOf? edge.target.node with
    | some source, some target => some (source, target)
    | _, _ => none

def successors (arcs : List Arc) (i : Nat) : List Nat :=
  (arcs.filter fun arc => arc.1 = i).map (·.2)

def indegree (arcs : List Arc) (i : Nat) : Nat :=
  (arcs.filter fun arc => arc.2 = i).length

structure Sorting where
  /-- Nodes whose sources are all sorted, longest waiting first. -/
  queue : List Nat
  /-- For each node the count of arcs from nodes that are not sorted. -/
  waiting : List Nat
  /-- For each node its greatest distance so far. -/
  levels : List Nat
  /-- The nodes taken up, last first. -/
  sorted : List Nat
deriving DecidableEq

namespace Sorting

/-- All nodes wait for their sources; those without any are queued. -/
def initial (count : Nat) (arcs : List Arc) : Sorting :=
  { queue := (List.range count).filter fun i => indegree arcs i = 0
    waiting := (List.range count).map (indegree arcs)
    levels := List.replicate count 0
    sorted := [] }

/-- One source of a node is sorted. -/
def release (level : Nat) (s : Sorting) (next : Nat) : Sorting :=
  let left := s.waiting.getD next 0 - 1
  { s with
    levels := s.levels.set next (max (s.levels.getD next 0) (level + 1))
    waiting := s.waiting.set next left
    queue := if left = 0 then s.queue ++ [next] else s.queue }

/-- Take up the first node of the queue. -/
def step (arcs : List Arc) (s : Sorting) : Sorting :=
  match s.queue with
  | [] => s
  | i :: rest =>
      (successors arcs i).foldl (release (s.levels.getD i 0))
        { s with queue := rest, sorted := i :: s.sorted }

/-- Take up so many nodes. -/
def run (arcs : List Arc) : Nat → Sorting → Sorting
  | 0, s => s
  | n + 1, s => run arcs n (s.step arcs)

end Sorting

namespace Definition

def sorting (d : Definition) : Sorting :=
  Sorting.run d.arcs d.nodes.length (.initial d.nodes.length d.arcs)

def idsAt (d : Definition) (indices : List Nat) : List String :=
  indices.filterMap fun i => d.ids[i]?

def compile (d : Definition) : Except Failure Topology := do
  d.validate
  let count := d.nodes.length
  let arcs := d.arcs
  let s := d.sorting
  if s.sorted.length < count then .error (.cycle s.sorted.length count)
  else
    let order := s.sorted.reverse
    .ok
      { sorted := d.idsAt order
        levels := Dict.ofList (order.filterMap fun i =>
          (d.ids[i]?).map fun id => (id, s.levels.getD i 0))
        inputs := d.idsAt ((List.range count).filter fun i => indegree arcs i = 0)
        outputs := d.idsAt ((List.range count).filter fun i => (successors arcs i).isEmpty) }

end Definition

/-- A graph that was accepted, under the identifier it was given. -/
structure Loaded where
  id : String
  definition : Definition
  topology : Topology
  /-- When the graph was accepted. -/
  time : Nat
deriving DecidableEq

/-- The turn of a node: the node, and the edges along which it hands on its output. -/
structure Turn where
  node : Node
  edges : List Edge
deriving DecidableEq

namespace Loaded

def ofDefinition (id : String) (now : Nat) (d : Definition) : Except Failure Loaded :=
  (d.compile).map fun topology => ⟨id, d, topology, now⟩

def node? (g : Loaded) (id : String) : Option Node :=
  g.definition.node? id

def nodes (g : Loaded) : List Node :=
  g.topology.sorted.filterMap g.node?

def turns (g : Loaded) : List Turn :=
  g.nodes.map fun node => ⟨node, g.definition.outgoing node.id⟩

def toJson (g : Loaded) : Json :=
  Json.ofFields
    [("id", .str g.id), ("definition", g.definition.toJson), ("topology", g.topology.toJson),
     ("loadedAt", .str (Time.short g.time))]

def summary (g : Loaded) : Json :=
  Json.ofFields
    [("id", .str g.id), ("name", .str g.definition.name), ("version", .str g.definition.version),
     ("nodes", .ofNat g.topology.sorted.length), ("loadedAt", .str (Time.short g.time))]

end Loaded

end ActionGraph.Graph
