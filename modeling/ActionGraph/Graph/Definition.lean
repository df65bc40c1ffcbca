import ActionGraph.Action.Spec

/-!
# Definitions of graphs

A graph has named nodes, each of which dispatches an action, and edges from a
port of one node to a port of another.
-/

namespace ActionGraph.Graph

def defaultSourcePort : String :=
  "out"

def defaultTargetPort : String :=
  "in"

structure Node where
  id : String
  /-- The type of the action. -/
  component : String
  /-- The parameters of the action. -/
  config : Json
deriving DecidableEq

/-- A node and, if it is named, a port of it. -/
structure Endpoint where
  node : String
  port : Option String
deriving DecidableEq

structure Edge where
  source : Endpoint
  target : Endpoint
deriving DecidableEq

/-- A graph as it is declared. -/
structure Definition where
  name : String
  version : String
  description : Option String
  nodes : List Node
  edges : List Edge
deriving DecidableEq

namespace Node

/-- A node with an empty object of parameters. -/
def plain (id component : String) : Node :=
  ⟨id, component, .emptyObject⟩

def toJson (node : Node) : Json :=
  Json.ofFields
    [("id", .str node.id), ("component", .str node.component), ("config", node.config)]

def fields : Wire.Fields (String × String × Json × Unit) :=
  .cons (.default "id" Wire.Decode.string "") <|
  .cons (.default "component" Wire.Decode.string "") <|
  .cons (.default "config" Wire.Decode.json .emptyObject) .nil

def decode : Wire.Decoder Node := fun node => do
  let (id, component, config, _) ← Wire.Fields.record "struct Node" fields node
  return ⟨id, component, config⟩

end Node

namespace Endpoint

def toJson (endpoint : Endpoint) : Json :=
  Json.ofFields <|
    [("node", .str endpoint.node)]
      ++ Action.optionalField "port" (endpoint.port.map Json.str)

def fields : Wire.Fields (String × Option String × Unit) :=
  .cons (.required "node" Wire.Decode.string) <|
  .cons (.optional "port" Wire.Decode.string) .nil

def decode : Wire.Decoder Endpoint := fun node => do
  let (name, port, _) ← Wire.Fields.record "struct PortRef" fields node
  return ⟨name, port⟩

end Endpoint

namespace Edge

def plain (source target : String) : Edge :=
  ⟨⟨source, none⟩, ⟨target, none⟩⟩

def ported (source sourcePort target targetPort : String) : Edge :=
  ⟨⟨source, some sourcePort⟩, ⟨target, some targetPort⟩⟩

def sourcePort (edge : Edge) : String :=
  edge.source.port.getD defaultSourcePort

def targetPort (edge : Edge) : String :=
  edge.target.port.getD defaultTargetPort

def toJson (edge : Edge) : Json :=
  Json.ofFields [("source", edge.source.toJson), ("target", edge.target.toJson)]

def fields : Wire.Fields (Endpoint × Endpoint × Unit) :=
  .cons (.required "source" Endpoint.decode) <|
  .cons (.required "target" Endpoint.decode) .nil

def decode : Wire.Decoder Edge := fun node => do
  let (source, target, _) ← Wire.Fields.record "struct Edge" fields node
  return ⟨source, target⟩

end Edge

namespace Definition

def named (name version : String) : Definition :=
  ⟨name, version, none, [], []⟩

instance : Inhabited Definition :=
  ⟨named "" ""⟩

def withNode (d : Definition) (node : Node) : Definition :=
  { d with nodes := d.nodes ++ [node] }

def withEdge (d : Definition) (edge : Edge) : Definition :=
  { d with edges := d.edges ++ [edge] }

def node? (d : Definition) (id : String) : Option Node :=
  d.nodes.find? fun node => node.id = id

def outgoing (d : Definition) (id : String) : List Edge :=
  d.edges.filter fun edge => edge.source.node = id

def ids (d : Definition) : List String :=
  d.nodes.map (·.id)

def toJson (d : Definition) : Json :=
  Json.ofFields <|
    [("name", .str d.name), ("version", .str d.version)]
      ++ Action.optionalField "description" (d.description.map Json.str)
      ++ [("nodes", .arr (d.nodes.map Node.toJson)), ("edges", .arr (d.edges.map Edge.toJson))]

def fields : Wire.Fields (String × String × Option String × List Node × List Edge × Unit) :=
  .cons (.default "name" Wire.Decode.string "") <|
  .cons (.default "version" Wire.Decode.string "") <|
  .cons (.optional "description" Wire.Decode.string) <|
  .cons (.default "nodes" (Wire.Decode.list Node.decode) []) <|
  .cons (.default "edges" (Wire.Decode.list Edge.decode) []) .nil

def decode : Wire.Decoder Definition := fun node => do
  let (name, version, description, nodes, edges, _) ←
    Wire.Fields.record "struct GraphDefinition" fields node
  return ⟨name, version, description, nodes, edges⟩

end Definition

end ActionGraph.Graph
