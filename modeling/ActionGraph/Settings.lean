import ActionGraph.Failure
import ActionGraph.Wire.Fields

/-!
# Settings

The limits of actions and executions, the thresholds of routing, the capacity
of the event bus and the two collaborators.  Every setting but the model's
name has a default.
-/

namespace ActionGraph

/-- Limits of actions and their handlers. -/
structure ActionSettings where
  /-- How deep actions may nest. -/
  maxDepth : Nat
  /-- The time limit of a parallel branch that gives none. -/
  parallelTimeout : Nat
  /-- The longest time an action may wait. -/
  waitCeiling : Nat
deriving DecidableEq

/-- Limits of executions. -/
structure ExecutorSettings where
  maxConcurrent : Nat
  /-- How many messages a port holds before the oldest is dropped. -/
  maxQueueDepth : Nat
  /-- The time limit of a node. -/
  nodeTimeout : Nat
deriving DecidableEq

/-- Thresholds of routing and the life of cached embeddings. -/
structure RoutingSettings where
  highThreshold : Binary32
  mediumThreshold : Binary32
  cacheSeconds : Nat
  embeddingModel : String
  dimensions : Option Nat
deriving DecidableEq

structure ModelSettings where
  baseUrl : String
  apiKey : Option String
  modelId : String
  maxTokens : Nat
  temperature : Binary32
deriving DecidableEq

structure EmbeddingSettings where
  baseUrl : String
  apiKey : Option String
deriving DecidableEq

structure Settings where
  actions : ActionSettings
  executor : ExecutorSettings
  routing : RoutingSettings
  /-- How many events a slow listener may fall behind. -/
  eventCapacity : Nat
  model : Option ModelSettings
  embedding : Option EmbeddingSettings
deriving DecidableEq

namespace Settings

def defaultUrl : String :=
  "https://api.openai.com/v1"

namespace Defaults

def actions : ActionSettings :=
  ⟨10, 30000, 300000⟩

def executor : ExecutorSettings :=
  ⟨100, 1000, 60000⟩

/-- The thresholds 0.85 and 0.7. -/
def routing : RoutingSettings :=
  ⟨⟨0x3f59999a⟩, ⟨0x3f333333⟩, 3600, "text-embedding-3-small", none⟩

def eventCapacity : Nat :=
  256

end Defaults

def defaults : Settings :=
  ⟨Defaults.actions, Defaults.executor, Defaults.routing, Defaults.eventCapacity, none, none⟩

instance : Inhabited Settings :=
  ⟨defaults⟩

/-! ## Decoding -/

def decodeActions : Wire.Decoder ActionSettings := fun node => do
  let (maxDepth, parallelTimeout, waitCeiling, _) ←
    Wire.Fields.record "struct ActionsConfig"
      (.cons (.default "max_depth" Wire.Decode.usize Defaults.actions.maxDepth) <|
       .cons (.default "parallel_timeout_ms" Wire.Decode.u64 Defaults.actions.parallelTimeout) <|
       .cons (.default "wait_ceiling_ms" Wire.Decode.u64 Defaults.actions.waitCeiling) .nil) node
  return ⟨maxDepth, parallelTimeout, waitCeiling⟩

def decodeExecutor : Wire.Decoder ExecutorSettings := fun node => do
  let defaults := Defaults.executor
  let (maxConcurrent, maxQueueDepth, nodeTimeout, _) ←
    Wire.Fields.record "struct ExecutorConfig"
      (.cons (.default "max_concurrent_executions" Wire.Decode.usize defaults.maxConcurrent) <|
       .cons (.default "max_queue_depth" Wire.Decode.usize defaults.maxQueueDepth) <|
       .cons (.default "node_timeout_ms" Wire.Decode.u64 defaults.nodeTimeout) .nil) node
  return ⟨maxConcurrent, maxQueueDepth, nodeTimeout⟩

def decodeRouting : Wire.Decoder RoutingSettings := fun node => do
  let defaults := Defaults.routing
  let (high, medium, cacheSeconds, embeddingModel, dimensions, _) ←
    Wire.Fields.record "struct RoutingConfig"
      (.cons (.default "high_threshold" Wire.Decode.f32 defaults.highThreshold) <|
       .cons (.default "medium_threshold" Wire.Decode.f32 defaults.mediumThreshold) <|
       .cons (.default "cache_ttl_secs" Wire.Decode.u64 defaults.cacheSeconds) <|
       .cons (.default "embedding_model" Wire.Decode.string defaults.embeddingModel) <|
       .cons (.optional "dimensions" Wire.Decode.usize) .nil) node
  return ⟨high, medium, cacheSeconds, embeddingModel, dimensions⟩

def decodeEvents : Wire.Decoder Nat := fun node => do
  let (capacity, _) ←
    Wire.Fields.record "struct EventsConfig"
      (.cons (.default "capacity" Wire.Decode.usize Defaults.eventCapacity) .nil) node
  return capacity

def decodeModel : Wire.Decoder ModelSettings := fun node => do
  let (baseUrl, apiKey, modelId, maxTokens, temperature, _) ←
    Wire.Fields.record "struct ModelConfig"
      (.cons (.default "base_url" Wire.Decode.string defaultUrl) <|
       .cons (.optional "api_key" Wire.Decode.string) <|
       .cons (.required "model_id" Wire.Decode.string) <|
       .cons (.default "max_tokens" Wire.Decode.u32 1024) <|
       .cons (.default "temperature" Wire.Decode.f32 ⟨0⟩) .nil) node
  return ⟨baseUrl, apiKey, modelId, maxTokens, temperature⟩

def decodeEmbedding : Wire.Decoder EmbeddingSettings := fun node => do
  let (baseUrl, apiKey, _) ←
    Wire.Fields.record "struct EmbeddingConfig"
      (.cons (.default "base_url" Wire.Decode.string defaultUrl) <|
       .cons (.optional "api_key" Wire.Decode.string) .nil) node
  return ⟨baseUrl, apiKey⟩

def decode : Wire.Decoder Settings := fun node => do
  let (actions, executor, routing, events, model, embedding, _) ←
    Wire.Fields.record "struct AppConfig"
      (.cons (.default "actions" decodeActions Defaults.actions) <|
       .cons (.default "executor" decodeExecutor Defaults.executor) <|
       .cons (.default "routing" decodeRouting Defaults.routing) <|
       .cons (.default "events" decodeEvents Defaults.eventCapacity) <|
       .cons (.optional "model" decodeModel) <|
       .cons (.optional "embedding" decodeEmbedding) .nil) node
  return ⟨actions, executor, routing, events, model, embedding⟩

/-! ## Encoding -/

def textOrNull (value : Option String) : Json :=
  (value.map Json.str).getD .null

def ActionSettings.toJson (s : ActionSettings) : Json :=
  Json.ofFields
    [("max_depth", .ofNat s.maxDepth), ("parallel_timeout_ms", .ofNat s.parallelTimeout),
     ("wait_ceiling_ms", .ofNat s.waitCeiling)]

def ExecutorSettings.toJson (s : ExecutorSettings) : Json :=
  Json.ofFields
    [("max_concurrent_executions", .ofNat s.maxConcurrent),
     ("max_queue_depth", .ofNat s.maxQueueDepth), ("node_timeout_ms", .ofNat s.nodeTimeout)]

def RoutingSettings.toJson (s : RoutingSettings) : Json :=
  Json.ofFields
    [("high_threshold", .ofBinary32 s.highThreshold),
     ("medium_threshold", .ofBinary32 s.mediumThreshold),
     ("cache_ttl_secs", .ofNat s.cacheSeconds), ("embedding_model", .str s.embeddingModel),
     ("dimensions", (s.dimensions.map Json.ofNat).getD .null)]

def ModelSettings.toJson (s : ModelSettings) : Json :=
  Json.ofFields
    [("base_url", .str s.baseUrl), ("api_key", textOrNull s.apiKey), ("model_id", .str s.modelId),
     ("max_tokens", .ofNat s.maxTokens), ("temperature", .ofBinary32 s.temperature)]

def EmbeddingSettings.toJson (s : EmbeddingSettings) : Json :=
  Json.ofFields [("base_url", .str s.baseUrl), ("api_key", textOrNull s.apiKey)]

def toJson (s : Settings) : Json :=
  Json.ofFields
    [("actions", ActionSettings.toJson s.actions), ("executor", ExecutorSettings.toJson s.executor),
     ("routing", RoutingSettings.toJson s.routing),
     ("events", Json.ofFields [("capacity", .ofNat s.eventCapacity)]),
     ("model", (s.model.map ModelSettings.toJson).getD .null),
     ("embedding", (s.embedding.map EmbeddingSettings.toJson).getD .null)]

/-! ## Validation -/

/-- Refuse settings that cannot be honoured. -/
def validate (s : Settings) : Except Failure Unit :=
  if s.routing.highThreshold.lt s.routing.mediumThreshold then
    .error <| .settings <|
      "routing.medium_threshold (" ++ Decimal.render32 Decimal.plain s.routing.mediumThreshold
        ++ ") must not exceed routing.high_threshold ("
        ++ Decimal.render32 Decimal.plain s.routing.highThreshold ++ ")"
  else if s.executor.maxConcurrent = 0 then
    .error (.settings "executor.max_concurrent_executions must be at least 1")
  else if s.executor.maxQueueDepth = 0 then
    .error (.settings "executor.max_queue_depth must be at least 1")
  else .ok ()

end Settings

end ActionGraph
