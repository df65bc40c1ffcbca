import ActionGraph.Settings
import ActionGraph.Toml.Print

/-!
# Writing settings

Settings are written in the form in which they are loaded; what is not set is
left out.
-/

namespace ActionGraph.Settings

open Toml (Setting Section)

def optional (name : String) : Option Setting → List (String × Setting)
  | some value => [(name, value)]
  | none => []

def sections (s : Settings) : List Section :=
  [⟨"actions",
      [("max_depth", .natural s.actions.maxDepth),
       ("parallel_timeout_ms", .natural s.actions.parallelTimeout),
       ("wait_ceiling_ms", .natural s.actions.waitCeiling)]⟩,
   ⟨"executor",
      [("max_concurrent_executions", .natural s.executor.maxConcurrent),
       ("max_queue_depth", .natural s.executor.maxQueueDepth),
       ("node_timeout_ms", .natural s.executor.nodeTimeout)]⟩,
   ⟨"routing",
      [("high_threshold", .float s.routing.highThreshold.widen),
       ("medium_threshold", .float s.routing.mediumThreshold.widen),
       ("cache_ttl_secs", .natural s.routing.cacheSeconds),
       ("embedding_model", .text s.routing.embeddingModel)]
        ++ optional "dimensions" (s.routing.dimensions.map .natural)⟩,
   ⟨"events", [("capacity", .natural s.eventCapacity)]⟩]
    ++ (s.model.map fun (m : ModelSettings) =>
        ⟨"model",
          [("base_url", .text m.baseUrl)] ++ optional "api_key" (m.apiKey.map .text)
            ++ [("model_id", .text m.modelId), ("max_tokens", .natural m.maxTokens),
                ("temperature", .float m.temperature.widen)]⟩).toList
    ++ (s.embedding.map fun (e : EmbeddingSettings) =>
        ⟨"embedding",
          [("base_url", .text e.baseUrl)] ++ optional "api_key" (e.apiKey.map .text)⟩).toList

def toText (s : Settings) : String :=
  Toml.render s.sections

end ActionGraph.Settings
