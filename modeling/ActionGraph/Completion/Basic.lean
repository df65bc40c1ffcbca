import ActionGraph.Action.Spec

/-!
# Completions

What is asked of a language model, and what it answers.
-/

namespace ActionGraph.Completion

structure Request where
  prompt : String
  systemPrompt : Option String
  model : String
  temperature : Binary32
  maxTokens : Nat
deriving DecidableEq

structure Usage where
  prompt : Nat
  completion : Nat
deriving DecidableEq

structure Reply where
  content : String
  model : String
  usage : Usage
deriving DecidableEq

namespace Request

def toJson (request : Request) : Json :=
  Json.ofFields <|
    [("prompt", .str request.prompt)]
      ++ Action.optionalField "systemPrompt" (request.systemPrompt.map Json.str)
      ++ [("model", .str request.model), ("temperature", .ofBinary32 request.temperature),
          ("maxTokens", .ofNat request.maxTokens)]

def fields : Wire.Fields (String × Option String × String × Binary32 × Nat × Unit) :=
  .cons (.required "prompt" Wire.Decode.string) <|
  .cons (.optional "systemPrompt" Wire.Decode.string) <|
  .cons (.required "model" Wire.Decode.string) <|
  .cons (.required "temperature" Wire.Decode.f32) <|
  .cons (.required "maxTokens" Wire.Decode.u32) .nil

def decode : Wire.Decoder Request := fun node => do
  let (prompt, systemPrompt, model, temperature, maxTokens, _) ←
    Wire.Fields.record "struct LlmRequest" fields node
  return ⟨prompt, systemPrompt, model, temperature, maxTokens⟩

end Request

namespace Usage

def none : Usage :=
  ⟨0, 0⟩

def toJson (usage : Usage) : Json :=
  Json.ofFields
    [("promptTokens", .ofNat usage.prompt), ("completionTokens", .ofNat usage.completion)]

def fields : Wire.Fields (Nat × Nat × Unit) :=
  .cons (.required "promptTokens" Wire.Decode.u64) <|
  .cons (.required "completionTokens" Wire.Decode.u64) .nil

def decode : Wire.Decoder Usage := fun node => do
  let (prompt, completion, _) ← Wire.Fields.record "struct TokenUsage" fields node
  return ⟨prompt, completion⟩

end Usage

namespace Reply

def toJson (reply : Reply) : Json :=
  Json.ofFields
    [("content", .str reply.content), ("model", .str reply.model),
     ("usage", reply.usage.toJson)]

def fields : Wire.Fields (String × String × Usage × Unit) :=
  .cons (.required "content" Wire.Decode.string) <|
  .cons (.required "model" Wire.Decode.string) <|
  .cons (.default "usage" Usage.decode .none) .nil

def decode : Wire.Decoder Reply := fun node => do
  let (content, model, usage, _) ← Wire.Fields.record "struct LlmResponse" fields node
  return ⟨content, model, usage⟩

end Reply

end ActionGraph.Completion
