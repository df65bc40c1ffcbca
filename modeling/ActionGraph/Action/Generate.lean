import ActionGraph.Action.Collaborators
import ActionGraph.Action.Handler
import ActionGraph.Action.Params
import ActionGraph.Settings

/-!
# Generating actions

The action renders a prompt, asks the language model for a completion and
keeps it under the output key, if there is one.
-/

namespace ActionGraph.Action.Generate

variable {σ : Type}

def defaultTokens : Nat :=
  1024

def modelName (defaults : Option ModelSettings) (params : Json) : Except Failure String := do
  match ← Params.optional params "model" Wire.Decode.string, defaults with
  | some model, _ => return model
  | none, some settings => return settings.modelId
  | none, none => throw (.missingParam "model")

/-- All that is settled before the model is asked. -/
structure Prepared (σ : Type) where
  model : Model σ
  request : Completion.Request
  outputKey : Option String

def prepare (collaborators : Collaborators σ) (defaults : Option ModelSettings) (params : Json)
    (context : Context) : Except Failure (Prepared σ) := do
  let prompt ← Params.required params "prompt" Wire.Decode.string
  let systemPrompt ← Params.optional params "systemPrompt" Wire.Decode.string
  match collaborators.model with
  | none => throw (.settings "llm_generate requires a model provider")
  | some model =>
      let name ← modelName defaults params
      let temperature ← Params.optional params "temperature" Wire.Decode.f32
      let maxTokens ← Params.optional params "maxTokens" Wire.Decode.u32
      let outputKey ← Params.optional params "outputKey" Wire.Decode.string
      let prompt ← collaborators.render prompt context
      let systemPrompt ← systemPrompt.mapM fun template => collaborators.render template context
      let temperature := (temperature <|> defaults.map (·.temperature)).getD ⟨0⟩
      let maxTokens := (maxTokens <|> defaults.map (·.maxTokens)).getD defaultTokens
      return ⟨model, ⟨prompt, systemPrompt, name, temperature, maxTokens⟩, outputKey⟩

def deliver (outputKey : Option String) (context : Context) (reply : Completion.Reply) : Handled :=
  (.ok (.ok reply.toJson),
    match outputKey with
    | some key => context.set key (.str reply.content)
    | none => context)

def run (collaborators : Collaborators σ) (defaults : Option ModelSettings) (_ : Dispatcher σ)
    (params : Json) (context : Context) : Task σ Handled :=
  match prepare collaborators defaults params context with
  | .error failure => .done (.failed context failure)
  | .ok ready =>
      (ready.model ready.request).bind fun answer =>
        match answer with
        | .error failure => .done (.failed context failure)
        | .ok reply => .done (deliver ready.outputKey context reply)

def handler (collaborators : Collaborators σ) (defaults : Option ModelSettings) : Handler σ where
  type := "llm_generate"
  description := "Generate text from a templated prompt, optionally storing it in the context."
  run := run collaborators defaults

end ActionGraph.Action.Generate
