import ActionGraph.Action.Collaborators
import ActionGraph.Http.Basic

/-!
# Remote language models

A language model behind an address takes a conversation and answers with
choices, of which the first counts.
-/

namespace ActionGraph.Completion.Remote

open ActionGraph.Action

variable {σ : Type}

def line (role content : String) : Json :=
  Json.ofFields [("role", .str role), ("content", .str content)]

/-- The conversation of a request; an empty instruction is left out. -/
def conversation (request : Request) : List Json :=
  let instruction := match request.systemPrompt with
    | some text => if text.isEmpty then [] else [line "system" text]
    | none => []
  instruction ++ [line "user" request.prompt]

def body (request : Request) : Json :=
  Json.ofFields
    [("model", .str request.model), ("messages", .arr (conversation request)),
     ("max_tokens", .ofNat request.maxTokens),
     ("temperature", .ofShortest32 request.temperature)]

structure Answer where
  model : Option String
  /-- The content of each choice. -/
  choices : List (Option String)
  usage : Option Usage
deriving DecidableEq

namespace Answer

def decodeContent : Wire.Decoder (Option String) := fun node => do
  let (content, _) ←
    Wire.Fields.record "struct ChoiceMessage"
      (.cons (.optional "content" Wire.Decode.string) .nil) node
  return content

def decodeChoice : Wire.Decoder (Option String) := fun node => do
  let (content, _) ←
    Wire.Fields.record "struct Choice" (.cons (.required "message" decodeContent) .nil) node
  return content

def decodeUsage : Wire.Decoder Usage := fun node => do
  let (prompt, completion, _) ←
    Wire.Fields.record "struct Usage"
      (.cons (.default "prompt_tokens" Wire.Decode.u64 0) <|
       .cons (.default "completion_tokens" Wire.Decode.u64 0) .nil) node
  return ⟨prompt, completion⟩

def decode : Wire.Decoder Answer := fun node => do
  let (model, choices, usage, _) ←
    Wire.Fields.record "struct ChatResponse"
      (.cons (.optional "model" Wire.Decode.string) <|
       .cons (.default "choices" (Wire.Decode.list decodeChoice) []) <|
       .cons (.optional "usage" decodeUsage) .nil) node
  return ⟨model, choices, usage⟩

def reply (answer : Answer) (model : String) : Except Failure Reply :=
  match answer.choices with
  | some content :: _ =>
      .ok ⟨content, answer.model.getD model, answer.usage.getD .none⟩
  | _ => .error (.completion "response contained no choices")

end Answer

def model (transport : Http.Transport σ) (base : String) (key : Option String) : Model σ :=
  fun request =>
    let post : Http.Request := ⟨Http.address base "/chat/completions", key, body request⟩
    (Http.ask transport .completion "Failed to parse response" Answer.decode post).map
      fun answer => answer.bind fun answer => answer.reply request.model

end ActionGraph.Completion.Remote
