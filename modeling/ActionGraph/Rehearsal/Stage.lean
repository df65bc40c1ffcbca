import ActionGraph.Action.Collaborators

/-!
# Collaborators for rehearsals

A language model with prepared replies and a source of embeddings with
prepared vectors.  Both keep a list of what they were asked.
-/

namespace ActionGraph.Rehearsal

open ActionGraph.Action ActionGraph.Embedding

structure EmbedCall where
  texts : List String
  model : String
  dimensions : Option Nat
deriving DecidableEq

namespace EmbedCall

def toJson (call : EmbedCall) : Json :=
  Json.ofFields
    [("texts", .ofStrings call.texts), ("model", .str call.model),
     ("dimensions", (call.dimensions.map Json.ofNat).getD .null)]

end EmbedCall

/-- The replies that are left and all that was asked, the latest first. -/
structure Stage where
  replies : List String
  requests : List Completion.Request
  calls : List EmbedCall
deriving DecidableEq

namespace Stage

def ofReplies (replies : List String) : Stage :=
  ⟨replies, [], []⟩

instance : Inhabited Stage :=
  ⟨ofReplies []⟩

def embedded (stage : Stage) : Nat :=
  (stage.calls.map fun call => call.texts.length).foldr (· + ·) 0

end Stage

inductive ModelMode where
  | plain
  | expired
  | broken
  | slow
deriving DecidableEq, Repr

/-- How the source of embeddings behaves. -/
inductive EmbedderMode where
  | plain
  | expired
  | broken
  /-- The last vector is missing. -/
  | short
deriving DecidableEq, Repr

def wordCount (text : String) : Nat :=
  (Text.words text.toList).length

def nextReply (request : Completion.Request) (stage : Stage) : Completion.Reply × Stage :=
  let content := stage.replies.headD "mock response"
  (⟨content, request.model, ⟨wordCount request.prompt, wordCount content⟩⟩,
    { stage with replies := stage.replies.drop 1 })

def model (mode : ModelMode) : Model Stage := fun request =>
  (Task.outside fun stage => ((), { stage with requests := request :: stage.requests })).bind
    fun _ =>
      let reply : Task Stage (Except Failure Completion.Reply) :=
        (Task.outside (nextReply request)).map .ok
      match mode with
      | .plain => reply
      | .expired => .done (.error (.credentialExpired "mock credential expired"))
      | .broken => .done (.error (.completion "HTTP 500: boom"))
      | .slow => (Process.sleep 500).bind fun _ => reply

/-- The vector of a text for which none is prepared, from its bytes. -/
def vectorOf (text : String) : Vector :=
  let bytes := text.toUTF8.toList.map UInt8.toNat
  let sum : Nat := bytes.foldr (· + ·) 0
  [.ofInt (bytes.length % 7 + 1), .ofInt (sum % 11 + 1), .ofInt (sum % 5 + 1)]

def embedder (mode : EmbedderMode) (prepared : Dict Vector) : Embedder Stage :=
  fun texts model dimensions =>
    (Task.outside fun stage =>
      ((), { stage with calls := ⟨texts, model, dimensions⟩ :: stage.calls })).bind fun _ =>
        let vectors := texts.map fun text => (prepared.get? text).getD (vectorOf text)
        match mode with
        | .plain => .done (.ok vectors)
        | .expired => .done (.error (.credentialExpired "embedding key expired"))
        | .broken => .done (.error (.embedding "HTTP 500: boom"))
        | .short => .done (.ok vectors.dropLast)

end ActionGraph.Rehearsal
