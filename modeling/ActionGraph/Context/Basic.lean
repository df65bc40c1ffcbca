import ActionGraph.Conversation
import ActionGraph.Json.Path
import ActionGraph.Wire.Fields

/-!
# The context of an action

A context is a snapshot of what triggered an action, with the bag that
actions read and write.  Conditions and templates see it through its view, a
JSON object with one field for each part.
-/

namespace ActionGraph

/-- The message that triggered an action. -/
structure Message where
  id : Option String
  /-- The body without mentions. -/
  content : String
  /-- The body with mentions. -/
  verbatim : Option String
  sender : Option String
  channel : Option String
  /-- Whatever else the message carries. -/
  extra : Dict Json
deriving DecidableEq

namespace Message

def ofContent (content : String) : Message :=
  ⟨none, content, none, none, none, .empty⟩

def optionalField (name : String) (value : Option String) : List (String × Json) :=
  match value with
  | some s => [(name, .str s)]
  | none => []

def toJson (message : Message) : Json :=
  Json.ofFields <|
    optionalField "id" message.id ++ [("content", .str message.content)]
      ++ optionalField "originalContent" message.verbatim
      ++ optionalField "senderId" message.sender
      ++ optionalField "channel" message.channel
      ++ message.extra.entries

def fields : Wire.Fields (Option String × String × Option String × Option String
    × Option String × Unit) :=
  .cons (.optional "id" Wire.Decode.string) <|
  .cons (.default "content" Wire.Decode.string "") <|
  .cons (.optional "originalContent" Wire.Decode.string) <|
  .cons (.optional "senderId" Wire.Decode.string) <|
  .cons (.optional "channel" Wire.Decode.string) .nil

def decode : Wire.Decoder Message := fun node => do
  let ((id, content, verbatim, sender, channel, _), extra) ←
    Wire.Fields.openRecord "struct InboundMessage" fields node
  return ⟨id, content, verbatim, sender, channel, extra⟩

end Message

/-- The bag that actions read and write. -/
abbrev Bag := Dict Json

def Bag.merge (bag patch : Bag) : Bag :=
  patch.entries.foldl
    (fun bag entry =>
      bag.insert entry.1 <|
        match bag.get? entry.1 with
        | some old => old.merge entry.2
        | none => entry.2)
    bag

/-- What triggered an action, and the bag. -/
structure Context where
  organization : String
  conversation : Option String
  state : Conversation.State
  trigger : Option Json
  event : Option Json
  message : Option Message
  user : Option Json
  metadata : Dict Json
  bag : Bag
deriving DecidableEq

namespace Context

def ofOrganization (organization : String) : Context :=
  ⟨organization, none, .idle, none, none, none, none, .empty, .empty⟩

instance : Inhabited Context :=
  ⟨ofOrganization ""⟩

/-- What conditions and templates see. -/
def view (context : Context) : Json :=
  Json.ofFields
    [("orgId", .str context.organization),
     ("conversationId", (context.conversation.map Json.str).getD .null),
     ("conversationState", context.state.toJson),
     ("trigger", context.trigger.getD .null),
     ("event", context.event.getD .null),
     ("message", (context.message.map Message.toJson).getD .null),
     ("user", context.user.getD .null),
     ("metadata", .ofDict context.metadata),
     ("context", .ofDict context.bag)]

def fields : Wire.Fields (String × Option String × Conversation.State × Option Json
    × Option Json × Option Message × Option Json × Dict Json × Dict Json × Unit) :=
  .cons (.default "orgId" Wire.Decode.string "") <|
  .cons (.optional "conversationId" Wire.Decode.string) <|
  .cons (.default "conversationState" Conversation.State.decode .idle) <|
  .cons (.optional "trigger" Wire.Decode.json) <|
  .cons (.optional "event" Wire.Decode.json) <|
  .cons (.optional "message" Message.decode) <|
  .cons (.optional "user" Wire.Decode.json) <|
  .cons (.default "metadata" (Wire.Decode.dict Wire.Decode.json) .empty) <|
  .cons (.default "context" (Wire.Decode.dict Wire.Decode.json) .empty) .nil

def decode : Wire.Decoder Context := fun node => do
  let (organization, conversation, state, trigger, event, message, user, metadata, bag, _) ←
    Wire.Fields.record "struct ExecutionContext" fields node
  return ⟨organization, conversation, state, trigger, event, message, user, metadata, bag⟩

def resolve? (context : Context) (path : String) : Option Json :=
  context.view.resolve? path

def get? (context : Context) (key : String) : Option Json :=
  context.bag.get? key

def getString? (context : Context) (key : String) : Option String :=
  (context.get? key).bind Json.string?

def set (context : Context) (key : String) (value : Json) : Context :=
  { context with bag := context.bag.insert key value }

def remove (context : Context) (key : String) : Context :=
  { context with bag := context.bag.erase key }

end Context

end ActionGraph
