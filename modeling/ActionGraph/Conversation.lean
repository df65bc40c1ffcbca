import ActionGraph.Wire.Decode
import ActionGraph.Text.Case

/-!
# States of a conversation

A conversation moves through seven states.  `State.targets` is the only place
where it is said which moves are legal.
-/

namespace ActionGraph.Conversation

inductive State where
  | idle
  | aiActive
  | waitingForUser
  | handoffPending
  | agentActive
  | resolved
  | archived
deriving DecidableEq, Repr

namespace State

instance : Inhabited State :=
  ⟨.idle⟩

def all : List State :=
  [.idle, .aiActive, .waitingForUser, .handoffPending, .agentActive, .resolved, .archived]

def targets : State → List State
  | .idle => [.aiActive, .agentActive, .resolved]
  | .aiActive => [.waitingForUser, .handoffPending, .resolved, .idle]
  | .waitingForUser => [.aiActive, .handoffPending, .resolved, .idle]
  | .handoffPending => [.agentActive, .aiActive, .resolved]
  | .agentActive => [.waitingForUser, .aiActive, .resolved]
  | .resolved => [.archived, .aiActive, .idle]
  | .archived => [.idle]

def mayMoveTo (state target : State) : Bool :=
  state.targets.contains target

def name : State → String
  | .idle => "idle"
  | .aiActive => "ai_active"
  | .waitingForUser => "waiting_for_user"
  | .handoffPending => "handoff_pending"
  | .agentActive => "agent_active"
  | .resolved => "resolved"
  | .archived => "archived"

/-- The state of a name, whatever its case and the blanks around it. -/
def ofText? (text : String) : Option State :=
  all.find? fun state => state.name.toList = Text.lower (Text.trim text.toList)

def unknownMessage (text : String) : String :=
  "unknown conversation state: " ++ text

def decode : Wire.Decoder State :=
  Wire.Decode.variant (all.map fun state => (state.name, state)) none

def toJson (state : State) : Json :=
  .str state.name

end State

end ActionGraph.Conversation
