import ActionGraph.Action.Handler
import ActionGraph.Action.Params
import ActionGraph.Time

/-!
# Transitions of a conversation

The action checks that the conversation may move to a state and says so.  The
move itself is left to whoever asked.
-/

namespace ActionGraph.Action.Transition

open Conversation

variable {σ : Type}

/-- The state that is asked for, if the conversation may move there. -/
def target (params : Json) (current : State) : Except Failure State := do
  let text ← Params.required params "targetState" Wire.Decode.string
  match State.ofText? text with
  | none => throw (.invalidParam "targetState" (State.unknownMessage text))
  | some target =>
      if current.mayMoveTo target then return target
      else throw (.illegalMove current.name target.name)

def outcome (current target : State) (time : Nat) : Outcome :=
  .ok <| Json.ofFields
    [("previousState", current.toJson), ("newState", target.toJson),
     ("timestamp", .str (Time.long time))]

def run (_ : Dispatcher σ) (params : Json) (context : Context) : Task σ Handled :=
  Process.now.bind fun time =>
    .done <| .unchanged context <|
      (target params context.state).map fun target => outcome context.state target time

def handler : Handler σ where
  type := "state_transition"
  description :=
    "Check that the conversation may move to `targetState` and report the transition."
  run := run

end ActionGraph.Action.Transition
