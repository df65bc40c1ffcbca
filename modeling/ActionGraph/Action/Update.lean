import ActionGraph.Action.Handler
import ActionGraph.Action.Params

/-!
# Updates of the bag

The bag is replaced, a patch is merged into it, or keys are deleted from it.
The outcome shows the bag before and after.
-/

namespace ActionGraph.Action.Update

variable {σ : Type}

inductive Operation where
  | set
  | merge
  | delete
deriving DecidableEq, Repr

namespace Operation

def name : Operation → String
  | .set => "set"
  | .merge => "merge"
  | .delete => "delete"

def decode : Wire.Decoder Operation :=
  Wire.Decode.variant [("set", set), ("merge", merge), ("delete", delete)] none

end Operation

inductive Change where
  | replace (bag : Bag)
  | patch (entries : Bag)
  | drop (keys : List String)

namespace Change

def operation : Change → Operation
  | .replace _ => .set
  | .patch _ => .merge
  | .drop _ => .delete

def apply (bag : Bag) : Change → Bag
  | .replace new => new
  | .patch entries => bag.merge entries
  | .drop keys => keys.foldl Dict.erase bag

end Change

/-- The entries to set: a map, or one key and its value. -/
def given (params : Json) (updates : Option Bag) (key : Option String) :
    Except Failure Bag :=
  match updates, key with
  | some updates, _ => .ok updates
  | none, some key => .ok (Dict.empty.insert key (params.field "value"))
  | none, none => .error (.missingParam "updates")

/-- The keys to delete: a list, one key, or the keys of a map. -/
def keys (params : Json) (updates : Option Bag) (key : Option String) :
    Except Failure (List String) := do
  match ← Params.optional params "keys" (Wire.Decode.list Wire.Decode.string), key, updates with
  | some keys, _, _ => return keys
  | none, some key, _ => return [key]
  | none, none, some updates => return updates.keys
  | none, none, none => throw (.missingParam "keys")

def Change.ofParams (params : Json) : Except Failure Change := do
  let operation ← Params.optional params "operation" Operation.decode
  let updates ← Params.optional params "updates" (Wire.Decode.dict Wire.Decode.json)
  let key ← Params.optional params "key" Wire.Decode.string
  match operation.getD .merge with
  | .set => return .replace (← given params updates key)
  | .merge => return .patch (← given params updates key)
  | .delete => return .drop (← keys params updates key)

def outcome (operation : Operation) (before after : Bag) : Outcome :=
  .ok <| Json.ofFields
    [("operation", .str operation.name), ("before", .ofDict before), ("after", .ofDict after)]

def handle (params : Json) (context : Context) : Handled :=
  match Change.ofParams params with
  | .error failure => .failed context failure
  | .ok change =>
      let after := change.apply context.bag
      (.ok (outcome change.operation context.bag after), { context with bag := after })

def run (_ : Dispatcher σ) (params : Json) (context : Context) : Task σ Handled :=
  .done (handle params context)

def handler : Handler σ where
  type := "context_update"
  description := "Set, deep-merge, or delete keys in the execution context."
  run := run

end ActionGraph.Action.Update
