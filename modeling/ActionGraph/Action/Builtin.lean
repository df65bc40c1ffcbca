import ActionGraph.Action.Branch
import ActionGraph.Action.Generate
import ActionGraph.Action.Parallel
import ActionGraph.Action.Registry
import ActionGraph.Action.Route
import ActionGraph.Action.Transition
import ActionGraph.Action.Update
import ActionGraph.Action.Wait

/-!
# Built-in actions

The seven types of actions that every registry made from settings has.
-/

namespace ActionGraph.Action

inductive Builtin where
  | condition
  | parallel
  | wait
  | stateTransition
  | contextUpdate
  | semanticRoute
  | llmGenerate
deriving DecidableEq, Repr

namespace Builtin

variable {σ : Type}

def all : List Builtin :=
  [.condition, .parallel, .wait, .stateTransition, .contextUpdate, .semanticRoute, .llmGenerate]

def name : Builtin → String
  | .condition => "condition"
  | .parallel => "parallel"
  | .wait => "wait"
  | .stateTransition => "state_transition"
  | .contextUpdate => "context_update"
  | .semanticRoute => "semantic_route"
  | .llmGenerate => "llm_generate"

def ofName? (name : String) : Option Builtin :=
  all.find? fun builtin => builtin.name = name

def handler (settings : Settings) (collaborators : Collaborators σ) : Builtin → Handler σ
  | .condition => Branch.handler
  | .parallel => Parallel.handler settings.actions.parallelTimeout
  | .wait => Wait.handler settings.actions.waitCeiling
  | .stateTransition => Transition.handler
  | .contextUpdate => Update.handler
  | .semanticRoute => Route.handler collaborators settings.routing
  | .llmGenerate => Generate.handler collaborators settings.model

theorem handler_type (settings : Settings) (collaborators : Collaborators σ) (b : Builtin) :
    (b.handler settings collaborators).type = b.name := by
  cases b <;> rfl

end Builtin

namespace Registry

variable {σ : Type}

def builtins (settings : Settings) (collaborators : Collaborators σ) : Registry σ :=
  { (empty : Registry σ) with maxDepth := settings.actions.maxDepth }.registerAll
    (Builtin.all.map (Builtin.handler settings collaborators))

end Registry

def cacheOf (settings : Settings) : Embedding.Cache :=
  .empty (1000 * settings.routing.cacheSeconds)

end ActionGraph.Action
