import ActionGraph.Action.Spec
import ActionGraph.Action.World
import ActionGraph.Context.Basic
import ActionGraph.Failure

/-!
# Handlers of actions

A handler runs the actions of one type.  It may change the context, it may
wait, and it may dispatch further actions through the dispatcher it is
given, which runs them one level deeper.
-/

namespace ActionGraph.Action

/-- Why a handler ended without an outcome. -/
inductive Halt where
  | failed (failure : Failure)
  /-- The handler broke down, with a text if there is one. -/
  | crashed (text : Option String)
deriving DecidableEq

/-- What a dispatch ends with: a report or an expired credential, and the context. -/
abbrev Dispatched :=
  Except Failure Report × Context

/-- What a handler ends with, and the context. -/
abbrev Handled :=
  Except Halt Outcome × Context

/-- What a handler runs further actions with. -/
structure Dispatcher (σ : Type) where
  /-- How deep the handler is nested; at the top this is zero. -/
  level : Nat
  dispatch : Spec → Context → Task σ Dispatched

structure Handler (σ : Type) where
  type : String
  description : String
  run : Dispatcher σ → Json → Context → Task σ Handled

namespace Handled

def unchanged (context : Context) (result : Except Failure Outcome) : Handled :=
  (result.mapError Halt.failed, context)

/-- The end of a handler that fails before it changes the context. -/
def failed (context : Context) (failure : Failure) : Handled :=
  (.error (.failed failure), context)

end Handled

end ActionGraph.Action
