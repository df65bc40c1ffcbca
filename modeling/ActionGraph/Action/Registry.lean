import ActionGraph.Action.Handler

/-!
# The registry of handlers

A registry has at most one handler for a type.  Dispatching an action runs
its handler and reports what came of it.  Every failure becomes a report but
an expired credential, which is passed on.  Actions that are nested deeper
than the bound of the registry are not run.
-/

namespace ActionGraph.Action

/-- Handlers by their type, and how deep actions may nest. -/
structure Registry (σ : Type) where
  handlers : Dict (Handler σ)
  maxDepth : Nat

namespace Registry

variable {σ : Type}

def defaultDepth : Nat :=
  10

def empty : Registry σ :=
  ⟨.empty, defaultDepth⟩

instance : Inhabited (Registry σ) :=
  ⟨empty⟩

def register (r : Registry σ) (handler : Handler σ) : Registry σ :=
  { r with handlers := r.handlers.insert handler.type handler }

def registerAll (r : Registry σ) (handlers : List (Handler σ)) : Registry σ :=
  handlers.foldl register r

/-- Drop the handler of a type, and say whether there was one. -/
def unregister (r : Registry σ) (type : String) : Registry σ × Bool :=
  ({ r with handlers := r.handlers.erase type }, r.handlers.contains type)

def get? (r : Registry σ) (type : String) : Option (Handler σ) :=
  r.handlers.get? type

def types (r : Registry σ) : List String :=
  r.handlers.keys

def descriptions (r : Registry σ) : List (String × String) :=
  r.handlers.values.map fun handler => (handler.type, handler.description)

end Registry

/-- The report of a handler's end after some time, or the credential that expired. -/
def Report.ofHandled (spec : Spec) (duration : Nat) :
    Except Halt Outcome → Except Failure Report
  | .ok outcome => .ok { Report.ofOutcome spec.type outcome duration with id := spec.id }
  | .error (.failed failure) =>
      if failure.isCredential then .error failure
      else .ok { Report.failed spec.type failure.message duration with id := spec.id }
  | .error (.crashed text) =>
      let text := "Action panicked: " ++ text.getD "unknown panic"
      .ok { Report.failed spec.type text duration with id := spec.id }

def Report.notRun (spec : Spec) (failure : Failure) : Report :=
  { Report.failed spec.type failure.message 0 with id := spec.id }

namespace Registry

variable {σ : Type}

/--
Dispatch an action with so many levels left.  The last level is spent on
actions that are not run because they are nested too deep.
-/
def dispatchWithin (r : Registry σ) : Nat → Spec → Context → Task σ Dispatched
  | 0, spec, context => .done (.ok (.notRun spec (.tooDeep r.maxDepth)), context)
  | left + 1, spec, context =>
      match r.get? spec.type with
      | none => .done (.ok (.notRun spec (.unknownAction spec.type)), context)
      | some handler =>
          let dispatcher : Dispatcher σ := ⟨r.maxDepth - left, r.dispatchWithin left⟩
          Process.now.bind fun start =>
            (handler.run dispatcher spec.params context).bind fun handled =>
              Process.now.bind fun stop =>
                .done (Report.ofHandled spec (stop - start) handled.1, handled.2)

def dispatch (r : Registry σ) (spec : Spec) (context : Context) : Task σ Dispatched :=
  r.dispatchWithin (r.maxDepth + 1) spec context

end Registry

end ActionGraph.Action
