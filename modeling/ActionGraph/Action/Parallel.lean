import ActionGraph.Action.Handler
import ActionGraph.Action.Params
import ActionGraph.Action.Strategy
import ActionGraph.Process.Pool
import ActionGraph.Process.Timeout

/-!
# Parallel actions

Each branch runs on a copy of the context and under a time limit.  When the
strategy is satisfied the branches that still run are dropped, and the writes
of those that succeeded reach the context.  An expired credential of a branch
ends the whole and leaves the context as it was.
-/

namespace ActionGraph.Action.Parallel

variable {σ : Type}

structure Plan where
  actions : List Spec
  strategy : Strategy
  timeout : Nat
  continueOnError : Bool
deriving DecidableEq

def Plan.ofParams (defaultTimeout : Nat) (params : Json) : Except Failure Plan := do
  let actions ← Params.required params "actions" (Wire.Decode.list Spec.decode)
  if actions.isEmpty then
    throw (.invalidParam "actions" "at least one action is required")
  let strategy ← Params.optional params "strategy" Strategy.decode
  let timeout ← Params.optional params "timeout" Wire.Decode.u64
  let continueOnError ← Params.optional params "continueOnError" Wire.Decode.bool
  return ⟨actions, strategy.getD .all, timeout.getD defaultTimeout, continueOnError.getD false⟩

def timedOut (spec : Spec) (limit duration : Nat) : Report :=
  { Report.failed spec.type (Failure.timedOut limit).message duration with id := spec.id }

/-- What a branch ends with, from what its dispatch ended with in time, if it did. -/
def finish (spec : Spec) (limit index duration : Nat) (base : Bag) :
    Option Dispatched → Except Failure Finish
  | some (.ok report, context) => .ok ⟨index, report, context.writesSince base⟩
  | some (.error failure, _) => .error failure
  | none => .ok ⟨index, timedOut spec limit duration, .none⟩

/-- One branch on its own copy of the context. -/
def branch (d : Dispatcher σ) (limit : Nat) (context : Context) (index : Nat) (spec : Spec) :
    Task σ (Except Failure Finish) :=
  Process.now.bind fun start =>
    ((d.dispatch spec context).timeout limit).bind fun dispatched =>
      Process.now.bind fun stop =>
        .done (finish spec limit index (stop - start) context.bag dispatched)

/-- Take the ends of branches until the strategy is satisfied or a credential expired. -/
def take (plan : Plan) :
    Process.Taker (Except Failure (List Finish)) (Except Failure Finish) :=
  fun sofar _ ended =>
    match sofar, ended with
    | .error failure, _ => (.error failure, true)
    | .ok _, .error failure => (.error failure, true)
    | .ok finished, .ok finish =>
        (.ok (finished ++ [finish]),
          plan.strategy.stops plan.continueOnError finish.report.success)

def conclude (plan : Plan) (context : Context) :
    Except Failure (List Finish) → Handled
  | .error failure => .failed context failure
  | .ok finished =>
      let finished := Finish.inPlace finished
      (.ok (plan.strategy.outcome plan.actions.length finished),
        { context with bag := Finish.merge finished context.bag })

def run (defaultTimeout : Nat) (d : Dispatcher σ) (params : Json) (context : Context) :
    Task σ Handled :=
  match Plan.ofParams defaultTimeout params with
  | .error failure => .done (.failed context failure)
  | .ok plan =>
      let branches := plan.actions.mapIdx (branch d plan.timeout context)
      (Process.gather (take plan) (.ok []) branches).bind fun ended =>
        .done (conclude plan context ended)

def handler (defaultTimeout : Nat) : Handler σ where
  type := "parallel"
  description :=
    "Run actions concurrently under an all/any/settle strategy with a per-action timeout."
  run := run defaultTimeout

end ActionGraph.Action.Parallel
