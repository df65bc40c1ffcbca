import ActionGraph.Action.Handler
import ActionGraph.Action.Params
import ActionGraph.Rule.Evaluate
import ActionGraph.Rule.Wire

/-!
# Branching actions

An action with a condition runs one of two lists of actions.  The actions
run in order, each on the context that the one before it left, up to the
first that fails.
-/

namespace ActionGraph.Action.Branch

variable {σ : Type}

inductive Side where
  | met
  | unmet
deriving DecidableEq, Repr

def Side.name : Side → String
  | .met => "then"
  | .unmet => "else"

structure Plan where
  group : RuleGroup
  met : List Spec
  unmet : List Spec

def Plan.ofParams (params : Json) : Except Failure Plan := do
  let group ← Params.required params "if" RuleGroup.decode
  let met ← Params.required params "then" (Wire.Decode.list Spec.decode)
  let unmet ← Params.optional params "else" (Wire.Decode.list Spec.decode)
  return ⟨group, met, unmet.getD []⟩

def Plan.side (plan : Plan) (context : Context) : Side :=
  if plan.group.holds context then .met else .unmet

def Plan.actions (plan : Plan) : Side → List Spec
  | .met => plan.met
  | .unmet => plan.unmet

/-- Dispatch actions in order up to the first that fails; the reports of all that ran. -/
def inOrder (d : Dispatcher σ) :
    List Spec → Context → Task σ (Except Failure (List Report) × Context)
  | [], context => .done (.ok [], context)
  | spec :: rest, context =>
      (d.dispatch spec context).bind fun dispatched =>
        match dispatched.1 with
        | .error failure => .done (.error failure, dispatched.2)
        | .ok report =>
            if report.success then
              (inOrder d rest dispatched.2).bind fun more =>
                .done (more.1.map (report :: ·), more.2)
            else .done (.ok [report], dispatched.2)

def failureText (side : Side) (report : Report) : String :=
  "Action '" ++ report.type ++ "' in " ++ side.name ++ " branch failed: "
    ++ report.error.getD "unknown error"

def outcome (side : Side) (reports : List Report) : Outcome :=
  let output := Json.ofFields
    [("branch", .str side.name), ("conditionMet", .bool (side == .met)),
     ("executed", .ofNat reports.length), ("results", .arr (reports.map Report.toJson))]
  match reports.find? fun report => !report.success with
  | some report => .failed (failureText side report) output
  | none => .ok output

def run (d : Dispatcher σ) (params : Json) (context : Context) : Task σ Handled :=
  match Plan.ofParams params with
  | .error failure => .done (.failed context failure)
  | .ok plan =>
      let side := plan.side context
      (inOrder d (plan.actions side) context).bind fun ended =>
        .done ((ended.1.map (outcome side)).mapError Halt.failed, ended.2)

def handler : Handler σ where
  type := "condition"
  description := "Evaluate a condition group and run the `then` or `else` actions in order."
  run := run

end ActionGraph.Action.Branch
