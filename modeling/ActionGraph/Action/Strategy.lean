import ActionGraph.Action.Spec
import ActionGraph.Context.Writes

/-!
# Strategies of parallel actions

Branches end in some order, and the strategy says after which of them the
others are no longer awaited and what the whole amounts to.  Writes of the
branches that succeeded are merged in the order of the branches, whatever
the order in which they ended.
-/

namespace ActionGraph.Action

inductive Strategy where
  /-- Every branch is to succeed. -/
  | all
  /-- One branch is to succeed. -/
  | any
  /-- Every branch is to end. -/
  | settle
deriving DecidableEq, Repr

/-- A branch that ended: its place, its report and what it wrote. -/
structure Finish where
  index : Nat
  report : Report
  writes : Writes
deriving DecidableEq

namespace Strategy

def name : Strategy → String
  | .all => "all"
  | .any => "any"
  | .settle => "settle"

def decode : Wire.Decoder Strategy :=
  Wire.Decode.variant [("all", all), ("any", any), ("settle", settle)] none

/-- Whether nothing is awaited after a branch that succeeded or not. -/
def stops (strategy : Strategy) (continueOnError success : Bool) : Bool :=
  match strategy with
  | .all => !success && !continueOnError
  | .any => success
  | .settle => false

/-- The branches taken out of all in the order in which they end. -/
def taken (strategy : Strategy) (continueOnError : Bool) : List Finish → List Finish
  | [] => []
  | finish :: rest =>
      finish ::
        if strategy.stops continueOnError finish.report.success then []
        else taken strategy continueOnError rest

end Strategy

namespace Finish

def inPlace (finished : List Finish) : List Finish :=
  finished.mergeSort fun a b => decide (a.index ≤ b.index)

def succeeded (finished : List Finish) : List Finish :=
  finished.filter fun finish => finish.report.success

/-- Merge the writes of the branches that succeeded into a bag. -/
def merge (finished : List Finish) (bag : Bag) : Bag :=
  (succeeded finished).foldl (fun bag finish => finish.writes.apply bag) bag

def reports (finished : List Finish) : List Report :=
  finished.map Finish.report

end Finish

namespace Strategy

def success (strategy : Strategy) (total : Nat) (finished : List Finish) : Bool :=
  match strategy with
  | .all => finished.all (fun finish => finish.report.success) && finished.length == total
  | .any => finished.any fun finish => finish.report.success
  | .settle => true

/-- The reports that are listed: of one winner only its own. -/
def listed (strategy : Strategy) (finished : List Finish) : List Report :=
  match strategy, Finish.succeeded finished with
  | .any, winner :: _ => [winner.report]
  | _, _ => Finish.reports finished

def outcome (strategy : Strategy) (total : Nat) (finished : List Finish) : Outcome :=
  let succeeded := (Finish.succeeded finished).length
  let failed := finished.length - succeeded
  let output := Json.ofFields
    [("strategy", .str strategy.name), ("total", .ofNat total), ("succeeded", .ofNat succeeded),
     ("failed", .ofNat failed),
     ("results", .arr ((strategy.listed finished).map Report.toJson))]
  if strategy.success total finished then .ok output
  else
    .failed (toString failed ++ " of " ++ toString total ++ " parallel actions failed") output

end Strategy

end ActionGraph.Action
