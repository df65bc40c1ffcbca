import ActionGraph.Action.Handler
import ActionGraph.Action.Params

/-!
# Waiting actions

A wait lasts a number of milliseconds, seconds or minutes, but never longer
than the ceiling that the settings put on it.
-/

namespace ActionGraph.Action.Wait

variable {σ : Type}

inductive Unit where
  | millisecond
  | second
  | minute
deriving DecidableEq, Repr

namespace Unit

def decode : Wire.Decoder Unit :=
  Wire.Decode.variant [("ms", millisecond), ("s", second), ("m", minute)] none

def milliseconds : Unit → Nat
  | .millisecond => 1
  | .second => 1000
  | .minute => 60000

end Unit

def longest : Nat :=
  Nat.pow 2 64 - 1

/-- The whole milliseconds of a duration in a unit. -/
def requested (duration : Binary64) (unit : Unit) : Nat :=
  let product : Binary64 := .ofFloat (duration.toFloat * (Binary64.ofNat unit.milliseconds).toFloat)
  if product.isFinite then min product.roundMagnitude longest else longest

/-- What is waited for, and why. -/
structure Plan where
  requested : Nat
  reason : Option String

def Plan.ofParams (params : Json) : Except Failure Plan := do
  let duration ← Params.required params "duration" Wire.Decode.f64
  if !duration.isFinite || duration.lt ⟨0⟩ then
    throw (.invalidParam "duration" "must be a non-negative number")
  let unit ← Params.optional params "unit" Unit.decode
  let reason ← Params.optional params "reason" Wire.Decode.string
  return ⟨Wait.requested duration (unit.getD .millisecond), reason⟩

def outcome (ceiling : Nat) (plan : Plan) : Outcome :=
  let waited := min plan.requested ceiling
  .ok <| Json.ofFields <|
    [("waited", .ofNat waited), ("requested", .ofNat plan.requested),
     ("clamped", .bool (decide (waited < plan.requested)))]
      ++ optionalField "reason" (plan.reason.map Json.str)

def run (ceiling : Nat) (_ : Dispatcher σ) (params : Json) (context : Context) :
    Task σ Handled :=
  match Plan.ofParams params with
  | .error failure => .done (.failed context failure)
  | .ok plan =>
      (Process.sleep (min plan.requested ceiling)).bind fun _ =>
        .done (.unchanged context (.ok (outcome ceiling plan)))

def handler (ceiling : Nat) : Handler σ where
  type := "wait"
  description := "Pause for `duration` (unit ms, s or m), clamped to the configured ceiling."
  run := run ceiling

end ActionGraph.Action.Wait
