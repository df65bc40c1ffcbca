import ActionGraph.Wire.Fields

/-!
# Actions and their reports

An action is a type with parameters.  A handler answers with an outcome; the
dispatcher turns it into a report, which adds the type, the identifier and
the time taken.
-/

namespace ActionGraph.Action

structure Spec where
  type : String
  id : Option String
  params : Json
deriving DecidableEq

/-- What a handler answers: its output, and why it did not succeed if so. -/
structure Outcome where
  success : Bool
  output : Json
  error : Option String
deriving DecidableEq

namespace Outcome

def ok (output : Json) : Outcome :=
  ⟨true, output, none⟩

def failed (error : String) (output : Json) : Outcome :=
  ⟨false, output, some error⟩

def toJson (outcome : Outcome) : Json :=
  Json.ofFields
    [("success", .bool outcome.success), ("output", outcome.output),
     ("failure", (outcome.error.map Json.str).getD .null)]

end Outcome

structure Report where
  success : Bool
  type : String
  id : Option String
  output : Option Json
  error : Option String
  duration : Nat
deriving DecidableEq

/-- A field that is left out when there is nothing in it. -/
def optionalField (name : String) (value : Option Json) : List (String × Json) :=
  match value with
  | some v => [(name, v)]
  | none => []

namespace Spec

instance : Inhabited Spec :=
  ⟨⟨"", none, .emptyObject⟩⟩

def toJson (spec : Spec) : Json :=
  Json.ofFields <|
    [("type", .str spec.type)] ++ optionalField "id" (spec.id.map Json.str)
      ++ [("params", spec.params)]

def fields : Wire.Fields (String × Option String × Json × Unit) :=
  .cons (.required "type" Wire.Decode.string) <|
  .cons (.optional "id" Wire.Decode.string) <|
  .cons (.default "params" Wire.Decode.json .emptyObject) .nil

def decode : Wire.Decoder Spec := fun node => do
  let (type, id, params, _) ← Wire.Fields.record "struct ActionConfig" fields node
  return ⟨type, id, params⟩

end Spec

namespace Report

def succeeded (type : String) (output : Json) (duration : Nat) : Report :=
  ⟨true, type, none, some output, none, duration⟩

def failed (type error : String) (duration : Nat) : Report :=
  ⟨false, type, none, none, some error, duration⟩

def ofOutcome (type : String) (outcome : Outcome) (duration : Nat) : Report :=
  if outcome.success then succeeded type outcome.output duration
  else
    { failed type (outcome.error.getD "Action failed") duration with
      output := some outcome.output }

def toJson (report : Report) : Json :=
  Json.ofFields <|
    [("success", .bool report.success), ("actionType", .str report.type)]
      ++ optionalField "actionId" (report.id.map Json.str)
      ++ optionalField "output" report.output
      ++ optionalField "error" (report.error.map Json.str)
      ++ [("durationMs", .ofNat report.duration)]

def fields : Wire.Fields (Bool × String × Option String × Option Json × Option String × Nat
    × Unit) :=
  .cons (.required "success" Wire.Decode.bool) <|
  .cons (.required "actionType" Wire.Decode.string) <|
  .cons (.optional "actionId" Wire.Decode.string) <|
  .cons (.optional "output" Wire.Decode.json) <|
  .cons (.optional "error" Wire.Decode.string) <|
  .cons (.required "durationMs" Wire.Decode.u64) .nil

def decode : Wire.Decoder Report := fun node => do
  let (success, type, id, output, error, duration, _) ←
    Wire.Fields.record "struct ActionResult" fields node
  return ⟨success, type, id, output, error, duration⟩

end Report

end ActionGraph.Action
