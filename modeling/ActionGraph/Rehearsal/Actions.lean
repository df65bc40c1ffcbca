import ActionGraph.Action.Registry
import ActionGraph.Json.Print

/-!
# Actions for rehearsals

Handlers with a plain behaviour, with which graphs and rules can be tried
without collaborators: they answer their parameters, fail, break down, wait,
or tell how deep they are nested.
-/

namespace ActionGraph.Rehearsal

open ActionGraph.Action

variable {σ : Type}

def noDispatch : Dispatcher σ :=
  ⟨0, fun spec context =>
    .done (.ok (.failed spec.type (Failure.unknownAction spec.type).message 0), context)⟩

/-- Write the entries of the parameter `set` to the bag. -/
def applySet (params : Json) (context : Context) : Context :=
  match params.field "set" with
  | .obj entries => { context with bag := context.bag.insertAll entries }
  | _ => context

/-- Answers its value, or its parameters and the inputs. -/
def echo : Handler σ where
  type := "echo"
  description := "Echo params back"
  run _ params context :=
    let context := applySet params context
    let output := match params.field? "value" with
      | some value => value
      | none =>
          Json.ofFields
            [("params", params), ("inputs", (context.get? "inputs").getD .null)]
    .done (.ok (.ok output), context)

def fail : Handler σ where
  type := "fail"
  description := "Always fails"
  run _ params context :=
    let text := (params.field "message").string?.getD "intentional failure"
    .done (.ok (.failed text .null), applySet params context)

def authFail : Handler σ where
  type := "auth_fail"
  description := "Fails with an expired credential"
  run _ _ context := .done (.failed context (.credentialExpired "token expired"))

def panic : Handler σ where
  type := "panic"
  description := "Panics"
  run _ _ context := .done (.error (.crashed (some "handler exploded")), context)

/-- Breaks down with a text that shows its parameters. -/
def panicText : Handler σ where
  type := "panic_text"
  description := "Panics otherwise"
  run _ params context :=
    .done (.error (.crashed (some ("handler exploded: " ++ params.compact))), context)

def panicOther : Handler σ where
  type := "panic_other"
  description := "Panics otherwise"
  run _ _ context := .done (.error (.crashed none), context)

/-- Answers how deep it is nested. -/
def depth : Handler σ where
  type := "depth"
  description := "Report dispatch depth"
  run d _ context :=
    .done (.ok (.ok (Json.ofFields [("depth", .ofNat d.level)])), context)

def sleep : Handler σ where
  type := "sleep"
  description := "Sleeps for params.ms"
  run _ params context :=
    let milliseconds := (params.field "ms").nat?.getD 0
    (Process.sleep milliseconds).bind fun _ =>
      .done (.ok (.ok (Json.ofFields [("slept", .ofNat milliseconds)])), applySet params context)

def handlers : List (Handler σ) :=
  [echo, fail, authFail, panic, panicText, panicOther, depth, sleep]

def handler? (type : String) : Option (Handler σ) :=
  handlers.find? fun handler => handler.type = type

/-- The context of a message in a conversation that is under way. -/
def contextOfMessage (content : String) : Context :=
  { Context.ofOrganization "org_test" with
    conversation := some "conv_test"
    state := .aiActive
    message := some (.ofContent content) }

end ActionGraph.Rehearsal
