import ActionGraph.Action.Handler
import ActionGraph.Action.Params
import ActionGraph.Routing.Choice
import ActionGraph.Routing.Lookup
import ActionGraph.Settings

/-!
# Routing actions

The action renders a query, compares it with the texts of routes and answers
with the route that fits best, or with the fallback route if none fits well
enough.
-/

namespace ActionGraph.Action.Route

open Routing

variable {σ : Type}

/-- The query of an action that gives none: the body of the message. -/
def defaultQuery : String :=
  "\x7b\x7b message.content \x7d\x7d"

/-- The routes; there is at least one, and each has a text. -/
structure Routes where
  first : Routing.Route
  others : List Routing.Route

def Routes.all (routes : Routes) : List Routing.Route :=
  routes.first :: routes.others

def Routes.ofParams (params : Json) : Except Failure Routes := do
  match ← Params.required params "routes" (Wire.Decode.list Routing.Route.decode) with
  | [] => throw (.invalidParam "routes" "at least one route is required")
  | first :: others =>
      match (first :: others).find? fun route => route.texts.isEmpty with
      | some route =>
          throw (.invalidParam "routes" ("route '" ++ route.name ++ "' has no examples"))
      | none => return ⟨first, others⟩

structure Plan where
  query : String
  model : String
  high : Binary32
  medium : Binary32
  fallback : Option String
  outputKey : Option String

def Plan.ofParams (settings : RoutingSettings) (params : Json) : Except Failure Plan := do
  let query ← Params.optional params "query" Wire.Decode.string
  let model ← Params.optional params "model" Wire.Decode.string
  let high ← Params.optional params "highThreshold" Wire.Decode.f32
  let medium ← Params.optional params "mediumThreshold" Wire.Decode.f32
  let fallback ← Params.optional params "fallbackRoute" Wire.Decode.string
  let outputKey ← Params.optional params "outputKey" Wire.Decode.string
  return ⟨query.getD defaultQuery, model.getD settings.embeddingModel,
    high.getD settings.highThreshold, medium.getD settings.mediumThreshold, fallback, outputKey⟩

/-- The rendered query, which has to have something but blanks in it. -/
def renderQuery (render : Renderer) (plan : Plan) (context : Context) :
    Except Failure String := do
  let query ← render plan.query context
  if (Text.trim query.toList).isEmpty then
    throw (.invalidParam "query" "rendered query is empty")
  return query

def output (plan : Plan) (first : String × Binary32) (others : List (String × Binary32)) : Json :=
  let best := matched (fun a b => b.lt a) first others
  let confidence := Confidence.grade (fun a b => b.le a) plan.high plan.medium best.2
  let fallback := confidence == .low
  let route := if fallback then Settings.textOrNull plan.fallback else .str best.1
  Json.ofFields
    [("route", route), ("matchedRoute", .str best.1), ("score", .ofBinary32 best.2),
     ("confidence", .str confidence.name), ("fallback", .bool fallback),
     ("scores", Json.ofFields ((first :: others).map fun scored =>
       (scored.1, Json.ofBinary32 scored.2)))]

def choose (plan : Plan) (routes : Routes) (vectors : List Embedding.Vector) : Json :=
  match scores (vectors.headD []) routes.all (vectors.drop 1) with
  | first :: others => output plan first others
  | [] => output plan ("", ⟨0⟩) []

/-- Write the output under the output key, if there is one. -/
def deliver (plan : Plan) (context : Context) (output : Json) : Handled :=
  (.ok (.ok output),
    match plan.outputKey with
    | some key => context.set key output
    | none => context)

/-- All that is settled before embeddings are looked up. -/
structure Prepared (σ : Type) where
  routes : Routes
  embedder : Embedder σ
  plan : Plan
  query : String

def prepare (collaborators : Collaborators σ) (settings : RoutingSettings) (params : Json)
    (context : Context) : Except Failure (Prepared σ) := do
  let routes ← Routes.ofParams params
  match collaborators.embedder with
  | none => throw (.settings "semantic_route requires an embedding provider")
  | some embedder =>
      let plan ← Plan.ofParams settings params
      let query ← renderQuery collaborators.render plan context
      return ⟨routes, embedder, plan, query⟩

def run (collaborators : Collaborators σ) (settings : RoutingSettings) (_ : Dispatcher σ)
    (params : Json) (context : Context) : Task σ Handled :=
  match prepare collaborators settings params context with
  | .error failure => .done (.failed context failure)
  | .ok ready =>
      let texts := ready.query :: ready.routes.all.flatMap Routing.Route.texts
      (vectors ready.embedder settings.dimensions ready.plan.model texts).bind fun answer =>
        match answer with
        | .error failure => .done (.failed context failure)
        | .ok vectors =>
            .done (deliver ready.plan context (choose ready.plan ready.routes vectors))

def handler (collaborators : Collaborators σ) (settings : RoutingSettings) : Handler σ where
  type := "semantic_route"
  description :=
    "Route the message to the closest of several example-based routes using embeddings."
  run := run collaborators settings

end ActionGraph.Action.Route
