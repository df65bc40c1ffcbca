import ActionGraph.Embedding.Vector
import ActionGraph.Wire.Fields

/-!
# The choice of a route

A route is described by texts.  Its score is the greatest similarity of one
of them to the query, and the first route of the greatest score is matched.
Two thresholds grade the match.  The choice is made over scores of any type
with a test whether one is above another.
-/

namespace ActionGraph.Routing

/-- A route: its name and the texts it is known by. -/
structure Route where
  name : String
  examples : List String
  description : Option String
deriving DecidableEq

namespace Route

/-- The texts that are compared with the query; the description is one of them. -/
def texts (route : Route) : List String :=
  route.examples ++ route.description.toList

def decode : Wire.Decoder Route := fun node => do
  let (name, examples, description, _) ←
    Wire.Fields.record "struct Route"
      (.cons (.required "name" Wire.Decode.string) <|
       .cons (.default "examples" (Wire.Decode.list Wire.Decode.string) []) <|
       .cons (.optional "description" Wire.Decode.string) .nil) node
  return ⟨name, examples, description⟩

end Route

section Scores

variable {α : Type} (above : α → α → Bool)

/-- The greatest of scores, of which none is below the least one given. -/
def greatest (least : α) (scores : List α) : α :=
  scores.foldl (fun best score => if above score best then score else best) least

/-- The first of the greatest scores, with its name. -/
def matched (first : String × α) (others : List (String × α)) : String × α :=
  others.foldl (fun best other => if above other.2 best.2 then other else best) first

/-- Deal values out to routes, to each as many as it has texts. -/
def deal {β : Type} : List Route → List β → List (String × List β)
  | [], _ => []
  | route :: rest, values =>
      (route.name, values.take route.texts.length) ::
        deal rest (values.drop route.texts.length)

end Scores

/-- How well a query fits the matched route. -/
inductive Confidence where
  | high
  | medium
  | low
deriving DecidableEq, Repr

namespace Confidence

def name : Confidence → String
  | .high => "high"
  | .medium => "medium"
  | .low => "low"

def grade {α : Type} (atLeast : α → α → Bool) (high medium score : α) : Confidence :=
  if atLeast score high then .high
  else if atLeast score medium then .medium
  else .low

end Confidence

/-- The score below every similarity: the least finite number. -/
def leastScore : Binary32 :=
  ⟨0xff7fffff⟩

def score (query : Embedding.Vector) (vectors : List Embedding.Vector) : Binary32 :=
  greatest (fun a b => b.lt a) leastScore (vectors.map (Embedding.Vector.cosine query))

def scores (query : Embedding.Vector) (routes : List Route)
    (vectors : List Embedding.Vector) : List (String × Binary32) :=
  (deal routes vectors).map fun dealt => (dealt.1, score query dealt.2)

end ActionGraph.Routing
