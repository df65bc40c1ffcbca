import ActionGraph.Action.Collaborators

/-!
# Looking up embeddings

The vectors of texts are taken from the cache as far as it has them; the
others are asked for in one request that names each text once, in the order
of the texts.  Either every text gets its vector or none does.
-/

namespace ActionGraph.Routing

open ActionGraph.Action ActionGraph.Embedding

variable {σ : Type}

/-- Texts and, of each, the vector that the cache has. -/
abbrev Hits :=
  List (String × Option Vector)

def lookUp (model : String) (now : Nat) : Cache → List String → Cache × Hits
  | cache, [] => (cache, [])
  | cache, text :: rest =>
      let (cache, hit) := cache.get now ⟨model, text⟩
      let (cache, hits) := lookUp model now cache rest
      (cache, (text, hit) :: hits)

/-- The texts without a vector, each once, in order. -/
def misses (hits : Hits) : List String :=
  ((hits.filter fun hit => hit.2.isNone).map (·.1)).eraseDups

def store (model : String) (now : Nat) (cache : Cache) (fresh : List (String × Vector)) : Cache :=
  fresh.foldl (fun cache entry => cache.insert now ⟨model, entry.1⟩ entry.2) cache

/-- The vectors of all texts, from the cache or fresh. -/
def fill (hits : Hits) (fresh : List (String × Vector)) : List Vector :=
  hits.map fun hit =>
    match hit.2 with
    | some vector => vector
    | none => (Entries.find? hit.1 fresh).getD []

/-- Give each missing text its vector, if there are as many. -/
def paired (texts : List String) (vectors : List Vector) :
    Except Failure (List (String × Vector)) :=
  if vectors.length = texts.length then .ok (texts.zip vectors)
  else
    .error <| .embedding <|
      "expected " ++ toString texts.length ++ " vectors, got " ++ toString vectors.length

def vectors (embedder : Embedder σ) (dimensions : Option Nat) (model : String)
    (texts : List String) : Task σ (Except Failure (List Vector)) :=
  (Task.cached fun cache now => lookUp model now cache texts).bind fun hits =>
    if (misses hits).isEmpty then .done (.ok (fill hits []))
    else
      (embedder (misses hits) model dimensions).bind fun answer =>
        match answer.bind (paired (misses hits)) with
        | .error failure => .done (.error failure)
        | .ok fresh =>
            (Task.cached fun cache now => (store model now cache fresh, ())).bind fun _ =>
              .done (.ok (fill hits fresh))

end ActionGraph.Routing
