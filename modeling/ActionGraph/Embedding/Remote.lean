import ActionGraph.Action.Collaborators
import ActionGraph.Http.Basic

/-!
# Remote sources of embeddings

A source of embeddings behind an address takes texts and answers with
vectors.  A vector may be tagged with the place of its text; if all are, the
tags decide the order.
-/

namespace ActionGraph.Embedding.Remote

open ActionGraph.Action

variable {σ : Type}

def body (texts : List String) (model : String) (dimensions : Option Nat) : Json :=
  Json.ofFields <|
    [("model", .str model), ("input", .ofStrings texts)]
      ++ optionalField "dimensions" (dimensions.map Json.ofNat)

/-- A vector with the place of its text, if it is tagged. -/
structure Tagged where
  place : Option Nat
  vector : Vector
deriving DecidableEq

namespace Tagged

def decode : Wire.Decoder Tagged := fun node => do
  let (place, vector, _) ←
    Wire.Fields.record "struct EmbeddingData"
      (.cons (.optional "index" Wire.Decode.usize) <|
       .cons (.required "embedding" (Wire.Decode.list Wire.Decode.f32)) .nil) node
  return ⟨place, vector⟩

def decodeAll : Wire.Decoder (List Tagged) := fun node => do
  let (data, _) ←
    Wire.Fields.record "struct EmbeddingResponse"
      (.cons (.required "data" (Wire.Decode.list decode)) .nil) node
  return data

def notBehind (a b : Tagged) : Bool :=
  decide (a.place.getD 0 ≤ b.place.getD 0)

/-- So many vectors in the order of their texts. -/
def ordered (data : List Tagged) (expected : Nat) : Except Failure (List Vector) :=
  if data.length ≠ expected then
    .error <| .embedding <|
      "expected " ++ toString expected ++ " embeddings, got " ++ toString data.length
  else
    let sorted :=
      if data.all fun tagged => tagged.place.isSome then data.mergeSort notBehind else data
    .ok (sorted.map (·.vector))

end Tagged

/-- A source of embeddings at an address; it is not asked about nothing. -/
def embedder (transport : Http.Transport σ) (base : String) (key : Option String) : Embedder σ :=
  fun texts model dimensions =>
    if texts.isEmpty then .done (.ok [])
    else
      let post : Http.Request := ⟨Http.address base "/embeddings", key, body texts model dimensions⟩
      (Http.ask transport .embedding "Failed to parse embedding response" Tagged.decodeAll
        post).map fun data => data.bind fun data => Tagged.ordered data texts.length

end ActionGraph.Embedding.Remote
