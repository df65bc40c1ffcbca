import ActionGraph.Action.World
import ActionGraph.Completion.Basic
import ActionGraph.Context.Basic
import ActionGraph.Failure

/-!
# Collaborators of actions

A language model, a source of embeddings and the rendering of templates.
The first two may be missing.
-/

namespace ActionGraph.Action

abbrev Model (σ : Type) :=
  Completion.Request → Task σ (Except Failure Completion.Reply)

/-- A source of embeddings: texts, the name of the model, and the dimensions asked for. -/
abbrev Embedder (σ : Type) :=
  List String → String → Option Nat → Task σ (Except Failure (List Embedding.Vector))

/-- The rendering of a template on a context. -/
abbrev Renderer :=
  String → Context → Except Failure String

structure Collaborators (σ : Type) where
  model : Option (Model σ)
  embedder : Option (Embedder σ)
  render : Renderer

end ActionGraph.Action
