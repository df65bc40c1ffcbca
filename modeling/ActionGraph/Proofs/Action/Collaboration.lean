import ActionGraph.Action.Builtin
import ActionGraph.Proofs.Action.Composition
import ActionGraph.Proofs.Action.Dispatch
import ActionGraph.Proofs.Action.Likeness
import ActionGraph.Proofs.Refusals
import ActionGraph.Rehearsal.Actions

/-!
# What actions share

An action works with the cache and with what is outside only through the
language model and the source of embeddings.  It keeps to a share if those do
that it asks, by itself or through the actions nested in it.
-/

namespace ActionGraph.Action

variable {σ V α : Type} {shares : Shares σ V} {i : Nat}

/-! ## Steps of collaborators -/

namespace Task

/-- A step on what is outside that depends on a share and changes only that share. -/
theorem keepsTo_outside {f : σ → α × σ}
    (own : ∀ c s c' s', shares i c s = shares i c' s' →
      (f s).1 = (f s').1 ∧ shares i c (f s).2 = shares i c' (f s').2)
    (others : ∀ j, j ≠ i → ∀ c s, shares j c (f s).2 = shares j c s) :
    KeepsTo shares i (Task.outside f) := by
  refine .act (fun _ _ => 0) (fun v w _ => ⟨⟨rfl, rfl, ?_⟩, ⟨rfl, rfl, ?_⟩⟩)
    (fun v w matched => (own _ _ _ _ matched.share).2) fun v w matched => ?_
  · exact fun j other => others j other v.cache v.outside
  · exact fun j other => others j other w.cache w.outside
  · dsimp only
    rw [(own _ _ _ _ matched.share).1]
    exact .done _

structure OwnsCache (shares : Shares σ V) (i : Nat) : Prop where
  told : ∀ c s c' s', shares i c s = shares i c' s' → c = c'
  kept : ∀ c s s', shares i c s = shares i c s' → ∀ d, shares i d s = shares i d s'
  others : ∀ j, j ≠ i → ∀ c d s, shares j c s = shares j d s

theorem OwnsCache.keepsTo_cached (owns : OwnsCache shares i)
    (f : Embedding.Cache → Nat → Embedding.Cache × α) :
    KeepsTo shares i (Task.cached f : Task σ α) := by
  have together : ∀ v w : World σ, World.Matched shares i (fun _ _ => False) v w →
      f v.cache v.now = f w.cache w.now := by
    intro v w matched
    rw [owns.told _ _ _ _ matched.share, matched.now]
  refine .act (fun _ _ => 0) (fun v w _ => ⟨⟨rfl, rfl, ?_⟩, ⟨rfl, rfl, ?_⟩⟩)
    (fun v w matched => ?_) fun v w matched => ?_
  · exact fun j other => owns.others j other _ _ _
  · exact fun j other => owns.others j other _ _ _
  · change shares i (f v.cache v.now).1 v.outside = shares i (f w.cache w.now).1 w.outside
    have share : shares i v.cache v.outside = shares i w.cache w.outside := matched.share
    have cache := owns.told _ _ _ _ share
    rw [cache] at share
    rw [together v w matched]
    exact owns.kept _ _ _ share _
  · dsimp only
    rw [together v w matched]
    exact .done _

end Task

/-! ## Handlers -/

theorem keepsTo_vectors (owns : Task.OwnsCache shares i) {embedder : Embedder σ}
    (keeps : ∀ texts model dimensions, Task.KeepsTo shares i (embedder texts model dimensions))
    (dimensions : Option Nat) (model : String) (texts : List String) :
    Task.KeepsTo shares i (Routing.vectors embedder dimensions model texts) := by
  refine (owns.keepsTo_cached _).bind fun hits => ?_
  split
  · exact Task.keepsTo_done _
  · refine (keeps _ _ _).bind fun answer => ?_
    split
    · exact Task.keepsTo_done _
    · exact (owns.keepsTo_cached _).bind fun _ => Task.keepsTo_done _

theorem model_of_prepare {collaborators : Collaborators σ} {defaults : Option ModelSettings}
    {params : Json} {context : Context} {ready : Generate.Prepared σ}
    (prepared : Generate.prepare collaborators defaults params context = .ok ready) :
    collaborators.model = some ready.model := by
  unfold Generate.prepare at prepared
  obtain ⟨prompt, _, prepared⟩ := bind_eq_ok_iff.mp prepared
  obtain ⟨systemPrompt, _, prepared⟩ := bind_eq_ok_iff.mp prepared
  split at prepared
  · cases prepared
  · rename_i model there
    rw [there]
    obtain ⟨name, _, prepared⟩ := bind_eq_ok_iff.mp prepared
    obtain ⟨temperature, _, prepared⟩ := bind_eq_ok_iff.mp prepared
    obtain ⟨maxTokens, _, prepared⟩ := bind_eq_ok_iff.mp prepared
    obtain ⟨outputKey, _, prepared⟩ := bind_eq_ok_iff.mp prepared
    obtain ⟨rendered, _, prepared⟩ := bind_eq_ok_iff.mp prepared
    obtain ⟨renderedToo, _, prepared⟩ := bind_eq_ok_iff.mp prepared
    cases prepared
    rfl

theorem embedder_of_prepare {collaborators : Collaborators σ} {settings : RoutingSettings}
    {params : Json} {context : Context} {ready : Route.Prepared σ}
    (prepared : Route.prepare collaborators settings params context = .ok ready) :
    collaborators.embedder = some ready.embedder := by
  unfold Route.prepare at prepared
  obtain ⟨routes, _, prepared⟩ := bind_eq_ok_iff.mp prepared
  split at prepared
  · cases prepared
  · rename_i embedder there
    rw [there]
    obtain ⟨plan, _, prepared⟩ := bind_eq_ok_iff.mp prepared
    obtain ⟨query, _, prepared⟩ := bind_eq_ok_iff.mp prepared
    cases prepared
    rfl

/-- The collaborators that an action of a type asks keep to a share. -/
structure Collaborators.KeepTo (collaborators : Collaborators σ) (shares : Shares σ V) (i : Nat)
    (type : String) : Prop where
  model : type = "llm_generate" → ∀ model, collaborators.model = some model →
    ∀ request, Task.KeepsTo shares i (model request)
  embedder : type = "semantic_route" → ∀ embedder, collaborators.embedder = some embedder →
    Task.OwnsCache shares i ∧
      ∀ texts model dimensions, Task.KeepsTo shares i (embedder texts model dimensions)

/-- What an action asks for further actions. -/
inductive Spec.Asks (parent child : Spec) : Prop
  | branch {plan : Branch.Plan} {side : Branch.Side} (type : parent.type = "condition")
      (accepted : Branch.Plan.ofParams parent.params = .ok plan)
      (mem : child ∈ plan.actions side)
  | parallel {limit : Nat} {plan : Parallel.Plan} (type : parent.type = "parallel")
      (accepted : Parallel.Plan.ofParams limit parent.params = .ok plan)
      (mem : child ∈ plan.actions)

/-- An action, and those nested in it at every depth, are of some types. -/
inductive Spec.Within (types : String → Prop) : Spec → Prop
  | intro {spec : Spec} (here : types spec.type)
      (nested : ∀ child, spec.Asks child → child.Within types) : spec.Within types

theorem Spec.Within.of_plain {types : String → Prop} {spec : Spec} (here : types spec.type)
    (plain : spec.type ≠ "condition" ∧ spec.type ≠ "parallel") : spec.Within types := by
  refine .intro here fun child asks => ?_
  cases asks with
  | branch type accepted mem => exact absurd type plain.1
  | parallel type accepted mem => exact absurd type plain.2

theorem Collaborators.keepTo_of_plain (collaborators : Collaborators σ) {type : String}
    (plain : type ≠ "llm_generate" ∧ type ≠ "semantic_route") :
    collaborators.KeepTo shares i type :=
  ⟨fun same => absurd same plain.1, fun same => absurd same plain.2⟩

theorem Parallel.actions_of_ofParams {limit : Nat} {params : Json} {plan : Parallel.Plan}
    (accepted : Parallel.Plan.ofParams limit params = .ok plan) :
    Params.required params "actions" (Wire.Decode.list Spec.decode) = .ok plan.actions := by
  unfold Parallel.Plan.ofParams at accepted
  obtain ⟨actions, read, accepted⟩ := bind_eq_ok_iff.mp accepted
  split at accepted
  · cases accepted
  · obtain ⟨strategy, _, accepted⟩ := bind_eq_ok_iff.mp accepted
    obtain ⟨timeout, _, accepted⟩ := bind_eq_ok_iff.mp accepted
    obtain ⟨continueOnError, _, accepted⟩ := bind_eq_ok_iff.mp accepted
    cases accepted
    exact read

theorem generate_keepsTo {collaborators : Collaborators σ}
    (keep : collaborators.KeepTo shares i "llm_generate") (defaults : Option ModelSettings)
    (d : Dispatcher σ) (params : Json) (context : Context) :
    Task.KeepsTo shares i (Generate.run collaborators defaults d params context) := by
  unfold Generate.run
  cases prepared : Generate.prepare collaborators defaults params context with
  | error failure => exact Task.keepsTo_done _
  | ok ready =>
      refine (keep.model rfl _ (model_of_prepare prepared) ready.request).bind fun answer => ?_
      split
      · exact Task.keepsTo_done _
      · exact Task.keepsTo_done _

theorem route_keepsTo {collaborators : Collaborators σ}
    (keep : collaborators.KeepTo shares i "semantic_route") (settings : RoutingSettings)
    (d : Dispatcher σ) (params : Json) (context : Context) :
    Task.KeepsTo shares i (Route.run collaborators settings d params context) := by
  unfold Route.run
  cases prepared : Route.prepare collaborators settings params context with
  | error failure => exact Task.keepsTo_done _
  | ok ready =>
      obtain ⟨owns, embedder⟩ := keep.embedder rfl _ (embedder_of_prepare prepared)
      refine (keepsTo_vectors owns embedder _ _ _).bind fun answer => ?_
      split
      · exact Task.keepsTo_done _
      · exact Task.keepsTo_done _

theorem wait_keepsTo (ceiling : Nat) (d : Dispatcher σ) (params : Json) (context : Context) :
    Task.KeepsTo shares i (Wait.run ceiling d params context) := by
  unfold Wait.run
  cases Wait.Plan.ofParams params with
  | error failure => exact Task.keepsTo_done _
  | ok plan => exact (Task.keepsTo_sleep _).bind fun _ => Task.keepsTo_done _

theorem rehearsal_keepsTo {handler : Handler σ} (mem : handler ∈ Rehearsal.handlers)
    (d : Dispatcher σ) (params : Json) (context : Context) :
    Task.KeepsTo shares i (handler.run d params context) := by
  simp only [Rehearsal.handlers, List.mem_cons, List.not_mem_nil, or_false] at mem
  rcases mem with rfl | rfl | rfl | rfl | rfl | rfl | rfl | rfl
  case inr.inr.inr.inr.inr.inr.inr =>
    exact (Task.keepsTo_sleep _).bind fun _ => Task.keepsTo_done _
  all_goals exact Task.keepsTo_done _

theorem composable_keepsTo :
    Composable fun α (p _ : Task σ α) => Task.KeepsTo shares i p where
  done := Task.keepsTo_done
  now := Task.keepsTo_now
  bind := Task.KeepsTo.bind
  timeout milliseconds keeps := keeps.timeout milliseconds
  gather keep := .gather (List.forall_mem_map.mpr keep)

/-! ## Dispatches -/

/-- A handler is built-in, made with these collaborators, or for rehearsals. -/
def Handler.MadeWith (settings : Settings) (collaborators : Collaborators σ)
    (handler : Handler σ) : Prop :=
  (∃ builtin : Builtin, handler = builtin.handler settings collaborators) ∨
    handler ∈ Rehearsal.handlers

theorem Handler.MadeWith.keepsTo {settings : Settings} {collaborators : Collaborators σ}
    {handler : Handler σ} (made : handler.MadeWith settings collaborators)
    {spec : Spec} (type : handler.type = spec.type)
    (keep : collaborators.KeepTo shares i spec.type) {d : Dispatcher σ}
    (nested : ∀ child, spec.Asks child → ∀ context,
      Task.KeepsTo shares i (d.dispatch child context))
    (context : Context) : Task.KeepsTo shares i (handler.run d spec.params context) := by
  rcases made with ⟨builtin, rfl⟩ | mem
  · rw [← type, Builtin.handler_type] at keep
    cases builtin with
    | condition =>
        exact composable_keepsTo.branch d d (fun plan side accepted spec mem =>
          nested spec (.branch type.symm accepted mem)) context
    | parallel =>
        exact composable_keepsTo.parallel d d (fun plan accepted spec mem =>
          nested spec (.parallel type.symm accepted mem)) context
    | wait => exact wait_keepsTo _ d _ context
    | stateTransition => exact Task.keepsTo_now.bind fun time => Task.keepsTo_done _
    | contextUpdate => exact Task.keepsTo_done _
    | semanticRoute => exact route_keepsTo keep _ d _ context
    | llmGenerate => exact generate_keepsTo keep _ d _ context
  · exact rehearsal_keepsTo mem d _ context

namespace Registry

/--
A dispatch keeps to a share if the collaborators do that the action asks, or
that those nested in it ask.
-/
theorem keepsTo_dispatchWithin {r : Registry σ} {settings : Settings}
    {collaborators : Collaborators σ}
    (made : r.Each (Handler.MadeWith settings collaborators)) {spec : Spec}
    (within : spec.Within (collaborators.KeepTo shares i)) (left : Nat) (context : Context) :
    Task.KeepsTo shares i (r.dispatchWithin left spec context) := by
  induction left generalizing spec context with
  | zero => exact Task.keepsTo_done _
  | succ left ih =>
      obtain ⟨here, nested⟩ := within
      unfold dispatchWithin
      cases found : r.get? spec.type with
      | none => exact Task.keepsTo_done _
      | some handler =>
          obtain ⟨type, madeWith⟩ := made spec.type handler found
          refine Task.keepsTo_now.bind fun start => ?_
          refine Task.KeepsTo.bind ?_ fun handled =>
            Task.keepsTo_now.bind fun stop => Task.keepsTo_done _
          refine madeWith.keepsTo type here (fun child asks context => ?_) context
          exact ih (nested child asks) context

end Registry

end ActionGraph.Action
