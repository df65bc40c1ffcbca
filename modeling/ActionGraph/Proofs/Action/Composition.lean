import ActionGraph.Action.Branch
import ActionGraph.Action.Parallel

/-!
# Actions made of other actions

Branching and parallel actions are put together of what they dispatch and of
readings of the clock.  A relation between tasks that is kept when tasks are
put together holds between two such actions if it holds between all that they
dispatch.
-/

namespace ActionGraph.Action

variable {σ σ' : Type}

/-- A relation between tasks that is kept when tasks are put together. -/
structure Composable (R : (α : Type) → Task σ α → Task σ' α → Prop) : Prop where
  done : ∀ {α : Type} (a : α), R α (.done a) (.done a)
  now : R Nat Process.now Process.now
  bind : ∀ {α β : Type} {p : Task σ α} {q : Task σ' α} {f : α → Task σ β} {g : α → Task σ' β},
    R α p q → (∀ a, R β (f a) (g a)) → R β (p.bind f) (q.bind g)
  timeout : ∀ {α : Type} {p : Task σ α} {q : Task σ' α} (milliseconds : Nat),
    R α p q → R (Option α) (p.timeout milliseconds) (q.timeout milliseconds)
  gather : ∀ {ι τ α : Type} {take : Process.Taker τ α} {init : τ} {items : List ι}
    {f : ι → Task σ α} {g : ι → Task σ' α}, (∀ item ∈ items, R α (f item) (g item)) →
      R τ (Process.gather take init (items.map f)) (Process.gather take init (items.map g))

namespace Composable

variable {R : (α : Type) → Task σ α → Task σ' α → Prop} (kept : Composable R)
  (d : Dispatcher σ) (d' : Dispatcher σ')
include kept

theorem inOrder {specs : List Spec}
    (nested : ∀ spec ∈ specs, ∀ context, R _ (d.dispatch spec context) (d'.dispatch spec context))
    (context : Context) :
    R _ (Branch.inOrder d specs context) (Branch.inOrder d' specs context) := by
  induction specs generalizing context with
  | nil => exact kept.done _
  | cons spec rest ih =>
      obtain ⟨here, later⟩ := List.forall_mem_cons.mp nested
      refine kept.bind (here context) fun dispatched => ?_
      split
      · exact kept.done _
      · split
        · exact kept.bind (ih later dispatched.2) fun more => kept.done _
        · exact kept.done _

theorem branch {params : Json}
    (nested : ∀ plan side, Branch.Plan.ofParams params = .ok plan → ∀ spec ∈ plan.actions side,
      ∀ context, R _ (d.dispatch spec context) (d'.dispatch spec context))
    (context : Context) : R _ (Branch.run d params context) (Branch.run d' params context) := by
  unfold Branch.run
  cases accepted : Branch.Plan.ofParams params with
  | error failure => exact kept.done _
  | ok plan =>
      exact kept.bind (kept.inOrder d d' (nested plan _ accepted) context) fun ended => kept.done _

theorem parallelBranch {spec : Spec} {context : Context}
    (nested : R _ (d.dispatch spec context) (d'.dispatch spec context)) (limit index : Nat) :
    R _ (Parallel.branch d limit context index spec)
      (Parallel.branch d' limit context index spec) := by
  refine kept.bind kept.now fun start => ?_
  refine kept.bind (kept.timeout limit nested) fun dispatched => ?_
  exact kept.bind kept.now fun stop => kept.done _

theorem parallel {limit : Nat} {params : Json}
    (nested : ∀ plan, Parallel.Plan.ofParams limit params = .ok plan → ∀ spec ∈ plan.actions,
      ∀ context, R _ (d.dispatch spec context) (d'.dispatch spec context))
    (context : Context) :
    R _ (Parallel.run limit d params context) (Parallel.run limit d' params context) := by
  unfold Parallel.run
  cases accepted : Parallel.Plan.ofParams limit params with
  | error failure => exact kept.done _
  | ok plan =>
      refine kept.bind ?_ fun ended => kept.done _
      rw [List.mapIdx_eq_zipIdx_map, List.mapIdx_eq_zipIdx_map]
      refine kept.gather fun entry mem => ?_
      exact kept.parallelBranch d d'
        (nested plan accepted entry.1 (List.fst_mem_of_mem_zipIdx mem) context) _ _

end Composable

end ActionGraph.Action
