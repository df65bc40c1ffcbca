import ActionGraph.Action.Registry
import ActionGraph.Proofs.Process.Endings

/-!
# What leaves a dispatch

A dispatch ends with a report, or it fails for an expired credential.
-/

namespace ActionGraph

theorem Failure.isCredential_iff {failure : Failure} :
    failure.isCredential = true ↔ ∃ text, failure = .credentialExpired text := by
  constructor
  · intro credential
    cases failure with
    | credentialExpired text => exact ⟨text, rfl⟩
    | _ => cases credential
  · rintro ⟨text, rfl⟩
    rfl

/-- A task that runs by itself ends with one of the values that it can end with. -/
theorem Process.Ends.complete {σ α : Type} {P : α → Prop} {task : Action.Task σ α}
    (ends : Process.Ends P task) (world : Action.World σ) :
    P (Action.Task.complete world task).2 := by
  induction task generalizing world with
  | done a => exact ends
  | act change next ih => exact ih world (ends world) (change world)
  | wait alarm next ih => exact ih ends _

namespace Action

variable {σ : Type}

theorem Task.complete_bind {α β : Type} (p : Task σ α) (f : α → Task σ β) (w : World σ) :
    Task.complete w (p.bind f) =
      Task.complete (Task.complete w p).1 (f (Task.complete w p).2) := by
  induction p generalizing w with
  | done a => rfl
  | act change next ih => exact ih w (change w)
  | wait alarm next ih => exact ih _

theorem Task.complete_cached {α : Type} (f : Embedding.Cache → Nat → Embedding.Cache × α)
    (w : World σ) :
    Task.complete w (Task.cached f) =
      ({ w with cache := (f w.cache w.now).1 }, (f w.cache w.now).2) :=
  rfl

/-- If the dispatch failed, a credential had expired. -/
def OnlyCredentials (dispatched : Dispatched) : Prop :=
  ∀ failure, dispatched.1 = .error failure → failure.isCredential = true

theorem OnlyCredentials.report (report : Report) (context : Context) :
    OnlyCredentials (.ok report, context) := by
  rintro failure ⟨⟩

theorem Report.ofHandled_onlyCredentials (spec : Spec) (duration : Nat)
    (result : Except Halt Outcome) (context : Context) :
    OnlyCredentials (Report.ofHandled spec duration result, context) := by
  intro failure refused
  unfold Report.ofHandled at refused
  cases result with
  | ok outcome => cases refused
  | error halt =>
      cases halt with
      | failed other =>
          dsimp only at refused
          split at refused
          · cases refused
            assumption
          · cases refused
      | crashed text => cases refused

namespace Registry

/-- Each handler is found under its own type and has a property. -/
def Each (r : Registry σ) (P : Handler σ → Prop) : Prop :=
  ∀ type handler, r.get? type = some handler → handler.type = type ∧ P handler

theorem Each.register {r : Registry σ} {P : Handler σ → Prop} (each : r.Each P)
    {handler : Handler σ} (holds : P handler) : (r.register handler).Each P := by
  intro type other found
  rw [get?, Registry.register, Dict.get?_insert] at found
  split at found
  · rename_i here
    cases found
    exact ⟨here.symm, holds⟩
  · exact each type other found

theorem Each.registerAll {r : Registry σ} {P : Handler σ → Prop} (each : r.Each P)
    {handlers : List (Handler σ)} (hold : ∀ handler ∈ handlers, P handler) :
    (r.registerAll handlers).Each P := by
  induction handlers generalizing r with
  | nil => exact each
  | cons handler rest ih =>
      rw [List.forall_mem_cons] at hold
      exact ih (each.register hold.1) hold.2

/-- At every depth only an expired credential leaves a dispatch. -/
theorem dispatchWithin_ends (r : Registry σ) (left : Nat) (spec : Spec) (context : Context) :
    (r.dispatchWithin left spec context).Ends OnlyCredentials := by
  cases left with
  | zero => exact .report _ _
  | succ left =>
      unfold dispatchWithin
      cases r.get? spec.type with
      | none => exact .report _ _
      | some handler =>
          refine Process.ends_bind_of_forall _ fun start => ?_
          refine Process.ends_bind_of_forall _ fun handled => ?_
          refine Process.ends_bind_of_forall _ fun stop => ?_
          exact Report.ofHandled_onlyCredentials spec (stop - start) handled.1 handled.2

theorem dispatch_ends (r : Registry σ) (spec : Spec) (context : Context) :
    (r.dispatch spec context).Ends OnlyCredentials :=
  r.dispatchWithin_ends _ spec context

end Registry

end Action

end ActionGraph
