import ActionGraph.Proofs.Action.Collaboration
import ActionGraph.Proofs.Action.Envelope
import ActionGraph.Proofs.Action.Merging
import ActionGraph.Proofs.Wire.Written

/-!
# What every dispatch keeps

Some property of values is to hold of parameters, of outputs and of all that
stands in the bag, and another one of the rest of the context.  If each
handler of a registry keeps both, given a dispatcher that does, so does every
dispatch, however deep actions are nested.  Branching and parallel actions
keep whatever their dispatcher keeps.
-/

namespace ActionGraph

namespace Action

variable {σ : Type}

/-- Properties of values and of what is in a context besides the bag. -/
structure Keeping where
  value : Json → Prop
  rest : Context → Prop
  /-- The bag is no part of the rest. -/
  rebagged : ∀ context bag, rest context → rest { context with bag }
  /-- Actions that were read have parameters with the property. -/
  params : ∀ node spec, Spec.decode node = .ok spec → value spec.params
  branching : ∀ side reports, (∀ report ∈ reports, ∀ output ∈ report.output, value output) →
    value (Branch.outcome side reports).output
  joining : ∀ (strategy : Strategy) total finished,
    (∀ finish ∈ finished, ∀ output ∈ Report.output finish.report, value output) →
      value (strategy.outcome total finished).output

namespace Keeping

variable (k : Keeping)

def OfContext (context : Context) : Prop :=
  k.rest context ∧ context.bag.All k.value

def OfReport (report : Report) : Prop :=
  ∀ output ∈ report.output, k.value output

def OfDispatched (dispatched : Dispatched) : Prop :=
  k.OfContext dispatched.2 ∧ ∀ report, dispatched.1 = .ok report → k.OfReport report

def OfHandled (handled : Handled) : Prop :=
  k.OfContext handled.2 ∧ ∀ outcome, handled.1 = .ok outcome → k.value outcome.output

def ByDispatcher (d : Dispatcher σ) : Prop :=
  ∀ spec context, k.value spec.params → k.OfContext context →
    (d.dispatch spec context).Ends k.OfDispatched

def ByHandler (handler : Handler σ) : Prop :=
  ∀ d params context, k.ByDispatcher d → k.value params → k.OfContext context →
    (handler.run d params context).Ends k.OfHandled

variable {k}

theorem OfContext.rebag {context : Context} (holds : k.OfContext context) {bag : Bag}
    (all : bag.All k.value) : k.OfContext { context with bag } :=
  ⟨k.rebagged context bag holds.1, all⟩

theorem ofReport_failed (spec : Spec) (error : String) (duration : Nat) :
    k.OfReport { Report.failed spec.type error duration with id := spec.id } :=
  nofun

theorem ofHandled_halted {context : Context} (holds : k.OfContext context) (halt : Halt) :
    k.OfHandled (.error halt, context) :=
  ⟨holds, nofun⟩

theorem ofHandled_failed {context : Context} (holds : k.OfContext context) (failure : Failure) :
    k.OfHandled (.failed context failure) :=
  ofHandled_halted holds _

/-- Of what a handler answers only the output is reported. -/
theorem OfHandled.reported {handled : Handled} (holds : k.OfHandled handled) (spec : Spec)
    (duration : Nat) : k.OfDispatched (Report.ofHandled spec duration handled.1, handled.2) := by
  obtain ⟨context, outputs⟩ := holds
  refine ⟨context, fun report reported => ?_⟩
  cases result : handled.1 with
  | ok outcome =>
      rw [result] at reported
      cases reported
      intro output there
      have same := Report.output_ofOutcome spec.type outcome duration
      cases same.symm.trans there
      exact outputs outcome result
  | error halt =>
      rw [result] at reported
      cases halt with
      | failed failure =>
          unfold Report.ofHandled at reported
          dsimp only at reported
          split at reported
          · cases reported
          · cases reported
            exact ofReport_failed spec _ _
      | crashed text =>
          cases reported
          exact ofReport_failed spec _ _

/-! ## Actions that are read -/

theorem params_of_required {params : Json} {name : String} {specs : List Spec}
    (read : Params.required params name (Wire.Decode.list Spec.decode) = .ok specs) :
    ∀ spec ∈ specs, k.value spec.params := by
  unfold Params.required at read
  split at read
  · intro spec mem
    obtain ⟨node, read⟩ :=
      Wire.Decode.exists_of_list (mapError_eq_ok_iff.mp read) spec mem
    exact k.params node spec read
  · cases read

theorem params_of_optional {params : Json} {name : String} {specs : List Spec}
    (read : Params.optional params name (Wire.Decode.list Spec.decode) = .ok (some specs)) :
    ∀ spec ∈ specs, k.value spec.params := by
  unfold Params.optional at read
  split at read
  · obtain ⟨_, read, ⟨⟩⟩ := map_eq_ok_iff.mp read
    intro spec mem
    obtain ⟨node, read⟩ :=
      Wire.Decode.exists_of_list (mapError_eq_ok_iff.mp read) spec mem
    exact k.params node spec read
  · cases read

theorem params_of_branchPlan {params : Json} {plan : Branch.Plan}
    (accepted : Branch.Plan.ofParams params = .ok plan) (side : Branch.Side) :
    ∀ spec ∈ plan.actions side, k.value spec.params := by
  unfold Branch.Plan.ofParams at accepted
  obtain ⟨group, _, accepted⟩ := bind_eq_ok_iff.mp accepted
  obtain ⟨met, readMet, accepted⟩ := bind_eq_ok_iff.mp accepted
  obtain ⟨unmet, readUnmet, accepted⟩ := bind_eq_ok_iff.mp accepted
  cases accepted
  cases side with
  | met => exact params_of_required readMet
  | unmet =>
      cases unmet with
      | none => exact List.forall_mem_nil _
      | some unmet => exact params_of_optional readUnmet

/-! ## Branching -/

section Nesting

variable {d : Dispatcher σ} (keeps : k.ByDispatcher d)
include keeps

theorem inOrder_ends {specs : List Spec} (params : ∀ spec ∈ specs, k.value spec.params)
    {context : Context} (holds : k.OfContext context) :
    (Branch.inOrder d specs context).Ends fun ended => k.OfContext ended.2 ∧
      ∀ reports, ended.1 = .ok reports → ∀ report ∈ reports, k.OfReport report := by
  induction specs generalizing context with
  | nil =>
      refine ⟨holds, ?_⟩
      rintro _ ⟨⟩
      exact List.forall_mem_nil _
  | cons spec rest ih =>
      obtain ⟨here, later⟩ := List.forall_mem_cons.mp params
      refine (keeps spec context here holds).bind fun dispatched ⟨kept, reported⟩ => ?_
      cases result : dispatched.1 with
      | error failure => exact ⟨kept, nofun⟩
      | ok report =>
          have first := reported report result
          dsimp only
          split
          · refine (ih later kept).bind fun more ⟨kept, reported⟩ => ⟨kept, ?_⟩
            intro reports same
            obtain ⟨reportsLater, result, rfl⟩ := map_eq_ok_iff.mp same
            exact List.forall_mem_cons.mpr ⟨first, reported _ result⟩
          · refine ⟨kept, ?_⟩
            rintro _ ⟨⟩
            exact List.forall_mem_singleton.mpr first

theorem branch_ends (params : Json) {context : Context} (holds : k.OfContext context) :
    (Branch.run d params context).Ends k.OfHandled := by
  unfold Branch.run
  cases accepted : Branch.Plan.ofParams params with
  | error failure => exact ofHandled_failed holds failure
  | ok plan =>
      refine (inOrder_ends keeps (params_of_branchPlan accepted _) holds).bind
        fun ended ⟨kept, reported⟩ => ⟨kept, fun outcome same => ?_⟩
      obtain ⟨reports, result, rfl⟩ := map_eq_ok_iff.mp (mapError_eq_ok_iff.mp same)
      exact k.branching _ reports (reported reports result)

/-! ## Running in parallel -/

omit keeps in
def OfFinish (k : Keeping) (finish : Finish) : Prop :=
  k.OfReport finish.report ∧ ∀ entry ∈ finish.writes.set, k.value entry.2

theorem parallelBranch_ends {spec : Spec} (params : k.value spec.params) {context : Context}
    (holds : k.OfContext context) (limit index : Nat) :
    (Parallel.branch d limit context index spec).Ends fun ended =>
      ∀ finish, ended = .ok finish → k.OfFinish finish := by
  refine Process.ends_bind_of_forall _ fun start => ?_
  refine ((keeps spec context params holds).timeout limit).bind fun result kept => ?_
  refine Process.ends_bind_of_forall _ fun stop finish same => ?_
  cases result with
  | none =>
      cases same
      exact ⟨ofReport_failed spec _ _, List.forall_mem_nil _⟩
  | some dispatched =>
      obtain ⟨outcome, after⟩ := dispatched
      obtain ⟨⟨_, all⟩, reported⟩ := kept _ rfl
      cases outcome with
      | error failure => cases same
      | ok report =>
          cases same
          refine ⟨reported report rfl, fun entry mem => ?_⟩
          exact all entry.1 entry.2 (Writes.mem_set_iff.mp mem).1

omit keeps in
theorem all_merge {finished : List Finish} (all : ∀ finish ∈ finished, k.OfFinish finish)
    {bag : Bag} (holds : bag.All k.value) : (Finish.merge finished bag).All k.value := by
  induction finished generalizing bag with
  | nil => exact holds
  | cons finish rest ih =>
      obtain ⟨here, later⟩ := List.forall_mem_cons.mp all
      rw [Finish.merge_cons]
      split
      · exact ih later ((holds.foldl_erase _).insertAll here.2)
      · exact ih later holds

theorem parallel_ends (limit : Nat) (params : Json) {context : Context}
    (holds : k.OfContext context) : (Parallel.run limit d params context).Ends k.OfHandled := by
  unfold Parallel.run
  cases accepted : Parallel.Plan.ofParams limit params with
  | error failure => exact ofHandled_failed holds failure
  | ok plan =>
      have read : ∀ spec ∈ plan.actions, k.value spec.params :=
        params_of_required (Parallel.actions_of_ofParams accepted)
      refine (Process.Ends.gather
        (P := fun _ ended => ∀ finish, ended = .ok finish → k.OfFinish finish)
        (I := fun _ sofar => ∀ finished, sofar = .ok finished →
          ∀ finish ∈ finished, k.OfFinish finish) ?_ ?_ ?_).bind fun ended ⟨_, all⟩ => ?_
      · rintro _ (failure | before) i (failure | finish) all _ here finished ⟨⟩
        exact List.forall_mem_append.mpr
          ⟨all before rfl, List.forall_mem_singleton.mpr (here finish rfl)⟩
      · rintro _ ⟨⟩
        exact List.forall_mem_nil _
      · intro i p there
        rw [List.getElem?_mapIdx] at there
        obtain ⟨spec, here, rfl⟩ := Option.map_eq_some_iff.mp there
        exact parallelBranch_ends keeps (read spec (List.mem_of_getElem? here)) holds _ _
      · cases ended with
        | error failure => exact ofHandled_failed holds failure
        | ok finished =>
            have inPlace : ∀ finish ∈ Finish.inPlace finished, k.OfFinish finish :=
              fun finish mem => all finished rfl finish (Parallel.mem_inPlace_iff.mp mem)
            refine ⟨holds.rebag (all_merge inPlace holds.2), ?_⟩
            rintro _ ⟨⟩
            exact k.joining _ _ _ fun finish mem => (inPlace finish mem).1

end Nesting

/-! ## Dispatches -/

theorem byHandler_branch : k.ByHandler (Branch.handler : Handler σ) :=
  fun _ params _ keeps _ holds => branch_ends keeps params holds

theorem byHandler_parallel (limit : Nat) : k.ByHandler (Parallel.handler limit : Handler σ) :=
  fun _ params _ keeps _ holds => parallel_ends keeps limit params holds

/-- What every handler keeps is kept at every depth. -/
theorem dispatchWithin_ends {r : Registry σ}
    (keeps : ∀ type handler, r.get? type = some handler → k.ByHandler handler) (left : Nat)
    {spec : Spec} (params : k.value spec.params) {context : Context}
    (holds : k.OfContext context) : (r.dispatchWithin left spec context).Ends k.OfDispatched := by
  induction left generalizing spec context with
  | zero =>
      refine ⟨holds, ?_⟩
      rintro _ ⟨⟩
      exact ofReport_failed spec _ 0
  | succ left ih =>
      unfold Registry.dispatchWithin
      cases found : r.get? spec.type with
      | none =>
          refine ⟨holds, ?_⟩
          rintro _ ⟨⟩
          exact ofReport_failed spec _ 0
      | some handler =>
          have nested : k.ByDispatcher ⟨r.maxDepth - left, r.dispatchWithin left⟩ :=
            fun _ _ params holds => ih params holds
          refine Process.ends_bind_of_forall _ fun start => ?_
          refine (keeps _ handler found _ _ context nested params holds).bind fun handled kept => ?_
          exact Process.ends_bind_of_forall _ fun stop => kept.reported spec (stop - start)

end Keeping

end Action

end ActionGraph
