import ActionGraph.Proofs.Action.Keeping
import ActionGraph.Proofs.Encodings
import ActionGraph.Proofs.Json.Merging

/-!
# Reports that are written and read back

Where parameters and contexts hold ordered values only, so do the outputs of
built-in actions and of those for rehearsals, with the reports of nested
actions in them.  A report with an ordered output is read back as it was
written, unless the output is null.
-/

namespace ActionGraph

/-! ## Ordered contexts -/

theorem Bag.all_merge {bag patch : Bag} (all : bag.All Json.Ordered)
    (ordered : Json.OrderedFields patch.entries) : (bag.merge patch).All Json.Ordered := by
  unfold merge
  generalize patch.entries = entries at ordered
  induction entries generalizing bag with
  | nil => exact all
  | cons entry rest ih =>
      obtain ⟨key, value⟩ := entry
      refine ih (all.insert key ?_) ordered.2
      split
      · rename_i old found
        exact Json.ordered_merge (all key old found) ordered.1
      · exact ordered.1

/-- What a context holds besides the bag is ordered. -/
structure Context.Ordered (context : Context) : Prop where
  trigger : ∀ value ∈ context.trigger, value.Ordered
  event : ∀ value ∈ context.event, value.Ordered
  user : ∀ value ∈ context.user, value.Ordered
  message : ∀ message ∈ context.message, message.extra.All Json.Ordered
  metadata : context.metadata.All Json.Ordered

namespace Action

variable {σ : Type}

/-! ## Ordered outputs -/

theorem ordered_optionalField {name : String} {value : Option Json}
    (ordered : ∀ v ∈ value, v.Ordered) :
    ∀ entry ∈ optionalField name value, entry.2.Ordered := by
  cases value with
  | none => exact List.forall_mem_nil _
  | some v => exact List.forall_mem_singleton.mpr (ordered v rfl)

theorem Spec.ordered_toJson {spec : Spec} (ordered : spec.params.Ordered) :
    spec.toJson.Ordered := by
  rw [toJson_eq]
  refine Json.ordered_ofFields (Wire.Fields.ordered_write _ ?_)
  simp only [List.forall_mem_cons]
  exact ⟨Json.ordered_some trivial, Json.ordered_text _, Json.ordered_some ordered,
    List.forall_mem_nil _⟩

theorem Report.ordered_toJson {report : Report} (ordered : ∀ output ∈ report.output, output.Ordered) :
    report.toJson.Ordered := by
  rw [toJson_eq]
  refine Json.ordered_ofFields (Wire.Fields.ordered_write _ ?_)
  simp only [List.forall_mem_cons]
  exact ⟨Json.ordered_some trivial, Json.ordered_some trivial, Json.ordered_text _, ordered,
    Json.ordered_text _, Json.ordered_some (Json.ordered_ofNat _), List.forall_mem_nil _⟩

theorem ordered_reports {reports : List Report}
    (ordered : ∀ report ∈ reports, ∀ output ∈ report.output, output.Ordered) :
    (Json.arr (reports.map Report.toJson)).Ordered := by
  refine Json.orderedItems_iff.mpr fun item mem => ?_
  obtain ⟨report, there, rfl⟩ := List.mem_map.mp mem
  exact Report.ordered_toJson (ordered report there)

theorem Branch.ordered_outcome (side : Side) {reports : List Report}
    (ordered : ∀ report ∈ reports, ∀ output ∈ report.output, output.Ordered) :
    (outcome side reports).output.Ordered := by
  rw [outcome_output]
  exact Json.ordered_ofFields <|
    .cons trivial <| .cons trivial <| .cons (Json.ordered_ofNat _) <|
      .cons (ordered_reports ordered) .nil

theorem Strategy.ordered_outcome (strategy : Strategy) (total : Nat) {finished : List Finish}
    (ordered : ∀ finish ∈ finished, ∀ output ∈ finish.report.output, output.Ordered) :
    (strategy.outcome total finished).output.Ordered := by
  obtain ⟨chosen, some, listed⟩ := listed_sublist strategy finished
  have reports : ∀ report ∈ strategy.listed finished, ∀ output ∈ report.output,
      output.Ordered := by
    rw [listed, Finish.reports, List.forall_mem_map]
    exact fun finish mem => ordered finish (some.mem mem)
  rw [outcome_output]
  exact Json.ordered_ofFields <|
    .cons trivial <| .cons (Json.ordered_ofNat _) <| .cons (Json.ordered_ofNat _) <|
      .cons (Json.ordered_ofNat _) <| .cons (ordered_reports reports) .nil

def ordering : Keeping where
  value := Json.Ordered
  rest := Context.Ordered
  rebagged _ _ ordered := ⟨ordered.trigger, ordered.event, ordered.user, ordered.message,
    ordered.metadata⟩
  params _ _ read := Spec.ordered_of_decode read
  branching side _ ordered := Branch.ordered_outcome side ordered
  joining strategy total _ ordered := strategy.ordered_outcome total ordered

/-! ## Handlers that answer with ordered outputs -/

section Handlers

variable {params : Json} (given : params.Ordered) {context : Context}
  (holds : ordering.OfContext context)
include holds

theorem ordering_ok (output : Json) (ordered : output.Ordered) :
    ordering.OfHandled (.ok (.ok output), context) := by
  refine ⟨holds, ?_⟩
  rintro _ ⟨⟩
  exact ordered

theorem ordering_set (key : Option String) {output value : Json} (ordered : output.Ordered)
    (orderedToo : value.Ordered) :
    ordering.OfHandled (.ok (.ok output),
      match key with
      | some key => context.set key value
      | none => context) := by
  refine ⟨?_, ?_⟩
  · cases key with
    | none => exact holds
    | some key => exact holds.rebag (holds.2.insert key orderedToo)
  · rintro _ ⟨⟩
    exact ordered

theorem wait_orderly (ceiling : Nat) (d : Dispatcher σ) (params : Json) :
    (Wait.run ceiling d params context).Ends ordering.OfHandled := by
  unfold Wait.run
  cases Wait.Plan.ofParams params with
  | error failure => exact Keeping.ofHandled_failed holds failure
  | ok plan =>
      refine Process.ends_bind_of_forall _ fun _ => ordering_ok holds _ ?_
      have fields (waited requested : Nat) (clamped : Bool) : Json.OrderedFields
          [("waited", .ofNat waited), ("requested", .ofNat requested),
            ("clamped", .bool clamped)] :=
        .cons (Json.ordered_ofNat _) <| .cons (Json.ordered_ofNat _) <| .cons trivial .nil
      refine Json.ordered_ofFields (Json.orderedFields_iff.mpr ?_)
      exact List.forall_mem_append.mpr ⟨Json.orderedFields_iff.mp (fields _ _ _),
        ordered_optionalField (Json.ordered_text _)⟩

theorem transition_orderly (d : Dispatcher σ) (params : Json) :
    (Transition.run d params context).Ends ordering.OfHandled := by
  refine Process.ends_bind_of_forall _ fun time => ?_
  cases Transition.target params context.state with
  | error failure => exact Keeping.ofHandled_failed holds failure
  | ok target =>
      exact ordering_ok holds _ <| Json.ordered_ofFields <|
        .cons trivial <| .cons trivial <| .cons trivial .nil

theorem generate_orderly (collaborators : Collaborators σ) (defaults : Option ModelSettings)
    (d : Dispatcher σ) (params : Json) :
    (Generate.run collaborators defaults d params context).Ends ordering.OfHandled := by
  unfold Generate.run
  cases Generate.prepare collaborators defaults params context with
  | error failure => exact Keeping.ofHandled_failed holds failure
  | ok ready =>
      refine Process.ends_bind_of_forall _ fun answer => ?_
      cases answer with
      | error failure => exact Keeping.ofHandled_failed holds failure
      | ok reply =>
          have usage : reply.usage.toJson.Ordered :=
            Json.ordered_ofFields <|
              .cons (Json.ordered_ofNat _) <| .cons (Json.ordered_ofNat _) .nil
          have output : reply.toJson.Ordered :=
            Json.ordered_ofFields <| .cons trivial <| .cons trivial <| .cons usage .nil
          exact ordering_set holds ready.outputKey output trivial

omit holds in
theorem Route.ordered_output (plan : Plan) (first : String × Binary32)
    (others : List (String × Binary32)) : (output plan first others).Ordered := by
  have scores : (Json.ofFields ((first :: others).map fun scored =>
      (scored.1, Json.ofBinary32 scored.2))).Ordered := by
    refine Json.ordered_ofFields (Json.orderedFields_iff.mpr fun entry mem => ?_)
    obtain ⟨scored, _, rfl⟩ := List.mem_map.mp mem
    exact Json.ordered_ofBinary64 _
  refine Json.ordered_ofFields <| .cons ?_ <| .cons trivial <|
    .cons (Json.ordered_ofBinary64 _) <| .cons trivial <| .cons trivial <| .cons scores .nil
  split
  · cases plan.fallback <;> trivial
  · trivial

omit holds in
theorem Route.ordered_choose (plan : Plan) (routes : Routes) (vectors : List Embedding.Vector) :
    (choose plan routes vectors).Ordered := by
  unfold choose
  split
  · exact ordered_output plan _ _
  · exact ordered_output plan _ _

theorem route_orderly (collaborators : Collaborators σ) (settings : RoutingSettings)
    (d : Dispatcher σ) (params : Json) :
    (Route.run collaborators settings d params context).Ends ordering.OfHandled := by
  unfold Route.run
  cases Route.prepare collaborators settings params context with
  | error failure => exact Keeping.ofHandled_failed holds failure
  | ok ready =>
      refine Process.ends_bind_of_forall _ fun answer => ?_
      cases answer with
      | error failure => exact Keeping.ofHandled_failed holds failure
      | ok vectors =>
          have output := Route.ordered_choose ready.plan ready.routes vectors
          exact ordering_set holds ready.plan.outputKey output output

end Handlers

/-! ## Updates of the bag -/

namespace Update

variable {params : Json}

theorem ordered_of_optional {name : String} {updates : Bag}
    (read : Params.optional params name (Wire.Decode.dict Wire.Decode.json) = .ok (some updates)) :
    Json.OrderedFields updates.entries := by
  unfold Params.optional at read
  split at read
  · obtain ⟨_, read, ⟨⟩⟩ := map_eq_ok_iff.mp read
    exact Wire.Decode.ordered_of_dict (mapError_eq_ok_iff.mp read)
  · cases read

theorem ordered_of_given (ordered : params.Ordered) {updates : Option Bag}
    (all : ∀ bag ∈ updates, Json.OrderedFields bag.entries) {key : Option String} {bag : Bag}
    (accepted : given params updates key = .ok bag) : Json.OrderedFields bag.entries := by
  unfold given at accepted
  split at accepted
  · cases accepted
    exact all _ rfl
  · cases accepted
    exact .cons (ordered.field "value") .nil
  · cases accepted

/-- Whatever ordered parameters do to a bag of ordered values, it stays one. -/
theorem Change.all_apply (ordered : params.Ordered) {change : Change}
    (accepted : Change.ofParams params = .ok change) {bag : Bag} (all : bag.All Json.Ordered) :
    (change.apply bag).All Json.Ordered := by
  unfold Change.ofParams at accepted
  obtain ⟨operation, _, accepted⟩ := bind_eq_ok_iff.mp accepted
  obtain ⟨updates, read, accepted⟩ := bind_eq_ok_iff.mp accepted
  obtain ⟨key, _, accepted⟩ := bind_eq_ok_iff.mp accepted
  have updatesOrdered : ∀ bag ∈ updates, Json.OrderedFields bag.entries := by
    rintro bag rfl
    exact ordered_of_optional read
  split at accepted
  · obtain ⟨new, made, ⟨⟩⟩ := bind_eq_ok_iff.mp accepted
    exact Json.all_of_orderedFields (ordered_of_given ordered updatesOrdered made)
  · obtain ⟨patch, made, ⟨⟩⟩ := bind_eq_ok_iff.mp accepted
    exact Bag.all_merge all (ordered_of_given ordered updatesOrdered made)
  · obtain ⟨keys, _, ⟨⟩⟩ := bind_eq_ok_iff.mp accepted
    exact all.foldl_erase keys

theorem handle_orderly (ordered : params.Ordered) {context : Context}
    (holds : ordering.OfContext context) : ordering.OfHandled (handle params context) := by
  unfold handle
  cases accepted : Change.ofParams params with
  | error failure => exact Keeping.ofHandled_failed holds failure
  | ok change =>
      have after := Change.all_apply ordered accepted holds.2
      exact ordering_ok (holds.rebag after) _ <| Json.ordered_ofFields <|
        .cons trivial <| .cons (Json.ordered_ofDict holds.2) <|
          .cons (Json.ordered_ofDict after) .nil

end Update

theorem Builtin.byHandler_ordering (settings : Settings) (collaborators : Collaborators σ)
    (builtin : Builtin) : ordering.ByHandler (builtin.handler settings collaborators) := by
  cases builtin with
  | condition => exact Keeping.byHandler_branch
  | parallel => exact Keeping.byHandler_parallel _
  | wait => exact fun d params _ _ _ holds => wait_orderly holds _ d params
  | stateTransition => exact fun d params _ _ _ holds => transition_orderly holds d params
  | contextUpdate => exact fun _ _ _ _ ordered holds => Update.handle_orderly ordered holds
  | semanticRoute => exact fun d params _ _ _ holds => route_orderly holds _ _ d params
  | llmGenerate => exact fun d params _ _ _ holds => generate_orderly holds _ _ d params

/-! ## Actions for rehearsals -/

theorem applySet_orderly {params : Json} (ordered : params.Ordered) {context : Context}
    (holds : ordering.OfContext context) :
    ordering.OfContext (Rehearsal.applySet params context) := by
  have set := ordered.field "set"
  unfold Rehearsal.applySet
  split
  · rename_i entries there
    rw [there] at set
    exact holds.rebag (holds.2.insertAll (Json.orderedFields_iff.mp set.2))
  · exact holds

theorem echo_orderly {params : Json} (ordered : params.Ordered) {context : Context}
    (holds : ordering.OfContext context) (d : Dispatcher σ) :
    (Rehearsal.echo.run d params context).Ends ordering.OfHandled := by
  have after := applySet_orderly ordered holds
  refine ordering_ok after _ ?_
  split
  · rename_i value there
    exact ordered.field? there
  · refine Json.ordered_ofFields (.cons ordered (.cons ?_ .nil))
    cases inputs : (Rehearsal.applySet params context).get? "inputs" with
    | none => trivial
    | some value => exact after.2 "inputs" value inputs

theorem rehearsal_byHandler_ordering {handler : Handler σ} (mem : handler ∈ Rehearsal.handlers) :
    ordering.ByHandler handler := by
  intro d params context _ ordered holds
  have after := applySet_orderly ordered holds
  simp only [Rehearsal.handlers, List.mem_cons, List.not_mem_nil, or_false] at mem
  rcases mem with rfl | rfl | rfl | rfl | rfl | rfl | rfl | rfl
  case inl => exact echo_orderly ordered holds d
  case inr.inl =>
    refine ⟨after, ?_⟩
    rintro _ ⟨⟩
    trivial
  case inr.inr.inr.inr.inr.inr.inl =>
    exact ordering_ok holds _ (Json.ordered_ofFields (.cons (Json.ordered_ofNat _) .nil))
  case inr.inr.inr.inr.inr.inr.inr =>
    refine Process.ends_bind_of_forall _ fun _ => ordering_ok after _ ?_
    exact Json.ordered_ofFields (.cons (Json.ordered_ofNat _) .nil)
  all_goals exact Keeping.ofHandled_halted holds _

/-! ## Dispatches -/

/-- A report is read back as it was exactly if its output is not null and its time can be written. -/
theorem Report.decode_toJson_iff {report : Report}
    (ordered : ∀ output ∈ report.output, output.Ordered) :
    decode (.ofJson report.toJson) = .ok report ↔
      report.output ≠ some .null ∧ report.duration < Nat.pow 2 64 := by
  constructor
  · intro read
    obtain ⟨given, below⟩ := given_of_decode read
    exact ⟨fun null => (given .null null).1 rfl, below⟩
  · rintro ⟨there, below⟩
    rw [decode_toJson ordered below]
    obtain ⟨_, _, _, output, _, _⟩ := report
    cases output with
    | none => rfl
    | some output =>
        rw [Option.bind_some, Json.present?_of_ne fun null => there (congrArg some null)]

/--
A report is read back as it was exactly if its output is not null, and
otherwise without an output, as long as its time can be written.
-/
def Survives (dispatched : Dispatched) : Prop :=
  ∀ report, dispatched.1 = .ok report →
    (Report.decode (.ofJson report.toJson) = .ok report ↔
        report.output ≠ some .null ∧ report.duration < Nat.pow 2 64) ∧
      (report.duration < Nat.pow 2 64 → Report.decode (.ofJson report.toJson) =
        .ok { report with output := report.output.bind Json.present? })

namespace Registry

theorem Stocked.byHandler_ordering {r : Registry σ} (stocked : r.Stocked) (type : String)
    (handler : Handler σ) (found : r.get? type = some handler) : ordering.ByHandler handler := by
  obtain ⟨_, ⟨settings, collaborators, builtin, rfl⟩ | mem⟩ := stocked type handler found
  · exact builtin.byHandler_ordering settings collaborators
  · exact rehearsal_byHandler_ordering mem

/--
Whatever a registry's handlers are, as long as they keep values ordered, a
report that a dispatch ends with survives being written and read, but for an
output that is null.
-/
theorem report_survives_iff {r : Registry σ}
    (orderly : ∀ type handler, r.get? type = some handler → ordering.ByHandler handler)
    {spec : Spec} (params : spec.params.Ordered) {context : Context}
    (holds : ordering.OfContext context) :
    (r.dispatch spec context).Ends Survives ∧
      ∀ world, Survives ((r.dispatch spec context).complete world).2 := by
  have ends : (r.dispatch spec context).Ends Survives := by
    refine (Keeping.dispatchWithin_ends orderly _ params holds).mono ?_
    rintro dispatched ⟨_, reported⟩ report same
    have ordered := reported report same
    exact ⟨Report.decode_toJson_iff ordered, Report.decode_toJson ordered⟩
  exact ⟨ends, fun world => ends.complete world⟩

theorem nestedBranches_ordered : nestedBranches.params.Ordered := by
  have branching {actions : List Spec} (ordered : ∀ spec ∈ actions, spec.params.Ordered) :
      (Json.ofFields
        [("if", .emptyObject), ("then", .arr (actions.map Spec.toJson))]).Ordered := by
    refine Json.ordered_ofFields (.cons ⟨.nil, trivial⟩ (.cons ?_ .nil))
    refine Json.orderedItems_iff.mpr fun item mem => ?_
    obtain ⟨spec, there, rfl⟩ := List.mem_map.mp mem
    exact Spec.ordered_toJson (ordered spec there)
  have plain : Json.emptyObject.Ordered := ⟨.nil, trivial⟩
  refine branching (List.forall_mem_cons.mpr ⟨?_, List.forall_mem_singleton.mpr plain⟩)
  exact branching (List.forall_mem_singleton.mpr plain)

/-- The handlers of a stocked registry keep values ordered, also in nested actions. -/
theorem report_survives_iff_of_nestedBranches :
    (∀ type handler, rehearsed.get? type = some handler → ordering.ByHandler handler) ∧
      nestedBranches.params.Ordered ∧ ordering.OfContext default ∧
      (rehearsed.dispatch nestedBranches default).Ends Survives ∧
        ∀ world, Survives ((rehearsed.dispatch nestedBranches default).complete world).2 := by
  have context : ordering.OfContext default := ⟨⟨nofun, nofun, nofun, nofun, nofun⟩, nofun⟩
  exact ⟨stocked_rehearsed.byHandler_ordering, nestedBranches_ordered, context,
    report_survives_iff stocked_rehearsed.byHandler_ordering nestedBranches_ordered context⟩

/-- The output of an action that fails is null, and is lost when its report is read back. -/
theorem nullOutput_lost :
    ∃ report, ((rehearsed.dispatch ⟨"fail", none, .emptyObject⟩ default).complete
        ⟨0, 0, .empty 0, ()⟩).2.1 = .ok report ∧ report.output = some .null ∧
      Report.decode (.ofJson report.toJson) = .ok { report with output := none } ∧
      Report.decode (.ofJson report.toJson) ≠ .ok report := by
  let report : Report := ⟨false, "fail", none, some .null, some "intentional failure", 0⟩
  have ordered : ∀ output ∈ report.output, output.Ordered := Json.ordered_some trivial
  refine ⟨report, rfl, rfl, Report.decode_toJson ordered (by decide), fun survives => ?_⟩
  exact ((Report.decode_toJson_iff ordered).mp survives).1 rfl

end Registry

end Action

end ActionGraph
