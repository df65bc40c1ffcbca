import ActionGraph.Action.Builtin
import ActionGraph.Proofs.Action.Dispatch
import ActionGraph.Proofs.Process.Pools
import ActionGraph.Proofs.Wire.Values
import ActionGraph.Rehearsal.Actions

/-!
# Reports of nested actions

A report fits the action it is about: it has its type and its identifier, and
it says either what came of it or why it failed.  The reports that the output
of a branching or parallel action lists fit the actions that were run, at
every depth.
-/

namespace ActionGraph.Action

variable {σ : Type}

structure Report.Fits (spec : Spec) (report : Report) : Prop where
  type : report.type = spec.type
  id : report.id = spec.id
  success : report.success = true → report.output.isSome ∧ report.error = none
  failure : report.success = false → report.error.isSome

/--
An output lists what came of nested actions: the first ones of a branch up to
where it ended, or those of the parallel ones that were taken, in order.
-/
inductive Lists (spec : Spec) (output : Json) (ran : List (Spec × Report)) : Prop where
  | branch {plan : Branch.Plan} {side : Branch.Side} (type : spec.type = "condition")
      (accepted : Branch.Plan.ofParams spec.params = .ok plan)
      (named : output.field? "branch" = some (.str side.name))
      (listed : output.field? "results" = some (.arr (ran.map fun one => one.2.toJson)))
      (actions : (ran.map (·.1)).IsPrefix (plan.actions side))
  | parallel {limit : Nat} {plan : Parallel.Plan} (type : spec.type = "parallel")
      (accepted : Parallel.Plan.ofParams limit spec.params = .ok plan)
      (listed : output.field? "results" = some (.arr (ran.map fun one => one.2.toJson)))
      (actions : (ran.map (·.1)).Sublist plan.actions)

/-- A report fits its action, and so do those that its output lists, at every depth. -/
inductive Envelope : Spec → Report → Prop where
  | plain {spec : Spec} {report : Report} (fits : report.Fits spec)
      (alone : report.output = none ∨ spec.type ≠ "condition" ∧ spec.type ≠ "parallel") :
      Envelope spec report
  | listing {spec : Spec} {report : Report} {output : Json} {ran : List (Spec × Report)}
      (fits : report.Fits spec) (there : report.output = some output)
      (lists : Lists spec output ran) (nested : ∀ one ∈ ran, Envelope one.1 one.2) :
      Envelope spec report

def Enveloped (spec : Spec) (dispatched : Dispatched) : Prop :=
  ∀ report, dispatched.1 = .ok report → Envelope spec report

def Nested (ran : List (Spec × Report)) (reports : List Report) : Prop :=
  ran.map (·.2) = reports ∧ ∀ one ∈ ran, Envelope one.1 one.2

/-! ## Reports of handlers -/

namespace Report

theorem fits_failed (spec : Spec) (error : String) (duration : Nat) :
    Fits spec { failed spec.type error duration with id := spec.id } :=
  ⟨rfl, rfl, nofun, fun _ => rfl⟩

theorem fits_ofOutcome (spec : Spec) (outcome : Outcome) (duration : Nat) :
    Fits spec { ofOutcome spec.type outcome duration with id := spec.id } := by
  unfold ofOutcome
  split
  · exact ⟨rfl, rfl, fun _ => ⟨rfl, rfl⟩, nofun⟩
  · exact ⟨rfl, rfl, nofun, fun _ => rfl⟩

theorem output_ofOutcome (type : String) (outcome : Outcome) (duration : Nat) :
    (ofOutcome type outcome duration).output = some outcome.output := by
  unfold ofOutcome
  split <;> rfl

theorem envelope_failed (spec : Spec) (error : String) (duration : Nat) :
    Envelope spec { failed spec.type error duration with id := spec.id } :=
  .plain (fits_failed spec error duration) (.inl rfl)

/-- What a handler ends with is reported as it is, so that only its output matters. -/
theorem enveloped_ofHandled {spec : Spec} {handled : Handled}
    (outputs : ∀ outcome, handled.1 = .ok outcome →
      (spec.type ≠ "condition" ∧ spec.type ≠ "parallel") ∨
        ∃ ran, Lists spec outcome.output ran ∧ ∀ one ∈ ran, Envelope one.1 one.2)
    (duration : Nat) : Enveloped spec (ofHandled spec duration handled.1, handled.2) := by
  intro report reported
  cases result : handled.1 with
  | ok outcome =>
      rw [result] at reported
      cases reported
      have fits := fits_ofOutcome spec outcome duration
      rcases outputs outcome result with plain | ⟨ran, lists, nested⟩
      · exact .plain fits (.inr plain)
      · exact .listing fits (output_ofOutcome spec.type outcome duration) lists nested
  | error halt =>
      rw [result] at reported
      cases halt with
      | failed failure =>
          unfold ofHandled at reported
          dsimp only at reported
          split at reported
          · cases reported
          · cases reported
            exact envelope_failed spec failure.message duration
      | crashed text =>
          cases reported
          exact envelope_failed spec _ duration

end Report

/-! ## Outputs of nesting actions -/

theorem Nested.results {ran : List (Spec × Report)} {reports : List Report}
    (nested : Nested ran reports) :
    reports.map Report.toJson = ran.map fun one => one.2.toJson := by
  rw [← nested.1, List.map_map]
  rfl

theorem Branch.outcome_output (side : Side) (reports : List Report) :
    (outcome side reports).output = Json.ofFields
      [("branch", .str side.name), ("conditionMet", .bool (side == .met)),
        ("executed", .ofNat reports.length), ("results", .arr (reports.map Report.toJson))] := by
  unfold outcome
  dsimp only
  split <;> rfl

/-- The output of a branching action lists the reports of the actions that ran. -/
theorem lists_branch {spec : Spec} (type : spec.type = "condition") {plan : Branch.Plan}
    (accepted : Branch.Plan.ofParams spec.params = .ok plan) (side : Branch.Side)
    {ran : List (Spec × Report)} {reports : List Report} (nested : Nested ran reports)
    (actions : (ran.map (·.1)).IsPrefix (plan.actions side)) :
    Lists spec (Branch.outcome side reports).output ran := by
  rw [Branch.outcome_output, nested.results]
  refine .branch type accepted ?_ ?_ actions
  · exact Json.field?_ofFields (by simp) (by simp)
  · exact Json.field?_ofFields (by simp) (by simp)

theorem Strategy.outcome_output (strategy : Strategy) (total : Nat) (finished : List Finish) :
    (strategy.outcome total finished).output = Json.ofFields
      [("strategy", .str strategy.name), ("total", .ofNat total),
        ("succeeded", .ofNat (Finish.succeeded finished).length),
        ("failed", .ofNat (finished.length - (Finish.succeeded finished).length)),
        ("results", .arr ((strategy.listed finished).map Report.toJson))] := by
  unfold outcome
  dsimp only
  split <;> rfl

theorem field?_results (strategy : Strategy) (total : Nat) (finished : List Finish) :
    (strategy.outcome total finished).output.field? "results" =
      some (.arr ((strategy.listed finished).map Report.toJson)) := by
  rw [Strategy.outcome_output]
  exact Json.field?_ofFields (by simp) (by simp)

/-- The output of a parallel action lists what the strategy asks for. -/
theorem lists_parallel {spec : Spec} (type : spec.type = "parallel") {limit : Nat}
    {plan : Parallel.Plan} (accepted : Parallel.Plan.ofParams limit spec.params = .ok plan)
    {ran : List (Spec × Report)} {finished : List Finish}
    (nested : Nested ran (plan.strategy.listed finished))
    (actions : (ran.map (·.1)).Sublist plan.actions) :
    Lists spec (plan.strategy.outcome plan.actions.length finished).output ran := by
  refine .parallel type accepted ?_ actions
  rw [← nested.results]
  exact field?_results plan.strategy plan.actions.length finished

/-! ## Branches that were taken -/

def Finish.Placed (actions : List Spec) (finish : Finish) : Prop :=
  ∃ spec, actions[finish.index]? = some spec ∧ Envelope spec finish.report

def Taken (actions : List Spec) (places : List Nat) (sofar : Except Failure (List Finish)) :
    Prop :=
  ∀ finished, sofar = .ok finished →
    finished.map (·.index) = places ∧ places.Nodup ∧
      ∀ finish ∈ finished, finish.Placed actions

theorem Taken.take {plan : Parallel.Plan} {places : List Nat}
    {sofar : Except Failure (List Finish)} (taken : Taken plan.actions places sofar) {i : Nat}
    (fresh : i ∉ places) {ended : Except Failure Finish}
    (placed : ∀ finish, ended = .ok finish → finish.index = i ∧ finish.Placed plan.actions) :
    Taken plan.actions (places ++ [i]) (Parallel.take plan sofar i ended).1 := by
  intro finished same
  cases sofar with
  | error failure => cases same
  | ok before =>
      cases ended with
      | error failure => cases same
      | ok finish =>
          cases same
          obtain ⟨places, apart, all⟩ := taken before rfl
          obtain ⟨index, here⟩ := placed finish rfl
          refine ⟨?_, ?_, ?_⟩
          · rw [List.map_append, places, List.map_singleton, index]
          · refine List.nodup_append.mpr ⟨apart, List.pairwise_singleton _ i, ?_⟩
            rintro a mem b last rfl
            exact fresh (List.mem_singleton.mp last ▸ mem)
          · exact List.forall_mem_append.mpr ⟨all, List.forall_mem_singleton.mpr here⟩

/-- Branches in increasing places are those of some of the actions, in their order. -/
theorem nested_of_increasing {actions : List Spec} {finished : List Finish}
    (increasing : finished.Pairwise fun a b => a.index < b.index)
    (placed : ∀ finish ∈ finished, finish.Placed actions) (start : Nat)
    (after : ∀ finish ∈ finished, start ≤ finish.index) :
    ∃ ran, Nested ran (Finish.reports finished) ∧
      (ran.map (·.1)).Sublist (actions.drop start) := by
  induction finished generalizing start with
  | nil => exact ⟨[], ⟨rfl, nofun⟩, List.nil_sublist _⟩
  | cons finish rest ih =>
      rw [List.pairwise_cons] at increasing
      rw [List.forall_mem_cons] at placed after
      obtain ⟨spec, here, envelope⟩ := placed.1
      obtain ⟨ran, ⟨same, inside⟩, some⟩ :=
        ih increasing.2 placed.2 (finish.index + 1) increasing.1
      have inRange : finish.index < actions.length :=
        (List.getElem?_eq_some_iff.mp here).1
      have split : actions.drop finish.index = spec :: actions.drop (finish.index + 1) := by
        rw [List.drop_eq_getElem_cons inRange, (List.getElem?_eq_some_iff.mp here).2]
      refine ⟨(spec, finish.report) :: ran, ⟨congrArg (finish.report :: ·) same, ?_⟩, ?_⟩
      · exact List.forall_mem_cons.mpr ⟨envelope, inside⟩
      · refine List.Sublist.trans ?_ (List.drop_sublist_drop_left actions after.1)
        rw [split]
        exact some.cons_cons spec

/-- Branches of different places are in increasing places when they are in order. -/
theorem inPlace_increasing {finished : List Finish}
    (apart : (finished.map (·.index)).Nodup) :
    (Finish.inPlace finished).Pairwise fun a b => a.index < b.index := by
  have sorted : (Finish.inPlace finished).Pairwise fun a b => a.index ≤ b.index := by
    refine (List.pairwise_mergeSort ?_ ?_ finished).imp fun le => of_decide_eq_true le
    · intro a b c first second
      exact decide_eq_true (Nat.le_trans (of_decide_eq_true first) (of_decide_eq_true second))
    · intro a b
      rw [Bool.or_eq_true, decide_eq_true_eq, decide_eq_true_eq]
      exact Nat.le_total _ _
  have distinct : ((Finish.inPlace finished).map (·.index)).Nodup :=
    ((List.mergeSort_perm finished _).map _).nodup_iff.mpr apart
  have different := List.pairwise_map.mp distinct
  exact (sorted.and different).imp fun both => Nat.lt_of_le_of_ne both.1 both.2

/-- What is listed are the reports of some of the branches, in their order. -/
theorem listed_sublist (strategy : Strategy) (finished : List Finish) :
    ∃ chosen, chosen.Sublist finished ∧
      strategy.listed finished = Finish.reports chosen := by
  unfold Strategy.listed
  split
  · rename_i winner others found
    refine ⟨[winner], ?_, rfl⟩
    have succeeded : (Finish.succeeded finished).Sublist finished := List.filter_sublist
    rw [found] at succeeded
    exact (List.singleton_sublist.mpr List.mem_cons_self).trans succeeded
  · exact ⟨finished, List.Sublist.refl _, rfl⟩

section Nesting

variable {d : Dispatcher σ}
  (envelopes : ∀ spec context, (d.dispatch spec context).Ends (Enveloped spec))
include envelopes

theorem inOrder_ends (specs : List Spec) (context : Context) :
    (Branch.inOrder d specs context).Ends fun ended => ∀ reports, ended.1 = .ok reports →
      ∃ ran, Nested ran reports ∧ (ran.map (·.1)).IsPrefix specs := by
  induction specs generalizing context with
  | nil =>
      rintro reports ⟨⟩
      exact ⟨[], ⟨rfl, nofun⟩, List.nil_prefix⟩
  | cons spec rest ih =>
      refine (envelopes spec context).bind fun dispatched envelope => ?_
      cases result : dispatched.1 with
      | error failure => exact nofun
      | ok report =>
          have first := envelope report result
          dsimp only
          split
          · refine (ih dispatched.2).bind fun more nested reports same => ?_
            cases later : more.1 with
            | error failure =>
                rw [later] at same
                cases same
            | ok reportsLater =>
                rw [later] at same
                cases same
                obtain ⟨ran, ⟨same, inside⟩, prefixed⟩ := nested reportsLater later
                refine ⟨(spec, report) :: ran, ⟨congrArg (report :: ·) same, ?_⟩, ?_⟩
                · exact List.forall_mem_cons.mpr ⟨first, inside⟩
                · exact List.cons_prefix_cons.mpr ⟨rfl, prefixed⟩
          · rintro reports ⟨⟩
            refine ⟨[(spec, report)], ⟨rfl, List.forall_mem_singleton.mpr first⟩, ?_⟩
            exact List.cons_prefix_cons.mpr ⟨rfl, List.nil_prefix⟩

theorem branch_ends {spec : Spec} (type : spec.type = "condition") (context : Context) :
    (Branch.run d spec.params context).Ends fun handled => ∀ outcome, handled.1 = .ok outcome →
      ∃ ran, Lists spec outcome.output ran ∧ ∀ one ∈ ran, Envelope one.1 one.2 := by
  unfold Branch.run
  cases accepted : Branch.Plan.ofParams spec.params with
  | error failure => exact nofun
  | ok plan =>
      refine (inOrder_ends envelopes _ context).bind fun ended nested outcome same => ?_
      cases result : ended.1 with
      | error failure =>
          rw [result] at same
          cases same
      | ok reports =>
          rw [result] at same
          cases same
          obtain ⟨ran, reported, actions⟩ := nested reports result
          exact ⟨ran, lists_branch type accepted _ reported actions, reported.2⟩

theorem parallelBranch_ends (limit : Nat) (context : Context) (index : Nat) (spec : Spec) :
    (Parallel.branch d limit context index spec).Ends fun ended => ∀ finish,
      ended = .ok finish → finish.index = index ∧ Envelope spec finish.report := by
  refine Process.ends_bind_of_forall _ fun start => ?_
  refine ((envelopes spec context).timeout limit).bind fun result envelope => ?_
  refine Process.ends_bind_of_forall _ fun stop finish same => ?_
  cases result with
  | none =>
      cases same
      exact ⟨rfl, Report.envelope_failed spec _ _⟩
  | some dispatched =>
      obtain ⟨outcome, after⟩ := dispatched
      cases outcome with
      | error failure => cases same
      | ok report =>
          cases same
          exact ⟨rfl, envelope _ rfl report rfl⟩

/-- The branches that are taken have different places, and each its report. -/
theorem gather_ends (plan : Parallel.Plan) (context : Context) :
    (Process.gather (Parallel.take plan) (.ok [])
        (plan.actions.mapIdx (Parallel.branch d plan.timeout context))).Ends fun ended =>
      ∃ places, Taken plan.actions places ended := by
  have none : Taken plan.actions [] (.ok []) := by
    rintro finished ⟨⟩
    exact ⟨rfl, List.nodup_nil, nofun⟩
  refine Process.Ends.gather (fun _ _ _ _ taken fresh placed => taken.take fresh placed) none ?_
  intro i p there
  obtain ⟨spec, here, rfl⟩ : ∃ spec, plan.actions[i]? = some spec ∧
      Parallel.branch d plan.timeout context i spec = p := by
    rw [List.getElem?_mapIdx] at there
    exact Option.map_eq_some_iff.mp there
  refine (parallelBranch_ends envelopes plan.timeout context i spec).mono fun ended ends => ?_
  intro finish same
  obtain ⟨index, envelope⟩ := ends finish same
  exact ⟨index, spec, by rw [index, here], envelope⟩

theorem parallel_ends {spec : Spec} (type : spec.type = "parallel") (limit : Nat)
    (context : Context) :
    (Parallel.run limit d spec.params context).Ends fun handled => ∀ outcome,
      handled.1 = .ok outcome →
        ∃ ran, Lists spec outcome.output ran ∧ ∀ one ∈ ran, Envelope one.1 one.2 := by
  unfold Parallel.run
  cases accepted : Parallel.Plan.ofParams limit spec.params with
  | error failure => exact nofun
  | ok plan =>
      refine (gather_ends envelopes plan context).bind fun ended taken outcome same => ?_
      cases ended with
      | error failure => cases same
      | ok finished =>
          cases same
          obtain ⟨places, taken⟩ := taken
          obtain ⟨rfl, apart, placed⟩ := taken finished rfl
          obtain ⟨chosen, some, listed⟩ :=
            listed_sublist plan.strategy (Finish.inPlace finished)
          have increasing := (inPlace_increasing apart).sublist some
          have placedChosen : ∀ finish ∈ chosen, finish.Placed plan.actions := fun finish mem =>
            placed finish ((List.mergeSort_perm finished _).mem_iff.mp (some.mem mem))
          obtain ⟨ran, nested, actions⟩ :=
            nested_of_increasing increasing placedChosen 0 fun _ _ => Nat.zero_le _
          rw [← listed] at nested
          exact ⟨ran, lists_parallel type accepted nested actions, nested.2⟩

end Nesting

/-! ## Dispatches -/

/--
Handlers are built-in, made from any settings and collaborators, or for
rehearsals, and each is found under its own type.
-/
def Registry.Stocked (r : Registry σ) : Prop :=
  ∀ type handler, r.get? type = some handler →
    handler.type = type ∧
      ((∃ settings collaborators, ∃ builtin : Builtin,
          handler = builtin.handler settings collaborators) ∨
        handler ∈ Rehearsal.handlers)

namespace Registry

theorem stocked_empty : (empty : Registry σ).Stocked :=
  nofun

theorem type_mem_of_rehearsal {handler : Handler σ} (mem : handler ∈ Rehearsal.handlers) :
    handler.type ∈ ["echo", "fail", "auth_fail", "panic", "panic_text", "panic_other", "depth",
      "sleep"] := by
  have types : (Rehearsal.handlers : List (Handler σ)).map (·.type) =
      ["echo", "fail", "auth_fail", "panic", "panic_text", "panic_other", "depth", "sleep"] :=
    rfl
  exact types ▸ List.mem_map_of_mem mem

theorem type_of_rehearsal {handler : Handler σ} (mem : handler ∈ Rehearsal.handlers) :
    handler.type ≠ "condition" ∧ handler.type ≠ "parallel" := by
  have others : ∀ type ∈ ["echo", "fail", "auth_fail", "panic", "panic_text", "panic_other",
      "depth", "sleep"], type ≠ "condition" ∧ type ≠ "parallel" := by
    decide
  exact others handler.type (type_mem_of_rehearsal mem)

/-- What a handler of a stocked registry answers lists envelopes, if it lists any reports. -/
theorem Stocked.handler_ends {r : Registry σ} (stocked : r.Stocked) {spec : Spec}
    {handler : Handler σ} (found : r.get? spec.type = some handler) {d : Dispatcher σ}
    (envelopes : ∀ spec context, (d.dispatch spec context).Ends (Enveloped spec))
    (context : Context) :
    (handler.run d spec.params context).Ends fun handled => ∀ outcome,
      handled.1 = .ok outcome →
        (spec.type ≠ "condition" ∧ spec.type ≠ "parallel") ∨
          ∃ ran, Lists spec outcome.output ran ∧ ∀ one ∈ ran, Envelope one.1 one.2 := by
  have plain : spec.type ≠ "condition" ∧ spec.type ≠ "parallel" →
      (handler.run d spec.params context).Ends fun handled => ∀ outcome,
        handled.1 = .ok outcome →
          (spec.type ≠ "condition" ∧ spec.type ≠ "parallel") ∨
            ∃ ran, Lists spec outcome.output ran ∧ ∀ one ∈ ran, Envelope one.1 one.2 :=
    fun others => (Process.ends_true _).mono fun _ _ _ _ => .inl others
  obtain ⟨type, ⟨settings, collaborators, builtin, rfl⟩ | mem⟩ := stocked spec.type handler found
  · have named : builtin.name = spec.type :=
      (builtin.handler_type settings collaborators).symm.trans type
    cases builtin with
    | condition =>
        exact (branch_ends envelopes type.symm context).mono fun _ ends outcome same =>
          .inr (ends outcome same)
    | parallel =>
        exact (parallel_ends envelopes type.symm _ context).mono fun _ ends outcome same =>
          .inr (ends outcome same)
    | _ => exact plain (named ▸ ⟨by decide, by decide⟩)
  · exact plain (type ▸ type_of_rehearsal mem)

theorem Stocked.dispatchWithin_envelope {r : Registry σ} (stocked : r.Stocked) (left : Nat)
    (spec : Spec) (context : Context) :
    (r.dispatchWithin left spec context).Ends (Enveloped spec) := by
  induction left generalizing spec context with
  | zero =>
      rintro report ⟨⟩
      exact Report.envelope_failed spec _ 0
  | succ left ih =>
      unfold dispatchWithin
      cases found : r.get? spec.type with
      | none =>
          rintro report ⟨⟩
          exact Report.envelope_failed spec _ 0
      | some handler =>
          refine Process.ends_bind_of_forall _ fun start => ?_
          refine (stocked.handler_ends found ih context).bind fun handled outputs => ?_
          refine Process.ends_bind_of_forall _ fun stop => ?_
          exact Report.enveloped_ofHandled outputs (stop - start)

theorem stocked_registerAll {r : Registry σ} (stocked : r.Stocked) {handlers : List (Handler σ)}
    (known : ∀ handler ∈ handlers, (∃ settings collaborators, ∃ builtin : Builtin,
        handler = builtin.handler settings collaborators) ∨
      handler ∈ Rehearsal.handlers) : (r.registerAll handlers).Stocked :=
  Each.registerAll stocked known

/-- What a dispatch ends with: an expired credential, or an envelope of its action. -/
def Settles (spec : Spec) (dispatched : Dispatched) : Prop :=
  match dispatched.1 with
  | .error failure => ∃ text, failure = .credentialExpired text
  | .ok report => Envelope spec report

/--
Only an expired credential escapes a dispatch, and every other end of it is an
envelope: whatever the world does at each of its steps, and when it runs to
its end by itself.
-/
theorem only_credentials_escape {r : Registry σ} (stocked : r.Stocked) (spec : Spec)
    (context : Context) :
    (r.dispatch spec context).Ends (Settles spec) ∧
      ∀ world, Settles spec ((r.dispatch spec context).complete world).2 := by
  have ends : (r.dispatch spec context).Ends (Settles spec) := by
    refine ((r.dispatch_ends spec context).and
      (stocked.dispatchWithin_envelope _ spec context)).mono ?_
    rintro dispatched ⟨credential, envelope⟩
    unfold Settles
    cases result : dispatched.1 with
    | error failure => exact Failure.isCredential_iff.mp (credential failure result)
    | ok report => exact envelope report result
  exact ⟨ends, fun world => ends.complete world⟩

def rehearsed : Registry Unit :=
  (empty.registerAll (Builtin.all.map
    (Builtin.handler default ⟨none, none, fun text _ => .ok text⟩))).registerAll
      Rehearsal.handlers

theorem stocked_rehearsed : rehearsed.Stocked := by
  refine stocked_registerAll (stocked_registerAll stocked_empty ?_) fun _ mem => .inr mem
  intro handler mem
  obtain ⟨builtin, _, rfl⟩ := List.mem_map.mp mem
  exact .inl ⟨_, _, builtin, rfl⟩

def nestedBranches : Spec :=
  let branching (id : String) (actions : List Spec) : Spec :=
    ⟨"condition", some id,
      .ofFields [("if", .emptyObject), ("then", .arr (actions.map Spec.toJson))]⟩
  branching "outer" [branching "inner" [⟨"echo", none, .emptyObject⟩],
    ⟨"fail", some "last", .emptyObject⟩]

theorem only_credentials_escape_of_nestedBranches :
    rehearsed.Stocked ∧
      (((rehearsed.dispatch nestedBranches default).complete
        ⟨0, 0, .empty 0, ()⟩).2.1.toOption.bind Report.output).isSome ∧
      (rehearsed.dispatch nestedBranches default).Ends (Settles nestedBranches) ∧
        ∀ world,
          Settles nestedBranches ((rehearsed.dispatch nestedBranches default).complete world).2 :=
  ⟨stocked_rehearsed, by decide +kernel, only_credentials_escape stocked_rehearsed _ _⟩

end Registry

end ActionGraph.Action
