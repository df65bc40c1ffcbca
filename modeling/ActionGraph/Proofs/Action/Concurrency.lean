import ActionGraph.Proofs.Action.Collaboration
import ActionGraph.Proofs.Action.Envelope
import ActionGraph.Proofs.Action.Gathering
import ActionGraph.Rehearsal.Stage
import Mathlib.Data.List.Perm.Basic

/-!
# Branches in any order

A parallel action that waits for all its branches comes to the same in
whatever order they end, if each branch keeps to a share of its own: every
branch ends as it does alone, and the reports and writes of the branches are
put in the order of their places.
-/

namespace ActionGraph.Action

variable {σ V : Type}

namespace Parallel

/-! ## Branches alone -/

/-- What a branch hands over whose action is dispatched alone, on a copy of the context. -/
def alone (d : Dispatcher σ) (plan : Plan) (context : Context) (w : World σ) (index : Nat)
    (spec : Spec) : Except Failure Finish :=
  let ended := Task.complete w ((d.dispatch spec context).timeout plan.timeout)
  finish spec plan.timeout index (ended.1.now - w.now) context.bag ended.2

def strands (d : Dispatcher σ) (plan : Plan) (context : Context) (w : World σ) :
    Task.Strands σ (Except Failure Finish) :=
  fun i => (plan.actions.mapIdx (branch d plan.timeout context))[i]?.map fun p => ⟨w.now, p⟩

theorem branch_complete (d : Dispatcher σ) (plan : Plan) (context : Context) (w : World σ)
    (index : Nat) (spec : Spec) :
    (Task.complete w (branch d plan.timeout context index spec)).2 =
      alone d plan context w index spec := by
  unfold branch alone
  rw [Task.complete_bind, Task.complete_bind, Task.complete_bind]
  rfl

theorem index_of_finish {spec : Spec} {limit index duration : Nat} {base : Bag}
    {dispatched : Option Dispatched} {one : Finish}
    (handed : finish spec limit index duration base dispatched = .ok one) : one.index = index := by
  rcases dispatched with _ | ⟨_ | report, after⟩
  · cases handed
    rfl
  · cases handed
  · cases handed
    rfl

/-- If no credential expired the branch hands over its finish. -/
theorem exists_alone {d : Dispatcher σ} {plan : Plan} {context : Context} {w : World σ}
    {spec : Spec}
    (valid : ∀ failure after, (Task.complete w
      ((d.dispatch spec context).timeout plan.timeout)).2 ≠ some (.error failure, after))
    (index : Nat) : ∃ finish, alone d plan context w index spec = .ok finish := by
  unfold alone
  dsimp only
  generalize (Task.complete w ((d.dispatch spec context).timeout plan.timeout)).2 = ended
    at valid ⊢
  rcases ended with _ | ⟨_ | report, after⟩
  · exact ⟨_, rfl⟩
  · exact absurd rfl (valid _ _)
  · exact ⟨_, rfl⟩

/-- Branches alone are in the order of their places. -/
theorem increasing_of_alone {d : Dispatcher σ} {plan : Plan} {context : Context} {w : World σ}
    {finishes : List Finish}
    (handed : finishes.map .ok = plan.actions.mapIdx (alone d plan context w)) :
    finishes.Pairwise fun a b => a.index < b.index := by
  have places : ∀ (i : Nat) (inRange : i < finishes.length), finishes[i].index = i := by
    intro i inRange
    have here := congrArg (·[i]?) handed
    simp only [List.getElem?_map, List.getElem?_mapIdx, List.getElem?_eq_getElem inRange] at here
    obtain ⟨spec, _, same⟩ := Option.map_eq_some_iff.mp here.symm
    exact index_of_finish same
  rw [List.pairwise_iff_getElem]
  intro i j first second below
  rwa [places, places]

section Courses

variable {shares : Shares σ V} {d : Dispatcher σ} {plan : Plan} {context : Context} {w : World σ}

theorem strands_isSome (i : Nat) :
    (strands d plan context w i).isSome ↔ i < plan.actions.length := by
  simp [strands]

theorem strands_abreast
    (apart : ∀ i spec, plan.actions[i]? = some spec →
      Task.KeepsTo shares i (d.dispatch spec context)) :
    Task.Abreast shares
      (fun i => alone d plan context w i (plan.actions[i]?.getD default)) w
      (strands d plan context w) := by
  intro i strand there
  rw [strands, List.getElem?_mapIdx, Option.map_map] at there
  obtain ⟨spec, here, rfl⟩ := Option.map_eq_some_iff.mp there
  dsimp only
  rw [here, Option.getD_some, ← branch_complete]
  exact .start (composable_keepsTo.parallelBranch d d (apart i spec here) plan.timeout i) w

/-- In every course each branch hands over once what it hands over alone. -/
theorem course_perm
    (apart : ∀ i spec, plan.actions[i]? = some spec →
      Task.KeepsTo shares i (d.dispatch spec context))
    {ends : List (Nat × Except Failure Finish)}
    (course : Task.Course w (strands d plan context w) ends) :
    (ends.map (·.2)).Perm (plan.actions.mapIdx (alone d plan context w)) := by
  obtain ⟨distinct, places⟩ := course.places
  have fates := course.fated (strands_abreast apart)
  have told : ends.map (·.2) = (ends.map (·.1)).map fun i =>
      alone d plan context w i (plan.actions[i]?.getD default) := by
    rw [List.map_map]
    exact List.map_congr_left fates
  have all : (ends.map (·.1)).Perm (List.range plan.actions.length) := by
    refine (List.perm_ext_iff_of_nodup distinct List.nodup_range).mpr fun i => ?_
    rw [places, strands_isSome, List.mem_range]
  have listed : ((List.range plan.actions.length).map fun i =>
      alone d plan context w i (plan.actions[i]?.getD default)) =
        plan.actions.mapIdx (alone d plan context w) := by
    refine List.ext_getElem (by simp) fun i _ inRange => ?_
    rw [List.length_mapIdx] at inRange
    rw [List.getElem_map, List.getElem_mapIdx, List.getElem_range,
      List.getElem?_eq_getElem inRange]
    rfl
  rw [told, ← listed]
  exact all.map _

/-- The run of a parallel action is one of the courses of its branches. -/
theorem exists_course_of_run {limit : Nat} {params : Json}
    (accepted : Plan.ofParams limit params = .ok plan)
    (apart : ∀ i spec, plan.actions[i]? = some spec →
      Task.KeepsTo shares i (d.dispatch spec context)) :
    ∃ ends, Task.Course w (strands d plan context w) ends ∧
      (Task.complete w (run limit d params context)).2 =
        conclude plan context (Process.takeAll (take plan) (.ok []) ends) := by
  obtain ⟨ends, course, taken⟩ := Task.Timed.course (take plan)
    (strands_abreast apart) (.start w.now _) (.ok [])
  refine ⟨ends, course, ?_⟩
  unfold run
  rw [accepted, ← taken]
  exact congrArg (·.2) (Task.complete_bind _ _ w)

end Courses

/-! ## All branches together -/

/-- Branches that all handed over something. -/
theorem exists_handed {handed : List (Except Failure Finish)}
    (valid : ∀ one ∈ handed, ∃ finish, one = .ok finish) :
    ∃ finishes : List Finish, finishes.map .ok = handed := by
  induction handed with
  | nil => exact ⟨[], rfl⟩
  | cons one rest ih =>
      rw [List.forall_mem_cons] at valid
      obtain ⟨finish, rfl⟩ := valid.1
      obtain ⟨finishes, rfl⟩ := ih valid.2
      exact ⟨finish :: finishes, rfl⟩

/-- When everything is awaited all that is handed over is taken. -/
theorem takeAll_eq {plan : Plan}
    (awaited : ∀ success, plan.strategy.stops plan.continueOnError success = false)
    {ends : List (Nat × Except Failure Finish)} {before finished : List Finish}
    (handed : ends.map (·.2) = finished.map .ok) :
    Process.takeAll (take plan) (.ok before) ends = .ok (before ++ finished) := by
  induction ends generalizing before finished with
  | nil =>
      obtain rfl : finished = [] := List.map_eq_nil_iff.mp handed.symm
      exact congrArg Except.ok (List.append_nil before).symm
  | cons one rest ih =>
      cases finished with
      | nil => cases handed
      | cons finish others =>
          obtain ⟨i, result⟩ := one
          obtain ⟨rfl, later⟩ := List.cons.inj handed
          rw [Process.takeAll, take, awaited, if_neg Bool.false_ne_true, ih later,
            List.append_assoc]
          rfl

/-- Branches in whatever order have one order by their places. -/
theorem inPlace_of_perm {finished finishes : List Finish} (perm : finished.Perm finishes)
    (increasing : finishes.Pairwise fun a b => a.index < b.index) :
    Finish.inPlace finished = finishes := by
  have apart : (finishes.map (·.index)).Nodup :=
    List.pairwise_map.mpr (increasing.imp Nat.ne_of_lt)
  have sorted := inPlace_increasing ((perm.map _).nodup_iff.mpr apart)
  refine List.Perm.eq_of_pairwise (fun a b _ _ below above => ?_) sorted increasing
    ((List.mergeSort_perm finished _).trans perm)
  omega

theorem listed_eq_reports {plan : Plan}
    (all : plan.strategy = .settle ∨ plan.strategy = .all ∧ plan.continueOnError = true)
    (finishes : List Finish) : plan.strategy.listed finishes = Finish.reports finishes := by
  rcases all with settle | ⟨all, _⟩
  · rw [settle]
    rfl
  · rw [all]
    rfl

theorem stops_eq_false {plan : Plan}
    (all : plan.strategy = .settle ∨ plan.strategy = .all ∧ plan.continueOnError = true)
    (success : Bool) : plan.strategy.stops plan.continueOnError success = false := by
  rcases all with settle | ⟨all, goOn⟩
  · rw [settle]
    rfl
  · rw [all, goOn]
    exact Bool.and_false _

/-- What branches come to together that handed over something each. -/
def together (plan : Plan) (context : Context) (finishes : List Finish) : Handled :=
  (.ok (plan.strategy.outcome plan.actions.length finishes),
    { context with bag := Finish.merge finishes context.bag })

/--
A parallel action comes to what its branches hand over alone, put together in
their order, whatever the order in which they end.
-/
structure Determined (limit : Nat) (d : Dispatcher σ) (params : Json) (plan : Plan)
    (context : Context) (w : World σ) (finishes : List Finish) : Prop where
  /-- Each branch hands over what it does when its action is dispatched alone. -/
  handed : finishes.map .ok = plan.actions.mapIdx (alone d plan context w)
  /-- The reports are listed in the order of the branches. -/
  listed : (plan.strategy.outcome plan.actions.length finishes).output.field? "results" =
    some (.arr (finishes.map fun finish => finish.report.toJson))
  /-- In every course of the branches the outcome and the context are the same. -/
  courses : ∀ ends, Task.Course w (strands d plan context w) ends →
    conclude plan context (Process.takeAll (take plan) (.ok []) ends) =
      together plan context finishes
  /-- The run of the action is one of the courses. -/
  run : ∃ ends, Task.Course w (strands d plan context w) ends ∧
    (Task.complete w (run limit d params context)).2 =
      conclude plan context (Process.takeAll (take plan) (.ok []) ends)
  /-- The branches end in any order in one of the courses. -/
  orders : ∀ order : List Nat, order.Perm (List.range plan.actions.length) →
    ∃ ends, Task.Course w (strands d plan context w) ends ∧ ends.map (·.1) = order

/--
A parallel action that waits for all its branches does not depend on the order
in which they end, if each branch keeps to a share of its own and no credential
expires.
-/
theorem independent_of_order {shares : Shares σ V} {limit : Nat} {d : Dispatcher σ}
    {params : Json} {context : Context} {plan : Plan} {w : World σ}
    (accepted : Plan.ofParams limit params = .ok plan)
    (all : plan.strategy = .settle ∨ plan.strategy = .all ∧ plan.continueOnError = true)
    (apart : ∀ i spec, plan.actions[i]? = some spec →
      Task.KeepsTo shares i (d.dispatch spec context))
    (valid : ∀ spec ∈ plan.actions, ∀ failure after, (Task.complete w
      ((d.dispatch spec context).timeout plan.timeout)).2 ≠ some (.error failure, after)) :
    ∃ finishes, Determined limit d params plan context w finishes := by
  obtain ⟨finishes, handed⟩ : ∃ finishes : List Finish,
      finishes.map .ok = plan.actions.mapIdx (alone d plan context w) := by
    refine exists_handed fun one mem => ?_
    obtain ⟨i, inRange, rfl⟩ := List.mem_mapIdx.mp mem
    exact exists_alone (valid _ (List.getElem_mem inRange)) i
  refine ⟨finishes, handed, ?_, fun ends course => ?_, exists_course_of_run accepted apart, ?_⟩
  · rw [field?_results, listed_eq_reports all, Finish.reports, List.map_map]
    rfl
  · have perm := course_perm apart course
    rw [← handed] at perm
    obtain ⟨finished, told⟩ := exists_handed fun one mem => by
      obtain ⟨finish, _, same⟩ := List.mem_map.mp (perm.mem_iff.mp mem)
      exact ⟨finish, same.symm⟩
    rw [← told, List.map_perm_map_iff fun _ _ => Except.ok.inj] at perm
    rw [takeAll_eq (stops_eq_false all) told.symm, conclude, List.nil_append,
      inPlace_of_perm perm (increasing_of_alone handed)]
    rfl
  · intro order perm
    refine Task.Course.exists_of_order (perm.nodup_iff.mpr List.nodup_range) w _ fun i => ?_
    rw [perm.mem_iff, List.mem_range, strands_isSome]

/-! ## Actions that answer -/

/-- A dispatch did not fail. -/
def Reports (dispatched : Dispatched) : Prop :=
  ∃ report, dispatched.1 = .ok report

/-- A dispatch reports if the handler has an outcome, be it a success or not. -/
theorem reports_of_answers {r : Registry σ} {spec : Spec} {handler : Handler σ}
    (found : r.get? spec.type = some handler) {left : Nat} {context : Context}
    (answers : (handler.run ⟨r.maxDepth - left, r.dispatchWithin left⟩ spec.params context).Ends
      fun handled => ∃ outcome, handled.1 = .ok outcome) :
    (r.dispatchWithin (left + 1) spec context).Ends Reports := by
  unfold Registry.dispatchWithin
  rw [found]
  refine Process.ends_bind_of_forall _ fun start => ?_
  refine Process.Ends.bind answers fun handled answered => ?_
  obtain ⟨outcome, ok⟩ := answered
  refine Process.ends_bind_of_forall _ fun stop => ?_
  exact ⟨_, by rw [ok]; rfl⟩

/-- If the dispatches of all branches report, the parallel action has an outcome. -/
theorem run_answers {limit : Nat} {d : Dispatcher σ} {params : Json} {context : Context}
    {plan : Plan} (accepted : Plan.ofParams limit params = .ok plan)
    (report : ∀ spec ∈ plan.actions, (d.dispatch spec context).Ends Reports) :
    (run limit d params context).Ends fun handled => ∃ outcome, handled.1 = .ok outcome := by
  unfold run
  rw [accepted]
  refine Process.Ends.bind (P := fun sofar => ∃ finished, sofar = .ok finished) ?_ ?_
  · refine (Process.Ends.gather (P := fun _ one => ∃ finish, one = .ok finish)
      (I := fun _ sofar => ∃ finished, sofar = .ok finished) ?_ ⟨[], rfl⟩ ?_).mono
        fun _ ⟨_, ends⟩ => ends
    · rintro taken sofar i a ⟨finished, rfl⟩ fresh ⟨finish, rfl⟩
      exact ⟨_, rfl⟩
    · intro i p there
      rw [List.getElem?_mapIdx] at there
      obtain ⟨spec, here, rfl⟩ := Option.map_eq_some_iff.mp there
      refine Process.ends_bind_of_forall _ fun start => ?_
      refine ((report spec (List.mem_of_getElem? here)).timeout _).bind fun dispatched ends => ?_
      refine Process.ends_bind_of_forall _ fun stop => ?_
      rcases dispatched with _ | ⟨result, after⟩
      · exact ⟨_, rfl⟩
      · obtain ⟨report, rfl⟩ := ends _ rfl
        exact ⟨_, rfl⟩
  · rintro _ ⟨finished, rfl⟩
    exact ⟨_, rfl⟩

/-! ## Branches of which two ask collaborators -/

/-- What the model of a rehearsal works with, what its source of embeddings does, or nothing. -/
inductive StageShare where
  | model (replies : List String) (requests : List Completion.Request)
  | embedder (cache : Embedding.Cache) (calls : List Rehearsal.EmbedCall)
  | nothing

def stageShares : Shares Rehearsal.Stage StageShare
  | 0, _, stage => .model stage.replies stage.requests
  | 1, cache, stage => .embedder cache stage.calls
  | _, _, _ => .nothing

section Stage

variable {j : Nat} {s s' : Rehearsal.Stage}

theorem share_of_calls (other : j ≠ 0) (calls : s.calls = s'.calls) (c : Embedding.Cache) :
    stageShares j c s = stageShares j c s' := by
  rcases j with _ | _ | j
  · exact absurd rfl other
  · exact congrArg (StageShare.embedder c) calls
  · rfl

theorem share_of_replies (other : j ≠ 1) (replies : s.replies = s'.replies)
    (requests : s.requests = s'.requests) (c d : Embedding.Cache) :
    stageShares j c s = stageShares j d s' := by
  rcases j with _ | _ | j
  · change StageShare.model s.replies s.requests = .model s'.replies s'.requests
    rw [replies, requests]
  · exact absurd rfl other
  · rfl

theorem model_keepsTo (mode : Rehearsal.ModelMode) (request : Completion.Request) :
    Task.KeepsTo stageShares 0 (Rehearsal.model mode request) := by
  have asked : Task.KeepsTo stageShares 0 (Task.outside fun stage : Rehearsal.Stage =>
      ((), { stage with requests := request :: stage.requests })) := by
    refine Task.keepsTo_outside (fun c s c' s' same => ⟨rfl, ?_⟩)
      fun j other c s => share_of_calls other (by rfl) c
    obtain ⟨replies, requests⟩ := StageShare.model.inj same
    change StageShare.model s.replies (request :: s.requests) = .model s'.replies _
    rw [replies, requests]
  have reply : Task.KeepsTo stageShares 0 (Task.outside (Rehearsal.nextReply request)) := by
    refine Task.keepsTo_outside (fun c s c' s' same => ?_)
      fun j other c s => share_of_calls other (by rfl) c
    obtain ⟨replies, requests⟩ := StageShare.model.inj same
    unfold Rehearsal.nextReply
    rw [replies]
    exact ⟨rfl, congrArg (StageShare.model _) requests⟩
  refine asked.bind fun _ => ?_
  cases mode with
  | plain => exact reply.bind fun _ => Task.keepsTo_done _
  | expired => exact Task.keepsTo_done _
  | broken => exact Task.keepsTo_done _
  | slow => exact (Task.keepsTo_sleep 500).bind fun _ => reply.bind fun _ => Task.keepsTo_done _

theorem embedder_keepsTo (mode : Rehearsal.EmbedderMode) (prepared : Dict Embedding.Vector)
    (texts : List String) (model : String) (dimensions : Option Nat) :
    Task.KeepsTo stageShares 1 (Rehearsal.embedder mode prepared texts model dimensions) := by
  refine Task.KeepsTo.bind (Task.keepsTo_outside (fun c s c' s' same => ⟨rfl, ?_⟩)
    fun j other c s => share_of_replies other (by rfl) (by rfl) c c) fun _ => ?_
  · obtain ⟨rfl, calls⟩ := StageShare.embedder.inj same
    exact congrArg (StageShare.embedder c) (congrArg (_ :: ·) calls)
  · cases mode <;> exact Task.keepsTo_done _

theorem ownsCache_stage : Task.OwnsCache stageShares 1 where
  told _ _ _ _ same := (StageShare.embedder.inj same).1
  kept _ _ _ same d := congrArg (StageShare.embedder d) (StageShare.embedder.inj same).2
  others _ other c d _ := share_of_replies other rfl rfl c d

end Stage

def stageCollaborators : Collaborators Rehearsal.Stage :=
  ⟨some (Rehearsal.model .slow), some (Rehearsal.embedder .plain .empty), fun text _ => .ok text⟩

def staged : Registry Rehearsal.Stage :=
  (Registry.builtins default stageCollaborators).registerAll Rehearsal.handlers

def sleepFor (milliseconds : Nat) : Spec :=
  ⟨"sleep", none, .ofFields [("ms", .ofNat milliseconds)]⟩

def waits : List Spec :=
  [sleepFor 20, sleepFor 10]

def waitsParams : Json :=
  .ofFields [("actions", .arr (waits.map Spec.toJson))]

/-- A reply of the model, a choice of a route, parallel waits, and a wait that takes too long. -/
def mixedBranches : List Spec :=
  [⟨"llm_generate", none, .ofFields
      [("prompt", .str "Hi"), ("model", .str "m"), ("outputKey", .str "text")]⟩,
    ⟨"semantic_route", none, .ofFields
      [("query", .str "Hi"), ("outputKey", .str "route"),
        ("routes", .arr [.ofFields
          [("name", .str "greeting"), ("examples", .ofStrings ["Hello"])]])]⟩,
    ⟨"parallel", none, waitsParams⟩,
    sleepFor 900]

def mixedParams : Json :=
  .ofFields [("actions", .arr (mixedBranches.map Spec.toJson)), ("strategy", .str "settle"),
    ("timeout", .ofNat 800)]

def mixedPlan : Plan :=
  ⟨mixedBranches, .settle, 800, false⟩

theorem staged_made : staged.Each (Handler.MadeWith default stageCollaborators) := by
  refine .registerAll (.registerAll ?_ fun handler mem => ?_) fun _ mem => .inr mem
  · intro type handler found
    cases found
  · obtain ⟨builtin, _, rfl⟩ := List.mem_map.mp mem
    exact .inl ⟨builtin, rfl⟩

def stageDispatcher : Dispatcher Rehearsal.Stage :=
  ⟨1, staged.dispatchWithin 3⟩

def stageWorld : World Rehearsal.Stage :=
  ⟨0, 0, .empty 1000, default⟩

theorem mixedParams_accepted : Plan.ofParams 30000 mixedParams = .ok mixedPlan := by
  decide +kernel

theorem waitsParams_accepted :
    Plan.ofParams 30000 waitsParams = .ok ⟨waits, .all, 30000, false⟩ := by
  decide +kernel

theorem waits_within (types : String → Prop) (here : types "parallel") (sleep : types "sleep") :
    (⟨"parallel", none, waitsParams⟩ : Spec).Within types := by
  refine .intro here fun child asks => ?_
  cases asks with
  | branch type accepted mem => exact absurd type (by decide)
  | @parallel limit plan type accepted mem =>
      have actions : plan.actions = waits := by
        have read := actions_of_ofParams accepted
        have known := actions_of_ofParams waitsParams_accepted
        exact Except.ok.inj (read.symm.trans known)
      rw [actions] at mem
      have same : child.type = "sleep" := by
        simp only [waits, List.mem_cons, List.not_mem_nil, or_false] at mem
        rcases mem with rfl | rfl <;> rfl
      exact .of_plain (same ▸ sleep) (by rw [same]; decide)

theorem mixedPlan_apart (i : Nat) (spec : Spec) (there : mixedPlan.actions[i]? = some spec) :
    Task.KeepsTo stageShares i (stageDispatcher.dispatch spec default) := by
  refine Registry.keepsTo_dispatchWithin staged_made ?_ 3 default
  match i with
  | 0 =>
      obtain rfl := Option.some.inj there
      refine .of_plain ⟨fun _ model known request => ?_, fun route => ?_⟩ (by decide)
      · obtain rfl := Option.some.inj known
        exact model_keepsTo .slow request
      · exact absurd route (by decide)
  | 1 =>
      obtain rfl := Option.some.inj there
      refine .of_plain ⟨fun llm => absurd llm (by decide), fun _ embedder known => ?_⟩
        (by decide)
      obtain rfl := Option.some.inj known
      exact ⟨ownsCache_stage, embedder_keepsTo .plain .empty⟩
  | 2 =>
      obtain rfl := Option.some.inj there
      exact waits_within _ (stageCollaborators.keepTo_of_plain (by decide))
        (stageCollaborators.keepTo_of_plain (by decide))
  | 3 =>
      obtain rfl := Option.some.inj there
      exact .of_plain (stageCollaborators.keepTo_of_plain (by decide)) (by decide)
  | _ + 4 => cases there

theorem staged_sleep : staged.get? "sleep" = some Rehearsal.sleep := rfl

theorem staged_parallel : staged.get? "parallel" = some (handler 30000) := rfl

theorem sleep_reports (milliseconds : Nat) (context : Context) :
    (staged.dispatchWithin 2 (sleepFor milliseconds) context).Ends Reports := by
  refine reports_of_answers staged_sleep ?_
  -- how long it sleeps is left open, so that nothing is looked up in the parameters
  generalize (sleepFor milliseconds).params = params
  exact Process.ends_bind_of_forall _ fun _ => ⟨_, rfl⟩

theorem waits_report (context : Context) :
    (staged.dispatchWithin 3 ⟨"parallel", none, waitsParams⟩ context).Ends Reports := by
  refine reports_of_answers staged_parallel ?_
  refine run_answers waitsParams_accepted fun spec mem => ?_
  simp only [waits, List.mem_cons, List.not_mem_nil, or_false] at mem
  rcases mem with rfl | rfl
  · exact sleep_reports 20 context
  · exact sleep_reports 10 context

def failed (ended : Option Dispatched) : Bool :=
  ended.any fun dispatched => !dispatched.1.isOk

theorem mixedPlan_valid : ∀ spec ∈ mixedPlan.actions, ∀ failure after, (Task.complete stageWorld
    ((stageDispatcher.dispatch spec default).timeout 800)).2 ≠ some (.error failure, after) := by
  intro spec mem failure after fails
  have failed : failed (Task.complete stageWorld
      ((stageDispatcher.dispatch spec default).timeout 800)).2 = true := by
    rw [fails]
    rfl
  simp only [mixedPlan, mixedBranches, List.mem_cons, List.not_mem_nil, or_false] at mem
  rcases mem with rfl | rfl | rfl | rfl
  · revert failed
    decide +kernel
  · revert failed
    decide +kernel
  · -- a pool is no closed computation, so its branches are known by what they can end with
    obtain ⟨report, ok⟩ := ((waits_report default).timeout 800).complete stageWorld _ fails
    cases ok
  · revert failed
    decide +kernel

/-- Two branches ask a collaborator each, one has branches of its own, and one takes too long. -/
theorem independent_of_order_of_mixedBranches :
    Plan.ofParams 30000 mixedParams = .ok mixedPlan ∧ mixedPlan.strategy = .settle ∧
      (∀ i spec, mixedPlan.actions[i]? = some spec →
        Task.KeepsTo stageShares i (stageDispatcher.dispatch spec default)) ∧
      (∀ spec ∈ mixedPlan.actions, ∀ failure after, (Task.complete stageWorld
        ((stageDispatcher.dispatch spec default).timeout mixedPlan.timeout)).2 ≠
          some (.error failure, after)) ∧
      ∃ finishes, Determined 30000 stageDispatcher mixedParams mixedPlan default stageWorld
        finishes :=
  ⟨mixedParams_accepted, rfl, mixedPlan_apart, mixedPlan_valid,
    independent_of_order mixedParams_accepted (.inl rfl) mixedPlan_apart mixedPlan_valid⟩

end Parallel

end ActionGraph.Action
