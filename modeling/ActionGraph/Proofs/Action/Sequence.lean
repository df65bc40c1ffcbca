import ActionGraph.Proofs.Action.Envelope
import ActionGraph.Proofs.Action.Watching

/-!
# The actions of a branch in turn

What a branching action says to its dispatcher is overheard: every action that
it dispatches and every answer is noted in a journal, and nothing else changes.
The actions of the branch that the context selects are dispatched one at a
time, each on the context that the one before it left, up to the first that
does not succeed.
-/

namespace ActionGraph.Action

variable {σ S α β : Type}

namespace Task

/--
However it ends, what a task adds to the journal on its way and what it ends
with fit together, whatever the world is at each of its steps.
-/
def Tells : (List S → α → Prop) → Task (σ × List S) α → Prop
  | Fit, .done a => Fit [] a
  | Fit, .act change next => ∀ w, ∃ more, (change w).journal = w.journal ++ more ∧
      Tells (fun later a => Fit (more ++ later) a) (next w)
  | Fit, .wait _ next => Tells Fit next

namespace Tells

variable {task : Task (σ × List S) α} {Fit Fit' : List S → α → Prop}

theorem mono (tells : Tells Fit task) (weaker : ∀ said a, Fit said a → Fit' said a) :
    Tells Fit' task := by
  induction task generalizing Fit Fit' with
  | done a => exact weaker [] a tells
  | act change next ih =>
      intro w
      obtain ⟨more, added, later⟩ := tells w
      exact ⟨more, added, ih w later fun said a => weaker (more ++ said) a⟩
  | wait alarm next ih => exact ih tells weaker

theorem bind {f : α → Task (σ × List S) β} {Fit' : List S → β → Prop} (tells : Tells Fit task)
    (next : ∀ said a, Fit said a → Tells (fun later b => Fit' (said ++ later) b) (f a)) :
    Tells Fit' (task.bind f) := by
  induction task generalizing Fit Fit' with
  | done a => exact next [] a tells
  | act change rest ih =>
      intro w
      obtain ⟨more, added, later⟩ := tells w
      refine ⟨more, added, ih w later fun said a fits => ?_⟩
      exact (next (more ++ said) a fits).mono fun _ _ fits => List.append_assoc .. ▸ fits
  | wait alarm rest ih => exact ih tells next

theorem note (sighting : S) :
    Tells (fun said _ => said = [sighting]) (Task.note sighting : Task (σ × List S) Unit) :=
  fun _ => ⟨[sighting], rfl, rfl⟩

/-- A task beside a journal says nothing, and ends as it may alone. -/
theorem besides (task : Task σ α) :
    Tells (fun said a => said = [] ∧ task.MayEnd a) (task.besides : Task (σ × List S) α) := by
  induction task with
  | done a => exact ⟨rfl, rfl⟩
  | act change next ih =>
      refine fun w => ⟨[], (List.append_nil _).symm, (ih w.unwatched).mono ?_⟩
      rintro _ a ⟨rfl, may⟩
      exact ⟨rfl, w.unwatched, may⟩
  | wait alarm next ih => exact ih

end Tells

end Task

namespace Branch

/-! ## What is overheard -/

/-- What a handler and its dispatcher say to each other. -/
inductive Remark where
  | asked (spec : Spec) (context : Context)
  | answered (dispatched : Dispatched)

/-- An action that was dispatched on a context, and the answer. -/
structure Exchange where
  spec : Spec
  context : Context
  answer : Dispatched

namespace Exchange

def remarks (one : Exchange) : List Remark :=
  [.asked one.spec one.context, .answered one.answer]

def Succeeded (one : Exchange) : Prop :=
  ∃ report, one.answer.1 = .ok report ∧ report.success = true

def Of (d : Dispatcher σ) (one : Exchange) : Prop :=
  (d.dispatch one.spec one.context).MayEnd one.answer

/-- What the exchanges come to: all the reports, or the failure of the first without one. -/
def reports : List Exchange → Except Failure (List Report)
  | [] => .ok []
  | one :: rest => one.answer.1.bind fun report => (reports rest).map (report :: ·)

end Exchange

/-- The dispatcher, with everything noted that is said to it and that it says. -/
def overheard (d : Dispatcher σ) : Dispatcher (σ × List Remark) where
  level := d.level
  dispatch spec context :=
    (Task.note (.asked spec context)).bind fun _ =>
      (d.dispatch spec context).besides.bind fun dispatched =>
        (Task.note (.answered dispatched)).bind fun _ => .done dispatched

theorem shows_overheard (d : Dispatcher σ) (spec : Spec) (context : Context) :
    Task.Shows (fun _ => False) ((overheard d).dispatch spec context)
      (d.dispatch spec context) := by
  refine .note _ ?_
  have answered : ∀ dispatched : Dispatched, Task.Shows (σ := σ) (fun _ => False)
      ((Task.note (Remark.answered dispatched)).bind fun _ => .done dispatched)
      (.done dispatched) := fun dispatched => .note _ (.done dispatched)
  have shows := (Task.Shows.besides (d.dispatch spec context)).bind answered
  rwa [Process.bind_done] at shows

theorem tells_overheard (d : Dispatcher σ) (spec : Spec) (context : Context) :
    Task.Tells (fun said dispatched => said = Exchange.remarks ⟨spec, context, dispatched⟩ ∧
      Exchange.Of d ⟨spec, context, dispatched⟩) ((overheard d).dispatch spec context) := by
  refine (Task.Tells.note _).bind ?_
  rintro _ _ rfl
  refine (Task.Tells.besides _).bind ?_
  rintro _ dispatched ⟨rfl, may⟩
  refine (Task.Tells.note _).bind ?_
  rintro _ _ rfl
  exact ⟨rfl, may⟩

/-! ## One after another -/

/-- Actions are dispatched in turn, up to the first that does not succeed. -/
structure InTurn (d : Dispatcher σ) (actions : List Spec) (context : Context)
    (exchanges : List Exchange) (after : Context) : Prop where
  inOrder : exchanges.map (·.spec) <+: actions
  /-- Each is dispatched on the context that the one before it left. -/
  handedOn : exchanges.map (·.context) ++ [after] = context :: exchanges.map (·.answer.2)
  own : ∀ one ∈ exchanges, one.Of d
  goesOn : ∀ one ∈ exchanges.dropLast, one.Succeeded
  ended : exchanges.map (·.spec) = actions ∨ ∃ last ∈ exchanges.getLast?, ¬ last.Succeeded

namespace InTurn

variable {d : Dispatcher σ} {actions : List Spec} {context after : Context} {one : Exchange}
  {more : List Exchange}

theorem nil (d : Dispatcher σ) (context : Context) : InTurn d [] context [] context :=
  ⟨List.prefix_rfl, rfl, List.forall_mem_nil _, List.forall_mem_nil _, .inl rfl⟩

theorem stop (own : one.Of d) (fails : ¬ one.Succeeded) (rest : List Spec) :
    InTurn d (one.spec :: rest) one.context [one] one.answer.2 :=
  ⟨⟨rest, rfl⟩, rfl, List.forall_mem_singleton.mpr own, List.forall_mem_nil _,
    .inr ⟨one, rfl, fails⟩⟩

theorem goOn (own : one.Of d) (succeeds : one.Succeeded)
    (later : InTurn d actions one.answer.2 more after) :
    InTurn d (one.spec :: actions) one.context (one :: more) after := by
  obtain ⟨inOrder, handedOn, owns, goesOn, ended⟩ := later
  refine ⟨(List.prefix_cons_inj one.spec).mpr inOrder, congrArg (one.context :: ·) handedOn,
    List.forall_mem_cons.mpr ⟨own, owns⟩, ?_, ended.imp (congrArg (one.spec :: ·)) ?_⟩
  · cases more with
    | nil => exact List.forall_mem_nil _
    | cons next rest => exact List.forall_mem_cons.mpr ⟨succeeds, goesOn⟩
  · cases more with
    | nil => rintro ⟨_, ⟨⟩, _⟩
    | cons next rest => exact id

end InTurn

theorem tells_inOrder (d : Dispatcher σ) (actions : List Spec) (context : Context) :
    Task.Tells (fun said ended => ∃ exchanges, said = exchanges.flatMap Exchange.remarks ∧
      InTurn d actions context exchanges ended.2 ∧ ended.1 = Exchange.reports exchanges)
      (inOrder (overheard d) actions context) := by
  induction actions generalizing context with
  | nil => exact ⟨[], rfl, .nil d context, rfl⟩
  | cons spec rest ih =>
      refine (tells_overheard d spec context).bind ?_
      rintro _ ⟨answer, after⟩ ⟨rfl, own⟩
      cases answer with
      | error failure =>
          refine ⟨[⟨spec, context, .error failure, after⟩], rfl, .stop own ?_ rest, rfl⟩
          rintro ⟨_, ⟨⟩, _⟩
      | ok report =>
          dsimp only
          split
          · rename_i success
            refine (ih after).bind ?_
            rintro _ ended ⟨exchanges, rfl, inTurn, reports⟩
            refine ⟨⟨spec, context, .ok report, after⟩ :: exchanges, ?_, ?_, ?_⟩
            · exact List.append_nil _ ▸ rfl
            · exact .goOn own ⟨report, rfl, success⟩ inTurn
            · rw [reports]
              rfl
          · rename_i failed
            refine ⟨[⟨spec, context, .ok report, after⟩], rfl, .stop own ?_ rest, rfl⟩
            rintro ⟨_, ⟨⟩, success⟩
            exact failed success

/-! ## What the exchanges come to -/

theorem outcome_success_iff (side : Side) (reports : List Report) :
    (outcome side reports).success = true ↔ ∀ report ∈ reports, report.success = true := by
  unfold outcome
  dsimp only
  split
  · rename_i failed found
    have lost : failed.success = false := by simpa using List.find?_some found
    refine iff_of_false Bool.false_ne_true fun all => ?_
    exact Bool.eq_false_iff.mp lost (all failed (List.mem_of_find?_eq_some found))
  · rename_i none
    exact iff_of_true rfl (by simpa using none)

namespace Exchange

variable {exchanges : List Exchange}

theorem reports_of_answers {reports : List Report}
    (answers : exchanges.map (·.answer.1) = reports.map .ok) :
    Exchange.reports exchanges = .ok reports := by
  induction exchanges generalizing reports with
  | nil =>
      obtain rfl : reports = [] := List.map_eq_nil_iff.mp answers.symm
      rfl
  | cons one rest ih =>
      cases reports with
      | nil => cases answers
      | cons report others =>
          obtain ⟨answer, later⟩ : one.answer.1 = .ok report ∧ _ := List.cons.inj answers
          rw [Exchange.reports, answer, ih later]
          rfl

/-- A failure can only be what is answered last. -/
theorem reports_of_error (goesOn : ∀ one ∈ exchanges.dropLast, one.Succeeded) {one : Exchange}
    (mem : one ∈ exchanges) {failure : Failure} (fails : one.answer.1 = .error failure) :
    Exchange.reports exchanges = .error failure := by
  induction exchanges with
  | nil => cases mem
  | cons first rest ih =>
      cases rest with
      | nil =>
          obtain rfl := List.mem_singleton.mp mem
          rw [Exchange.reports, fails]
          rfl
      | cons next others =>
          obtain ⟨⟨report, answer, _⟩, goesOn⟩ := List.forall_mem_cons.mp goesOn
          rcases List.mem_cons.mp mem with rfl | later
          · cases fails.symm.trans answer
          · rw [Exchange.reports, answer, ih goesOn later]
            rfl

theorem succeeded_iff_of_answers {reports : List Report}
    (answers : exchanges.map (·.answer.1) = reports.map .ok) :
    (∀ one ∈ exchanges, one.Succeeded) ↔ ∀ report ∈ reports, report.success = true := by
  induction exchanges generalizing reports with
  | nil =>
      obtain rfl : reports = [] := List.map_eq_nil_iff.mp answers.symm
      exact iff_of_true (List.forall_mem_nil _) (List.forall_mem_nil _)
  | cons one rest ih =>
      cases reports with
      | nil => cases answers
      | cons report others =>
          obtain ⟨answer, later⟩ : one.answer.1 = .ok report ∧ _ := List.cons.inj answers
          have here : one.Succeeded ↔ report.success = true := by
            rw [Succeeded, answer]
            refine ⟨?_, fun success => ⟨report, rfl, success⟩⟩
            rintro ⟨_, ⟨⟩, success⟩
            exact success
          rw [List.forall_mem_cons, List.forall_mem_cons, here, ih later]

end Exchange

/-- What a branching action ends with, given the actions of the branch it selects. -/
structure Sequential (d : Dispatcher σ) (actions : List Spec) (context : Context)
    (exchanges : List Exchange) (handled : Handled) : Prop where
  inTurn : InTurn d actions context exchanges handled.2
  /-- A dispatch without a report ends the action with its failure. -/
  refused : ∀ one ∈ exchanges, ∀ failure, one.answer.1 = .error failure →
    handled.1 = .error (.failed failure)
  /-- If all dispatches have reports, so has the action an outcome, and it lists them. -/
  answered : ∀ reports : List Report, exchanges.map (·.answer.1) = reports.map .ok →
    ∃ outcome, handled.1 = .ok outcome ∧
      outcome.output.field? "executed" = some (.ofNat reports.length) ∧
      outcome.output.field? "results" = some (.arr (reports.map Report.toJson)) ∧
      (outcome.success = true ↔
        exchanges.map (·.spec) = actions ∧ ∀ one ∈ exchanges, one.Succeeded)

theorem InTurn.sequential {d : Dispatcher σ} {actions : List Spec} {context after : Context}
    {exchanges : List Exchange} (inTurn : InTurn d actions context exchanges after)
    (side : Side) :
    Sequential d actions context exchanges
      (((Exchange.reports exchanges).map (outcome side)).mapError Halt.failed, after) := by
  refine ⟨inTurn, fun one mem failure fails => ?_, fun reports answers => ?_⟩
  · rw [Exchange.reports_of_error inTurn.goesOn mem fails]
    rfl
  · rw [Exchange.reports_of_answers answers]
    refine ⟨outcome side reports, rfl, ?_, ?_, ?_⟩
    · rw [outcome_output]
      exact Json.field?_ofFields (by simp) (by simp)
    · rw [outcome_output]
      exact Json.field?_ofFields (by simp) (by simp)
    · rw [outcome_success_iff, ← Exchange.succeeded_iff_of_answers answers]
      refine (and_iff_right_of_imp fun all => ?_).symm
      refine inTurn.ended.resolve_right fun ⟨last, mem, fails⟩ => ?_
      exact fails (all last (List.mem_of_getLast? mem))

theorem actions_side (plan : Plan) (context : Context) :
    plan.actions (plan.side context) =
      if plan.group.holds context then plan.met else plan.unmet := by
  unfold Plan.side
  split <;> rfl

/--
A branching action whose parameters are well-formed dispatches the actions of
the branch that its condition selects, and no others: in order, each on the
context that the one before it left, up to the first that does not succeed.
If a parameter is not well-formed it dispatches nothing and fails on the
context as it was.
-/
theorem runs_in_turn (d : Dispatcher σ) (params : Json) (context : Context) :
    Task.Shows (fun _ => False) (run (overheard d) params context) (run d params context) ∧
    match Params.required params "if" RuleGroup.decode,
      Params.required params "then" (Wire.Decode.list Spec.decode),
      Params.optional params "else" (Wire.Decode.list Spec.decode) with
    | .ok group, .ok met, .ok unmet =>
        Task.Tells (fun said handled => ∃ exchanges, said = exchanges.flatMap Exchange.remarks ∧
          Sequential d (if group.holds context then met else unmet.getD []) context exchanges
            handled) (run (overheard d) params context)
    | _, _, _ => ∃ failure, run (overheard d) params context = .done (.failed context failure) ∧
        run d params context = .done (.failed context failure) := by
  refine ⟨Task.Shows.composable.branch _ _ (fun _ _ _ spec _ => shows_overheard d spec) context, ?_⟩
  unfold run Plan.ofParams
  cases Params.required params "if" RuleGroup.decode with
  | error failure => exact ⟨failure, rfl, rfl⟩
  | ok group =>
      cases Params.required params "then" (Wire.Decode.list Spec.decode) with
      | error failure => exact ⟨failure, rfl, rfl⟩
      | ok met =>
          cases Params.optional params "else" (Wire.Decode.list Spec.decode) with
          | error failure => exact ⟨failure, rfl, rfl⟩
          | ok unmet =>
              have selected := actions_side ⟨group, met, unmet.getD []⟩ context
              dsimp only at selected ⊢
              rw [← selected]
              refine (tells_inOrder d _ context).bind ?_
              rintro _ ended ⟨exchanges, rfl, inTurn, reports⟩
              refine ⟨exchanges, List.append_nil _, ?_⟩
              rw [reports]
              exact inTurn.sequential _

end Branch

end ActionGraph.Action
