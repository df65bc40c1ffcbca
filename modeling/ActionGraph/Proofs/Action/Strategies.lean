import ActionGraph.Proofs.Action.Concurrency
import ActionGraph.Proofs.Action.Merging
import ActionGraph.Proofs.Places

/-!
# What a strategy makes of its branches

A parallel action takes its branches in the order in which they end, up to the
first one after which its strategy awaits nothing more.  How many of them
succeeded, which reports are listed and whether the whole succeeded follows
from the branches that were taken, and not from those that were dropped.
-/

namespace ActionGraph.Action

variable {σ : Type}

/-- The first of all up to one that stops them, or all if none does. -/
structure UpTo {α : Type} (stops : α → Prop) (all taken : List α) : Prop where
  initial : taken <+: all
  awaited : ∀ one ∈ taken.dropLast, ¬ stops one
  enough : taken = all ∨ ∃ last ∈ taken.getLast?, stops last

namespace UpTo

variable {α : Type} {stops : α → Prop} {all taken : List α}

theorem nil : UpTo stops ([] : List α) [] :=
  ⟨List.prefix_rfl, List.forall_mem_nil _, .inl rfl⟩

theorem stop {one : α} (here : stops one) (rest : List α) : UpTo stops (one :: rest) [one] :=
  ⟨⟨rest, rfl⟩, List.forall_mem_nil _, .inr ⟨one, rfl, here⟩⟩

theorem goOn {one : α} (here : ¬ stops one) (later : UpTo stops all taken) :
    UpTo stops (one :: all) (one :: taken) := by
  obtain ⟨initial, awaited, enough⟩ := later
  refine ⟨(List.prefix_cons_inj one).mpr initial, ?_, enough.imp (congrArg (one :: ·)) ?_⟩
  · cases taken with
    | nil => exact List.forall_mem_nil _
    | cons next rest => exact List.forall_mem_cons.mpr ⟨here, awaited⟩
  · cases taken with
    | nil => exact nofun
    | cons next rest => exact id

/-- Where nothing stops them, it is all. -/
theorem eq_all (upTo : UpTo stops all taken) (never : ∀ one, ¬ stops one) : taken = all :=
  upTo.enough.resolve_right fun ⟨last, _, here⟩ => never last here

theorem congr {stops' : α → Prop} (upTo : UpTo stops all taken)
    (same : ∀ one, stops one ↔ stops' one) : UpTo stops' all taken := by
  obtain rfl : stops = stops' := funext fun one => propext (same one)
  exact upTo

/-- There is at most one that stops them. -/
theorem eq_of_stops (awaited : ∀ one ∈ taken.dropLast, ¬ stops one) {one : α} (mem : one ∈ taken)
    (here : stops one) : ∃ before, taken = before ++ [one] ∧ ∀ other ∈ before, ¬ stops other := by
  rcases List.eq_nil_or_concat taken with rfl | ⟨before, last, rfl⟩
  · cases mem
  · rw [List.concat_eq_append] at mem awaited ⊢
    rw [List.dropLast_concat] at awaited
    rcases List.mem_append.mp mem with early | late
    · exact absurd here (awaited one early)
    · obtain rfl := List.mem_singleton.mp late
      exact ⟨before, rfl, awaited⟩

end UpTo

namespace Strategy

def StopsAt (strategy : Strategy) (continueOnError : Bool) (finish : Finish) : Prop :=
  strategy.stops continueOnError finish.report.success = true

theorem taken_upTo (strategy : Strategy) (continueOnError : Bool) (all : List Finish) :
    UpTo (strategy.StopsAt continueOnError) all (strategy.taken continueOnError all) := by
  induction all with
  | nil => exact .nil
  | cons finish rest ih =>
      rw [taken]
      split
      · rename_i stops
        have here : strategy.StopsAt continueOnError finish := stops
        exact .stop here rest
      · rename_i awaited
        have here : ¬ strategy.StopsAt continueOnError finish := awaited
        exact .goOn here ih

/-! ## What is said of the branches that were taken -/

theorem outcome_success (strategy : Strategy) (total : Nat) (finished : List Finish) :
    (strategy.outcome total finished).success = strategy.success total finished := by
  unfold outcome
  dsimp only
  split
  · rename_i success
    exact success.symm
  · rename_i failure
    exact (Bool.eq_false_iff.mpr failure).symm

theorem listed_of_no_winner {strategy : Strategy} {finished : List Finish}
    (none : strategy ≠ .any ∨ ∀ finish ∈ finished, finish.report.success = false) :
    strategy.listed finished = Finish.reports finished := by
  unfold listed
  split
  · rename_i winner others succeeded
    have won : winner ∈ Finish.succeeded finished := succeeded ▸ List.mem_cons_self
    obtain ⟨mem, success⟩ := List.mem_filter.mp won
    have lost := none.resolve_left (not_not_intro rfl) winner mem
    rw [lost] at success
    cases success
  · rfl

end Strategy

namespace Finish

theorem succeeded_length (finished : List Finish) :
    (succeeded finished).length = finished.countP fun finish => finish.report.success :=
  List.countP_eq_length_filter.symm

theorem failed_length (finished : List Finish) :
    finished.length - (succeeded finished).length =
      finished.countP fun finish => !finish.report.success := by
  have all := List.length_eq_countP_add_countP (l := finished) fun finish => finish.report.success
  have negated : (finished.countP fun finish => decide ¬ finish.report.success = true) =
      finished.countP fun finish => !finish.report.success :=
    List.countP_congr fun finish _ => by simp
  rw [succeeded_length]
  omega

theorem inPlace_perm (finished : List Finish) : (inPlace finished).Perm finished :=
  List.mergeSort_perm finished _

end Finish

namespace Parallel

/-- Of branches that end in this order, those that are taken. -/
def Plan.Consumes (plan : Plan) (all taken : List Finish) : Prop :=
  match plan.strategy, plan.continueOnError with
  | .all, false => UpTo (fun finish => finish.report.success = false) all taken
  | .any, _ => UpTo (fun finish => finish.report.success = true) all taken
  | .all, true => taken = all
  | .settle, _ => taken = all

def Plan.MetBy (plan : Plan) (taken : List Finish) : Prop :=
  match plan.strategy with
  | .all => (∀ i < plan.actions.length, ∃ finish ∈ taken, finish.index = i) ∧
      ∀ finish ∈ taken, finish.report.success = true
  | .any => ∃ finish ∈ taken, finish.report.success = true
  | .settle => True

/-- What is said of the branches that are taken, and what the context becomes. -/
structure Sums (plan : Plan) (context : Context) (taken : List Finish) (outcome : Outcome)
    (after : Context) : Prop where
  total : outcome.output.field? "total" = some (.ofNat plan.actions.length)
  succeeded : outcome.output.field? "succeeded" =
    some (.ofNat (taken.countP fun finish => finish.report.success))
  failed : outcome.output.field? "failed" =
    some (.ofNat (taken.countP fun finish => !finish.report.success))
  success : outcome.success = true ↔ plan.MetBy taken
  /-- The reports are listed in the order of the branches. -/
  listed : (plan.strategy ≠ .any ∨ ∀ finish ∈ taken, finish.report.success = false) →
    ∃ inOrder : List Finish, inOrder.Perm taken ∧ (inOrder.Pairwise fun a b => a.index < b.index) ∧
      outcome.output.field? "results" = some (.arr (inOrder.map fun finish => finish.report.toJson))
  /-- Where one success is enough, its report alone is listed, and its writes alone are merged. -/
  won : plan.strategy = .any → ∀ winner ∈ taken, winner.report.success = true →
    outcome.output.field? "results" = some (.arr [winner.report.toJson]) ∧
      after = { context with bag := winner.writes.apply context.bag }

def Plan.SumsUp (plan : Plan) (context : Context) (taken : List Finish) : Prop :=
  ∃ outcome after, conclude plan context (.ok taken) = (.ok outcome, after) ∧
    Sums plan context taken outcome after

/-- The ends of branches of which no credential expired. -/
def told (finishes : List Finish) : List (Nat × Except Failure Finish) :=
  finishes.map fun finish => (finish.index, .ok finish)

section Consumed

variable {plan : Plan} {context : Context} {all taken : List Finish}

theorem takeAll_told (plan : Plan) (before all : List Finish) :
    Process.takeAll (take plan) (.ok before) (told all) =
      .ok (before ++ plan.strategy.taken plan.continueOnError all) := by
  induction all generalizing before with
  | nil => exact congrArg Except.ok (List.append_nil before).symm
  | cons finish rest ih =>
      rw [told, List.map_cons, Process.takeAll, take, Strategy.taken]
      split
      · rfl
      · exact (ih _).trans (congrArg Except.ok (List.append_assoc _ _ _))

theorem consumes_of_upTo
    (upTo : UpTo (plan.strategy.StopsAt plan.continueOnError) all taken) :
    plan.Consumes all taken := by
  obtain ⟨actions, strategy, timeout, continueOnError⟩ := plan
  cases strategy with
  | any => exact upTo
  | settle => exact upTo.eq_all fun _ => Bool.false_ne_true
  | all =>
      cases continueOnError with
      | true => exact upTo.eq_all fun finish => by simp [Strategy.StopsAt, Strategy.stops]
      | false => exact upTo.congr fun finish => by simp [Strategy.StopsAt, Strategy.stops]

theorem success_inPlace_iff (apart : (taken.map (·.index)).Nodup)
    (inRange : ∀ finish ∈ taken, finish.index < plan.actions.length) :
    plan.strategy.success plan.actions.length (Finish.inPlace taken) = true ↔ plan.MetBy taken := by
  have perm := Finish.inPlace_perm taken
  unfold Plan.MetBy Strategy.success
  cases plan.strategy with
  | settle => exact iff_of_true rfl trivial
  | any => simp only [List.any_eq_true, perm.mem_iff]
  | all =>
      have covers := length_eq_iff_covers apart (List.forall_mem_map.mpr inRange)
      simp only [List.length_map, List.mem_map] at covers
      simp only [Bool.and_eq_true, List.all_eq_true, perm.mem_iff, beq_iff_eq, perm.length_eq,
        covers]
      exact and_comm

/-- The only success is the whole of what succeeded. -/
theorem succeeded_inPlace {winner : Finish}
    (awaited : ∀ finish ∈ taken.dropLast, ¬ finish.report.success = true) (mem : winner ∈ taken)
    (won : winner.report.success = true) : Finish.succeeded (Finish.inPlace taken) = [winner] := by
  obtain ⟨before, split, lost⟩ := UpTo.eq_of_stops awaited mem won
  have perm : (Finish.succeeded (Finish.inPlace taken)).Perm (Finish.succeeded taken) :=
    (Finish.inPlace_perm taken).filter _
  have one : Finish.succeeded taken = [winner] := by
    rw [split, Finish.succeeded, List.filter_append, List.filter_eq_nil_iff.mpr lost,
      List.nil_append, List.filter_singleton, won]
    rfl
  rw [one] at perm
  exact List.perm_singleton.mp perm

/-- Branches at different places that are taken are summed up. -/
theorem sumsUp_of_taken (context : Context) (apart : (taken.map (·.index)).Nodup)
    (inRange : ∀ finish ∈ taken, finish.index < plan.actions.length)
    (awaited : ∀ finish ∈ taken.dropLast,
      ¬ plan.strategy.StopsAt plan.continueOnError finish) :
    plan.SumsUp context taken := by
  have perm := Finish.inPlace_perm taken
  refine ⟨plan.strategy.outcome plan.actions.length (Finish.inPlace taken),
    { context with bag := Finish.merge (Finish.inPlace taken) context.bag }, rfl, ?_⟩
  refine ⟨?total, ?succeeded, ?failed, ?success, ?listed, ?won⟩
  case total =>
    rw [Strategy.outcome_output]
    exact Json.field?_ofFields (by simp) (by simp)
  case succeeded =>
    rw [Strategy.outcome_output, ← perm.countP_eq, ← Finish.succeeded_length]
    exact Json.field?_ofFields (by simp) (by simp)
  case failed =>
    rw [Strategy.outcome_output, ← perm.countP_eq, ← Finish.failed_length]
    exact Json.field?_ofFields (by simp) (by simp)
  case success =>
    rw [Strategy.outcome_success]
    exact success_inPlace_iff apart inRange
  case listed =>
    intro none
    refine ⟨Finish.inPlace taken, perm, inPlace_increasing apart, ?_⟩
    rw [field?_results, Strategy.listed_of_no_winner, Finish.reports, List.map_map]
    · rfl
    · exact none.imp_right fun lost finish mem => lost finish (perm.mem_iff.mp mem)
  case won =>
    intro any winner mem won
    rw [any] at awaited
    have alone := succeeded_inPlace awaited mem won
    have listed : plan.strategy.listed (Finish.inPlace taken) = [winner.report] := by
      simp only [any, Strategy.listed, alone]
    refine ⟨?_, ?_⟩
    · rw [field?_results, listed]
      rfl
    · rw [Finish.merge, alone]
      rfl

end Consumed

/-! ## Branches of a run -/

section Collected

variable {plan : Plan} {context : Context} {base : Bag} {ended : List Ended} {taken : List Finish}

theorem stops_of_result {one : Ended} {finish : Finish}
    (handed : one.result plan.timeout base = .ok finish) :
    one.stops plan base = true ↔ plan.strategy.StopsAt plan.continueOnError finish := by
  rw [Ended.stops, handed]
  exact Iff.rfl

theorem awaited_of_collected (collects : collected plan base ended = .ok taken)
    (awaited : ∀ one ∈ ended.dropLast, one.stops plan base = false) :
    ∀ finish ∈ taken.dropLast, ¬ plan.strategy.StopsAt plan.continueOnError finish := by
  intro finish mem stops
  have handed := congrArg List.dropLast (collected_eq_ok collects)
  rw [← List.map_dropLast, ← List.map_dropLast] at handed
  have there := handed ▸ List.mem_map_of_mem mem
  obtain ⟨one, before, same⟩ := List.mem_map.mp there
  exact Bool.eq_false_iff.mp (awaited one before) ((stops_of_result same).mpr stops)

theorem enough_of_collected (collects : collected plan base ended = .ok taken) {last : Ended}
    (mem : last ∈ ended.getLast?) (stops : last.stops plan base = true) :
    ∃ last ∈ taken.getLast?, plan.strategy.StopsAt plan.continueOnError last := by
  have handed := congrArg List.getLast? (collected_eq_ok collects)
  rw [List.getLast?_map, List.getLast?_map, Option.mem_def.mp mem] at handed
  obtain ⟨finish, there, same⟩ := Option.map_eq_some_iff.mp handed.symm
  exact ⟨finish, there, (stops_of_result same.symm).mp stops⟩

variable {d : Dispatcher σ}

theorem inRange_of_collected (collects : collected plan context.bag ended = .ok taken)
    (own : ∀ one ∈ ended, one.Of d plan context) :
    ∀ finish ∈ taken, finish.index < plan.actions.length := by
  intro finish mem
  obtain ⟨one, there, handed⟩ := exists_ended collects mem
  rw [(Ended.of_result handed).1]
  exact (List.getElem?_eq_some_iff.mp (own one there).1).1

theorem consumes_of_resolved (resolved : Resolved d plan context ended)
    (collects : collected plan context.bag ended = .ok taken) {rest : List Finish}
    (all : ((taken ++ rest).map (·.index)).Perm (List.range plan.actions.length)) :
    plan.Consumes (taken ++ rest) taken := by
  refine consumes_of_upTo ⟨⟨rest, rfl⟩, awaited_of_collected collects resolved.awaited, ?_⟩
  refine resolved.enough.imp (fun covered => ?_) fun ⟨last, mem, stops⟩ =>
    enough_of_collected collects mem stops
  have places := finished_places collects
  have full := (length_eq_iff_covers (places ▸ resolved.apart)
    (List.forall_mem_map.mpr (inRange_of_collected collects resolved.own))).mpr (places ▸ covered)
  have length := all.length_eq
  rw [List.length_range, List.length_map, List.length_append] at length
  rw [List.length_map] at full
  rw [List.eq_nil_of_length_eq_zero (l := rest) (by omega), List.append_nil]

theorem sumsUp_of_resolved (resolved : Resolved d plan context ended)
    (collects : collected plan context.bag ended = .ok taken) : plan.SumsUp context taken :=
  sumsUp_of_taken context (finished_places collects ▸ resolved.apart)
    (inRange_of_collected collects resolved.own)
    (awaited_of_collected collects resolved.awaited)

end Collected

/-- In whatever order the branches end, those that are taken are summed up. -/
theorem takes_of_order (plan : Plan) (context : Context) {all : List Finish}
    (order : (all.map (·.index)).Perm (List.range plan.actions.length)) :
    ∃ taken, plan.Consumes all taken ∧
      Process.takeAll (take plan) (.ok []) (told all) = .ok taken ∧ plan.SumsUp context taken := by
  have upTo := plan.strategy.taken_upTo plan.continueOnError all
  have inRange : ∀ finish ∈ all, finish.index < plan.actions.length := fun finish mem =>
    List.mem_range.mp (order.mem_iff.mp (List.mem_map_of_mem mem))
  refine ⟨plan.strategy.taken plan.continueOnError all, consumes_of_upTo upTo,
    takeAll_told plan [] all, sumsUp_of_taken context ?_ ?_ upTo.awaited⟩
  · exact (order.nodup_iff.mpr List.nodup_range).sublist (upTo.initial.sublist.map _)
  · exact fun finish mem => inRange finish (upTo.initial.subset mem)

theorem Plan.actions_ne_nil {limit : Nat} {params : Json} {plan : Plan}
    (accepted : Plan.ofParams limit params = .ok plan) : plan.actions ≠ [] := by
  intro none
  unfold Plan.ofParams at accepted
  rw [actions_of_ofParams accepted, none] at accepted
  cases accepted

/--
The branches of a parallel action are taken in the order in which they end, up
to the first failure if all have to succeed and failures are not put up with,
up to the first success if one is enough, and otherwise all of them.  The
outcome and the bag follow from those that were taken: this holds of every
order in which the branches may end, and of every run.
-/
theorem strategy_resolves (limit : Nat) (d : Dispatcher σ) (params : Json) (context : Context) :
    match Plan.ofParams limit params with
    | .error failure => run limit d params context = .done (.failed context failure)
    | .ok plan =>
        plan.actions ≠ [] ∧
        (∀ all : List Finish, (all.map (·.index)).Perm (List.range plan.actions.length) →
          ∃ taken, plan.Consumes all taken ∧
            Process.takeAll (take plan) (.ok []) (told all) = .ok taken ∧
            plan.SumsUp context taken) ∧
        (run limit d params context = (endings d plan context).bind fun ended =>
          .done (conclude plan context (collected plan context.bag ended))) ∧
        (endings d plan context).Ends fun ended => Resolved d plan context ended ∧
          ∀ taken, collected plan context.bag ended = .ok taken →
            (∀ rest : List Finish,
              ((taken ++ rest).map (·.index)).Perm (List.range plan.actions.length) →
                plan.Consumes (taken ++ rest) taken) ∧
            plan.SumsUp context taken := by
  cases accepted : Plan.ofParams limit params with
  | error failure =>
      unfold run
      rw [accepted]
  | ok plan =>
      refine ⟨Plan.actions_ne_nil accepted, fun all => takes_of_order plan context,
        run_eq_endings accepted d context, ?_⟩
      refine (endings_resolved d plan context).mono fun ended resolved => ⟨resolved, ?_⟩
      exact fun taken collects => ⟨fun rest => consumes_of_resolved resolved collects,
        sumsUp_of_resolved resolved collects⟩

end Parallel

end ActionGraph.Action
