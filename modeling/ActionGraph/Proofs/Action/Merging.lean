import ActionGraph.Proofs.Action.Envelope
import ActionGraph.Proofs.Writes

/-!
# What parallel branches write

The branches of a parallel action end one after another until nothing more is
awaited.  Each key of the bag then follows the last of the branches that
succeeded and changed it, in the order of the branches, and not the order in
which they ended.
-/

namespace ActionGraph.Action

variable {σ : Type}

/-! ## Branches that ended -/

/-- A branch that ended, and what its dispatch ended with in time. -/
structure Ended where
  index : Nat
  spec : Spec
  duration : Nat
  dispatched : Option Dispatched

namespace Ended

def result (limit : Nat) (base : Bag) (one : Ended) : Except Failure Finish :=
  Parallel.finish one.spec limit one.index one.duration base one.dispatched

def bag? (one : Ended) : Option Bag :=
  match one.dispatched with
  | some (.ok report, context) => if report.success then some context.bag else none
  | _ => none

/-- Whether nothing is awaited after the branch: its credential expired, or the strategy is met. -/
def stops (plan : Parallel.Plan) (base : Bag) (one : Ended) : Bool :=
  match one.result plan.timeout base with
  | .error _ => true
  | .ok finish => plan.strategy.stops plan.continueOnError finish.report.success

/-- The branch ended as the dispatch of its action can end under the time limit. -/
def Of (d : Dispatcher σ) (plan : Parallel.Plan) (context : Context) (one : Ended) : Prop :=
  plan.actions[one.index]? = some one.spec ∧
    ((d.dispatch one.spec context).timeout plan.timeout).MayEnd one.dispatched

/-- A branch that succeeded hands over the writes to its own bag. -/
theorem of_result {one : Ended} {limit : Nat} {base : Bag} {finish : Finish}
    (ended : one.result limit base = .ok finish) :
    finish.index = one.index ∧ finish.report.success = one.bag?.isSome ∧
      ∀ own, one.bag? = some own → finish.writes = Writes.between base own := by
  obtain ⟨index, spec, duration, dispatched⟩ := one
  rcases dispatched with _ | ⟨_ | report, context⟩
  · cases ended
    exact ⟨rfl, rfl, nofun⟩
  · cases ended
  · cases ended
    cases success : report.success with
    | true => exact ⟨rfl, by simp [bag?, success], by simp [bag?, success, Context.writesSince]⟩
    | false => exact ⟨rfl, by simp [bag?, success], by simp [bag?, success]⟩

end Ended

namespace Parallel

/-- What the branches that ended were handed over as, in the order in which they ended. -/
def collected (plan : Plan) (base : Bag) (ended : List Ended) : Except Failure (List Finish) :=
  ended.foldl (fun sofar one => (take plan sofar one.index (one.result plan.timeout base)).1)
    (.ok [])

def noting (plan : Plan) (base : Bag) : Process.Taker (List Ended) Ended :=
  fun noted _ one =>
    (noted ++ [one],
      (take plan (collected plan base noted) one.index (one.result plan.timeout base)).2)

def attempt (d : Dispatcher σ) (limit : Nat) (context : Context) (index : Nat) (spec : Spec) :
    Task σ Ended :=
  Process.now.bind fun start =>
    ((d.dispatch spec context).timeout limit).bind fun dispatched =>
      Process.now.bind fun stop =>
        .done ⟨index, spec, stop - start, dispatched⟩

/-- The branches that end before nothing more is awaited, in the order in which they end. -/
def endings (d : Dispatcher σ) (plan : Plan) (context : Context) : Task σ (List Ended) :=
  Process.gather (noting plan context.bag) []
    (plan.actions.mapIdx (attempt d plan.timeout context))

theorem attempt_map (d : Dispatcher σ) (limit : Nat) (context : Context) (index : Nat)
    (spec : Spec) :
    (attempt d limit context index spec).map (Ended.result limit context.bag) =
      branch d limit context index spec := by
  unfold attempt branch Process.map
  rw [Process.bind_assoc]
  refine congrArg (Process.now.bind ·) (funext fun start => ?_)
  rw [Process.bind_assoc]
  refine congrArg (Process.bind _ ·) (funext fun dispatched => ?_)
  rw [Process.bind_assoc]
  rfl

theorem collected_snoc (plan : Plan) (base : Bag) (ended : List Ended) (last : Ended) :
    collected plan base (ended ++ [last]) =
      (take plan (collected plan base ended) last.index (last.result plan.timeout base)).1 := by
  rw [collected, List.foldl_append]
  rfl

/-- A parallel action concludes from the branches that ended. -/
theorem run_eq_endings {limit : Nat} {params : Json} {plan : Plan}
    (accepted : Plan.ofParams limit params = .ok plan) (d : Dispatcher σ) (context : Context) :
    run limit d params context = (endings d plan context).bind fun ended =>
      .done (conclude plan context (collected plan context.bag ended)) := by
  have branches : plan.actions.mapIdx (branch d plan.timeout context) =
      (plan.actions.mapIdx (attempt d plan.timeout context)).map
        (Process.map (Ended.result plan.timeout context.bag)) := by
    refine List.ext_getElem? fun i => ?_
    rw [List.getElem?_map, List.getElem?_mapIdx, List.getElem?_mapIdx, Option.map_map]
    refine congrArg (Option.map · _) (funext fun spec => ?_)
    exact (attempt_map d plan.timeout context i spec).symm
  have coarser : ∀ noted i one,
      take plan (collected plan context.bag noted) i (one.result plan.timeout context.bag) =
        (collected plan context.bag (noting plan context.bag noted i one).1,
          (noting plan context.bag noted i one).2) := by
    intro noted i one
    dsimp only [noting]
    rw [collected_snoc]
    rfl
  have pools := Process.pool_map (Ended.result plan.timeout context.bag)
    (collected plan context.bag) coarser (plan.actions.mapIdx (attempt d plan.timeout context))
    ((List.range plan.actions.length).map fun i => (i, false)) []
  unfold run endings Process.gather
  rw [accepted]
  simp only [branches, List.length_map, List.length_mapIdx]
  refine (congrArg (Process.bind · _) pools).trans ?_
  rw [Process.map, Process.bind_assoc]
  rfl

/-! ## When nothing more is awaited -/

/-- Branches that ended in this order until nothing more was awaited. -/
structure Resolved (d : Dispatcher σ) (plan : Plan) (context : Context) (ended : List Ended) :
    Prop where
  apart : (ended.map (·.index)).Nodup
  own : ∀ one ∈ ended, one.Of d plan context
  awaited : ∀ one ∈ ended.dropLast, one.stops plan context.bag = false
  enough : (∀ i < plan.actions.length, i ∈ ended.map (·.index)) ∨
    ∃ last ∈ ended.getLast?, last.stops plan context.bag = true

theorem attempt_ends (d : Dispatcher σ) (limit : Nat) (context : Context) (index : Nat)
    (spec : Spec) :
    (attempt d limit context index spec).Ends fun one => one.index = index ∧ one.spec = spec ∧
      ((d.dispatch spec context).timeout limit).MayEnd one.dispatched := by
  refine Process.ends_bind_of_forall _ fun start => ?_
  refine (Process.ends_mayEnd _).bind fun dispatched may => ?_
  refine Process.ends_bind_of_forall _ fun stop => ?_
  exact ⟨rfl, rfl, may⟩

structure Noted (d : Dispatcher σ) (plan : Plan) (context : Context) (taken : List Nat)
    (noted : List Ended) : Prop where
  places : noted.map (·.index) = taken
  apart : taken.Nodup
  own : ∀ one ∈ noted, one.Of d plan context
  awaited : ∀ one ∈ noted, one.stops plan context.bag = false
  collects : ∃ finished, collected plan context.bag noted = .ok finished

namespace Noted

variable {d : Dispatcher σ} {plan : Plan} {context : Context} {taken : List Nat}
  {noted : List Ended} {one : Ended}

theorem enough (before : Noted d plan context taken noted) (i : Nat) :
    (noting plan context.bag noted i one).2 = one.stops plan context.bag := by
  obtain ⟨finished, collects⟩ := before.collects
  rw [noting, collects, Ended.stops]
  cases one.result plan.timeout context.bag <;> rfl

theorem places_snoc (before : Noted d plan context taken noted) :
    (noted ++ [one]).map (·.index) = taken ++ [one.index] := by
  rw [List.map_append, before.places]
  rfl

theorem apart_snoc (before : Noted d plan context taken noted) (fresh : one.index ∉ taken) :
    (taken ++ [one.index]).Nodup := by
  refine List.nodup_append.mpr ⟨before.apart, List.pairwise_singleton _ _, ?_⟩
  rintro a mem b last rfl
  exact fresh (List.mem_singleton.mp last ▸ mem)

theorem own_snoc (before : Noted d plan context taken noted) (here : one.Of d plan context) :
    ∀ each ∈ noted ++ [one], each.Of d plan context :=
  List.forall_mem_append.mpr ⟨before.own, List.forall_mem_singleton.mpr here⟩

/-- One more branch ended, and more is awaited. -/
theorem goOn (before : Noted d plan context taken noted) (fresh : one.index ∉ taken)
    (here : one.Of d plan context) (awaited : one.stops plan context.bag = false) :
    Noted d plan context (taken ++ [one.index]) (noted ++ [one]) := by
  refine ⟨before.places_snoc, before.apart_snoc fresh, before.own_snoc here, ?_, ?_⟩
  · exact List.forall_mem_append.mpr ⟨before.awaited, List.forall_mem_singleton.mpr awaited⟩
  · obtain ⟨finished, collects⟩ := before.collects
    rw [collected_snoc, collects]
    rw [Ended.stops] at awaited
    cases result : one.result plan.timeout context.bag with
    | error failure =>
        rw [result] at awaited
        cases awaited
    | ok finish => exact ⟨_, rfl⟩

/-- One more branch ended, and nothing more is awaited. -/
theorem stop (before : Noted d plan context taken noted) (fresh : one.index ∉ taken)
    (here : one.Of d plan context) (stops : one.stops plan context.bag = true) :
    Resolved d plan context (noted ++ [one]) := by
  refine ⟨before.places_snoc ▸ before.apart_snoc fresh, before.own_snoc here, ?_, ?_⟩
  · rw [List.dropLast_concat]
    exact before.awaited
  · rw [List.getLast?_concat]
    exact .inr ⟨one, rfl, stops⟩

/-- Every branch ended. -/
theorem all (before : Noted d plan context taken noted)
    (ended : ∀ i < plan.actions.length, i ∈ taken) : Resolved d plan context noted := by
  obtain ⟨rfl, apart, own, awaited, _⟩ := before
  exact ⟨apart, own, fun one mem => awaited one (List.dropLast_subset _ mem), .inl ended⟩

end Noted

theorem endings_resolved (d : Dispatcher σ) (plan : Plan) (context : Context) :
    (endings d plan context).Ends (Resolved d plan context) := by
  refine Process.Ends.gather_resolved (I := Noted d plan context)
    (P := fun i one => one.index = i ∧ one.Of d plan context) ?_ ?_ ?_ ?_
  · rintro taken noted i one before fresh ⟨rfl, here⟩
    rw [before.enough]
    split
    · rename_i stops
      exact before.stop fresh here stops
    · rename_i awaited
      exact before.goOn fresh here (Bool.eq_false_iff.mpr awaited)
  · intro taken noted before ended
    rw [List.length_mapIdx] at ended
    exact before.all ended
  · exact ⟨rfl, List.nodup_nil, List.forall_mem_nil _, List.forall_mem_nil _, [], rfl⟩
  · intro i p there
    obtain ⟨spec, here, rfl⟩ : ∃ spec, plan.actions[i]? = some spec ∧
        attempt d plan.timeout context i spec = p := by
      rw [List.getElem?_mapIdx] at there
      exact Option.map_eq_some_iff.mp there
    refine (attempt_ends d plan.timeout context i spec).mono ?_
    rintro one ⟨rfl, rfl, may⟩
    exact ⟨rfl, here, may⟩

/-! ## What reaches the bag -/

theorem foldl_take_eq_ok {plan : Plan} {base : Bag} {ended : List Ended}
    {sofar : Except Failure (List Finish)} {all : List Finish}
    (collects : ended.foldl
      (fun sofar one => (take plan sofar one.index (one.result plan.timeout base)).1) sofar =
        .ok all) :
    ∃ before more, sofar = .ok before ∧ all = before ++ more ∧
      ended.map (Ended.result plan.timeout base) = more.map .ok := by
  induction ended generalizing sofar with
  | nil => exact ⟨all, [], collects, (List.append_nil _).symm, rfl⟩
  | cons one rest ih =>
      obtain ⟨_, more, taken, rfl, same⟩ := ih collects
      cases sofar with
      | error failure => cases taken
      | ok before =>
          dsimp only at taken
          cases result : one.result plan.timeout base with
          | error failure =>
              rw [result] at taken
              cases taken
          | ok finish =>
              rw [result] at taken
              cases taken
              refine ⟨before, finish :: more, rfl, List.append_assoc _ _ _, ?_⟩
              rw [List.map_cons, List.map_cons, result, same]

/-- If no credential expired each branch hands over its finish. -/
theorem collected_eq_ok {plan : Plan} {base : Bag} {ended : List Ended} {finished : List Finish}
    (collects : collected plan base ended = .ok finished) :
    ended.map (Ended.result plan.timeout base) = finished.map .ok := by
  obtain ⟨_, more, none, rfl, same⟩ := foldl_take_eq_ok collects
  cases none
  exact same

end Parallel

/-- The branch succeeded and its own bag differs under the key. -/
def Ended.Wrote (base : Bag) (key : String) (one : Ended) (own : Bag) : Prop :=
  one.bag? = some own ∧ base.agrees own key = false

/-- Each key follows the last branch that wrote it, and stays as it is if none did. -/
structure Merged (base : Bag) (ended : List Ended) (bag : Bag) : Prop where
  kept : ∀ key, (∀ one ∈ ended, ∀ own, ¬ one.Wrote base key own) →
    bag.get? key = base.get? key
  written : ∀ key, ∀ one ∈ ended, ∀ own, one.Wrote base key own →
    (∀ other ∈ ended, ∀ others, other.Wrote base key others → other.index ≤ one.index) →
    bag.get? key = own.get? key

namespace Finish

theorem merge_cons (finish : Finish) (rest : List Finish) (bag : Bag) :
    merge (finish :: rest) bag =
      merge rest (if finish.report.success then finish.writes.apply bag else bag) := by
  rw [merge, succeeded, List.filter_cons]
  split <;> rfl

theorem merge_append (before after : List Finish) (bag : Bag) :
    merge (before ++ after) bag = merge after (merge before bag) := by
  rw [merge, succeeded, List.filter_append, List.foldl_append]
  rfl

def Spares (base : Bag) (key : String) (finish : Finish) : Prop :=
  finish.report.success = true →
    ∃ own, finish.writes = Writes.between base own ∧ base.agrees own key = true

theorem get?_merge_of_spares {base : Bag} {key : String} {finished : List Finish}
    (spares : ∀ finish ∈ finished, finish.Spares base key) (bag : Bag) :
    (merge finished bag).get? key = bag.get? key := by
  induction finished generalizing bag with
  | nil => rfl
  | cons finish rest ih =>
      rw [List.forall_mem_cons] at spares
      rw [merge_cons, ih spares.2]
      split
      · rename_i success
        obtain ⟨own, writes, agrees⟩ := spares.1 success
        rw [writes, Writes.get?_apply_between, agrees, if_pos rfl]
      · rfl

/-- What the last finish with a part in a key leaves under it stays. -/
theorem get?_merge_of_last {base own : Bag} {key : String} {finish : Finish}
    {before after : List Finish} (success : finish.report.success = true)
    (writes : finish.writes = Writes.between base own) (differs : base.agrees own key = false)
    (spares : ∀ later ∈ after, later.Spares base key) (bag : Bag) :
    (merge (before ++ finish :: after) bag).get? key = own.get? key := by
  rw [merge_append, merge_cons, get?_merge_of_spares spares, success, writes, if_pos rfl,
    Writes.get?_apply_between, differs]
  rfl

end Finish

namespace Parallel

variable {plan : Plan} {base : Bag} {ended : List Ended} {finished : List Finish}

theorem mem_inPlace_iff {finish : Finish} :
    finish ∈ Finish.inPlace finished ↔ finish ∈ finished :=
  (List.mergeSort_perm finished _).mem_iff

/-- Each branch and what it handed over. -/
theorem exists_finish (collects : collected plan base ended = .ok finished) {one : Ended}
    (mem : one ∈ ended) : ∃ finish ∈ finished, one.result plan.timeout base = .ok finish := by
  have handed := List.mem_map_of_mem (f := Ended.result plan.timeout base) mem
  rw [collected_eq_ok collects] at handed
  obtain ⟨finish, there, same⟩ := List.mem_map.mp handed
  exact ⟨finish, there, same.symm⟩

theorem exists_ended (collects : collected plan base ended = .ok finished) {finish : Finish}
    (mem : finish ∈ finished) : ∃ one ∈ ended, one.result plan.timeout base = .ok finish := by
  have handed := List.mem_map_of_mem (f := Except.ok (ε := Failure)) mem
  rw [← collected_eq_ok collects] at handed
  exact List.mem_map.mp handed

theorem finished_places (collects : collected plan base ended = .ok finished) :
    finished.map (·.index) = ended.map (·.index) := by
  have same := collected_eq_ok collects
  clear collects
  induction ended generalizing finished with
  | nil =>
      cases finished with
      | nil => rfl
      | cons finish rest => cases same
  | cons one others ih =>
      cases finished with
      | nil => cases same
      | cons finish rest =>
          obtain ⟨handed, same⟩ := List.cons.inj same
          rw [List.map_cons, List.map_cons, ih same, (Ended.of_result handed).1]

theorem spares_of_result {one : Ended} {finish : Finish} {key : String}
    (handed : one.result plan.timeout base = .ok finish)
    (unwritten : ∀ own, ¬ one.Wrote base key own) : finish.Spares base key := by
  obtain ⟨_, success, writes⟩ := Ended.of_result handed
  intro succeeded
  rw [succeeded] at success
  obtain ⟨own, there⟩ := Option.isSome_iff_exists.mp success.symm
  refine ⟨own, writes own there, eq_true_of_ne_false fun differs => ?_⟩
  exact unwritten own ⟨there, differs⟩

/-- What is merged follows for each key the last branch that wrote it. -/
theorem merged_of_collected (collects : collected plan base ended = .ok finished)
    (apart : (ended.map (·.index)).Nodup) :
    Merged base ended (Finish.merge (Finish.inPlace finished) base) := by
  constructor
  · intro key unwritten
    have spares : ∀ finish ∈ Finish.inPlace finished, finish.Spares base key := by
      intro finish mem
      obtain ⟨one, there, handed⟩ := exists_ended collects (mem_inPlace_iff.mp mem)
      exact spares_of_result handed (unwritten one there)
    exact Finish.get?_merge_of_spares spares base
  · rintro key one mem own wrote last
    obtain ⟨finish, there, handed⟩ := exists_finish collects mem
    obtain ⟨index, success, writes⟩ := Ended.of_result handed
    rw [wrote.1] at success
    obtain ⟨before, after, split⟩ := List.append_of_mem (mem_inPlace_iff.mpr there)
    have increasing := inPlace_increasing (finished_places collects ▸ apart)
    rw [split, List.pairwise_append, List.pairwise_cons] at increasing
    rw [split]
    refine Finish.get?_merge_of_last success (writes own wrote.1) wrote.2 ?_ base
    intro later mem
    have placed : later ∈ Finish.inPlace finished := by
      rw [split]
      exact List.mem_append_right _ (List.mem_cons_of_mem _ mem)
    obtain ⟨other, there, handed⟩ := exists_ended collects (mem_inPlace_iff.mp placed)
    refine spares_of_result handed fun others writes => ?_
    have notAfter := last other there others writes
    have isAfter := increasing.2.1.1 later mem
    rw [index, (Ended.of_result handed).1] at isAfter
    omega

/-- What a parallel action leaves, given the branches that ended. -/
structure Leaves (context : Context) (ended : List Ended) (handled : Handled) : Prop where
  refused : ∀ halt, handled.1 = .error halt → handled.2 = context
  answered : ∀ outcome, handled.1 = .ok outcome →
    Merged context.bag ended handled.2.bag ∧ handled.2 = { context with bag := handled.2.bag }

/--
A parallel action runs its branches until nothing more is awaited, and it then
merges what they wrote: each key follows the last branch, in the order of the
branches, that succeeded and changed it, whatever the strategy and the order
in which the branches ended.  If it fails, the context is as it was.
-/
theorem merge_law (limit : Nat) (d : Dispatcher σ) (params : Json) (context : Context) :
    match Plan.ofParams limit params with
    | .error failure => run limit d params context = .done (.failed context failure)
    | .ok plan =>
        (run limit d params context = (endings d plan context).bind fun ended =>
          .done (conclude plan context (collected plan context.bag ended))) ∧
        (endings d plan context).Ends fun ended =>
          Resolved d plan context ended ∧
            Leaves context ended (conclude plan context (collected plan context.bag ended)) := by
  cases accepted : Plan.ofParams limit params with
  | error failure =>
      unfold run
      rw [accepted]
  | ok plan =>
      refine ⟨run_eq_endings accepted d context, ?_⟩
      refine (endings_resolved d plan context).mono fun ended resolved => ⟨resolved, ?_⟩
      cases collects : collected plan context.bag ended with
      | error failure => exact ⟨fun _ _ => rfl, nofun⟩
      | ok finished =>
          exact ⟨nofun, fun _ _ => ⟨merged_of_collected collects resolved.apart, rfl⟩⟩

end Parallel

end ActionGraph.Action
