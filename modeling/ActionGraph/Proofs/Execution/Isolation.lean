import ActionGraph.Proofs.Action.Concurrency
import ActionGraph.Proofs.Execution.Separation
import ActionGraph.Proofs.Execution.Slots

/-!
# Isolation

An execution whose nodes keep to a share of their own goes the same way among
others as in a system of its own.
-/

namespace ActionGraph

open ActionGraph.Action (Shares World)
open Execution (Names Phase Run)
open ActionGraph.Graph (Loaded)

variable {σ V : Type} {registry : Action.Registry σ} {shares : Shares σ V} {i : Nat}

def Execution.Names.first : Names :=
  ⟨Engine.executionId 0, Engine.graphId 0⟩

def Graph.Loaded.afresh (g : Loaded) (now : Nat) : Loaded :=
  ⟨Names.first.graph, g.definition, g.topology, now⟩

/-- What is left of an act if an execution of a graph is alone, and the first of its system. -/
def Act.solo (id graph : String) : Act → Option Act
  | .load _ => none
  | .start _ _ => none
  | .withdraw other => if other = graph then some (.withdraw Names.first.graph) else none
  -- an execution goes on as before when its graph is forgotten
  | .discard _ _ => none
  | .request other asked => if other = id then some (.request Names.first.id asked) else none
  | .take other => if other = id then some (.take Names.first.id) else none
  | .go other => if other = id then some (.go Names.first.id) else none
  | .pass milliseconds => some (.pass milliseconds)

/-- The acts that are left, and what they are if the execution is alone. -/
inductive Act.Kept (id graph : String) : Act → Act → Prop
  | withdraw : Kept id graph (.withdraw graph) (.withdraw Names.first.graph)
  | request (asked : Request) : Kept id graph (.request id asked) (.request Names.first.id asked)
  | take : Kept id graph (.take id) (.take Names.first.id)
  | go : Kept id graph (.go id) (.go Names.first.id)
  | pass (milliseconds : Nat) : Kept id graph (.pass milliseconds) (.pass milliseconds)

theorem Act.kept_of_solo {id graph : String} {act act' : Act}
    (left : act.solo id graph = some act') : Kept id graph act act' := by
  cases act with
  | load d => cases left
  | start graph' context => cases left
  | discard graph' removed => cases left
  | withdraw other =>
      obtain ⟨rfl, ⟨⟩⟩ := Option.ite_none_right_eq_some.mp left
      exact .withdraw
  | request other asked =>
      obtain ⟨rfl, ⟨⟩⟩ := Option.ite_none_right_eq_some.mp left
      exact .request asked
  | take other =>
      obtain ⟨rfl, ⟨⟩⟩ := Option.ite_none_right_eq_some.mp left
      exact .take
  | go other =>
      obtain ⟨rfl, ⟨⟩⟩ := Option.ite_none_right_eq_some.mp left
      exact .go
  | pass milliseconds =>
      cases left
      exact .pass milliseconds

theorem Act.ne_of_solo {id graph other : String} {act : Act} (dropped : act.solo id graph = none)
    (addressed : act.addressee? = some other) : id ≠ other := by
  rintro rfl
  cases act with
  | request id' asked =>
      cases addressed
      simp [solo] at dropped
  | take id' =>
      cases addressed
      simp [solo] at dropped
  | go id' =>
      cases addressed
      simp [solo] at dropped
  | _ => cases addressed

namespace System

variable {s : System σ} {act : Act} {id graph : String} {e : Execution}
  {owner : String → Nat} {settings : Settings} {world : World σ} {past : List Act}

/-! ## Systems side by side -/

/--
An execution of one system is the first of another one, with other names, and
where its run is in the one it is in the other.  It may not have been started.
-/
structure Twin (shares : Shares σ V) (i : Nat) (id : String) (g : Loaded) (s t : System σ) :
    Prop where
  engine : Engine.Twin id .first s.engine t.engine
  graph : ∀ e, s.held? id = some e → e.graph = g.id ∧ s.graph? g.id = some g ∧
    ∃ g', t.graph? Names.first.graph = some g' ∧ g'.turns = g.turns
  abreast : ∃ r, World.Matched shares i r s.place.world t.place.world ∧
    Option.Rel
      (fun run run' =>
        run'.started = run.started ∧ run.phase.Alike shares i .first r run'.phase)
      (s.run? id) (t.run? Names.first.id)

section Attempts

variable {t : System σ} {g : Loaded}

theorem attempt_request_of_held (held : s.held? id = some e) (request : Request) :
    s.attempt registry (.request id request) =
      (request.apply s.now e).toOption.map fun change => s.withEngine (s.engine.enter change) := by
  rw [attempt, held, Option.map_eq_bind]
  rfl

theorem attempt_take_of_held (held : s.held? id = some e) (found : s.graph? e.graph = some g) :
    s.attempt registry (.take id) =
      e.drive.toOption.map fun after =>
        { s.withEngine (s.engine.enter (after, [])) with
          runs := s.runs ++ [⟨id, s.now, .before g.turns⟩] } := by
  rw [attempt, held, Option.map_eq_bind, Option.bind_eq_bind, Option.bind_some, found]
  rfl

theorem attempt_go_of_run {run : Run σ} (running : s.run? id = some run) :
    s.attempt registry (.go id) =
      (run.step registry s.place).map fun p =>
        { s with
          place := p.2
          runs := s.runs.map fun r => if r.execution = id then p.1 else r } := by
  rw [attempt, running, Option.map_eq_bind]
  rfl

variable (twin : Twin shares i id g s t)
include twin

theorem Twin.now : t.now = s.now := by
  obtain ⟨_, matched, _⟩ := twin.abreast
  exact matched.now.symm

theorem Twin.heldToo (held : s.held? id = some e) :
    t.held? Names.first.id = some (e.named .first) := by
  refine twin.engine.held.trans ?_
  rw [show s.engine.held? id = some e from held, Option.map_some]

theorem Twin.absentToo (absent : s.held? id = none) : t.held? Names.first.id = none := by
  refine twin.engine.held.trans ?_
  rw [show s.engine.held? id = none from absent, Option.map_none]

theorem Twin.idleToo (idle : s.run? id = none) : t.run? Names.first.id = none := by
  obtain ⟨_, _, runs⟩ := twin.abreast
  rw [idle] at runs
  generalize t.run? Names.first.id = found at runs
  cases runs
  rfl

/-- The same change is entered on both sides. -/
theorem Twin.enter (held : s.held? id = some e) {change change' : Execution.Change}
    (same : change.1.id = e.id) (graph : change.1.graph = e.graph)
    (likewise : change.Alike .first change') :
    Twin shares i id g (s.withEngine (s.engine.enter change))
      (t.withEngine (t.engine.enter change')) := by
  refine ⟨twin.engine.enter held same likewise, fun e' there => ?_, twin.abreast⟩
  have after := Engine.held?_enter_of_held held same id
  rw [if_pos rfl] at after
  obtain rfl : change.1 = e' := Option.some.inj (after.symm.trans there)
  rw [graph]
  exact twin.graph e held

theorem Twin.request (request : Request) :
    Option.Rel (Twin shares i id g) (s.attempt registry (.request id request))
      (t.attempt registry (.request Names.first.id request)) := by
  cases held : s.held? id with
  | none =>
      simp only [attempt, held, twin.absentToo held]
      exact .none
  | some e =>
      rw [attempt_request_of_held held, attempt_request_of_held (twin.heldToo held), twin.now]
      refine rel_map (Execution.apply_named e .first s.now request) ?_
      intro change change' applied alike
      have steered := Request.steered (toOption_eq_some_iff.mp applied)
      exact twin.enter held steered.id steered.graph alike

theorem Twin.take (sound : s.Sound) :
    Option.Rel (Twin shares i id g) (s.attempt registry (.take id))
      (t.attempt registry (.take Names.first.id)) := by
  cases held : s.held? id with
  | none =>
      simp only [attempt, held, twin.absentToo held]
      exact .none
  | some e =>
      obtain ⟨graph, found, g', foundToo, turns⟩ := twin.graph e held
      rw [attempt_take_of_held held (graph ▸ found),
        attempt_take_of_held (twin.heldToo held) foundToo, twin.now, turns]
      refine rel_map (Execution.drive_named e .first) ?_
      rintro after _ driven rfl
      obtain ⟨_, free, same⟩ := Execution.standing_drive (toOption_eq_some_iff.mp driven)
      have entered : Twin shares i id g (s.withEngine (s.engine.enter (after, [])))
          (t.withEngine (t.engine.enter (after.named .first, []))) :=
        twin.enter held (congrArg Execution.Standing.id same)
          (congrArg Execution.Standing.graph same) rfl
      obtain ⟨r, matched, runs⟩ := twin.abreast
      have idle := sound.run?_of_free held free
      refine ⟨entered.engine, entered.graph, r, matched, ?_⟩
      rw [run?, run?, run?_append, run?_append, idle, twin.idleToo idle, Option.none_or,
        Option.none_or, if_pos rfl, if_pos rfl]
      exact .some ⟨rfl, Phase.alike_before _⟩

/-- The runs of the execution make the same step. -/
theorem Twin.go (sound : s.Sound)
    (onCourse : ∀ e run, s.held? id = some e → s.run? id = some run →
      g.Accepted ∧ ∃ lost late, Track.Course lost late g ⟨e, some run.phase⟩)
    (keeps : ∀ e, s.held? id = some e → g.KeepsTo registry shares i) :
    Option.Rel (Twin shares i id g) (s.attempt registry (.go id))
      (t.attempt registry (.go Names.first.id)) := by
  obtain ⟨r, matched, runs⟩ := twin.abreast
  cases running : s.run? id with
  | none =>
      simp only [attempt, running, twin.idleToo running]
      exact .none
  | some run =>
      rw [running] at runs
      generalize runningToo : t.run? Names.first.id = found at runs
      cases runs with
      | @some _ run' likewise =>
      obtain ⟨started, alike⟩ := likewise
      obtain ⟨e, held, _⟩ := sound.driven id run running
      obtain ⟨accepted, lost, late, course⟩ := onCourse e run held running
      have named := run?_execution running
      have namedToo := run?_execution runningToo
      have runs : Run.Twin shares i .first (run, s.place) (run', t.place) :=
        ⟨named ▸ twin.engine, namedToo, started, r, matched, alike⟩
      rw [attempt_go_of_run running, attempt_go_of_run runningToo]
      rw [← named] at held
      refine rel_map (runs.step held accepted course (keeps e (named ▸ held))) ?_
      rintro p q stepped ⟨after, same, _⟩
      obtain ⟨_, e', advances, heldAfter⟩ := Run.advances_of_step held stepped
      have engine := after.engine
      rw [same, named] at engine
      obtain ⟨r, matched, phases⟩ := after.abreast
      refine ⟨engine, fun e'' there => ?_, r, matched, ?_⟩
      · have here := heldAfter id
        rw [named, if_pos rfl] at here
        obtain rfl : e' = e'' := Option.some.inj (here.symm.trans there)
        rw [advances.frame.2.1]
        exact twin.graph e (named ▸ held)
      · rw [run?, run?, run?_replace running (same.trans named),
          run?_replace runningToo after.execution, if_pos rfl, if_pos rfl]
        exact .some ⟨after.started, phases⟩

theorem Twin.withdraw :
    Twin shares i id g (s.withEngine (s.engine.withdraw g.id).1)
      (t.withEngine (t.engine.withdraw Names.first.graph).1) := by
  refine ⟨⟨twin.engine.limits, ?_⟩, fun e' there => ?_, twin.abreast⟩
  · refine (Engine.held?_withdraw t.engine _ _).trans ?_
    refine Eq.trans ?_ (congrArg (Option.map (·.named .first))
      (Engine.held?_withdraw s.engine g.id id).symm)
    rw [twin.engine.held, Option.map_map, Option.map_map]
    refine Option.map_congr fun e held => ?_
    have graph := (twin.graph e held).1
    have graphToo : (e.named .first).graph = Names.first.graph := rfl
    simp only [Function.comp_apply, graph, graphToo, decide_true, Bool.and_true]
    cases listed : e.listed <;> simp [Execution.named, listed]
  · have after := (Engine.held?_withdraw s.engine g.id id).symm.trans there
    obtain ⟨e, held, rfl⟩ := Option.map_eq_some_iff.mp after
    have graph := twin.graph e held
    split
    · exact graph
    · exact graph

theorem Twin.pass (milliseconds : Nat) :
    Twin shares i id g
      { s with place := { s.place with world := s.place.world.advance milliseconds } }
      { t with place := { t.place with world := t.place.world.advance milliseconds } } := by
  obtain ⟨r, matched, runs⟩ := twin.abreast
  refine ⟨twin.engine, twin.graph, r, ⟨?_, matched.share, matched.alarms⟩, runs⟩
  exact congrArg (· + milliseconds) matched.now

end Attempts

section Perform

variable {t : System σ} {g : Loaded} {act' : Act}

theorem Twin.perform (twin : Twin shares i id g s t)
    (attempts :
      Option.Rel (Twin shares i id g) (s.attempt registry act) (t.attempt registry act')) :
    Twin shares i id g (s.perform registry act) (t.perform registry act') := by
  rw [System.perform, System.perform]
  generalize s.attempt registry act = one at attempts ⊢
  generalize t.attempt registry act' = other at attempts ⊢
  cases attempts with
  | none => exact twin
  | some after => exact after

theorem limits_perform (numbered : s.Numbered) (registry : Action.Registry σ) (act : Act) :
    (s.perform registry act).engine.limits = s.engine.limits := by
  have effect := effect_of_perform numbered registry act
  generalize (s.perform registry act).engine = engine at effect ⊢
  cases effect with
  | still executions limits history unowned => exact limits
  | alter held alters => rfl
  | withdraw graph => rfl
  | enroll enrolled => exact (Engine.occupied_enroll enrolled).2

/-- An act that is not about an execution leaves it alone, unless it starts it. -/
theorem untouched_of_solo (sound : s.Sound) (registry : Action.Registry σ)
    (ofGraph : ∀ e, s.held? id = some e → e.graph = graph) (dropped : act.solo id graph = none)
    (old : s.held? id = none → (s.perform registry act).held? id = none) :
    Untouched id s (s.perform registry act) := by
  cases addressed : act.addressee? with
  | some other =>
      exact untouched_of_addressed sound registry addressed (Act.ne_of_solo dropped addressed)
  | none =>
      cases done : s.attempt registry act with
      | none =>
          rw [perform_of_none done]
          exact ⟨rfl, rfl⟩
      | some s' =>
          rw [perform_of_some done] at old ⊢
          cases act with
          | load d =>
              obtain ⟨held, runs, _⟩ := attempt_load done
              exact .of_same (congrFun held id) runs
          | start graph' context =>
              obtain ⟨runs, _, _, _, _, _, heldAfter⟩ := attempt_start done
              refine .of_same ?_ runs
              cases held : s.held? id with
              | none => exact old held
              | some e => rw [heldAfter, held, Option.some_or]
          | withdraw graph' =>
              cases done
              have apart : graph' ≠ graph := fun same => by simp [Act.solo, same] at dropped
              refine .of_same ?_ rfl
              cases held : s.held? id with
              | none => exact old held
              | some e => exact held?_withdraw_of_ne held (ofGraph e held ▸ apart.symm)
          | discard graph' removed =>
              cases done
              exact ⟨rfl, rfl⟩
          | pass milliseconds => cases dropped
          | _ => cases addressed

variable (reached : (initial settings world).performAll registry past = s)
  (separated : s.Separated registry shares owner) (twin : Twin shares (owner id) id g s t)
include reached separated twin

/-- An act about others leaves an execution beside its twin. -/
theorem Twin.perform_other (steady : s.Steady shares owner)
    (only : ∀ other, owner other = owner id → other = id)
    (dropped : act.solo id g.id = none)
    (old : s.held? id = none → (s.perform registry act).held? id = none) :
    Twin shares (owner id) id g (s.perform registry act) t := by
  have sound := sound_of_reached reached
  -- what the act does to the world belongs to a share `j` that is not the one of the execution
  obtain ⟨j, apart, count, tame⟩ : ∃ j, owner id ≠ j ∧ ∃ count,
      World.Tame shares j count s.place.world (s.perform registry act).place.world := by
    cases act with
    | go id' =>
        have elsewhere : id ≠ id' := Act.ne_of_solo dropped rfl
        refine ⟨owner id', fun same => elsewhere (only id' same.symm).symm, ?_⟩
        refine tame_perform reached steady separated _ ?_ nofun
        rintro _ ⟨⟩
        rfl
    | pass milliseconds => cases dropped
    | _ =>
        exact ⟨owner id + 1, Nat.ne_of_lt (Nat.lt_succ_self _),
          tame_perform reached steady separated _ nofun nofun⟩
  have ofGraph : ∀ e, s.held? id = some e → e.graph = g.id := fun e held => (twin.graph e held).1
  have untouched := untouched_of_solo sound registry ofGraph dropped old
  obtain ⟨r, matched, runs⟩ := twin.abreast
  refine ⟨⟨?_, ?_⟩, fun e held => ?_, r, ?_, ?_⟩
  · rw [twin.engine.limits, limits_perform (numbered_of_reached reached)]
  · exact twin.engine.held.trans (congrArg _ untouched.held.symm)
  · rw [untouched.held] at held
    obtain ⟨graph, found, copy⟩ := twin.graph e held
    exact ⟨graph, graph?_perform found, copy⟩
  · refine ⟨tame.now.trans matched.now, (tame.others _ apart).trans matched.share, ?_⟩
    exact matched.alarms.later (tame.alarms ▸ Nat.le_add_right _ _) (Nat.le_refl _)
  · rw [untouched.run]
    exact runs

/-- An act about an execution does the same to its twin. -/
theorem Twin.perform_solo (kept : act.Kept id g.id act') :
    Twin shares (owner id) id g (s.perform registry act) (t.perform registry act') := by
  have sound := sound_of_reached reached
  cases kept with
  | withdraw => exact twin.withdraw
  | request asked => exact twin.perform (twin.request asked)
  | take => exact twin.perform (twin.take sound)
  | go =>
      refine twin.perform (twin.go sound (fun e run held running => ?_) fun e held => ?_)
      · obtain ⟨g', found, accepted, onCourse⟩ := course_of_reached reached held running
        obtain ⟨graph, foundToo, _⟩ := twin.graph e held
        rw [graph] at found
        obtain rfl : g' = g := Option.some.inj (found.symm.trans foundToo)
        exact ⟨accepted, onCourse⟩
      · obtain ⟨graph, found, _⟩ := twin.graph e held
        exact separated id e g held (graph ▸ found)
  | pass milliseconds => exact twin.pass milliseconds

end Perform

/-! ## An execution alone -/

section Alone

variable {t : System σ} {g : Loaded} {context : Context}

/-- Acts after which an execution is where it was among others, and the system has no other. -/
def solo (id : String) (g : Loaded) (context : Context) (before after : List Act) : List Act :=
  before.filterMap (Act.solo id g.id) ++
    [.load g.definition, .start Names.first.graph context] ++ after.filterMap (Act.solo id g.id)

theorem twin_initial (settings : Settings) (world : World σ) (id : String) (g : Loaded) :
    Twin shares i id g (initial settings world) (initial settings world) := by
  refine ⟨⟨rfl, rfl⟩, fun e held => ?_, fun _ _ => False, ⟨rfl, rfl, fits_none _ _⟩, .none⟩
  cases held

/-- Without graphs and executions only time passes. -/
theorem perform_kept_initial {act' : Act} (kept : act.Kept id graph act') :
    ∃ world', (initial settings world).perform registry act' = initial settings world' := by
  cases kept with
  | pass milliseconds => exact ⟨world.advance milliseconds, rfl⟩
  | _ => exact ⟨world, rfl⟩

theorem performAll_solo_initial (acts : List Act) :
    ∃ world', (initial settings world).performAll registry (acts.filterMap (Act.solo id graph)) =
      initial settings world' := by
  induction acts generalizing world with
  | nil => exact ⟨world, rfl⟩
  | cons act rest ih =>
      cases only : act.solo id graph with
      | none =>
          rw [List.filterMap_cons_none only]
          exact ih
      | some act' =>
          obtain ⟨world', same⟩ : ∃ world', (initial settings world).perform registry act' =
              initial settings world' :=
            perform_kept_initial (Act.kept_of_solo only)
          rw [List.filterMap_cons_some only, performAll, List.foldl_cons, same]
          exact ih

/-- Acts that do not start an execution keep it beside its twin: each is its own or of others. -/
theorem Twin.performAll (reached : (initial settings world).performAll registry past = s)
    (only : ∀ other, owner other = owner id → other = id)
    (twin : Twin shares (owner id) id g s t) {acts : List Act}
    (separated : (s.performAll registry acts).Separated registry shares owner)
    (old : s.held? id = none → (s.performAll registry acts).held? id = none) :
    Twin shares (owner id) id g (s.performAll registry acts)
      (t.performAll registry (acts.filterMap (Act.solo id g.id))) := by
  induction acts generalizing past s t with
  | nil => exact twin
  | cons act rest ih =>
      have sound := sound_of_reached reached
      have here := separated.of_performAll sound
      have reachedNext : (initial settings world).performAll registry (past ++ [act]) =
          s.perform registry act := by rw [performAll_snoc, reached]
      have oldFirst : s.held? id = none → (s.perform registry act).held? id = none :=
        fun absent => held?_eq_none_of_performAll (sound.perform registry act) (old absent)
      have oldRest : (s.perform registry act).held? id = none →
          ((s.perform registry act).performAll registry rest).held? id = none :=
        fun absent => old (held?_eq_none_of_perform sound absent)
      cases part : act.solo id g.id with
      | none =>
          rw [List.filterMap_cons_none part]
          have steady : s.Steady shares owner := by
            subst reached
            exact steady_performAll here
          exact ih reachedNext (twin.perform_other reached here steady only part oldFirst) separated
            oldRest
      | some act' =>
          rw [List.filterMap_cons_some part]
          have after := Twin.perform_solo reached here twin (Act.kept_of_solo part)
          exact ih reachedNext after separated oldRest

theorem load_alone (registry : Action.Registry σ) (settings : Settings) (world : World σ)
    (accepted : g.Accepted) :
    ∃ engine : Engine,
      (initial settings world).attempt registry (.load g.definition) =
          some ⟨⟨engine, world⟩, [g.afresh world.now], []⟩ ∧
        engine.limits = settings.executor ∧ engine.executions = [] := by
  have made : Loaded.ofDefinition (Engine.graphId 0) world.now g.definition =
      .ok (g.afresh world.now) := by
    rw [Loaded.ofDefinition, show g.definition.compile = .ok g.topology from accepted]
    rfl
  obtain ⟨engine, loaded, limits, executions, graphs⟩ :
      ∃ engine, (Engine.ofSettings settings).load world.now g.definition =
          .ok (engine, Names.first.graph) ∧
        engine.limits = settings.executor ∧ engine.executions = [] ∧
        engine.graphs = [g.afresh world.now] :=
    ⟨_, bind_eq_ok_iff.mpr ⟨_, made, rfl⟩, rfl, rfl, rfl⟩
  refine ⟨engine, attempt_load_iff.mpr ⟨engine, _, loaded, ?_⟩, limits, executions⟩
  rw [graphs]
  rfl

/-- The first execution of a system is started. -/
theorem start_alone {engine : Engine} (free : 0 < engine.limits.maxConcurrent)
    (empty : engine.executions = []) (registry : Action.Registry σ) (world : World σ)
    (g : Loaded) (context : Context) :
    ∃ after : Engine,
      (⟨⟨engine, world⟩, [g.afresh world.now], []⟩ : System σ).attempt registry
          (.start Names.first.graph context) =
          some ⟨⟨after, world⟩, [g.afresh world.now], []⟩ ∧
        after.limits = engine.limits ∧
        after.held? Names.first.id =
          some (.start Names.first.id Names.first.graph g.nodes engine.limits.maxQueueDepth context
            world.now) := by
  have idle : engine.occupied < engine.limits.maxConcurrent := by
    rwa [Engine.occupied, empty]
  obtain ⟨after, made, enrolled⟩ :=
    (Engine.enroll_eq_ok_iff engine world.now (g.afresh world.now) context).mpr idle
  have found : (⟨⟨engine, world⟩, [g.afresh world.now], []⟩ : System σ).graph?
      Names.first.graph = some (g.afresh world.now) :=
    List.find?_cons_of_pos (decide_eq_true rfl)
  obtain ⟨_, named, _⟩ := Engine.enroll_eq_ok enrolled
  have held := Engine.held?_enroll enrolled Names.first.id
  rw [empty] at named
  replace named : made = Names.first.id := named
  rw [named, if_pos rfl, show engine.held? Names.first.id = none by rw [Engine.held?, empty]; rfl,
    Option.none_or] at held
  exact ⟨after, attempt_start_iff.mpr ⟨_, found, after, made, enrolled, rfl⟩,
    (Engine.occupied_enroll enrolled).2, held⟩

/-- How an execution is entered that begins with an act. -/
theorem attempt_start_of_began (absent : s.held? id = none) (found : s.graph? g.id = some g)
    (began : (s.perform registry (.start g.id context)).held? id = some e) :
    ∃ engine, s.attempt registry (.start g.id context) = some (s.withEngine engine) ∧
      engine.limits = s.engine.limits ∧ 0 < s.engine.limits.maxConcurrent ∧
      engine.held? id =
        some (.start id g.id g.nodes s.engine.limits.maxQueueDepth context s.now) := by
  cases done : s.attempt registry (.start g.id context) with
  | none =>
      rw [perform_of_none done, absent] at began
      cases began
  | some s' =>
      rw [perform_of_some done] at began
      obtain ⟨g', foundToo, engine, made, enrolled, rfl⟩ := attempt_start_iff.mp done
      obtain rfl : g' = g := Option.some.inj (foundToo.symm.trans found)
      have held := Engine.held?_enroll enrolled id
      rw [show s.engine.held? id = none from absent, Option.none_or] at held
      have named : made = id := by
        by_contra other
        rw [if_neg other] at held
        cases held.symm.trans began
      rw [if_pos named, named] at held
      have room := (Engine.enroll_eq_ok enrolled).1
      exact ⟨engine, rfl, (Engine.occupied_enroll enrolled).2, Nat.zero_lt_of_lt room, held⟩

/-- From its start on an execution has a twin that is alone. -/
theorem Twin.start (twin : Twin shares i id g s (initial settings world)) (sound : s.Sound)
    (absent : s.held? id = none) (found : s.graph? g.id = some g)
    (began : (s.perform registry (.start g.id context)).held? id = some e) :
    Twin shares i id g (s.perform registry (.start g.id context))
      ((initial settings world).performAll registry
        [.load g.definition, .start Names.first.graph context]) := by
  obtain ⟨engine, done, kept, room, held⟩ := attempt_start_of_began absent found began
  have limits : settings.executor = s.engine.limits := twin.engine.limits
  have now : world.now = s.now := twin.now
  obtain ⟨first, loaded, limitsFirst, empty⟩ :=
    load_alone registry settings world (graph?_accepted sound found)
  have free : 0 < first.limits.maxConcurrent := by rwa [limitsFirst, limits]
  obtain ⟨after, started, limitsAfter, heldToo⟩ := start_alone free empty registry world g context
  have alone : (initial settings world).performAll registry
      [.load g.definition, .start Names.first.graph context] =
        ⟨⟨after, world⟩, [g.afresh world.now], []⟩ := by
    rw [System.performAll, List.foldl_cons, perform_of_some loaded, List.foldl_cons,
      perform_of_some started, List.foldl_nil]
  rw [perform_of_some done, alone]
  obtain ⟨r, matched, _⟩ := twin.abreast
  refine ⟨⟨?_, ?_⟩, fun e' there => ?_, r, matched, ?_⟩
  · exact limitsAfter.trans (limitsFirst.trans (limits.trans kept.symm))
  · refine heldToo.trans ((congrArg (Option.map (·.named .first)) held).trans ?_).symm
    rw [limitsFirst, limits, now]
    rfl
  · obtain rfl := Option.some.inj (held.symm.trans there)
    exact ⟨rfl, found, g.afresh world.now, List.find?_cons_of_pos (decide_eq_true rfl), rfl⟩
  · rw [show (s.withEngine engine).run? id = none from sound.run?_of_not_held absent]
    exact .none

/-- Twins have the same report. -/
theorem Twin.result? (twin : Twin shares i id g s t) :
    t.result? Names.first.id =
      (s.result? id).map fun result => result.map (·.named .first) := by
  obtain ⟨_, _, runs⟩ := twin.abreast
  unfold System.result?
  generalize s.run? id = one at runs ⊢
  generalize t.run? Names.first.id = other at runs ⊢
  cases runs with
  | none => rfl
  | @some run run' likewise =>
      have alike := likewise.2
      rw [Option.bind_some, Option.bind_some, Run.result?, Run.result?]
      generalize run.phase = phase at alike ⊢
      generalize run'.phase = phase' at alike ⊢
      cases phase with
      | working turn rest context since work =>
          obtain ⟨_, rfl, _⟩ := alike
          rfl
      | _ =>
          obtain rfl : phase' = _ := alike
          rfl

/-- Each execution was started by one act. -/
theorem exists_start {acts : List Act}
    (held : ((initial settings world).performAll registry acts).held? id = some e) :
    ∃ before context after g, acts = before ++ .start g.id context :: after ∧
      ((initial settings world).performAll registry before).held? id = none ∧
      ((initial settings world).performAll registry before).graph? g.id = some g ∧
      ∃ began, (((initial settings world).performAll registry before).perform registry
        (.start g.id context)).held? id = some began := by
  induction acts using List.reverseRecOn generalizing e with
  | nil => cases held
  | append_singleton acts act ih =>
      cases earlier : ((initial settings world).performAll registry acts).held? id with
      | none =>
          rw [performAll_snoc] at held
          have sound := (sound_initial settings world).performAll registry acts
          obtain ⟨g, context, rfl, found, _⟩ := fresh_of_perform sound earlier held
          exact ⟨acts, context, [], g, rfl, earlier, found, e, held⟩
      | some e' =>
          obtain ⟨before, context, after, g, rfl, absent, found, began⟩ := ih earlier
          exact ⟨before, context, after ++ [act], g, by rw [List.append_assoc, List.cons_append],
            absent, found, began⟩

/-- After all that is left of the acts an execution is beside its twin. -/
theorem twin_alone {before after : List Act} (only : ∀ other, owner other = owner id → other = id)
    (absent : ((initial settings world).performAll registry before).held? id = none)
    (found : ((initial settings world).performAll registry before).graph? g.id = some g)
    (began : (((initial settings world).performAll registry before).perform registry
      (.start g.id context)).held? id = some e)
    (separated : ((initial settings world).performAll registry
      (before ++ .start g.id context :: after)).Separated registry shares owner) :
    Twin shares (owner id) id g
      ((initial settings world).performAll registry (before ++ .start g.id context :: after))
      ((initial settings world).performAll registry (solo id g context before after)) := by
  have reached : (initial settings world).performAll registry (before ++ [.start g.id context]) =
      ((initial settings world).performAll registry before).perform registry
        (.start g.id context) := performAll_snoc _ _ _ _
  have sound := (sound_initial settings world).performAll registry before
  rw [performAll_append] at separated ⊢
  have waiting : Twin shares (owner id) id g ((initial settings world).performAll registry before)
      ((initial settings world).performAll registry (before.filterMap (Act.solo id g.id))) := by
    have begun : (initial settings world).performAll registry [] = initial settings world := rfl
    exact Twin.performAll begun only (twin_initial settings world id g)
      (separated.of_performAll sound) fun _ => absent
  obtain ⟨world', passed⟩ : ∃ world', (initial settings world).performAll registry
      (before.filterMap (Act.solo id g.id)) = initial settings world' :=
    performAll_solo_initial before
  rw [passed] at waiting
  rw [solo, performAll_append, performAll_append, passed]
  refine Twin.performAll reached only (waiting.start sound absent found began) separated ?_
  exact fun gone => absurd (gone.symm.trans began) nofun

end Alone

/-! ## Executions among others -/

/--
Operations on an execution or a graph leave the executions of others as they
are.  If the nodes of each execution keep to a share of its own, then each one
is at any time where it would be alone, and what its run answers is the same,
under the names that it would have alone.
-/
theorem executions_isolated (registry : Action.Registry σ) (settings : Settings) (world : World σ)
    (acts : List Act) :
    let s := (initial settings world).performAll registry acts
    s.Isolated registry ∧
      ∀ (V : Type) (shares : Shares σ V) (owner : String → Nat) (id : String) (e : Execution),
        s.Separated registry shares owner → s.held? id = some e →
        (∀ other, owner other = owner id → other = id) →
        ∃ before context after g, acts = before ++ .start g.id context :: after ∧
          ((initial settings world).performAll registry before).held? id = none ∧
          ((initial settings world).performAll registry before).graph? g.id = some g ∧
          let alone := (initial settings world).performAll registry (solo id g context before after)
          alone.held? Names.first.id = some (e.named .first) ∧
            alone.result? Names.first.id =
              (s.result? id).map fun result => result.map (·.named .first) := by
  refine ⟨((sound_initial settings world).performAll registry acts).isolated
    ((numbered_initial settings world).performAll acts) registry, ?_⟩
  intro V shares owner id e separated held only
  obtain ⟨before, context, after, g, rfl, absent, found, e₀, began⟩ := exists_start held
  refine ⟨before, context, after, g, rfl, absent, found, ?_⟩
  have twin := twin_alone only absent found began separated
  exact ⟨twin.heldToo held, twin.result?⟩

/-! ### Two executions that ask a collaborator each -/

def single (node : Graph.Node) : Graph.Definition :=
  (Graph.Definition.named "single" "1").withNode node

def replying : Graph.Node :=
  ⟨"a", "llm_generate", .ofFields
    [("prompt", .str "Hi"), ("model", .str "m"), ("outputKey", .str "text")]⟩

def routing : Graph.Node :=
  ⟨"a", "semantic_route", .ofFields
    [("query", .str "Hi"), ("outputKey", .str "route"),
      ("routes", .arr [.ofFields
        [("name", .str "greeting"), ("examples", .ofStrings ["Hello"])]])]⟩

def mingledRuns : List Act :=
  [.load (single replying), .load (single routing), .start "g1" default, .start "g2" default,
    .take "e1", .take "e2"] ++ (List.replicate 20 [Act.go "e1", .pass 100, .go "e2"]).flatten

def mingled : System Rehearsal.Stage :=
  (initial default Action.Parallel.stageWorld).performAll Action.Parallel.staged mingledRuns

def mingledOwner (id : String) : Nat :=
  if id = "e1" then 0 else if id = "e2" then 1 else 2

open Action.Parallel (staged stageShares stageWorld staged_made)

theorem replying_keepsTo {g : Loaded} (nodes : g.turns.map (·.node) = [replying]) :
    g.KeepsTo staged stageShares 0 := by
  intro turn mem context
  have node : turn.node = replying :=
    List.mem_singleton.mp (nodes ▸ List.mem_map_of_mem mem)
  rw [node]
  refine Action.Registry.keepsTo_dispatchWithin staged_made ?_ _ context
  refine .of_plain ⟨fun _ model known request => ?_, fun route => ?_⟩ (by decide)
  · obtain rfl := Option.some.inj known
    exact Action.Parallel.model_keepsTo .slow request
  · exact absurd route (by decide)

theorem routing_keepsTo {g : Loaded} (nodes : g.turns.map (·.node) = [routing]) :
    g.KeepsTo staged stageShares 1 := by
  intro turn mem context
  have node : turn.node = routing :=
    List.mem_singleton.mp (nodes ▸ List.mem_map_of_mem mem)
  rw [node]
  refine Action.Registry.keepsTo_dispatchWithin staged_made ?_ _ context
  refine .of_plain ⟨fun llm => absurd llm (by decide), fun _ embedder known => ?_⟩ (by decide)
  obtain rfl := Option.some.inj known
  exact ⟨Action.Parallel.ownsCache_stage, Action.Parallel.embedder_keepsTo .plain .empty⟩

theorem row_of_held (held : s.held? id = some e) :
    (id, e.graph) ∈ s.engine.executions.map fun e => (e.id, e.graph) := by
  rw [← Engine.held?_id held]
  exact List.mem_map_of_mem (List.mem_of_find?_eq_some held)

theorem row_of_found {g : Loaded} (found : s.graph? id = some g) :
    (id, g.turns.map (·.node)) ∈ s.loaded.map fun g => (g.id, g.turns.map (·.node)) := by
  rw [← graph?_id found]
  exact List.mem_map_of_mem (List.mem_of_find?_eq_some found)

theorem mingled_separated : mingled.Separated staged stageShares mingledOwner := by
  intro id e g held found
  have executions : mingled.engine.executions.map (fun e => (e.id, e.graph)) =
      [("e1", "g1"), ("e2", "g2")] := by decide +kernel
  have graphs : mingled.loaded.map (fun g => (g.id, g.turns.map (·.node))) =
      [("g1", [replying]), ("g2", [routing])] := by decide +kernel
  have one := row_of_held held
  have ofIt := row_of_found found
  rw [executions] at one
  rw [graphs] at ofIt
  simp only [List.mem_cons, List.not_mem_nil, or_false, Prod.mk.injEq] at one ofIt
  rcases one with ⟨rfl, graph⟩ | ⟨rfl, graph⟩
  · rw [graph] at ofIt
    rcases ofIt with ⟨_, nodes⟩ | ⟨other, _⟩
    · exact replying_keepsTo nodes
    · exact absurd other (by decide)
  · rw [graph] at ofIt
    rcases ofIt with ⟨other, _⟩ | ⟨_, nodes⟩
    · exact absurd other (by decide)
    · exact routing_keepsTo nodes

theorem mingledOwner_apart (other : String) (same : mingledOwner other = mingledOwner "e2") :
    other = "e2" := by
  by_contra apart
  by_cases first : other = "e1"
  · rw [first] at same
    exact absurd same (by decide)
  · rw [mingledOwner, if_neg first, if_neg apart] at same
    exact absurd same (by decide)

/-- While the model takes its time to reply, a route is chosen as if nobody else were there. -/
theorem executions_isolated_of_mingled :
    mingled.Separated staged stageShares mingledOwner ∧
      (∀ other, mingledOwner other = mingledOwner "e2" → other = "e2") ∧
      mingled.Isolated staged ∧
      ∃ e result, mingled.held? "e2" = some e ∧ mingled.result? "e2" = some result ∧
        ∃ before context after g, mingledRuns = before ++ .start g.id context :: after ∧
          let alone := (initial default stageWorld).performAll staged
            (solo "e2" g context before after)
          alone.held? Names.first.id = some (e.named .first) ∧
            alone.result? Names.first.id = some (result.map (·.named .first)) := by
  obtain ⟨isolated, apart⟩ := executions_isolated staged default stageWorld mingledRuns
  have answered : (mingled.result? "e2").isSome := by decide +kernel
  obtain ⟨result, returned⟩ := Option.isSome_iff_exists.mp answered
  have entered : (mingled.held? "e2").isSome := by decide +kernel
  obtain ⟨e, held⟩ := Option.isSome_iff_exists.mp entered
  obtain ⟨before, context, after, g, acts, _, _, alone, report⟩ :=
    apart _ stageShares mingledOwner "e2" e mingled_separated held mingledOwner_apart
  refine ⟨mingled_separated, mingledOwner_apart, isolated, e, result, held, returned, before,
    context, after, g, acts, alone, report.trans ?_⟩
  rw [show ((initial default stageWorld).performAll staged mingledRuns).result? "e2" = some result
    from returned, Option.map_some]

end System

end ActionGraph
