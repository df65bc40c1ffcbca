import ActionGraph.Proofs.Execution.Slots
import ActionGraph.Proofs.Execution.Tidings

/-!
# Orphans

A start looks up a graph in one table and enters its execution in another; an
unload looks up a graph, takes its executions out of their table, cancels them
and then forgets the graph.  Other sections may come between any two of these.
An execution of the table is an orphan, once all calls have returned, exactly
if it was entered when its graph was on its way out.
-/

namespace ActionGraph

open Execution (Run Phase Change Standing)
open ActionGraph.Graph (Loaded)

variable {σ : Type}

/-! ## Executions stay with their graph -/

namespace Execution

/-- An execution goes on as another, which is no more in the table than it. -/
structure Continues (e after : Execution) : Prop where
  id : after.id = e.id
  graph : after.graph = e.graph
  listed : after.listed = true → e.listed = true

variable {e after : Execution} {now : Nat}

theorem Continues.refl (e : Execution) : Continues e e :=
  ⟨rfl, rfl, fun listed => listed⟩

theorem Continues.of_standing {s : Standing} (same : after.standing = s) (id : s.id = e.id)
    (graph : s.graph = e.graph) (listed : after.listed = true → e.listed = true) :
    Continues e after :=
  ⟨(congrArg Standing.id same).trans id, (congrArg Standing.graph same).trans graph, listed⟩

theorem Continues.of_apply {request : Request} {change : Change}
    (accepted : request.apply now e = .ok change) : Continues e change.1 := by
  have steered := Request.steered accepted
  refine ⟨steered.id, steered.graph, fun listed => ?_⟩
  cases request with
  | inject node port value =>
      obtain ⟨_, sent, delivered, rfl⟩ := inject_eq_ok accepted
      exact (listed_deliver delivered).symm.trans listed
  | pause =>
      obtain ⟨_, rfl⟩ := pause_eq_ok accepted
      exact listed
  | resume =>
      obtain ⟨_, rfl⟩ := resume_eq_ok accepted
      exact listed
  | stop =>
      cases accepted
      unfold stop at listed
      split at listed <;> exact listed
  | remove =>
      obtain ⟨_, rfl⟩ := remove_eq_ok accepted
      cases listed

theorem Continues.of_record (now : Nat) (node : Graph.Node) (edges : List Graph.Edge)
    (duration : Nat) (report : Action.Report) (context : Context) :
    Continues e (e.record now node edges duration report context).1.1 := by
  cases success : report.success with
  | true =>
      have same := (record_success e now node edges duration report context success).1
      refine .of_standing same rfl rfl fun listed => ?_
      rw [record_of_success _ _ _ _ _ _ success, listed_forward, counted_eq] at listed
      exact listed
  | false =>
      rw [record_of_failure _ _ _ _ _ _ success]
      split
      · rw [counted_eq]
        exact ⟨rfl, rfl, fun listed => listed⟩
      · rw [counted_eq]
        exact ⟨rfl, rfl, fun listed => listed⟩

theorem Run.Changes.continues {phase : Phase σ} {change : Change}
    (changes : Run.Changes e phase change) : Continues e change.1 := by
  cases changes with
  | silent mute => exact .refl e
  | claim taken =>
      obtain ⟨i, _, rfl, _⟩ := claim_eq_taken taken
      exact ⟨rfl, rfl, fun listed => listed⟩
  | announce => exact .refl e
  | publish => exact .refl e
  | record now => exact .of_record now _ _ _ _ _
  | recordExpired now =>
      rw [recordExpired_eq, counted_eq]
      exact ⟨rfl, rfl, fun listed => listed⟩
  | finish now duration =>
      unfold Execution.finish
      split
      · exact ⟨rfl, rfl, fun listed => listed⟩
      · exact ⟨rfl, rfl, fun listed => listed⟩

end Execution

open Execution (Continues)

namespace System

theorem Alters.continues {s : System σ} {id : String} {e : Execution} {change : Change}
    (alters : s.Alters id e change) : Continues e change.1 := by
  cases alters with
  | request accepted => exact .of_apply accepted
  | take accepted =>
      obtain ⟨_, _, rfl⟩ := Execution.drive_eq_ok accepted
      exact ⟨rfl, rfl, fun listed => listed⟩
  | go running changes => exact changes.continues

end System

namespace Engine

/-- Every execution after was there before. -/
def Keeps (engine after : Engine) : Prop :=
  ∀ e ∈ after.executions, ∃ old ∈ engine.executions, Continues old e

def Lacks (engine : Engine) (graph : String) : Prop :=
  ∀ g ∈ engine.graphs, g.id ≠ graph

theorem lacks_iff {engine : Engine} {graph : String} :
    engine.Lacks graph ↔ ¬ ∃ g, engine.graph? graph = .ok g := by
  unfold Engine.graph?
  cases found : engine.graphs.find? fun g => g.id = graph with
  | none =>
      refine iff_of_true (fun g mem => ?_) (by rintro ⟨g, ⟨⟩⟩)
      simpa using List.find?_eq_none.mp found g mem
  | some g =>
      refine iff_of_false (fun lacks => ?_) (not_not_intro ⟨g, rfl⟩)
      have chosen := List.find?_some found
      exact lacks g (List.mem_of_find?_eq_some found) (of_decide_eq_true chosen)

theorem Keeps.refl (engine : Engine) : Keeps engine engine :=
  fun e mem => ⟨e, mem, .refl e⟩

theorem Keeps.enter {engine : Engine} {id : String} {e : Execution}
    (held : engine.held? id = some e) {change : Change} (continues : Continues e change.1) :
    engine.Keeps (engine.enter change) := by
  intro other mem
  obtain ⟨old, there, rfl⟩ := List.mem_map.mp mem
  split
  · exact ⟨e, List.mem_of_find?_eq_some held, continues⟩
  · exact ⟨old, there, .refl old⟩

theorem Keeps.cancel (engine : Engine) (now : Nat) (id : String) :
    engine.Keeps (engine.cancel now id) := by
  unfold Engine.cancel
  split
  · exact .refl engine
  · rename_i e held
    have stopped : Request.stop.apply now e = .ok (e.stop now) := rfl
    exact .enter held (.of_apply stopped)

end Engine

/-! ## Calls in flight -/

/-- A call that starts an execution, or one that unloads a graph. -/
inductive Errand where
  | start (graph : String) (context : Context)
  | unload (graph : String)

inductive Answer where
  | started (execution : String)
  | unloaded (removed : Nat)

/-- Where such a call is between two of its sections. -/
inductive Flight where
  | starting (graph : String) (context : Context)
  /-- The graph was looked up. -/
  | enrolling (g : Loaded) (context : Context)
  | unloading (graph : String)
  /-- The graph is known. -/
  | withdrawing (graph : String)
  /-- So many executions were taken out of the table, and those that are left are cancelled. -/
  | cancelling (graph : String) (removed : Nat) (doomed : List String)
  | returned (answer : Except Failure Answer)

def Errand.flight : Errand → Flight
  | .start graph context => .starting graph context
  | .unload graph => .unloading graph

namespace Flight

def isOver : Flight → Bool
  | .returned _ => true
  | _ => false

def step (now : Nat) (engine : Engine) : Flight → Flight × Engine
  | .starting graph context =>
      match engine.graph? graph with
      | .ok g => (.enrolling g context, engine)
      | .error failure => (.returned (.error failure), engine)
  | .enrolling g context =>
      match engine.enroll now g context with
      | .ok (after, id) => (.returned (.ok (.started id)), after)
      | .error failure => (.returned (.error failure), engine)
  | .unloading graph =>
      match engine.graph? graph with
      | .ok _ => (.withdrawing graph, engine)
      | .error failure => (.returned (.error failure), engine)
  | .withdrawing graph =>
      let (after, removed) := engine.withdraw graph
      (.cancelling graph removed.length removed, after)
  | .cancelling graph removed (id :: rest) =>
      (.cancelling graph removed rest, engine.cancel now id)
  | .cancelling graph removed [] =>
      (.returned (.ok (.unloaded removed)), engine.discard graph removed)
  | .returned answer => (.returned answer, engine)

/-- The graph that a call has looked up to enter an execution of it. -/
def sought? : Flight → Option Loaded
  | .enrolling g _ => some g
  | _ => none

/-- Whether a call took the executions of a graph out of the table and is to forget the graph. -/
def forgets (graph : String) : Flight → Bool
  | .cancelling other _ _ => other = graph
  | _ => false

/-- So many sections of a call, with nothing between them. -/
def steps (now : Nat) : Nat → Flight × Engine → Flight × Engine
  | 0, state => state
  | n + 1, state => steps now n (state.1.step now state.2)

theorem steps_returned (now n : Nat) (answer : Except Failure Answer) (engine : Engine) :
    steps now n (.returned answer, engine) = (.returned answer, engine) := by
  induction n with
  | zero => rfl
  | succ n ih => exact ih

theorem steps_cancelling (now : Nat) (graph : String) (removed : Nat) (doomed : List String)
    (engine : Engine) :
    steps now (doomed.length + 1) (.cancelling graph removed doomed, engine) =
      (.returned (.ok (.unloaded removed)),
        (doomed.foldl (fun engine id => engine.cancel now id) engine).discard graph removed) := by
  induction doomed generalizing engine with
  | nil => rfl
  | cons id rest ih => exact ih (engine.cancel now id)

end Flight

def Errand.whole (now : Nat) (engine : Engine) : Errand → Except Failure Answer × Engine
  | .start graph context =>
      engine.settle ((engine.start now graph context).map fun (after, id) => (after, .started id))
  | .unload graph =>
      engine.settle ((engine.unload now graph).map fun (after, n) => (after, .unloaded n))

/-- A call does what the operation does if nothing comes between its sections. -/
theorem Errand.steps_whole (errand : Errand) (now : Nat) (engine : Engine) :
    ∃ n, Flight.steps now n (errand.flight, engine) =
      (.returned (errand.whole now engine).1, (errand.whole now engine).2) := by
  cases errand with
  | start graph context =>
      refine ⟨2, ?_⟩
      simp only [Errand.flight, Flight.steps, Flight.step, whole, Engine.start]
      cases engine.graph? graph with
      | error failure => rfl
      | ok g =>
          simp only [bind, Except.bind]
          cases engine.enroll now g context with
          | error failure => rfl
          | ok made => rfl
  | unload graph =>
      refine ⟨(engine.withdraw graph).2.length + 3, ?_⟩
      simp only [Errand.flight, Flight.steps, Flight.step, whole, Engine.unload]
      cases engine.graph? graph with
      | error failure => exact Flight.steps_returned now _ _ _
      | ok g => exact Flight.steps_cancelling now _ _ _ _

/-! ## Any order of sections -/

def Act.isErrand : Act → Bool
  | .start _ _ => true
  | .withdraw _ => true
  | .discard _ _ => true
  | _ => false

/-- A system, and calls that are in flight in it. -/
structure Traffic (σ : Type) where
  system : System σ
  flights : List Flight

namespace Traffic

inductive Move where
  /-- The next section of a call. -/
  | call (i : Nat)
  /-- An act that is no section of such a call. -/
  | act (act : Act)

def initial (settings : Settings) (world : Action.World σ) (errands : List Errand) : Traffic σ :=
  ⟨.initial settings world, errands.map Errand.flight⟩

def engine (t : Traffic σ) : Engine :=
  t.system.engine

def move (registry : Action.Registry σ) (t : Traffic σ) : Move → Traffic σ
  | .call i =>
      match t.flights[i]? with
      | none => t
      | some flight =>
          let (next, engine) := flight.step t.system.now t.engine
          ⟨t.system.withEngine engine, t.flights.set i next⟩
  | .act act => if act.isErrand then t else ⟨t.system.perform registry act, t.flights⟩

def moveAll (registry : Action.Registry σ) (t : Traffic σ) (moves : List Move) : Traffic σ :=
  moves.foldl (move registry) t

/-- The executions of a graph were taken out of the table, and it is forgotten or is to be. -/
def Leaving (t : Traffic σ) (graph : String) : Prop :=
  t.engine.Lacks graph ∨ ∃ flight ∈ t.flights, flight.forgets graph = true

/-- The move enters an execution of a graph that is leaving. -/
def Strays (t : Traffic σ) (move : Move) (execution : String) : Prop :=
  ∃ i g context after, move = .call i ∧ t.flights[i]? = some (.enrolling g context) ∧
    t.engine.enroll t.system.now g context = .ok (after, execution) ∧ t.Leaving g.id

/-- The execution was entered, in one of the moves, when its graph was leaving. -/
def Strayed (registry : Action.Registry σ) (execution : String) : Traffic σ → List Move → Prop
  | _, [] => False
  | t, move :: rest =>
      t.Strays move execution ∨ Strayed registry execution (t.move registry move) rest

/-- Executions that strayed, and no others, are those of the table whose graph is leaving. -/
structure Traced (t : Traffic σ) (strayed : String → Prop) : Prop where
  numbered : t.system.Numbered
  known : ∀ e ∈ t.engine.executions, e.graph ∈ t.system.loaded.map (·.id)
  sought : ∀ flight ∈ t.flights, ∀ g ∈ flight.sought?, g.id ∈ t.system.loaded.map (·.id)
  made : ∀ id, strayed id → id ∈ t.engine.executions.map (·.id)
  leaving : ∀ e ∈ t.engine.executions, e.listed = true → (t.Leaving e.graph ↔ strayed e.id)

section Traced

variable {registry : Action.Registry σ} {t : Traffic σ} {strayed : String → Prop}

theorem Traced.congr {strayed' : String → Prop} (traced : t.Traced strayed)
    (same : ∀ id, strayed id ↔ strayed' id) : t.Traced strayed' :=
  have equal : strayed = strayed' := funext fun id => propext (same id)
  equal ▸ traced

/-- Where no execution is new, those of the table have to be told only of their graphs. -/
theorem Traced.keep {after : Traffic σ} (traced : t.Traced strayed)
    (numbered : after.system.Numbered) (keeps : t.engine.Keeps after.engine)
    (ids : after.engine.executions.map (·.id) = t.engine.executions.map (·.id))
    (loaded : t.system.loaded.map (·.id) ⊆ after.system.loaded.map (·.id))
    (sought : ∀ flight ∈ after.flights, ∀ g ∈ flight.sought?,
      g.id ∈ after.system.loaded.map (·.id))
    (leaving : ∀ e ∈ after.engine.executions, e.listed = true →
      e.graph ∈ t.system.loaded.map (·.id) → (after.Leaving e.graph ↔ t.Leaving e.graph)) :
    after.Traced strayed where
  numbered := numbered
  known e mem := by
    obtain ⟨old, there, continues⟩ := keeps e mem
    rw [continues.graph]
    exact loaded (traced.known old there)
  sought := sought
  made id happened := ids ▸ traced.made id happened
  leaving e mem listed := by
    obtain ⟨old, there, continues⟩ := keeps e mem
    have known : e.graph ∈ t.system.loaded.map (·.id) :=
      continues.graph ▸ traced.known old there
    rw [leaving e mem listed known, continues.graph, continues.id]
    exact traced.leaving old there (continues.listed listed)

/-! ### Sections of calls -/

/-- What a call forgets, and what the others do. -/
theorem exists_forgets_set {flights : List Flight} {i : Nat} {flight : Flight}
    (found : flights[i]? = some flight) (next : Flight) (graph : String) :
    ∃ others : Prop,
      ((∃ f ∈ flights, f.forgets graph = true) ↔ flight.forgets graph = true ∨ others) ∧
        ((∃ f ∈ flights.set i next, f.forgets graph = true) ↔
          next.forgets graph = true ∨ others) := by
  obtain ⟨below, here⟩ := List.getElem?_eq_some_iff.mp found
  obtain ⟨before, after, split, _, set⟩ : ∃ before after,
      flights = before ++ flights[i] :: after ∧ before.length = i ∧
        flights.set i next = before ++ next :: after := List.exists_of_set below
  have any (f : Flight) : (∃ g ∈ before ++ f :: after, g.forgets graph = true) ↔
      f.forgets graph = true ∨ ∃ g ∈ before ++ after, g.forgets graph = true := by
    simp only [List.mem_append, List.mem_cons, or_and_right, exists_or, exists_eq_left]
    exact or_left_comm
  rw [here] at split
  refine ⟨_, ?_, set ▸ any next⟩
  rw [split]
  exact any flight

/-- A section of a call, given what it makes of the engine and where the call is then. -/
theorem Traced.set (traced : t.Traced strayed) {i : Nat} {flight next : Flight} {engine : Engine}
    (found : t.flights[i]? = some flight) (numbered : engine.Numbered t.system.loaded)
    (keeps : t.engine.Keeps engine)
    (ids : engine.executions.map (·.id) = t.engine.executions.map (·.id))
    (sought : ∀ g ∈ next.sought?, g.id ∈ t.system.loaded.map (·.id))
    (leaving : ∀ e ∈ engine.executions, e.listed = true →
      (engine.Lacks e.graph ∨ next.forgets e.graph = true ↔
        t.engine.Lacks e.graph ∨ flight.forgets e.graph = true)) :
    Traced ⟨t.system.withEngine engine, t.flights.set i next⟩ strayed := by
  refine traced.keep numbered keeps ids (List.Subset.refl _) ?_ ?_
  · intro f mem
    rcases List.mem_or_eq_of_mem_set mem with before | rfl
    · exact traced.sought f before
    · exact sought
  · intro e mem listed _
    obtain ⟨others, before, after⟩ := exists_forgets_set found next e.graph
    rw [Leaving, Leaving, before, after, ← or_assoc, ← or_assoc]
    exact or_congr_left (leaving e mem listed)

/-- A section that only looks, of a call that is to forget nothing. -/
theorem Traced.look (traced : t.Traced strayed) {i : Nat} {flight next : Flight}
    (found : t.flights[i]? = some flight)
    (sought : ∀ g ∈ next.sought?, g.id ∈ t.system.loaded.map (·.id))
    (same : ∀ graph, next.forgets graph = flight.forgets graph) :
    Traced ⟨t.system.withEngine t.engine, t.flights.set i next⟩ strayed := by
  refine traced.set found traced.numbered (.refl t.engine) rfl sought fun e mem listed => ?_
  rw [same]

theorem Traced.withdraw (traced : t.Traced strayed) {i : Nat} {graph : String}
    (found : t.flights[i]? = some (.withdrawing graph)) :
    Traced ⟨t.system.withEngine (t.engine.withdraw graph).1,
      t.flights.set i (.cancelling graph (t.engine.withdraw graph).2.length
        (t.engine.withdraw graph).2)⟩ strayed := by
  refine traced.set found (traced.numbered.withdraw graph) ?_ ?_ nofun ?_
  · intro e mem
    obtain ⟨old, there, rfl⟩ := List.mem_map.mp mem
    refine ⟨old, there, ?_⟩
    split
    · exact ⟨rfl, rfl, fun listed => absurd listed Bool.false_ne_true⟩
    · exact .refl old
  · exact Engine.ids_withdraw t.engine graph
  · intro e mem listed
    -- an execution that is still in the table is of another graph
    have other : e.graph ≠ graph := by
      obtain ⟨old, there, rfl⟩ := List.mem_map.mp mem
      split at listed
      · cases listed
      · rename_i notMine
        rw [if_neg notMine]
        intro same
        have mine : (old.listed && decide (old.graph = graph)) = true := by
          rw [listed, decide_eq_true same]
          rfl
        exact notMine mine
    refine or_congr_right (iff_of_false ?_ Bool.false_ne_true)
    rw [Flight.forgets, decide_eq_true_eq]
    exact other.symm

theorem Traced.cancel (traced : t.Traced strayed) {i : Nat} {graph id : String} {removed : Nat}
    {rest : List String} (found : t.flights[i]? = some (.cancelling graph removed (id :: rest)))
    (now : Nat) :
    Traced ⟨t.system.withEngine (t.engine.cancel now id),
      t.flights.set i (.cancelling graph removed rest)⟩ strayed := by
  have graphs : (t.engine.cancel now id).graphs = t.engine.graphs := by
    unfold Engine.cancel
    split <;> rfl
  have ids := Engine.ids_cancel t.engine now id
  refine traced.set found ?_ (.cancel _ now id) ids nofun fun e _ _ => ?_
  · refine traced.numbered.of_same ?_ (graphs ▸ List.Sublist.refl _) ids
    unfold Engine.cancel
    split <;> rfl
  · rw [Engine.Lacks, graphs]
    exact Iff.rfl

theorem Traced.discard (traced : t.Traced strayed) {i : Nat} {graph : String} {removed : Nat}
    (found : t.flights[i]? = some (.cancelling graph removed [])) (answer : Except Failure Answer) :
    Traced ⟨t.system.withEngine (t.engine.discard graph removed),
      t.flights.set i (.returned answer)⟩ strayed := by
  refine traced.set found (traced.numbered.discard graph removed) (.refl t.engine) rfl nofun
    fun e mem listed => ?_
  have lacks : (t.engine.discard graph removed).Lacks e.graph ↔
      t.engine.Lacks e.graph ∨ graph = e.graph := by
    have left : ∀ g, g ∈ (t.engine.discard graph removed).graphs ↔
        g ∈ t.engine.graphs ∧ g.id ≠ graph := fun g => by
      simp [Engine.discard, Engine.publish]
    constructor
    · intro lacks
      refine (em (graph = e.graph)).symm.imp_left fun other g there same => ?_
      exact lacks g ((left g).mpr ⟨there, fun mine => other (mine.symm.trans same)⟩) same
    · rintro (lacks | rfl) g there
      · exact lacks g ((left g).mp there).1
      · exact ((left g).mp there).2
  have forgets : (Flight.cancelling graph removed []).forgets e.graph = true ↔ graph = e.graph :=
    decide_eq_true_iff
  rw [lacks, forgets]
  exact or_iff_left Bool.false_ne_true

/-- An execution that is entered strays exactly if its graph is leaving. -/
theorem Traced.enroll (traced : t.Traced strayed) {i : Nat} {g : Loaded} {context : Context}
    {engine : Engine} {made : String} (found : t.flights[i]? = some (.enrolling g context))
    (enrolled : t.engine.enroll t.system.now g context = .ok (engine, made))
    (answer : Except Failure Answer) :
    Traced ⟨t.system.withEngine engine, t.flights.set i (.returned answer)⟩
      fun id => strayed id ∨ t.Strays (.call i) id := by
  obtain ⟨numbered, known, sought, earlier, leaving⟩ := traced
  obtain ⟨_, _, entered⟩ := Engine.enroll_eq_ok enrolled
  have executions : engine.executions = t.engine.executions ++ [.start made g.id g.nodes
      t.engine.limits.maxQueueDepth context t.system.now] := congrArg Engine.executions entered
  have graphs : engine.graphs = t.engine.graphs := by rw [entered, Engine.publish]
  have ids : engine.executions.map (·.id) = t.engine.executions.map (·.id) ++ [made] := by
    rw [executions, List.map_append, List.map_singleton]
    rfl
  have mem_iff : ∀ e, e ∈ engine.executions ↔ e ∈ t.engine.executions ∨ e = _ := fun e => by
    rw [executions, List.mem_append, List.mem_singleton]
  have fresh : made ∉ t.engine.executions.map (·.id) := by
    intro mem
    obtain ⟨e, there, rfl⟩ := List.mem_map.mp mem
    exact List.find?_eq_none.mp (numbered.fresh enrolled) e there (decide_eq_true rfl)
  have inTable : g.id ∈ t.system.loaded.map (·.id) :=
    sought _ (List.mem_of_getElem? found) g rfl
  have strays : ∀ id, t.Strays (.call i) id ↔ id = made ∧ t.Leaving g.id := by
    intro id
    constructor
    · rintro ⟨_, g', context', after, ⟨⟩, found', enrolled', leaves⟩
      rw [found, Option.some.injEq, Flight.enrolling.injEq] at found'
      obtain ⟨rfl, rfl⟩ := found'
      rw [enrolled, Except.ok.injEq, Prod.mk.injEq] at enrolled'
      exact ⟨enrolled'.2.symm, leaves⟩
    · rintro ⟨rfl, leaves⟩
      exact ⟨i, g, context, engine, rfl, found, enrolled, leaves⟩
  have same : ∀ graph, Leaving ⟨t.system.withEngine engine, t.flights.set i (.returned answer)⟩
      graph ↔ t.Leaving graph := by
    intro graph
    obtain ⟨others, before, after⟩ := exists_forgets_set found (.returned answer) graph
    have lacks : engine.Lacks graph ↔ t.engine.Lacks graph := by
      rw [Engine.Lacks, Engine.Lacks, graphs]
    rw [Leaving, Leaving, before, after]
    exact or_congr_left lacks
  refine ⟨numbered.enroll enrolled, fun e mem => ?_, fun f mem => ?_, fun id happened => ?_,
    fun e mem listed => ?_⟩
  · rcases (mem_iff e).mp mem with old | rfl
    · exact known e old
    · exact inTable
  · rcases List.mem_or_eq_of_mem_set mem with before | rfl
    · exact sought f before
    · rintro _ ⟨⟩
  · have there : id ∈ engine.executions.map (·.id) := by
      rw [ids, List.mem_append, List.mem_singleton]
      exact happened.imp (earlier id) fun now => ((strays id).mp now).1
    exact there
  · rw [same, strays]
    rcases (mem_iff e).mp mem with old | rfl
    · have notMade : e.id ≠ made := fun new => fresh (new ▸ List.mem_map_of_mem old)
      exact (leaving e old listed).trans (or_iff_left fun now => notMade now.1).symm
    · refine (or_iff_right fun happened => fresh (earlier _ happened)).trans ?_ |>.symm
      exact and_iff_right rfl

/-- A section of a call keeps the executions traced. -/
theorem Traced.call (traced : t.Traced strayed) (registry : Action.Registry σ) (i : Nat) :
    (t.move registry (.call i)).Traced fun id => strayed id ∨ t.Strays (.call i) id := by
  have quiet {after : Traffic σ} (kept : after.Traced strayed)
      (notEnrolled : ∀ g context engine id, t.flights[i]? = some (.enrolling g context) →
        t.engine.enroll t.system.now g context ≠ .ok (engine, id)) :
      after.Traced fun id => strayed id ∨ t.Strays (.call i) id := by
    refine kept.congr fun id => (or_iff_left ?_).symm
    rintro ⟨_, g, context, engine, ⟨⟩, found, enrolled, _⟩
    exact notEnrolled g context engine id found enrolled
  rw [move]
  cases found : t.flights[i]? with
  | none => exact quiet traced (by simp [found])
  | some flight =>
      cases flight with
      | starting graph context =>
          simp only [Flight.step]
          cases seen : t.engine.graph? graph with
          | error failure => exact quiet (traced.look found nofun fun _ => rfl) (by simp [found])
          | ok g =>
              refine quiet (traced.look found ?_ fun _ => rfl) (by simp [found])
              rintro _ ⟨⟩
              have mem := List.mem_of_find?_eq_some (traced.numbered.graph? seen)
              exact List.mem_map_of_mem mem
      | enrolling g context =>
          simp only [Flight.step]
          cases made : t.engine.enroll t.system.now g context with
          | error failure =>
              refine quiet (traced.look found nofun fun _ => rfl) ?_
              intro g' context' engine id there
              rw [found, Option.some.injEq, Flight.enrolling.injEq] at there
              obtain ⟨rfl, rfl⟩ := there
              rw [made]
              exact nofun
          | ok entered => exact traced.enroll found made _
      | unloading graph =>
          simp only [Flight.step]
          cases seen : t.engine.graph? graph with
          | error failure => exact quiet (traced.look found nofun fun _ => rfl) (by simp [found])
          | ok g => exact quiet (traced.look found nofun fun _ => rfl) (by simp [found])
      | withdrawing graph => exact quiet (traced.withdraw found) (by simp [found])
      | cancelling graph removed doomed =>
          cases doomed with
          | nil => exact quiet (traced.discard found _) (by simp [found])
          | cons id rest => exact quiet (traced.cancel found _) (by simp [found])
      | returned answer => exact quiet (traced.look found nofun fun _ => rfl) (by simp [found])

/-! ### Other acts -/

/-- A graph that is loaded has an identifier that no graph had. -/
theorem ne_of_made {s : System σ} (numbered : s.Numbered) {now : Nat} {d : Graph.Definition}
    {g : Loaded}
    (made : Loaded.ofDefinition (Engine.graphId s.engine.graphsMade) now d = .ok g)
    {graph : String} (known : graph ∈ s.loaded.map (·.id)) : g.id ≠ graph := by
  rintro rfl
  rw [numbered.ids, (Graph.Loaded.accepted_of_ofDefinition made).2] at known
  obtain ⟨n, below, same⟩ := List.mem_map.mp known
  rw [List.mem_range, Engine.graphId_injective same] at below
  exact Nat.lt_irrefl _ below

/-- An act of another kind enters no execution, and brings back no graph. -/
theorem keeps_of_act (registry : Action.Registry σ) {s : System σ} (numbered : s.Numbered)
    {act : Act} (other : act.isErrand = false) :
    s.engine.Keeps (s.perform registry act).engine ∧
      (s.perform registry act).engine.executions.map (·.id) = s.engine.executions.map (·.id) ∧
      ∀ graph ∈ s.loaded.map (·.id),
        ((s.perform registry act).engine.Lacks graph ↔ s.engine.Lacks graph) := by
  have entered {id : String} {e : Execution} {change : Change} (held : s.held? id = some e)
      (alters : s.Alters id e change) :
      s.engine.Keeps (s.engine.enter change) ∧
        (s.engine.enter change).executions.map (·.id) = s.engine.executions.map (·.id) ∧
        ∀ graph ∈ s.loaded.map (·.id),
          ((s.engine.enter change).Lacks graph ↔ s.engine.Lacks graph) :=
    ⟨.enter held alters.continues, Engine.ids_enter _ _, fun _ _ => Iff.rfl⟩
  cases done : s.attempt registry act with
  | none =>
      rw [System.perform_of_none done]
      exact ⟨.refl _, rfl, fun _ _ => Iff.rfl⟩
  | some s' =>
      rw [System.perform_of_some done]
      cases act with
      | load d =>
          obtain ⟨engine, id, loaded, rfl⟩ := System.attempt_load_iff.mp done
          obtain ⟨g, made, same⟩ := bind_eq_ok_iff.mp loaded
          cases same
          refine ⟨.refl s.engine, rfl, fun graph known => ?_⟩
          have new : g.id ≠ graph := ne_of_made numbered made known
          exact List.forall_mem_append.trans (and_iff_left (List.forall_mem_singleton.mpr new))
      | start graph context => cases other
      | withdraw graph => cases other
      | discard graph removed => cases other
      | request execution request =>
          obtain ⟨e, held, change, accepted, rfl⟩ := System.attempt_request_iff.mp done
          exact entered held (.request accepted)
      | take execution =>
          obtain ⟨e, held, g, _, after, accepted, rfl⟩ := System.attempt_take_iff.mp done
          exact entered held (.take accepted)
      | go execution =>
          obtain ⟨run, running, after, place, stepped, rfl⟩ := System.attempt_go_iff.mp done
          obtain ⟨e, change, held, changes, same⟩ :=
            Run.changes_of_step numbered.executions_apart stepped
          rw [System.run?_execution running] at held
          have goesOn := entered held (.go running changes)
          have same : place.engine = s.engine.enter change := same
          rw [← same] at goesOn
          exact goesOn
      | pass milliseconds =>
          cases done
          exact ⟨.refl _, rfl, fun _ _ => Iff.rfl⟩

theorem Traced.act (traced : t.Traced strayed) {act : Act} (other : act.isErrand = false) :
    Traced ⟨t.system.perform registry act, t.flights⟩ strayed := by
  obtain ⟨keeps, ids, lacks⟩ := keeps_of_act registry traced.numbered other
  obtain ⟨more, _, loaded⟩ := System.perform_loaded registry t.system act
  have subset : t.system.loaded.map (·.id) ⊆
      (t.system.perform registry act).loaded.map (·.id) := by
    rw [loaded, List.map_append]
    exact List.subset_append_left _ _
  refine traced.keep (traced.numbered.perform act) keeps ids subset ?_ fun e _ _ known => ?_
  · exact fun flight mem g seeks => subset (traced.sought flight mem g seeks)
  · exact or_congr_left (lacks e.graph known)

/-- A move keeps the executions traced. -/
theorem Traced.move (traced : t.Traced strayed) (registry : Action.Registry σ) (move : Move) :
    (t.move registry move).Traced fun id => strayed id ∨ t.Strays move id := by
  cases move with
  | call i => exact traced.call registry i
  | act act =>
      have none : ∀ id, strayed id ↔ strayed id ∨ t.Strays (.act act) id := fun id =>
        (or_iff_left (by rintro ⟨_, _, _, _, ⟨⟩, _⟩)).symm
      refine Traced.congr ?_ none
      rw [Traffic.move]
      split
      · exact traced
      · rename_i other
        exact traced.act (Bool.eq_false_iff.mpr other)

theorem Traced.moveAll (traced : t.Traced strayed) (registry : Action.Registry σ)
    (moves : List Move) :
    (t.moveAll registry moves).Traced fun id => strayed id ∨ Strayed registry id t moves := by
  induction moves generalizing t strayed with
  | nil => exact traced.congr fun id => (or_iff_left not_false).symm
  | cons move rest ih => exact (ih (traced.move registry move)).congr fun id => or_assoc

end Traced

theorem traced_initial (settings : Settings) (world : Action.World σ) (errands : List Errand) :
    (initial settings world errands).Traced fun _ => False where
  numbered := System.numbered_initial settings world
  known e mem := absurd mem List.not_mem_nil
  sought flight mem := by
    obtain ⟨errand, _, rfl⟩ := List.mem_map.mp mem
    cases errand <;> exact nofun
  made _ never := never.elim
  leaving e mem := absurd mem List.not_mem_nil

/--
Once all calls have returned that start executions or unload graphs, whatever
the order of their sections and of other acts between them, the graph of every
execution in the table is loaded, exactly if none of these executions was
entered after an unload had taken the executions of its graph out of the table.
-/
theorem loaded_iff_none_strayed {registry : Action.Registry σ} {settings : Settings}
    {world : Action.World σ} {errands : List Errand} {moves : List Move}
    (returned : ∀ flight ∈ ((initial settings world errands).moveAll registry moves).flights,
      flight.isOver = true) :
    let t := (initial settings world errands).moveAll registry moves
    (∀ e ∈ t.engine.listed, ∃ g, t.engine.graph? e.graph = .ok g) ↔
      ∀ e ∈ t.engine.listed, ¬ Strayed registry e.id (initial settings world errands) moves := by
  intro t
  have traced : t.Traced fun id =>
      False ∨ Strayed registry id (initial settings world errands) moves :=
    (traced_initial settings world errands).moveAll registry moves
  have gone : ∀ graph, t.Leaving graph ↔ ¬ ∃ g, t.engine.graph? graph = .ok g := by
    intro graph
    rw [← Engine.lacks_iff]
    refine or_iff_left ?_
    rintro ⟨flight, mem, forgets⟩
    have ended := returned flight mem
    cases flight with
    | returned answer => cases forgets
    | _ => cases ended
  refine forall₂_congr fun e mem => ?_
  obtain ⟨there, listed⟩ := List.mem_filter.mp mem
  rw [← not_iff_not, not_not, ← gone, traced.leaving e there listed]
  exact or_iff_right not_false

def neighbours : List Move :=
  [.act (.load System.loneNode), .act (.load System.loneNode), .call 2, .call 1, .call 2, .call 1,
    .call 2, .call 0]

theorem loaded_iff_of_neighbours :
    let errands := [.start "g1" default, .start "g2" default, .unload "g1"]
    let t := (initial default System.quiet errands).moveAll System.answering neighbours
    t.engine.listed.map (·.graph) = ["g2"] ∧
      ((∀ e ∈ t.engine.listed, ∃ g, t.engine.graph? e.graph = .ok g) ↔
        ∀ e ∈ t.engine.listed,
          ¬ Strayed System.answering e.id (initial default System.quiet errands) neighbours) := by
  intro errands t
  have ended : t.flights.all Flight.isOver = true := by decide +kernel
  exact ⟨by decide +kernel, loaded_iff_none_strayed (List.all_eq_true.mp ended)⟩

/-- A graph is unloaded as a whole after a start looked it up and before it enters its execution. -/
def lateStart : List Move :=
  [.act (.load System.loneNode), .call 0, .call 1, .call 1, .call 1, .call 0]

theorem lateStart_leaves_orphan :
    let t := (initial default System.quiet [.start "g1" default, .unload "g1"]).moveAll
      System.answering lateStart
    (∀ flight ∈ t.flights, flight.isOver = true) ∧
      ∃ e ∈ t.engine.listed, ¬ ∃ g, t.engine.graph? e.graph = .ok g := by
  intro t
  have ended : t.flights.all Flight.isOver = true := by decide +kernel
  have listed : t.engine.listed.map (·.graph) = ["g1"] := by decide +kernel
  have graphs : t.engine.graphs = [] := by decide +kernel
  obtain ⟨e, mem, graph⟩ : ∃ e ∈ t.engine.listed, e.graph = "g1" :=
    List.mem_map.mp (listed ▸ List.mem_singleton_self "g1")
  refine ⟨List.all_eq_true.mp ended, e, mem, Engine.lacks_iff.mp ?_⟩
  rw [Engine.Lacks, graphs]
  exact nofun

end Traffic

end ActionGraph
