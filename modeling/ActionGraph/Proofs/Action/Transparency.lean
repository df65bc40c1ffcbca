import ActionGraph.Action.Builtin
import ActionGraph.Proofs.Action.Collaboration
import ActionGraph.Proofs.Action.Upkeep
import ActionGraph.Proofs.Dictionaries
import ActionGraph.Rehearsal.Stage

/-!
# The cache of embeddings does not show

If a source of embeddings answers every text with the same vector each time,
the cache only ever holds these vectors.  Whichever of them are in it, and for
however long, a routing action comes to what it does without a cache.
-/

namespace ActionGraph

open ActionGraph.Embedding ActionGraph.Routing

/-! ## Caches -/

abbrev Embedding.Meaning :=
  String → String → Option Nat → Vector

namespace Embedding.Cache

variable {meaning : Meaning} {dimensions : Option Nat} {c : Cache}

def Faithful (meaning : Meaning) (dimensions : Option Nat) (c : Cache) : Prop :=
  ∀ entry ∈ c.entries, entry.vector = meaning entry.key.text entry.key.model dimensions

theorem faithful_of_empty (empty : c.entries = []) : c.Faithful meaning dimensions := by
  rw [Faithful, empty]
  exact List.forall_mem_nil _

/-- What is looked up is the vector of the text, or nothing. -/
theorem Faithful.get (faithful : c.Faithful meaning dimensions) (now : Nat) (key : CacheKey) :
    (c.get now key).1.Faithful meaning dimensions ∧
      ∀ vector, (c.get now key).2 = some vector →
        vector = meaning key.text key.model dimensions := by
  unfold Cache.get
  cases found : c.find? key with
  | none => exact ⟨faithful, nofun⟩
  | some entry =>
      dsimp only
      split
      · refine ⟨faithful, ?_⟩
        rintro _ ⟨⟩
        have chosen := List.find?_some (show c.entries.find? _ = some entry from found)
        rw [← of_decide_eq_true chosen]
        exact faithful entry (List.mem_of_find?_eq_some found)
      · exact ⟨fun entry mem => faithful entry (List.mem_of_mem_filter mem), nofun⟩

theorem Faithful.insert (faithful : c.Faithful meaning dimensions) (now : Nat) (key : CacheKey) :
    (c.insert now key (meaning key.text key.model dimensions)).Faithful meaning dimensions := by
  refine List.forall_mem_cons.mpr ⟨rfl, fun entry mem => ?_⟩
  exact faithful entry (List.mem_of_mem_filter (List.mem_of_mem_filter mem))

end Embedding.Cache

namespace Routing

variable {meaning : Meaning} {dimensions : Option Nat} {model : String} {c : Cache}

/-- Hits name the texts, in their order, and have the vectors of theirs. -/
structure Hits.Tell (meaning : Meaning) (dimensions : Option Nat) (model : String)
    (texts : List String) (hits : Hits) : Prop where
  texts : hits.map (·.1) = texts
  vectors : ∀ hit ∈ hits, ∀ vector, hit.2 = some vector →
    vector = meaning hit.1 model dimensions

theorem lookUp_faithful (faithful : c.Faithful meaning dimensions) (model : String) (now : Nat)
    (texts : List String) :
    (lookUp model now c texts).1.Faithful meaning dimensions ∧
      (lookUp model now c texts).2.Tell meaning dimensions model texts := by
  induction texts generalizing c with
  | nil => exact ⟨faithful, rfl, List.forall_mem_nil _⟩
  | cons text rest ih =>
      obtain ⟨kept, hit⟩ := faithful.get now ⟨model, text⟩
      obtain ⟨keptToo, names, hits⟩ := ih kept
      exact ⟨keptToo, congrArg (text :: ·) names, List.forall_mem_cons.mpr ⟨hit, hits⟩⟩

theorem store_faithful (faithful : c.Faithful meaning dimensions) (model : String) (now : Nat)
    (texts : List String) :
    (store model now c (texts.map fun text => (text, meaning text model dimensions))).Faithful
      meaning dimensions := by
  induction texts generalizing c with
  | nil => exact faithful
  | cons text rest ih => exact ih (faithful.insert now ⟨model, text⟩)

/-- Where every text that was missed gets its own vector, every text has its own vector. -/
theorem Hits.Tell.fill {texts : List String} {hits : Hits}
    (tell : hits.Tell meaning dimensions model texts) {fresh : List (String × Vector)}
    (missing : ∀ text ∈ misses hits,
      Entries.find? text fresh = some (meaning text model dimensions)) :
    fill hits fresh = texts.map fun text => meaning text model dimensions := by
  rw [← tell.texts, List.map_map]
  refine List.map_congr_left fun hit mem => ?_
  cases found : hit.2 with
  | some vector => exact tell.vectors hit mem vector found
  | none =>
      have missed : hit.1 ∈ misses hits := by
        refine List.mem_eraseDups.mpr (List.mem_map_of_mem (List.mem_filter.mpr ⟨mem, ?_⟩))
        rw [found]
        rfl
      rw [missing hit.1 missed]
      rfl

theorem paired_map (f : String → Vector) (texts : List String) :
    paired texts (texts.map f) = .ok (texts.map fun text => (text, f text)) := by
  have zipped : texts.zip (texts.map f) = texts.map fun text => (text, f text) := by
    rw [← List.zip_map', List.map_id']
  rw [paired, if_pos (List.length_map f), zipped]

end Routing

namespace Action

variable {σ : Type}

/-! ## Sources of embeddings -/

/-- A source of embeddings answers with the vectors of the texts, and has no part in the cache. -/
structure Embedder.Gives (embedder : Embedder σ) (meaning : Meaning) : Prop where
  answers : ∀ texts model dimensions, Process.Ends
    (· = .ok (texts.map fun text => meaning text model dimensions))
    (embedder texts model dimensions)
  apart : ∀ texts model dimensions,
    Task.Spares World.cache (embedder texts model dimensions)

structure Embedder.Prompt (embedder : Embedder σ) : Prop where
  instant : ∀ texts model dimensions, Task.Instant (embedder texts model dimensions)
  clock : ∀ texts model dimensions, Task.Spares World.now (embedder texts model dimensions)

def World.Faithful (meaning : Meaning) (dimensions : Option Nat) (w : World σ) : Prop :=
  w.cache.Faithful meaning dimensions

section Vectors

variable {embedder : Embedder σ} {meaning : Meaning}

theorem lasts_faithful (meaning : Meaning) (dimensions : Option Nat) :
    Task.Lasts fun w : World σ => w.Faithful meaning dimensions :=
  fun _ _ faithful => faithful

/-- Whatever the cache has, texts get their own vectors. -/
theorem maintains_vectors (gives : embedder.Gives meaning) (dimensions : Option Nat)
    (model : String) (texts : List String) :
    Task.Maintains (fun w : World σ => w.Faithful meaning dimensions)
      (· = .ok (texts.map fun text => meaning text model dimensions))
      (vectors embedder dimensions model texts) := by
  have looked : Task.Maintains (fun w : World σ => w.Faithful meaning dimensions)
      (Hits.Tell meaning dimensions model texts)
      (Task.cached fun cache now => lookUp model now cache texts) :=
    Task.maintains_modify fun w faithful => lookUp_faithful faithful model w.now texts
  refine looked.bind fun hits tell => ?_
  split
  · rename_i none
    refine congrArg Except.ok (tell.fill fun text missed => ?_)
    rw [List.isEmpty_iff.mp none] at missed
    cases missed
  · have asked := (gives.apart (misses hits) model dimensions).maintains
      (gives.answers (misses hits) model dimensions) (lasts_faithful meaning dimensions)
    refine asked.bind ?_
    rintro _ rfl
    have paired : (Except.ok ((misses hits).map fun text => meaning text model dimensions) :
        Except Failure (List Vector)).bind (paired (misses hits)) = _ :=
      paired_map (fun text => meaning text model dimensions) (misses hits)
    rw [paired]
    have stored : Task.Maintains (fun w : World σ => w.Faithful meaning dimensions)
        (fun _ => True) (Task.cached fun cache now => (store model now cache
          ((misses hits).map fun text => (text, meaning text model dimensions)), ())) :=
      Task.maintains_modify fun w faithful =>
        ⟨store_faithful faithful model w.now (misses hits), trivial⟩
    refine stored.bind fun _ _ => congrArg Except.ok (tell.fill fun text missed => ?_)
    exact Entries.find?_map_self (fun text => meaning text model dimensions) missed

/-- A prompt source of embeddings leaves the time as it is. -/
theorem maintains_clock (prompt : embedder.Prompt) (dimensions : Option Nat) (model : String)
    (texts : List String) (time : Nat) :
    Task.Maintains (fun w : World σ => w.now = time) (fun _ => True)
      (vectors embedder dimensions model texts) := by
  have cached : ∀ {β : Type} (f : Cache → Nat → Cache × β), Task.Maintains
      (fun w : World σ => w.now = time) (fun _ => True) (Task.cached f) :=
    fun f => Task.maintains_modify fun w same => ⟨same, trivial⟩
  refine (cached _).bind fun hits _ => ?_
  split
  · trivial
  · have asked : Task.Maintains (fun w : World σ => w.now = time) (fun _ => True)
        (embedder (misses hits) model dimensions) :=
      (prompt.clock _ _ _).maintains_of_instant (K := (· = time)) (prompt.instant _ _ _)
    refine asked.bind fun answer _ => ?_
    split
    · trivial
    · exact (cached _).bind fun _ _ => trivial

end Vectors

/-! ## Routing actions -/

namespace Route

variable {collaborators : Collaborators σ} {settings : RoutingSettings} {meaning : Meaning}

/-- What a routing action comes to, told without the cache. -/
def answer (collaborators : Collaborators σ) (settings : RoutingSettings) (meaning : Meaning)
    (params : Json) (context : Context) : Handled :=
  match prepare collaborators settings params context with
  | .error failure => .failed context failure
  | .ok ready =>
      let texts := ready.query :: ready.routes.all.flatMap Routing.Route.texts
      deliver ready.plan context <| choose ready.plan ready.routes <|
        texts.map fun text => meaning text ready.plan.model settings.dimensions

theorem maintains_run
    (gives : ∀ embedder, collaborators.embedder = some embedder → Embedder.Gives embedder meaning)
    (dispatcher : Dispatcher σ) (params : Json) (context : Context) :
    Task.Maintains (fun w : World σ => w.Faithful meaning settings.dimensions)
      (· = answer collaborators settings meaning params context)
      (run collaborators settings dispatcher params context) := by
  unfold run answer
  cases prepared : prepare collaborators settings params context with
  | error failure => exact rfl
  | ok ready =>
      have known := gives ready.embedder (embedder_of_prepare prepared)
      refine (maintains_vectors known _ _ _).bind ?_
      rintro _ rfl
      exact rfl

theorem maintains_clock_run
    (prompt : ∀ embedder, collaborators.embedder = some embedder → Embedder.Prompt embedder)
    (dispatcher : Dispatcher σ) (params : Json) (context : Context) (time : Nat) :
    Task.Maintains (fun w : World σ => w.now = time) (fun _ => True)
      (run collaborators settings dispatcher params context) := by
  unfold run
  cases prepared : prepare collaborators settings params context with
  | error failure => trivial
  | ok ready =>
      have known := prompt ready.embedder (embedder_of_prepare prepared)
      refine (maintains_clock known _ _ _ time).bind fun vectors _ => ?_
      cases vectors with
      | error failure => trivial
      | ok vectors => trivial

end Route

def Report.untimed (report : Report) : Report :=
  { report with duration := 0 }

def Dispatched.untimed (dispatched : Dispatched) : Dispatched :=
  (dispatched.1.map Report.untimed, dispatched.2)

theorem Report.untimed_ofOutcome (type : String) (outcome : Outcome) (duration : Nat) :
    (Report.ofOutcome type outcome duration).untimed = Report.ofOutcome type outcome 0 := by
  unfold Report.ofOutcome
  split
  · rfl
  · rfl

theorem Report.untimed_ofHandled (spec : Spec) (duration : Nat)
    (result : Except Halt Outcome) :
    (Report.ofHandled spec duration result).map Report.untimed =
      Report.ofHandled spec 0 result := by
  unfold Report.ofHandled
  split
  · exact congrArg (fun report => Except.ok { report with id := spec.id })
      (Report.untimed_ofOutcome ..)
  · split
    · rfl
    · rfl
  · rfl

/-- A dispatch maintains what the handler does, and reports what that comes to. -/
theorem Registry.maintains_dispatch {r : Registry σ} (spec : Spec) {handler : Handler σ}
    (found : r.get? spec.type = some handler) {context : Context} {I : World σ → Prop}
    {P : Handled → Prop} {Q : Nat → Prop} (clock : ∀ w, I w → Q w.now)
    (maintains : ∀ dispatcher, Task.Maintains I P (handler.run dispatcher spec.params context)) :
    Task.Maintains I (fun dispatched => ∃ start stop handled, Q start ∧ Q stop ∧ P handled ∧
      dispatched = (Report.ofHandled spec (stop - start) handled.1, handled.2))
      (r.dispatch spec context) := by
  unfold Registry.dispatch Registry.dispatchWithin
  rw [found]
  refine (Task.maintains_now clock).bind fun start begun => ?_
  refine (maintains _).bind fun handled comes => ?_
  refine (Task.maintains_now clock).bind fun stop ended => ?_
  exact ⟨start, stop, handled, begun, ended, comes, rfl⟩

/-! ## Routing actions side by side -/

def Route.spec (id : Option String) (params : Json) : Spec :=
  ⟨"semantic_route", id, params⟩

/-- Routing actions that were dispatched, and the world they work in. -/
structure Desk (σ : Type) where
  world : World σ
  tasks : List (Task σ Dispatched)

inductive Desk.Act where
  | begin (id : Option String) (params : Json) (context : Context)
  /-- One of the actions makes a step, unless it is over or waits. -/
  | go (index : Nat)
  | pass (milliseconds : Nat)

namespace Desk

def perform (r : Registry σ) (desk : Desk σ) : Desk.Act → Desk σ
  | .begin id params context =>
      { desk with tasks := desk.tasks ++ [r.dispatch (Route.spec id params) context] }
  | .go index =>
      match desk.tasks[index]? with
      | some (.act change next) =>
          ⟨change desk.world, desk.tasks.set index (next desk.world)⟩
      | some (.wait alarm next) =>
          if alarm.due ≤ desk.world.now then
            { desk with tasks := desk.tasks.set index next }
          else desk
      | _ => desk
  | .pass milliseconds => { desk with world := desk.world.advance milliseconds }

def performAll (r : Registry σ) (desk : Desk σ) (acts : List Desk.Act) : Desk σ :=
  acts.foldl (perform r) desk

end Desk

section Transparency

variable {r : Registry σ} {collaborators : Collaborators σ} {settings : RoutingSettings}
  {meaning : Meaning}

def Route.dispatched (collaborators : Collaborators σ) (settings : RoutingSettings)
    (meaning : Meaning) (id : Option String) (params : Json) (context : Context) : Dispatched :=
  let handled := Route.answer collaborators settings meaning params context
  (Report.ofHandled (Route.spec id params) 0 handled.1, handled.2)

variable (routes : r.get? "semantic_route" = some (Route.handler collaborators settings))
  (gives : ∀ embedder, collaborators.embedder = some embedder → Embedder.Gives embedder meaning)
include routes gives

theorem maintains_route (id : Option String) (params : Json) (context : Context) :
    Task.Maintains (fun w : World σ => w.Faithful meaning settings.dimensions)
      (fun dispatched =>
        dispatched.untimed = Route.dispatched collaborators settings meaning id params context)
      (r.dispatch (Route.spec id params) context) := by
  have dispatched := Registry.maintains_dispatch (Route.spec id params) routes
    (Q := fun _ => True) (fun _ _ => trivial)
    fun dispatcher => Route.maintains_run gives dispatcher params context
  refine dispatched.mono ?_
  rintro _ ⟨start, stop, _, -, -, rfl, rfl⟩
  exact congrArg (·, _) (Report.untimed_ofHandled ..)

/-- If the source of embeddings is prompt, no time passes. -/
theorem maintains_route_at
    (prompt : ∀ embedder, collaborators.embedder = some embedder → Embedder.Prompt embedder)
    (id : Option String) (params : Json) (context : Context) (time : Nat) :
    Task.Maintains (fun w : World σ => w.Faithful meaning settings.dimensions ∧ w.now = time)
      (· = Route.dispatched collaborators settings meaning id params context)
      (r.dispatch (Route.spec id params) context) := by
  have dispatched := Registry.maintains_dispatch (Route.spec id params) routes
    (Q := (· = time)) (fun _ holds => holds.2)
    fun dispatcher => (Route.maintains_run gives dispatcher params context).and
      (Route.maintains_clock_run prompt dispatcher params context time)
  refine dispatched.mono ?_
  rintro _ ⟨_, _, _, rfl, rfl, ⟨rfl, -⟩, rfl⟩
  exact congrArg (fun duration => (Report.ofHandled _ duration _, _)) (Nat.sub_self _)

namespace Desk

/-- The cache has only vectors of its texts, and every action keeps to that. -/
structure Faithful (meaning : Meaning) (dimensions : Option Nat) (desk : Desk σ) : Prop where
  world : desk.world.Faithful meaning dimensions
  tasks : ∀ task ∈ desk.tasks,
    Task.Maintains (fun w : World σ => w.Faithful meaning dimensions) (fun _ => True) task

theorem Faithful.perform {desk : Desk σ} (faithful : desk.Faithful meaning settings.dimensions)
    (act : Desk.Act) : (desk.perform r act).Faithful meaning settings.dimensions := by
  have setting : ∀ {index : Nat} {task : Task σ Dispatched},
      Task.Maintains (fun w : World σ => w.Faithful meaning settings.dimensions)
        (fun _ => True) task →
      ∀ other ∈ desk.tasks.set index task,
        Task.Maintains (fun w : World σ => w.Faithful meaning settings.dimensions)
          (fun _ => True) other := by
    intro index task maintains other mem
    obtain old | rfl := List.mem_or_eq_of_mem_set mem
    · exact faithful.tasks other old
    · exact maintains
  cases act with
  | begin id params context =>
      refine ⟨faithful.world, List.forall_mem_append.mpr ⟨faithful.tasks, ?_⟩⟩
      refine List.forall_mem_singleton.mpr ?_
      exact (maintains_route routes gives id params context).mono fun _ _ => trivial
  | go index =>
      unfold Desk.perform
      dsimp only
      split
      · rename_i change next found
        have maintains := faithful.tasks _ (List.mem_of_getElem? found)
        obtain ⟨kept, later⟩ := maintains desk.world faithful.world
        exact ⟨kept, setting later⟩
      · rename_i alarm next found
        have maintains := faithful.tasks _ (List.mem_of_getElem? found)
        split
        · exact ⟨faithful.world, setting maintains.2⟩
        · exact faithful
      · exact faithful
  | pass milliseconds =>
      exact ⟨lasts_faithful meaning _ _ milliseconds faithful.world, faithful.tasks⟩

theorem Faithful.performAll {desk : Desk σ}
    (faithful : desk.Faithful meaning settings.dimensions) (acts : List Desk.Act) :
    (desk.performAll r acts).Faithful meaning settings.dimensions := by
  induction acts generalizing desk with
  | nil => exact faithful
  | cons act rest ih => exact ih (faithful.perform routes gives act)

end Desk

/--
Let routing actions run side by side from an empty cache, time pass between
their steps, and the entries of the cache live as long or as short as they
do.  The next routing action ends as it does with an empty cache, in the time
it takes; with a prompt source of embeddings that is the same time, too.
-/
theorem cache_transparent {world blank : World σ} (empty : world.cache.entries = [])
    (emptyToo : blank.cache.entries = []) (history : List Desk.Act) (id : Option String)
    (params : Json) (context : Context) :
    let next := r.dispatch (Route.spec id params) context
    let used := (Task.complete (Desk.performAll r ⟨world, []⟩ history).world next).2
    let unused := (Task.complete blank next).2
    used.untimed = unused.untimed ∧
      ((∀ embedder, collaborators.embedder = some embedder → Embedder.Prompt embedder) →
        used = unused) := by
  have begun : (Desk.mk world []).Faithful meaning settings.dimensions :=
    ⟨Cache.faithful_of_empty empty, List.forall_mem_nil _⟩
  have after := (begun.performAll routes gives history).world
  have fresh : blank.Faithful meaning settings.dimensions := Cache.faithful_of_empty emptyToo
  refine ⟨?_, fun prompt => ?_⟩
  · have either := maintains_route routes gives id params context
    exact (either.complete after).2.trans (either.complete fresh).2.symm
  · have either := maintains_route_at routes gives prompt id params context
    exact ((either _).complete ⟨after, rfl⟩).2.trans ((either _).complete ⟨fresh, rfl⟩).2.symm

end Transparency

/-! ### A cache that was warmed -/

theorem embedder_gives (prepared : Dict Vector) :
    Embedder.Gives (Rehearsal.embedder .plain prepared)
      fun text _ _ => (prepared.get? text).getD (Rehearsal.vectorOf text) where
  answers _ _ _ := fun _ => rfl
  apart _ _ _ := fun _ => ⟨rfl, trivial⟩

theorem embedder_prompt (prepared : Dict Vector) :
    Embedder.Prompt (Rehearsal.embedder .plain prepared) where
  instant _ _ _ := fun _ => trivial
  clock _ _ _ := fun _ => ⟨rfl, trivial⟩

def embedding : Collaborators Rehearsal.Stage :=
  ⟨none, some (Rehearsal.embedder .plain .empty), fun text _ => .ok text⟩

def routing : Registry Rehearsal.Stage :=
  .builtins default embedding

def greetings : Json :=
  .ofFields [("query", .str "Hi"), ("outputKey", .str "route"),
    ("routes", .arr [.ofFields
      [("name", .str "greeting"), ("examples", .ofStrings ["Hello", "Hi"])]])]

/--
Two actions look their texts up before one of them has stored any, and the
other does not come to its end; then some time passes.
-/
def warming : List Desk.Act :=
  [.begin none greetings default, .begin none greetings default, .go 0, .go 1, .go 0, .go 1,
    .go 0, .go 1, .go 0, .go 0, .pass 400]

def coldWorld : World Rehearsal.Stage :=
  ⟨0, 0, .empty 1000, default⟩

/-- The cache that the actions leave has both texts, so that nothing is asked for any more. -/
theorem cache_transparent_of_warming :
    let next := routing.dispatch (Route.spec none greetings) default
    let warmed := (Desk.performAll routing ⟨coldWorld, []⟩ warming).world
    warmed.cache.entries.length = 2 ∧ warmed.outside.calls.length = 2 ∧
      (Task.complete warmed next).1.outside.calls.length = 2 ∧
      (Task.complete coldWorld next).1.outside.calls.length = 1 ∧
      (Task.complete warmed next).2 = (Task.complete coldWorld next).2 := by
  refine ⟨by decide +kernel, by decide +kernel, by decide +kernel, by decide +kernel, ?_⟩
  have cold : coldWorld.cache.entries = [] := rfl
  have routes : routing.get? "semantic_route" =
      some (Route.handler embedding (default : Settings).routing) := rfl
  have transparent := cache_transparent routes
    (fun _ known => Option.some.inj known ▸ embedder_gives .empty) cold cold warming none greetings
    default
  exact transparent.2 fun _ known => Option.some.inj known ▸ embedder_prompt .empty

/-! ### A cache that saves time -/

def unhurried : Embedder Rehearsal.Stage := fun texts model dimensions =>
  (Process.sleep 500).bind fun _ => Rehearsal.embedder .plain .empty texts model dimensions

theorem unhurried_gives : Embedder.Gives unhurried fun text _ _ => Rehearsal.vectorOf text where
  answers texts model dimensions := fun _ => (embedder_gives .empty).answers texts model dimensions
  apart texts model dimensions :=
    fun _ => ⟨rfl, (embedder_gives .empty).apart texts model dimensions⟩

def slowRouting : Registry Rehearsal.Stage :=
  .builtins default ⟨none, some unhurried, fun text _ => .ok text⟩

def slowWarming : List Desk.Act :=
  [.begin none greetings default, .go 0, .go 0, .go 0, .pass 500, .go 0, .go 0, .go 0, .go 0]

/-- The time that an action takes shows whether the cache has its texts. -/
theorem warm_cache_saves_time :
    let next := slowRouting.dispatch (Route.spec none greetings) default
    let warmed := (Desk.performAll slowRouting ⟨coldWorld, []⟩ slowWarming).world
    Embedder.Gives unhurried (fun text _ _ => Rehearsal.vectorOf text) ∧
      (Task.complete warmed next).2.1.map (·.duration) = .ok 0 ∧
      (Task.complete coldWorld next).2.1.map (·.duration) = .ok 500 ∧
      (Task.complete warmed next).2 ≠ (Task.complete coldWorld next).2 := by
  intro next warmed
  have saved : (Task.complete warmed next).2.1.map (·.duration) = .ok 0 := by decide +kernel
  have taken : (Task.complete coldWorld next).2.1.map (·.duration) = .ok 500 := by
    decide +kernel
  refine ⟨unhurried_gives, saved, taken, fun same => ?_⟩
  rw [same, taken] at saved
  exact absurd (Except.ok.inj saved) (by decide)

end Action

end ActionGraph
