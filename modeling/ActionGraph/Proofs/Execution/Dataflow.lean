import ActionGraph.Proofs.Execution.Course
import ActionGraph.Proofs.Execution.Scenes

/-!
# Runs that nothing interferes with

While no operation interferes, a run does what `Flow.ofTurns` says.  `Flowing`
says for each place of the run how much of the flow its execution shows, and
that the rest of the flow is still to come.
-/

namespace ActionGraph.Execution

open ActionGraph.Action ActionGraph.Graph

variable {σ : Type} {registry : Registry σ}

/-! ## What is told of a node -/

inductive Records : Action.Report → Context → Yield → Prop where
  | success {report : Action.Report} {context : Context} {output : Json}
      (success : report.success = true) (there : report.output = some output) :
      Records report context (.success output context)
  | failure {report : Action.Report} {context : Context} (failed : report.success = false) :
      Records report context (.failure report.output)
  | overdue {report : Action.Report} {context : Context} (failed : report.success = false)
      (nothing : report.output = none) : Records report context .overdue

inductive Tells : Option Dispatched → Yield → Prop where
  | success {report : Action.Report} {context : Context} {output : Json}
      (success : report.success = true) (there : report.output = some output) :
      Tells (some (.ok report, context)) (.success output context)
  | failure {report : Action.Report} {context : Context} (failed : report.success = false) :
      Tells (some (.ok report, context)) (.failure report.output)
  | expired {failure : Failure} {context : Context} :
      Tells (some (.error failure, context)) (.expired failure)
  | overdue : Tells none .overdue

/-- If the node is done with its work, it came to what the behaviour says. -/
def Phase.Told (b : Behaviour) : Phase σ → Prop
  | .working turn _ context _ (.done result) => Tells result (b turn.node context)
  | _ => True

/-! ## Between two turns and within one -/

namespace Scene

variable {s s' : Scene} {results : List (String × Status × Option Json)}

def Shows (s : Scene) (results : List (String × Status × Option Json)) : Prop :=
  ∀ r ∈ results, s.face? r.1 = some r.2

theorem Shows.append {more : List (String × Status × Option Json)} (first : s.Shows results)
    (second : s.Shows more) : s.Shows (results ++ more) := by
  intro r mem
  exact (List.mem_append.mp mem).elim (first r) (second r)

theorem Shows.congr (all : s.Shows results)
    (same : ∀ r ∈ results, s'.face? r.1 = s.face? r.1) : s'.Shows results :=
  fun r mem => (same r mem).trans (all r mem)

/-- Nodes that are settled are not skipped. -/
theorem Shows.skip (all : s.Shows results) (settled : ∀ r ∈ results, r.2.1.isSettled = true)
    (skipped : ∀ r ∈ results,
      s'.face? r.1 = (s.face? r.1).map fun shown => (shown.1.skip, shown.2)) :
    s'.Shows results := by
  intro r mem
  rw [skipped r mem, all r mem, Option.map_some, Status.skip, if_pos (settled r mem)]

end Scene

/-- The turns before `left` are over, and the nodes of those turns that wait still do. -/
structure Midway (capacity : Nat) (turns : List Turn) (s : Scene)
    (done : List (String × Status × Option Json)) (messages : List Posting)
    (left waiting : List Turn) : Prop where
  suffix : left <:+ turns
  ids : turns.map (·.node.id) = done.map (·.1) ++ left.map (·.node.id)
  running : s.state = .running
  shown : s.Shows done
  pending : s.Shows (waiting.map fun turn => (turn.node.id, .pending, none))
  keeps : s.Keeps capacity messages (waiting.map (·.node.id))

namespace Midway

variable {capacity : Nat} {turns rest waiting : List Turn}
  {done : List (String × Status × Option Json)} {messages : List Posting} {turn : Turn}

/-- Messages come to nodes that wait. -/
theorem receive {s s' : Scene} {left : List Turn} {more : List Posting}
    (midway : Midway capacity turns s done messages left waiting) (received : s.Receives s' more) :
    Midway capacity turns s' done (messages ++ more) left waiting where
  suffix := midway.suffix
  ids := midway.ids
  running := received.state.trans midway.running
  shown := midway.shown.congr fun r _ => congrFun received.face r.1
  pending := midway.pending.congr fun r _ => congrFun received.face r.1
  keeps := received.keeps _ _ _ midway.keeps

/-- The node of a turn is no other one. -/
theorem apart {s : Scene} (distinct : (turns.map (·.node.id)).Nodup)
    (midway : Midway capacity turns s done messages (turn :: rest) waiting) :
    (∀ r ∈ done, r.1 ≠ turn.node.id) ∧ ∀ later ∈ rest, later.node.id ≠ turn.node.id := by
  rw [midway.ids, List.map_cons] at distinct
  have apart := List.nodup_middle.mp distinct
  rw [List.nodup_cons, List.mem_append, not_or] at apart
  obtain ⟨⟨notDone, notRest⟩, _⟩ := apart
  constructor
  · exact fun r mem same => notDone (same ▸ List.mem_map_of_mem mem)
  · exact fun later mem same => notRest (List.mem_map.mpr ⟨later, mem, same⟩)

variable {e after : Execution} (distinct : (turns.map (·.node.id)).Nodup)
include distinct

theorem claim {now : Nat} {context : Context}
    (midway : Midway capacity turns e.scene done messages (turn :: rest) (turn :: rest))
    (taken : e.claim now turn.node.id = .taken after context) :
    Midway capacity turns after.scene done messages (turn :: rest) rest ∧
      after.scene.face? turn.node.id = some (.running, none) ∧
      after.context = e.context ∧
      context = e.context.set inputsKey (inputsAt capacity messages turn.node.id) := by
  obtain ⟨i, found, same, seen⟩ := scene_claim taken
  have faces := e.scene.face?_insert turn.node.id i.begin
  rw [← same] at faces
  obtain ⟨notDone, notRest⟩ := midway.apart distinct
  have elsewhere : ∀ id, id ≠ turn.node.id → after.scene.face? id = e.scene.face? id :=
    fun id ne => (faces id).trans (if_neg ne)
  have pending := List.forall_mem_cons.mp midway.pending
  have face : i.face = (.pending, none) := by
    have there := pending.1
    rw [Scene.face?, show e.scene.instances.get? _ = some i from found] at there
    exact Option.some.inj there
  refine ⟨⟨midway.suffix, midway.ids, ?_, ?_, ?_, ?_⟩, ?_, ?_, ?_⟩
  · rw [same]
    exact midway.running
  · exact midway.shown.congr fun r mem => elsewhere _ (notDone r mem)
  · refine Scene.Shows.congr pending.2 fun r mem => elsewhere _ ?_
    obtain ⟨later, waits, rfl⟩ := List.mem_map.mp mem
    exact notRest later waits
  · intro id mem j there
    obtain ⟨later, waits, rfl⟩ := List.mem_map.mp mem
    rw [same, Dict.get?_insert, if_neg (notRest later waits)] at there
    exact midway.keeps _ (List.mem_cons_of_mem _ mem) j there
  · rw [faces, if_pos rfl]
    exact congrArg (fun face => some (Status.running, face.2)) face
  · exact congrArg Scene.context same
  · rw [seen, (midway.keeps _ List.mem_cons_self i found).inputs_drain]

/-- A node succeeds, and the next one waits for its turn. -/
theorem succeed {report : Action.Report} {output : Json}
    (midway : Midway capacity turns e.scene done messages (turn :: rest) rest)
    (running : e.scene.face? turn.node.id = some (.running, none))
    (success : report.success = true) (there : report.output = some output)
    (known : ∀ edge ∈ turn.edges, (e.status? edge.target.node).isSome) (now duration : Nat)
    (context : Context) :
    Midway capacity turns
        (e.record now turn.node turn.edges duration report context).1.1.scene
        (done ++ [(turn.node.id, .completed, some output)]) (messages ++ postings turn output)
        rest rest ∧
      (e.record now turn.node turn.edges duration report context).1.1.context =
        context.remove inputsKey := by
  have received := receives_record e now turn.node turn.edges duration context success known
  rw [there, Option.getD_some] at received
  generalize (e.record now turn.node turn.edges duration report context).1.1 = after at received ⊢
  have concluded : ∀ i : Instance, (i.conclude duration report).face =
      (fun _ => (Status.completed, some output)) i.face := by
    intro i
    rw [Instance.face, Instance.conclude, if_pos success, there]
  have faces : ∀ id, after.scene.face? id =
      if id = turn.node.id then (e.scene.face? id).map fun _ => (.completed, some output)
      else e.scene.face? id := by
    intro id
    rw [received.face]
    exact face?_counted e now turn.node duration true concluded id
  obtain ⟨notDone, notRest⟩ := midway.apart distinct
  have elsewhere : ∀ id, id ≠ turn.node.id → after.scene.face? id = e.scene.face? id :=
    fun id ne => (faces id).trans (if_neg ne)
  refine ⟨⟨?_, ?_, ?_, ?_, ?_, ?_⟩, received.context⟩
  · exact (List.suffix_cons turn rest).trans midway.suffix
  · rw [midway.ids, List.map_append, List.append_assoc]
    rfl
  · exact received.state.trans ((congrArg Execution.state (counted_eq ..)).trans midway.running)
  · refine (midway.shown.congr fun r mem => elsewhere _ (notDone r mem)).append ?_
    rintro _ mem
    rw [List.mem_singleton.mp mem]
    refine (faces _).trans ?_
    rw [if_pos rfl, running, Option.map_some]
  · refine midway.pending.congr fun r mem => elsewhere _ ?_
    obtain ⟨later, waits, rfl⟩ := List.mem_map.mp mem
    exact notRest later waits
  · have inbox : ∀ i : Instance, (i.conclude duration report).inbox = i.inbox := fun _ => rfl
    exact received.keeps _ _ _ (keeps_counted e now turn.node duration true inbox midway.keeps)

/-- A node does not succeed, and the flow stops. -/
theorem fail {f : Instance → Instance} {g : Status × Option Json → Status × Option Json}
    {output : Option Json}
    (midway : Midway capacity turns e.scene done messages (turn :: rest) rest)
    (running : e.scene.face? turn.node.id = some (.running, none))
    (settled : ∀ r ∈ done, r.2.1.isSettled = true) (face : ∀ i, (f i).face = g i.face)
    (comes : g (.running, none) = (.failed, output)) (now duration : Nat) (message : String)
    (context : Context) (failure : Option Failure) :
    ((e.counted now turn.node duration false f).fail now message).1.scene.Shows
      (done ++ (Flow.stop turn rest context output failure).results) := by
  have faces := face?_fail e now turn.node duration face message
  generalize ((e.counted now turn.node duration false f).fail now message).1 = after at faces ⊢
  obtain ⟨notDone, notRest⟩ := midway.apart distinct
  have elsewhere : ∀ id, id ≠ turn.node.id → after.scene.face? id =
      (e.scene.face? id).map fun shown => (shown.1.skip, shown.2) := by
    intro id ne
    rw [faces, if_neg ne]
  refine (midway.shown.skip settled fun r mem => elsewhere _ (notDone r mem)).append ?_
  refine List.forall_mem_cons.mpr ⟨?_, ?_⟩
  · rw [faces, if_pos rfl, running, Option.map_some, comes]
    rfl
  · rintro _ mem
    obtain ⟨later, waits, rfl⟩ := List.mem_map.mp mem
    rw [elsewhere _ (notRest later waits), midway.pending _ (List.mem_map_of_mem waits)]
    rfl

end Midway

/-! ## How much of the flow is shown -/

def Scene.close (s : Scene) : Scene :=
  { s with state := if s.state = .running then .completed else s.state }

structure Flow.Reached (flow : Flow) (s : Scene) : Prop where
  state : s.state = flow.state
  context : s.context = flow.context
  results : s.Shows flow.results

theorem Flow.Reached.close {flow : Flow} {s : Scene} (reached : flow.Reached s)
    (notRunning : s.state ≠ .running) : flow.Reached s.close := by
  have same : s.close = s := by rw [Scene.close, if_neg notRunning]
  rwa [same]

/-- What a run answers that did the whole flow, given what its execution shows. -/
def Flow.Ends (flow : Flow) (s : Scene) : Except Failure Report → Prop
  | .ok report => flow.failure = none ∧ report.execution.scene = s
  | .error failure => flow.failure = some failure

section Flowing

variable (b : Behaviour) (capacity : Nat) (turns : List Turn) (whole : Flow) (s : Scene)

def Waiting (left : List Turn) : Prop :=
  ∃ done messages, Midway capacity turns s done messages left left ∧
    whole = (Flow.ofTurns b capacity left s.context messages).after done

def AtWork (turn : Turn) (rest : List Turn) (y : Yield) : Prop :=
  ∃ done messages, Midway capacity turns s done messages (turn :: rest) rest ∧
    s.face? turn.node.id = some (.running, none) ∧
    whole =
      (Flow.ofYield (Flow.ofTurns b capacity rest) turn rest s.context messages y).after done

/-- How much of the flow is shown, given where the run is. -/
def Flowing : Phase σ → Prop
  | .resting turn rest => Waiting b capacity turns whole s (turn :: rest)
  | .claiming turn rest => Waiting b capacity turns whole s (turn :: rest)
  | .announcing turn rest context =>
      AtWork b capacity turns whole s turn rest (b turn.node context)
  | .working turn rest context _ _ =>
      AtWork b capacity turns whole s turn rest (b turn.node context)
  | .reporting turn rest _ report context =>
      ∃ y, Records report context y ∧ AtWork b capacity turns whole s turn rest y
  | .recording turn rest _ report context =>
      ∃ y, Records report context y ∧ AtWork b capacity turns whole s turn rest y
  | .expiring turn _ failure => ∃ rest, AtWork b capacity turns whole s turn rest (.expired failure)
  | .settling => whole.failure = none ∧ whole.Reached s.close
  | .finishing => whole.failure = none ∧ whole.Reached s.close
  | .ended result => whole.Reached s ∧ whole.Ends s result

end Flowing

section Steps

variable {b : Behaviour} {capacity : Nat} {turns : List Turn} {whole : Flow} {turn : Turn}
  {rest : List Turn} {e after : Execution} {now duration : Nat} {context : Context}

/-- After the last turn the whole flow is shown. -/
theorem Waiting.before {s : Scene} (waiting : Waiting b capacity turns whole s rest) :
    Flowing b capacity turns whole s (Phase.before rest : Phase σ) := by
  cases rest with
  | nil =>
      obtain ⟨done, messages, midway, rfl⟩ := waiting
      refine ⟨rfl, ?_, rfl, ?_⟩
      · rw [Scene.close, if_pos midway.running]
        rfl
      · rw [Flow.ofTurns, Flow.after, List.append_nil]
        exact midway.shown
  | cons turn rest => exact waiting

variable (distinct : (turns.map (·.node.id)).Nodup)
include distinct

theorem Waiting.claim (waiting : Waiting b capacity turns whole e.scene (turn :: rest))
    (taken : e.claim now turn.node.id = .taken after context) :
    AtWork b capacity turns whole after.scene turn rest (b turn.node context) := by
  obtain ⟨done, messages, midway, flow⟩ := waiting
  obtain ⟨still, running, same, seen⟩ := midway.claim distinct taken
  refine ⟨done, messages, still, running, ?_⟩
  rw [flow, seen, show after.scene.context = e.scene.context from same]
  rfl

theorem AtWork.succeed {report : Action.Report} {output : Json}
    (atWork : AtWork b capacity turns whole e.scene turn rest (.success output context))
    (success : report.success = true) (there : report.output = some output)
    (known : ∀ edge ∈ turn.edges, (e.status? edge.target.node).isSome) (now duration : Nat) :
    Waiting b capacity turns whole
      (e.record now turn.node turn.edges duration report context).1.1.scene rest := by
  obtain ⟨done, messages, midway, running, flow⟩ := atWork
  obtain ⟨still, handed⟩ :=
    midway.succeed distinct running success there known now duration context
  refine ⟨_, _, still, ?_⟩
  rw [flow, Flow.ofYield, Flow.after_after, ← handed]
  rfl

/-- A node does not succeed, and what it was said to come to stops the flow. -/
theorem AtWork.fail {y : Yield} {f : Instance → Instance}
    {g : Status × Option Json → Status × Option Json} {output : Option Json}
    {failure : Option Failure} (settled : ∀ r ∈ whole.results, r.2.1.isSettled = true)
    (atWork : AtWork b capacity turns whole e.scene turn rest y)
    (stops : ∀ next messages, Flow.ofYield next turn rest e.context messages y =
      Flow.stop turn rest e.context output failure)
    (face : ∀ i, (f i).face = g i.face) (comes : g (.running, none) = (.failed, output))
    (now duration : Nat) (message : String) :
    whole.failure = failure ∧
      whole.Reached ((e.counted now turn.node duration false f).fail now message).1.scene := by
  obtain ⟨done, messages, midway, running, rfl⟩ := atWork
  rw [show e.scene.context = e.context from rfl, stops] at settled ⊢
  have before : ∀ r ∈ done, r.2.1.isSettled = true := fun r mem =>
    settled r (List.mem_append_left _ mem)
  refine ⟨rfl, ?_, ?_, ?_⟩
  · rw [scene_fail]
    rfl
  · rw [scene_fail]
    rfl
  · exact midway.fail distinct running before face comes now duration message _ _

/-- A node is recorded that did not succeed. -/
theorem AtWork.failed {y : Yield} {report : Action.Report}
    (settled : ∀ r ∈ whole.results, r.2.1.isSettled = true)
    (atWork : AtWork b capacity turns whole e.scene turn rest y)
    (failed : report.success = false)
    (stops : ∀ next messages, Flow.ofYield next turn rest e.context messages y =
      Flow.stop turn rest e.context report.output none) (now duration : Nat) :
    Flowing b capacity turns whole
      (e.record now turn.node turn.edges duration report context).1.1.scene
      ((if report.success then Onward.next else Onward.settle).phase rest : Phase σ) := by
  have live : e.state.isTerminal ≠ true := by
    obtain ⟨_, _, midway, _⟩ := atWork
    rw [show e.state = .running from midway.running]
    exact Bool.false_ne_true
  have concluded : ∀ i : Instance, (i.conclude duration report).face =
      (Status.failed, report.output) := by
    intro i
    rw [Instance.face, Instance.conclude, failed]
    rfl
  rw [record_of_failure _ _ _ _ _ _ failed, if_neg live, failed, if_neg Bool.false_ne_true]
  have stopped := atWork.fail (g := fun _ => (.failed, report.output)) distinct settled stops
    concluded rfl now duration (failureAt turn.node.id (report.error.getD "unknown error"))
  refine ⟨stopped.1, stopped.2.close fun running => ?_⟩
  rw [scene_fail] at running
  cases running

end Steps

theorem Tells.records {report : Action.Report} {context : Context} {y : Yield}
    (tells : Tells (some (.ok report, context)) y) : Records report context y := by
  cases tells with
  | success success there => exact .success success there
  | failure failed => exact .failure failed

/-- What a step of the run does shows so much more of the flow. -/
theorem Flowing.advance {b : Behaviour} {capacity : Nat} {whole : Flow} {g : Loaded}
    (accepted : g.Accepted) {e after : Execution} (keyed : Keyed g e) {phase phase' : Phase σ}
    (settled : ∀ r ∈ whole.results, r.2.1.isSettled = true)
    (flowing : Flowing b capacity g.turns whole e.scene phase) (told : phase.Told b)
    (advances : Run.Advances registry e phase after phase') :
    Flowing b capacity g.turns whole after.scene phase' := by
  have distinct : (g.turns.map (·.node.id)).Nodup := accepted.turns_ids ▸ accepted.sorted_nodup
  have live : ∀ {turn : Turn} {rest : List Turn} {y : Yield},
      AtWork b capacity g.turns whole e.scene turn rest y → e.state = .running := by
    rintro turn rest y ⟨_, _, midway, _⟩
    exact midway.running
  cases advances with
  | turn running => exact flowing
  | giveUp terminal =>
      obtain ⟨_, _, midway, _⟩ := flowing
      rw [show e.state = .running from midway.running] at terminal
      cases terminal
  | refused notRunning =>
      obtain ⟨_, _, midway, _⟩ := flowing
      exact absurd midway.running notRunning
  | absent unknown =>
      obtain ⟨_, _, midway, _⟩ := flowing
      have there := midway.pending _ List.mem_cons_self
      have gone := congrArg Option.isSome there
      rw [isSome_face?, unknown] at gone
      cases gone
  | claim taken => exact flowing.claim distinct taken
  | announce limit now => exact flowing
  | interrupt cancelled => exact absurd ((live flowing).symm.trans cancelled) nofun
  | work child => exact flowing
  | @overdue turn rest context since alive limit elapsed =>
      refine ⟨_, ?_, flowing⟩
      have told : Tells none (b turn.node context) := told
      generalize b turn.node context = y at told ⊢
      cases told
      exact .overdue rfl rfl
  | report alive elapsed => exact ⟨_, Tells.records told, flowing⟩
  | @expire turn rest context after since failure alive elapsed =>
      have told : Tells (some (.error failure, after)) (b turn.node context) := told
      have flowing : AtWork b capacity g.turns whole e.scene turn rest (b turn.node context) :=
        flowing
      generalize b turn.node context = y at told flowing
      cases told
      exact ⟨rest, flowing⟩
  | publish => exact flowing
  | @record turn rest duration report context now =>
      obtain ⟨y, records, atWork⟩ := flowing
      have mem : turn ∈ g.turns := by
        obtain ⟨_, _, midway, _⟩ := atWork
        exact midway.suffix.subset List.mem_cons_self
      rw [record_onward accepted keyed mem]
      have known : ∀ edge ∈ turn.edges, (e.status? edge.target.node).isSome := fun edge leaves =>
        (keyed _).mpr (accepted.target_mem_sorted mem leaves)
      cases records with
      | success success there =>
          rw [success, if_pos rfl]
          exact (atWork.succeed distinct success there known now duration).before
      | failure failed => exact atWork.failed distinct settled failed (fun _ _ => rfl) now duration
      | overdue failed nothing =>
          exact atWork.failed distinct settled failed (fun _ _ => nothing ▸ rfl) now duration
  | @recordExpired turn duration failure now =>
      obtain ⟨rest, atWork⟩ := flowing
      rw [recordExpired_eq]
      have stops := atWork.fail (f := (·.expire duration failure.message))
        (g := fun shown => (.failed, shown.2)) distinct settled (fun _ _ => rfl) (fun _ => rfl) rfl
        now duration (failureAt turn.node.id failure.message)
      exact ⟨stops.2, stops.1⟩
  | settle notPaused => exact flowing
  | finish now duration =>
      obtain ⟨none, reached⟩ := flowing
      have all : whole.Reached (e.finish now duration).1.scene := by
        rw [scene_finish]
        refine ⟨reached.state, reached.context, reached.results.skip settled fun r _ => ?_⟩
        exact face?_skipPending e r.1
      exact ⟨all, none, rfl⟩

end ActionGraph.Execution
