import ActionGraph.Proofs.Execution.Course
import ActionGraph.Proofs.Execution.Sections
import ActionGraph.Proofs.Process.Endings

/-!
# The context of an execution

Nodes hand the context on, each with its messages under a key of their own.
That key is taken out again before the context is handed on, together with
whatever was under it when the execution was started.  Nothing else of the
context changes if nodes leave it as they received it.
-/

namespace ActionGraph

open Execution ActionGraph.Graph

namespace Context

theorem remove_set (context : Context) (key : String) (value : Json) :
    (context.set key value).remove key = context.remove key := by
  rw [remove, set, remove, Dict.erase_insert]

theorem remove_remove (context : Context) (key : String) :
    (context.remove key).remove key = context.remove key := by
  rw [remove, remove, Dict.erase_erase]

theorem get?_remove (context : Context) (key other : String) :
    (context.remove key).get? other = if other = key then none else context.get? other :=
  Dict.get?_erase context.bag key other

theorem bag_remove_eq_iff (context : Context) (key : String) :
    (context.remove key).bag = context.bag ↔ context.get? key = none :=
  Dict.erase_eq_self_iff context.bag key

/-- To remove a key changes nothing exactly if there is nothing under it. -/
theorem remove_eq_self_iff (context : Context) (key : String) :
    context.remove key = context ↔ context.get? key = none := by
  rw [← bag_remove_eq_iff]
  refine ⟨congrArg Context.bag, fun same => ?_⟩
  exact congrArg (fun bag => { context with bag }) same

end Context

/-! ## Nodes that leave their context alone -/

section Leaves

variable {σ α : Type} {registry : Action.Registry σ} {part : Context → α}

/-- The nodes of a graph leave a part of the context as they received it. -/
def Graph.Loaded.Leaves (registry : Action.Registry σ) (part : Context → α) (g : Loaded) : Prop :=
  ∀ node ∈ g.nodes, ∀ context, (registry.dispatch (Run.spec node) context).Ends
    fun dispatched => part dispatched.2 = part context

/-- It is enough that their handlers do so, whatever they dispatch further actions with. -/
theorem Graph.Loaded.leaves_of_handlers {g : Loaded}
    (leave : ∀ node ∈ g.nodes, ∀ handler, registry.get? node.component = some handler →
      ∀ dispatcher context, (handler.run dispatcher node.config context).Ends
        fun handled => part handled.2 = part context) : g.Leaves registry part := by
  intro node mem context
  unfold Action.Registry.dispatch Action.Registry.dispatchWithin
  cases found : registry.get? (Run.spec node).type with
  | none => exact rfl
  | some handler =>
      refine Process.ends_bind_of_forall _ fun start => ?_
      refine (leave node mem handler found _ context).bind fun handled kept => ?_
      exact Process.ends_bind_of_forall _ fun stop => kept

end Leaves

namespace Execution

/-! ## What sections do to the context -/

theorem context_forward (now : Nat) (output : Json) (edges : List Edge) (change : Change) :
    (forward now output edges change).1.1.context = change.1.context := by
  refine forward_keeps (P := fun after => after.1.context = change.1.context) ?_ rfl
  intro edge _ e events sent same delivered
  obtain ⟨_, _, after, _⟩ := deliver_eq_ok delivered
  rw [after]
  exact same

theorem context_counted (e : Execution) (now : Nat) (node : Node) (duration : Nat)
    (success : Bool) (f : Instance → Instance) :
    (e.counted now node duration success f).context = e.context := by
  rw [counted_eq]

/-- A node that succeeded hands on its context, and one that did not hands on none. -/
theorem context_record (e : Execution) (now : Nat) (node : Node) (edges : List Edge)
    (duration : Nat) (report : Action.Report) (context : Context) :
    (e.record now node edges duration report context).1.1.context =
      if report.success then context.remove inputsKey else e.context := by
  cases success : report.success with
  | true =>
      rw [record_of_success _ _ _ _ _ _ success, context_forward]
      rfl
  | false =>
      rw [record_of_failure _ _ _ _ _ _ success]
      split
      · exact context_counted _ _ _ _ _ _
      · exact context_counted _ _ _ _ _ _

theorem context_finish (e : Execution) (now duration : Nat) :
    (e.finish now duration).1.context = e.context := by
  unfold finish
  split <;> rfl

theorem context_apply {e : Execution} {request : Request} {now : Nat} {change : Change}
    (accepted : request.apply now e = .ok change) : change.1.context = e.context := by
  rcases Request.apply_eq_ok accepted with
    ⟨node, port, value, injected⟩ | ⟨state, touched, ended, listed, same, _⟩
  · obtain ⟨_, sent, delivered, rfl⟩ := inject_eq_ok injected
    obtain ⟨_, _, after, _⟩ := deliver_eq_ok delivered
    rw [after]
  · rw [same]
    rfl

/-! ## Completed nodes -/

theorem Status.map_skip_eq_completed_iff (status : Option Status) :
    status.map Status.skip = some .completed ↔ status = some .completed := by
  cases status with
  | none => exact Iff.rfl
  | some status => cases status <;> decide

/-- A node that is not completed may be marked as anything else: no other one is completed. -/
theorem Standing.mark_eq_completed_iff {s : Standing} {node : String} {status : Status}
    (before : s.status node ≠ some .completed) (now : status ≠ .completed) (id : String) :
    (s.mark node status).status id = some .completed ↔ s.status id = some .completed := by
  by_cases here : id = node
  · subst here
    refine iff_of_false (fun marked => ?_) before
    have known : (s.status id).isSome := by
      rw [← isSome_mark s id id status, marked]
      rfl
    rw [mark_status_self known] at marked
    exact now (Option.some.inj marked)
  · rw [mark_status_of_ne here]

/-- The context stays as it is, and so do the nodes that are completed. -/
structure Rests (e after : Execution) : Prop where
  context : after.context = e.context
  completed : ∀ node, after.status? node = some .completed ↔ e.status? node = some .completed

namespace Rests

variable {e after : Execution}

theorem of_status (context : after.context = e.context) (status : after.status? = e.status?) :
    e.Rests after :=
  ⟨context, fun node => by rw [status]⟩

theorem of_standing {s : Standing} (context : after.context = e.context)
    (same : after.standing = s)
    (completed : ∀ node, s.status node = some .completed ↔ e.status? node = some .completed) :
    e.Rests after := by
  subst same
  exact ⟨context, completed⟩

end Rests

/-- A step completes a node and hands on the context of it, or leaves both alone. -/
theorem Run.Advances.rests_or {σ : Type} {registry : Action.Registry σ} {lost late : Prop}
    {turns : List Turn} {e after : Execution} {phase phase' : Phase σ}
    (stage : Stage lost late turns e.standing (some phase))
    (advances : Run.Advances registry e phase after phase') :
    e.Rests after ∨
      ∃ turn rest duration report context,
        phase = .recording turn rest duration report context ∧
          after.context = context.remove inputsKey ∧
          after.status? turn.node.id = some .completed := by
  have marked : ∀ {turn : Turn} {rest : List Turn} {here : Status} (status : Status),
      AtTurn lost turns e.standing turn rest here → here ≠ .completed → status ≠ .completed →
      ∀ node, (e.standing.mark turn.node.id status).status node = some .completed ↔
        e.status? node = some .completed := by
    intro turn rest here status atTurn unfinished other
    refine Standing.mark_eq_completed_iff (fun completed => unfinished ?_) other
    exact Option.some.inj (atTurn.stands.here.symm.trans completed)
  cases advances with
  | claim taken =>
      obtain ⟨_, _, after, _⟩ := claim_eq_taken taken
      refine .inl (.of_standing ?_ (standing_claim taken).2 (marked _ stage nofun nofun))
      rw [after]
  | @record turn rest duration report context now =>
      have handedOn := context_record e now turn.node turn.edges duration report context
      cases success : report.success with
      | true =>
          rw [success, if_pos rfl] at handedOn
          refine .inr ⟨turn, rest, duration, report, context, rfl, handedOn, ?_⟩
          have same := (record_success e now turn.node turn.edges duration report context
            success).1
          have atTurn : AtTurn lost turns e.standing turn rest .running := stage
          have known : (e.standing.status turn.node.id).isSome := by
            rw [atTurn.stands.here]
            rfl
          exact (congrArg (fun s => s.status turn.node.id) same).trans
            (Standing.mark_status_self known _)
      | false =>
          rw [success, if_neg Bool.false_ne_true] at handedOn
          have same := (record_failure e now turn.node turn.edges duration report context
            success).1
          refine .inl (.of_standing handedOn same fun node => ?_)
          split
          · exact marked .failed stage nofun nofun node
          · rw [Standing.fail_status, Status.map_skip_eq_completed_iff]
            exact marked .failed stage nofun nofun node
  | @recordExpired turn duration failure now =>
      obtain ⟨rest, atTurn⟩ := stage
      refine .inl (.of_standing (context_counted e now turn.node duration false _)
        (standing_recordExpired e now _ _ _) fun node => ?_)
      rw [Standing.fail_status, Status.map_skip_eq_completed_iff]
      exact marked .failed atTurn nofun nofun node
  | finish now duration =>
      refine .inl (.of_standing (context_finish e now duration) (standing_finish e now duration)
        fun node => ?_)
      rw [Standing.finish_status, Status.map_skip_eq_completed_iff]
      rfl
  | _ => exact .inl (.of_status rfl rfl)

/-! ## What a run makes of the context -/

section Preserves

variable {σ α : Type} {registry : Action.Registry σ} {part : Context → α}
  {given : Context} {e after : Execution} {phase phase' : Phase σ}

/-- A context in which nothing but the messages of a node differs from the one that was given. -/
def Lent (part : Context → α) (given context : Context) : Prop :=
  part (context.remove inputsKey) = part (given.remove inputsKey)

/-- A node received such a context and hands on such a one, which its answer shows. -/
def Phase.Lends (part : Context → α) (given : Context) (e : Execution) : Phase σ → Prop
  | .announcing _ _ context => Lent part given context
  | .working _ _ context _ work =>
      Lent part given context ∧
        work.Ends (Process.InTime fun dispatched => Lent part given dispatched.2)
  | .reporting _ _ _ _ context => Lent part given context
  | .recording _ _ _ _ context => Lent part given context
  | .ended (.ok report) => report.execution.context = e.context
  | _ => True

/--
As long as no node is completed, an execution has the part that it was given;
from then on it has the part of the same context without the messages.
-/
structure Preserves (part : Context → α) (given : Context) (e : Execution) : Prop where
  untouched : (∀ node, e.status? node ≠ some .completed) → part e.context = part given
  handedOn : ∀ node, e.status? node = some .completed →
    part e.context = part (given.remove inputsKey)

theorem Preserves.rest (preserves : Preserves part given e) (rests : e.Rests after) :
    Preserves part given after := by
  refine ⟨fun none => ?_, fun node completed => ?_⟩
  · rw [rests.context]
    exact preserves.untouched fun node completed => none node ((rests.completed node).mpr completed)
  · rw [rests.context]
    exact preserves.handedOn node ((rests.completed node).mp completed)

theorem Phase.lends_before (rest : List Turn) :
    (Phase.before rest : Phase σ).Lends part given e := by
  cases rest with
  | nil => trivial
  | cons turn rest => trivial

theorem Phase.Lends.rest (lends : phase.Lends part given e) (same : after.context = e.context) :
    phase.Lends part given after := by
  cases phase with
  | ended result =>
      cases result with
      | ok report => exact Eq.trans lends same.symm
      | error failure => trivial
  | _ => exact lends

theorem Preserves.advance {lost late : Prop} {turns : List Turn}
    (stage : Stage lost late turns e.standing (some phase))
    (preserves : Preserves part given e) (lends : phase.Lends part given e)
    (advances : Run.Advances registry e phase after phase') : Preserves part given after := by
  rcases advances.rests_or stage with
    rests | ⟨turn, rest, duration, report, context, rfl, handed, done⟩
  · exact preserves.rest rests
  · refine ⟨fun none => absurd done (none _), fun _ _ => ?_⟩
    rw [handed]
    exact lends

variable (removes : ∀ a b : Context, part a = part b →
  part (a.remove inputsKey) = part (b.remove inputsKey))
include removes

theorem Preserves.lent (preserves : Preserves part given e) : Lent part given e.context := by
  by_cases completed : ∃ node, e.status? node = some .completed
  · obtain ⟨node, completed⟩ := completed
    have without := removes _ _ (preserves.handedOn node completed)
    rwa [Context.remove_remove] at without
  · exact removes _ _ (preserves.untouched fun node done => completed ⟨node, done⟩)

/-- A step of the run lends a node what the execution has, and takes it back. -/
theorem Phase.Lends.advance {lost late : Prop} {g : Loaded}
    (leaves : g.Leaves registry part)
    (stage : Stage lost late g.turns e.standing (some phase))
    (preserves : Preserves part given e) (lends : phase.Lends part given e)
    (advances : Run.Advances registry e phase after phase') : phase'.Lends part given after := by
  cases advances with
  | absent unknown => exact lends_before _
  | claim taken =>
      obtain ⟨_, _, _, rfl⟩ := claim_eq_taken taken
      have without := preserves.lent removes
      rwa [Lent, ← Context.remove_set _ _ (inputs _)] at without
  | @announce turn rest context limit now =>
      have atTurn : AtTurn lost g.turns e.standing turn rest .running := stage
      obtain ⟨node, mem, rfl⟩ := List.mem_map.mp atTurn.stands.mem
      have kept := (leaves node mem context).mono fun dispatched same =>
        (removes _ _ same).trans (show Lent part given context from lends)
      exact ⟨lends, kept.timeout limit⟩
  | work child => exact ⟨lends.1, lends.2.of_child child⟩
  | overdue live limit elapsed => exact lends.1
  | report live elapsed => exact lends.2 _ rfl
  | publish => exact lends
  | @record turn rest duration report context now =>
      generalize (e.record now turn.node turn.edges duration report context).2 = onward
      cases onward with
      | next => exact lends_before rest
      | _ => trivial
  | finish now duration => exact rfl
  | _ => trivial

end Preserves

end Execution

namespace Track

variable {σ α : Type} {registry : Action.Registry σ} {part : Context → α} {given : Context}
  {g : Loaded} {act : Act} {t t' : Track σ}

structure Preserves (part : Context → α) (given : Context) (t : Track σ) : Prop where
  execution : t.execution.Preserves part given
  lends : ∀ phase, t.phase = some phase → phase.Lends part given t.execution

theorem Preserves.rest {e after : Execution} {phase : Option (Phase σ)}
    (preserves : Preserves part given ⟨e, phase⟩) (rests : e.Rests after) :
    Preserves part given ⟨after, phase⟩ :=
  ⟨preserves.execution.rest rests, fun phase there =>
    (preserves.lends phase there).rest rests.context⟩

theorem Preserves.start (part : Context → α) (id : String) (g : Loaded) (capacity : Nat)
    (given : Context) (now : Nat) (fresh : ∀ node,
      (Execution.start id g.id g.nodes capacity given now).status? node ≠ some .completed) :
    Preserves (σ := σ) part given ⟨.start id g.id g.nodes capacity given now, none⟩ where
  execution := ⟨fun _ => rfl, fun node completed => absurd completed (fresh node)⟩
  lends _ there := by cases there

/-- What an act can do to the track of an execution keeps what it was given. -/
theorem Preserves.move (removes : ∀ a b : Context, part a = part b →
      part (a.remove inputsKey) = part (b.remove inputsKey))
    (leaves : g.Leaves registry part) {lost late : Prop} (course : t.Course lost late g)
    (preserves : t.Preserves part given) (moves : t.Moves registry g act t') :
    t'.Preserves part given := by
  cases moves with
  | stay waits => exact preserves
  | request accepted =>
      exact preserves.rest (.of_status (context_apply accepted) (Request.steered accepted).status)
  | withdraw => exact preserves.rest (.of_status rfl rfl)
  | take accepted =>
      obtain ⟨_, _, rfl⟩ := drive_eq_ok accepted
      refine ⟨preserves.execution.rest (.of_status rfl rfl), ?_⟩
      rintro _ ⟨⟩
      exact Phase.lends_before _
  | go advances =>
      have lends := preserves.lends _ rfl
      refine ⟨preserves.execution.advance course.stage lends advances, ?_⟩
      rintro _ ⟨⟩
      exact lends.advance removes leaves course.stage preserves.execution advances

/-- The part is the one that was given if nothing was under the key or no node handed it on. -/
theorem Preserves.kept_iff (preserves : t.Preserves part given)
    (removed_iff : part (given.remove inputsKey) = part given ↔ given.get? inputsKey = none) :
    part t.execution.context = part given ↔
      given.get? inputsKey = none ∨ ∀ node, t.execution.status? node ≠ some .completed := by
  by_cases completed : ∃ node, t.execution.status? node = some .completed
  · obtain ⟨node, completed⟩ := completed
    rw [preserves.execution.handedOn node completed, removed_iff]
    exact (or_iff_left fun none => none node completed).symm
  · have none : ∀ node, t.execution.status? node ≠ some .completed := fun node done =>
      completed ⟨node, done⟩
    exact iff_of_true (preserves.execution.untouched none) (.inr none)

/-- Every key is as it was given, but that of the messages, which may be absent. -/
theorem Preserves.get? (preserves : t.Preserves Context.bag given) (key : String) :
    t.execution.context.get? key = given.get? key ∨
      key = inputsKey ∧ t.execution.context.get? key = none := by
  by_cases completed : ∃ node, t.execution.status? node = some .completed
  · obtain ⟨node, completed⟩ := completed
    have found : t.execution.context.get? key = (given.remove inputsKey).get? key :=
      congrArg (·.get? key) (preserves.execution.handedOn node completed)
    rw [Context.get?_remove] at found
    split at found
    · rename_i here
      exact .inr ⟨here, found⟩
    · exact .inl found
  · exact .inl (congrArg (·.get? key)
      (preserves.execution.untouched fun node done => completed ⟨node, done⟩))

end Track

namespace System

variable {σ : Type} {registry : Action.Registry σ} {settings : Settings}
  {world : Action.World σ} {earlier acts : List Act} {s : System σ} {id : String} {g : Loaded}
  {capacity now : Nat} {context : Context} {e : Execution}

/-- From its start on, an execution keeps a part of its context that its nodes leave alone. -/
theorem preserves_performAll {α : Type} {part : Context → α}
    (removes : ∀ a b : Context, part a = part b →
      part (a.remove inputsKey) = part (b.remove inputsKey))
    (reached : s = (initial settings world).performAll registry earlier)
    (found : s.graph? g.id = some g)
    (fresh : s.held? id = some (.start id g.id g.nodes capacity context now))
    (leaves : g.Leaves registry part) :
    ∃ t, (s.performAll registry acts).track? id = some t ∧ t.Preserves part context := by
  subst reached
  have sound := (sound_initial settings world).performAll registry earlier
  have accepted := graph?_accepted sound found
  have tracked := track?_of_held fresh
  rw [sound.run?_of_free fresh rfl, Option.map_none] at tracked
  rw [← performAll_append]
  refine follow_on ?_ tracked found ?_ acts
  · intro acts act t t' there foundThere preserves moves
    obtain ⟨g', found', _, onCourse⟩ := course there
    obtain rfl : g' = g := Option.some.inj (found'.symm.trans foundThere)
    exact preserves.move removes leaves onCourse moves
  · refine .start part id g capacity context now fun node completed => ?_
    have distinct : (g.nodes.map (·.id)).Nodup := accepted.nodes_ids ▸ accepted.sorted_nodup
    rw [status?_start distinct] at completed
    split at completed
    · cases completed
    · cases completed

/--
From its start on, whatever is asked of it in whatever order and whether or not
its run has answered, an execution whose nodes leave the bag of their context as
they received it has every entry of the bag that it was started with, and no
other.  Only the entry under the key of the messages may be lost: it is exactly
if there was one and a node is completed.  If nodes leave the rest of the
context as well, the same is true of the whole context.  What the run answers
has the context of the execution.
-/
theorem context_kept_iff
    (reached : s = (initial settings world).performAll registry earlier)
    (found : s.graph? g.id = some g)
    (fresh : s.held? id = some (.start id g.id g.nodes capacity context now))
    (leaves : g.Leaves registry Context.bag)
    (held : (s.performAll registry acts).held? id = some e) :
    (e.context.bag = context.bag ↔
      context.get? inputsKey = none ∨ ∀ node, e.status? node ≠ some .completed) ∧
    (g.Leaves registry (fun context => context) →
      (e.context = context ↔
        context.get? inputsKey = none ∨ ∀ node, e.status? node ≠ some .completed)) ∧
    (∀ key, key ≠ inputsKey → e.context.get? key = context.get? key) ∧
    (e.context.get? inputsKey = none ∨
      e.context.get? inputsKey = context.get? inputsKey) ∧
    ∀ report, (s.performAll registry acts).result? id = some (.ok report) →
      report.execution.context = e.context := by
  have tracked := track?_of_held held
  obtain ⟨t, there, bag⟩ := preserves_performAll
    (fun _ _ => congrArg fun bag : Bag => bag.erase inputsKey) reached found fresh leaves
  obtain rfl := Option.some.inj (tracked.symm.trans there)
  refine ⟨bag.kept_iff (context.bag_remove_eq_iff inputsKey), fun leavesAll => ?_,
    fun key other => ?_, ?_, fun report answered => ?_⟩
  · obtain ⟨t, there, whole⟩ := preserves_performAll
      (fun _ _ => congrArg fun context : Context => context.remove inputsKey) reached found fresh
      leavesAll
    obtain rfl := Option.some.inj (tracked.symm.trans there)
    exact whole.kept_iff (context.remove_eq_self_iff inputsKey)
  · exact (bag.get? key).resolve_right fun lost => other lost.1
  · exact (bag.get? inputsKey).symm.imp_left And.right
  · obtain ⟨run, running, answer⟩ := Option.bind_eq_some_iff.mp answered
    refine bag.lends (.ended (.ok report)) ?_
    rw [running, Option.map_some, Run.phase_of_result? answer]

/-! ## An entry that is lost -/

def ownInputs : Context :=
  (default : Context).set inputsKey (.str "mine")

def lending : System Unit :=
  (initial default quiet).performAll answering [.load loneNode, .start "g1" ownInputs]

def lentRun : List Act :=
  .take "e1" :: List.replicate 12 (.go "e1")

theorem answering_leaves {α : Type} (part : Context → α) (g : Loaded) :
    g.Leaves answering part := by
  refine Loaded.leaves_of_handlers fun node _ handler found dispatcher context => ?_
  rw [answering, Action.Registry.register, Action.Registry.get?, Dict.get?_insert] at found
  split at found
  · obtain rfl := Option.some.inj found
    exact rfl
  · cases found

/-- The node leaves its context alone, the run completes, and the entry is gone. -/
theorem lentRun_loses_entry :
    (∀ g, Loaded.Leaves answering Context.bag g) ∧
      ownInputs.get? inputsKey = some (.str "mine") ∧
      ((lending.performAll answering lentRun).held? "e1").map
        (fun e => (e.state, e.context.get? inputsKey)) = some (.completed, none) :=
  ⟨answering_leaves Context.bag, by decide +kernel, by decide +kernel⟩

theorem context_kept_iff_of_lentRun :
    ∃ g e, lending.graph? g.id = some g ∧
      lending.held? "e1" = some (.start "e1" g.id g.nodes 1000 ownInputs 0) ∧
      g.Leaves answering Context.bag ∧
      (lending.performAll answering lentRun).held? "e1" = some e ∧
      (e.context.bag = ownInputs.bag ↔
        ownInputs.get? inputsKey = none ∨ ∀ node, e.status? node ≠ some .completed) ∧
      (g.Leaves answering (fun context => context) →
        (e.context = ownInputs ↔
          ownInputs.get? inputsKey = none ∨ ∀ node, e.status? node ≠ some .completed)) ∧
      (∀ key, key ≠ inputsKey → e.context.get? key = ownInputs.get? key) ∧
      (e.context.get? inputsKey = none ∨
        e.context.get? inputsKey = ownInputs.get? inputsKey) ∧
      ∀ report, (lending.performAll answering lentRun).result? "e1" = some (.ok report) →
        report.execution.context = e.context := by
  have loaded : (lending.graph? "g1").isSome := by decide +kernel
  obtain ⟨g, found⟩ := Option.isSome_iff_exists.mp loaded
  have started : (lending.graph? "g1").map (fun _ => lending.held? "e1") =
      (lending.graph? "g1").map fun g =>
        some (.start "e1" g.id g.nodes 1000 ownInputs 0) := by
    decide +kernel
  rw [found, Option.map_some, Option.map_some, Option.some.injEq] at started
  rw [← graph?_id found] at found
  have there : ((lending.performAll answering lentRun).held? "e1").isSome := by decide +kernel
  obtain ⟨e, held⟩ := Option.isSome_iff_exists.mp there
  have leaves := answering_leaves Context.bag g
  exact ⟨g, e, found, started, leaves, held,
    context_kept_iff rfl found started leaves held⟩

end System

end ActionGraph
