import ActionGraph.Proofs.Execution.Precedence

/-!
# Tallies

The counters of an execution agree with its nodes.  The ledger of an execution
is what the two have to do with each other: messages, claims and the loss of
turns leave it alone, and a turn that is recorded enters its node once.
-/

namespace ActionGraph.Execution

open ActionGraph.Graph

/-! ## Ledgers -/

/-- How the turn of a node ended, if it did. -/
def Status.success? : Status → Option Bool
  | .pending => none
  | .running => none
  | .completed => some true
  | .failed => some false
  | .skipped => none

/-- What counters say about a node. -/
structure Entry where
  node : String
  component : String
  success : Option Bool
  duration : Option Nat

namespace Entry

def closed (entry : Entry) : Bool :=
  entry.success.isSome

def failed (entry : Entry) : Bool :=
  entry.success = some false

def latency (entry : Entry) : Nat :=
  entry.duration.getD 0

def sent (d : Definition) (entry : Entry) : Nat :=
  if entry.success = some true then (d.outgoing entry.node).length else 0

end Entry

namespace Instance

def entry (i : Instance) : Entry :=
  ⟨i.node, i.component, i.status.success?, i.lastDuration⟩

def isOver (i : Instance) : Bool :=
  i.status = .completed || i.status = .failed

theorem entry_closed (i : Instance) : i.entry.closed = i.isOver := by
  unfold isOver
  cases status : i.status <;> simp [entry, Entry.closed, status, Status.success?]

theorem entry_failed (i : Instance) : i.entry.failed = decide (i.status = .failed) := by
  cases status : i.status <;> simp [entry, Entry.failed, status, Status.success?]

theorem entry_sent (d : Definition) (i : Instance) :
    i.entry.sent d = if i.status = .completed then (d.outgoing i.node).length else 0 := by
  cases status : i.status <;> simp [entry, Entry.sent, status, Status.success?]

end Instance

/-- The counters that turns change at their end, and an entry for each node. -/
structure Ledger where
  invocations : Nat
  components : Dict Nat
  errors : Nat
  emitted : Nat
  maxLatency : Nat
  entries : Dict Entry

def ledger (e : Execution) : Ledger where
  invocations := e.metrics.invocations
  components := e.metrics.components
  errors := e.metrics.errors
  emitted := e.metrics.emitted
  maxLatency := e.metrics.maxLatency
  entries := e.instances.map Instance.entry

/-- Counters say what the entries of a graph add up to. -/
structure Ledger.Agrees (g : Loaded) (l : Ledger) : Prop where
  named : ∀ node ∈ g.nodes, ∀ entry, l.entries.get? node.id = some entry →
    entry.node = node.id ∧ entry.component = node.component
  untimed : ∀ id entry, l.entries.get? id = some entry → entry.success = none →
    entry.duration = none
  invocations : l.invocations = l.entries.sum fun entry => entry.closed.toNat
  components : ∀ c, (l.components.get? c).getD 0 =
    l.entries.sum fun entry => (entry.closed && entry.component = c).toNat
  total : (l.components.sum fun count => count) = l.invocations
  errors : l.errors = l.entries.sum fun entry => entry.failed.toNat
  emitted : l.emitted = l.entries.sum (Entry.sent g.definition)
  maxLatency : l.maxLatency = l.entries.greatest Entry.latency

namespace Ledger

variable {g : Loaded} {l : Ledger}

/-- The turn of a node is over; its entry was open before. -/
def close (l : Ledger) (id : String) (old : Entry) (duration : Nat) (success : Bool)
    (sent : Nat) : Ledger where
  invocations := l.invocations + 1
  components := l.components.insert old.component ((l.components.get? old.component).getD 0 + 1)
  errors := l.errors + (!success).toNat
  emitted := l.emitted + sent
  maxLatency := max l.maxLatency duration
  entries := l.entries.insert id { old with success := some success, duration := some duration }

theorem Agrees.close (agrees : l.Agrees g) {id : String} {old : Entry}
    (found : l.entries.get? id = some old) (unclosed : old.success = none) (duration : Nat)
    (success : Bool) :
    (l.close id old duration success
      (if success then (g.definition.outgoing old.node).length else 0)).Agrees g := by
  -- an open entry counts for nothing
  have counted : ∀ (f : Entry → Nat) (new : Entry), f old = 0 →
      (l.entries.insert id new).sum f = l.entries.sum f + f new := by
    intro f new void
    have sum := Dict.sum_insert_of_get? (f := f) found new
    rwa [void] at sum
  have unfinished : old.closed = false := by rw [Entry.closed, unclosed]; rfl
  obtain ⟨named, untimed, invocations, components, total, errors, emitted, maxLatency⟩ := agrees
  constructor
  · intro node mem entry there
    rw [Ledger.close, Dict.get?_insert] at there
    split at there
    · rename_i here
      rw [← Option.some.inj there]
      exact named node mem old (here ▸ found)
    · exact named node mem entry there
  · intro other entry there unclosed
    rw [Ledger.close, Dict.get?_insert] at there
    split at there
    · rw [← Option.some.inj there] at unclosed
      cases unclosed
    · exact untimed other entry there unclosed
  · rw [Ledger.close, counted _ _ (by rw [unfinished]; rfl), ← invocations]
    rfl
  · intro c
    have void : (old.closed && decide (old.component = c)).toNat = 0 := by
      rw [unfinished]
      rfl
    rw [Ledger.close, counted _ _ void, ← components c, Dict.get?_insert]
    by_cases here : c = old.component
    · rw [if_pos here, here, Option.getD_some]
      simp [Entry.closed]
    · rw [if_neg here]
      simp [Entry.closed, Ne.symm here]
  · have sum := Dict.sum_insert (fun count => count) l.components old.component
      ((l.components.get? old.component).getD 0 + 1)
    rw [Option.map_id', total] at sum
    simp only [Ledger.close]
    omega
  · rw [Ledger.close, counted _ _ (by rw [Entry.failed, unclosed]; rfl), ← errors]
    cases success <;> rfl
  · rw [Ledger.close, counted _ _ (by rw [Entry.sent, unclosed]; rfl), ← emitted]
    cases success <;> rfl
  · have void : old.latency = 0 := by
      rw [Entry.latency, untimed id old found unclosed]
      rfl
    rw [Ledger.close, Dict.greatest_insert found void, ← maxLatency]
    rfl

end Ledger

/-! ## What each section does to the ledger -/

/-- Changing an instance without its entry does not show. -/
theorem map_entry_insert {instances : Dict Instance} {node : String} {i j : Instance}
    (found : instances.get? node = some i) (same : j.entry = i.entry) :
    (instances.insert node j).map Instance.entry = instances.map Instance.entry := by
  refine Dict.ext_get? fun other => ?_
  rw [Dict.get?_map, Dict.get?_map, Dict.get?_insert]
  split
  · rename_i here
    rw [here, found, Option.map_some, Option.map_some, same]
  · rfl

theorem Instance.skip_entry (i : Instance) : i.skip.entry = i.entry := by
  unfold skip
  split
  · rfl
  · rename_i unsettled
    cases status : i.status <;> simp_all [entry, Status.isSettled, Status.success?]

theorem ledger_skipPending (e : Execution) : e.skipPending.ledger = e.ledger := by
  have same : (e.instances.map Instance.skip).map Instance.entry =
      e.instances.map Instance.entry := by
    refine Dict.ext_get? fun node => ?_
    rw [Dict.get?_map, Dict.get?_map, Dict.get?_map, Option.map_map]
    exact congrArg (Option.map · _) (funext Instance.skip_entry)
  simp only [ledger, skipPending, same]

theorem ledger_deliver {e : Execution} {now : Nat} {node port : String} {value : Json}
    {sent : Change} (delivered : e.deliver now node port value = .ok sent) :
    sent.1.ledger = e.ledger := by
  obtain ⟨i, found, same, _⟩ := deliver_eq_ok delivered
  rw [same]
  simp only [ledger, map_entry_insert (j := i.receive port value) found rfl]

/-- Every message along an edge to a node that exists is counted. -/
theorem ledger_forward (now : Nat) (output : Json) {edges : List Edge} {change : Change}
    (known : ∀ edge ∈ edges, (change.1.status? edge.target.node).isSome) :
    (forward now output edges change).1.1.ledger =
      { change.1.ledger with emitted := change.1.ledger.emitted + edges.length } := by
  induction edges generalizing change with
  | nil => rfl
  | cons edge rest ih =>
      obtain ⟨e, events⟩ := change
      unfold forward
      cases delivered : e.deliver now edge.target.node edge.targetPort
          (portValue output edge.sourcePort) with
      | error failure =>
          have target := known edge List.mem_cons_self
          rw [deliver_of_error delivered] at target
          cases target
      | ok sent =>
          obtain ⟨after, more⟩ := sent
          have statuses : after.status? = e.status? :=
            congrArg Standing.status (standing_deliver delivered)
          have same : after.ledger = e.ledger := ledger_deliver delivered
          refine (ih fun other mem => ?_).trans ?_
          · exact statuses ▸ known other (List.mem_cons_of_mem _ mem)
          · have counted : ({ after with metrics := after.metrics.emit, touched := now } :
                Execution).ledger = { after.ledger with emitted := after.ledger.emitted + 1 } := rfl
            rw [counted, same, List.length_cons, Nat.add_assoc, Nat.add_comm 1]

theorem ledger_claim {e after : Execution} {now : Nat} {node : String} {context : Context}
    (pending : e.status? node = some .pending)
    (taken : e.claim now node = .taken after context) : after.ledger = e.ledger := by
  obtain ⟨i, found, rfl, _⟩ := claim_eq_taken taken
  rw [status?, found] at pending
  have status : i.status = .pending := Option.some.inj pending
  have same : i.begin.entry = i.entry := by rw [Instance.entry, Instance.entry, status]; rfl
  simp only [ledger, map_entry_insert found same, Metrics.process]

theorem ledger_fail (e : Execution) (now : Nat) (message : String) :
    (e.fail now message).1.ledger = e.ledger :=
  ledger_skipPending _

theorem ledger_finish (e : Execution) (now duration : Nat) :
    (e.finish now duration).1.ledger = e.ledger := by
  unfold finish
  split
  · exact ledger_skipPending _
  · exact ledger_skipPending e

theorem ledger_apply {e : Execution} {request : Request} {now : Nat} {change : Change}
    (accepted : request.apply now e = .ok change) : change.1.ledger = e.ledger := by
  rcases Request.apply_eq_ok accepted with
    ⟨node, port, value, injected⟩ | ⟨state, touched, ended, listed, same, _⟩
  · obtain ⟨_, sent, delivered, rfl⟩ := inject_eq_ok injected
    have same : sent.1.ledger = e.ledger := ledger_deliver delivered
    exact same
  · rw [same]
    rfl

/-- An execution in which a node is at work, and what its entry is. -/
structure OpenEntry (g : Loaded) (e : Execution) (turn : Turn) (old : Entry) : Prop where
  found : e.ledger.entries.get? turn.node.id = some old
  unclosed : old.success = none
  component : old.component = turn.node.component
  edges : turn.edges = g.definition.outgoing old.node

theorem ledger_counted {g : Loaded} {e : Execution} {turn : Turn} {old : Entry}
    (opened : OpenEntry g e turn old) (now duration : Nat) (success : Bool)
    {f : Instance → Instance}
    (ends : ∀ i, (f i).entry =
      { i.entry with success := some success, duration := some duration }) :
    (e.counted now turn.node duration success f).ledger =
      e.ledger.close turn.node.id old duration success 0 := by
  obtain ⟨found, _, component, _⟩ := opened
  obtain ⟨i, there, rfl⟩ := Option.map_eq_some_iff.mp ((Dict.get?_map _ _ _).symm.trans found)
  have entries : (e.counted now turn.node duration success f).instances.map Instance.entry =
      (e.instances.map Instance.entry).insert turn.node.id
        { i.entry with success := some success, duration := some duration } := by
    refine Dict.ext_get? fun other => ?_
    rw [Dict.get?_map, get?_counted, Dict.get?_insert, Dict.get?_map]
    split
    · rename_i here
      rw [here, there, Option.map_some, Option.map_some, ends]
    · rfl
  have counters : (e.counted now turn.node duration success f).metrics =
      e.metrics.invocation turn.node.component duration success := by
    rw [counted_eq]
  rw [ledger, counters, entries, ← component]
  cases success <;> rfl

section Agrees

variable {σ : Type} {registry : Action.Registry σ} {g : Loaded} {e : Execution}

theorem Ledger.Agrees.start (accepted : g.Accepted) (id : String) (capacity : Nat)
    (context : Context) (now : Nat) :
    (Execution.start id g.id g.nodes capacity context now).ledger.Agrees g := by
  have distinct : (g.nodes.map (·.id)).Nodup := accepted.nodes_ids ▸ accepted.sorted_nodup
  have fresh : ∀ {P : Entry → Prop} {node entry},
      (∀ node : Node, P (Instance.ofNode capacity node).entry) →
      (Execution.start id g.id g.nodes capacity context now).ledger.entries.get? node = some entry →
      P entry := by
    intro P node entry each there
    rw [ledger, Dict.get?_map] at there
    obtain ⟨i, found, rfl⟩ := Option.map_eq_some_iff.mp there
    exact All.start (P := fun i => P i.entry) each id g.id g.nodes context now node i found
  have void : ∀ f : Entry → Nat, (∀ node : Node, f (Instance.ofNode capacity node).entry = 0) →
      (Execution.start id g.id g.nodes capacity context now).ledger.entries.sum f = 0 := by
    intro f zero
    refine (Dict.sum_map _ _ _).trans (Dict.sum_ofList_eq_zero ?_)
    exact List.forall_mem_map.mpr fun node _ => zero node
  constructor
  · intro node mem entry there
    rw [ledger, Dict.get?_map, get?_start distinct _ _ _ _ _ mem] at there
    cases there
    exact ⟨rfl, rfl⟩
  · intro node entry there _
    exact fresh (P := fun entry => entry.duration = none) (fun _ => rfl) there
  · exact (void _ fun _ => rfl).symm
  · intro c
    exact (void _ fun _ => rfl).symm
  · rfl
  · exact (void _ fun _ => rfl).symm
  · exact (void _ fun _ => rfl).symm
  · refine (Nat.le_zero.mp ((Dict.greatest_le_iff _ _ _).mpr fun node entry there => ?_)).symm
    exact fresh (P := fun entry => entry.latency ≤ 0) (fun _ => Nat.le_refl 0) there

/-- The entry of a node at work is open. -/
theorem Ledger.Agrees.openEntry (agrees : e.ledger.Agrees g) {turn : Turn} (mem : turn ∈ g.turns)
    (running : e.status? turn.node.id = some .running) : ∃ old, OpenEntry g e turn old := by
  obtain ⟨i, found, status⟩ := Option.map_eq_some_iff.mp running
  have there : e.ledger.entries.get? turn.node.id = some i.entry := by
    rw [ledger, Dict.get?_map, found, Option.map_some]
  obtain ⟨node, declared, rfl⟩ := List.mem_map.mp mem
  obtain ⟨named, component⟩ := agrees.named node declared _ there
  refine ⟨i.entry, there, ?_, component, ?_⟩
  · rw [Instance.entry, status]
    rfl
  · rw [named]

theorem Ledger.Agrees.record (accepted : g.Accepted) (keyed : Keyed g e)
    (agrees : e.ledger.Agrees g) {turn : Turn} (mem : turn ∈ g.turns)
    (running : e.status? turn.node.id = some .running) (now duration : Nat)
    (report : Action.Report) (context : Context) :
    (e.record now turn.node turn.edges duration report context).1.1.ledger.Agrees g := by
  obtain ⟨old, opened⟩ := agrees.openEntry mem running
  have closed := agrees.close opened.found opened.unclosed duration report.success
  have ends : ∀ i : Instance, (i.conclude duration report).entry =
      { i.entry with success := some report.success, duration := some duration } := by
    intro i
    simp only [Instance.conclude, Instance.entry]
    cases report.success <;> rfl
  have counted := ledger_counted opened now duration report.success ends
  cases success : report.success with
  | true =>
      rw [success] at closed counted
      rw [record_of_success _ _ _ _ _ _ success, ledger_forward]
      · have handedOn : ({ e.counted now turn.node duration true (·.conclude duration report) with
            context := context.remove inputsKey } : Execution).ledger = _ := counted
        rw [handedOn, opened.edges]
        simpa only [Ledger.close, Nat.add_zero, if_true] using closed
      · intro edge leaves
        have known := (keyed edge.target.node).mpr (accepted.target_mem_sorted mem leaves)
        rw [status?, Option.isSome_map] at known ⊢
        rw [get?_counted]
        split
        · rwa [Option.isSome_map]
        · exact known
  | false =>
      rw [success] at closed counted
      rw [record_of_failure _ _ _ _ _ _ success]
      split
      · rw [counted]
        exact closed
      · rw [ledger_fail, counted]
        exact closed

theorem Ledger.Agrees.recordExpired (agrees : e.ledger.Agrees g) {turn : Turn}
    (mem : turn ∈ g.turns) (running : e.status? turn.node.id = some .running)
    (now duration : Nat) (text : String) :
    (e.recordExpired now turn.node duration text).1.ledger.Agrees g := by
  obtain ⟨old, opened⟩ := agrees.openEntry mem running
  have closed := agrees.close opened.found opened.unclosed duration false
  rw [recordExpired_eq, ledger_fail, ledger_counted opened now duration false fun _ => rfl]
  exact closed

/-- A step of the run keeps the counters in agreement with the nodes. -/
theorem Ledger.Agrees.advance {lost late : Prop} (accepted : g.Accepted) (keyed : Keyed g e)
    (agrees : e.ledger.Agrees g) {after : Execution} {phase phase' : Phase σ}
    (stage : Stage lost late g.turns e.standing (some phase))
    (advances : Run.Advances registry e phase after phase') : after.ledger.Agrees g := by
  cases advances with
  | claim taken =>
      rw [ledger_claim stage.stands.here taken]
      exact agrees
  | record now =>
      exact agrees.record accepted keyed stage.stands.mem stage.stands.here now _ _ _
  | recordExpired now =>
      obtain ⟨rest, atTurn⟩ := stage
      exact agrees.recordExpired atTurn.stands.mem atTurn.stands.here now _ _
  | finish now duration =>
      rw [ledger_finish]
      exact agrees
  | _ => exact agrees

end Agrees

end ActionGraph.Execution

namespace ActionGraph.Track

open Execution ActionGraph.Graph

variable {σ : Type} {registry : Action.Registry σ} {g : Loaded} {act : Act} {t t' : Track σ}

/-- Whatever an act does to an execution, its counters agree with its nodes. -/
theorem Moves.agrees (accepted : g.Accepted) {lost late : Prop} (course : Course lost late g t)
    (agrees : t.execution.ledger.Agrees g) (moves : t.Moves registry g act t') :
    t'.execution.ledger.Agrees g := by
  have stage := course.stage
  cases moves with
  | stay waits => exact agrees
  | request applied => exact (congrArg (Ledger.Agrees g) (ledger_apply applied)).mpr agrees
  | withdraw => exact agrees
  | take driven =>
      obtain ⟨_, _, rfl⟩ := drive_eq_ok driven
      exact agrees
  | go advances => exact agrees.advance accepted course.keyed stage advances

end ActionGraph.Track

namespace ActionGraph.System

open Execution ActionGraph.Graph

variable {σ : Type} {registry : Action.Registry σ}

/-- After any acts in any order the counters of an execution agree with its nodes. -/
theorem agrees {settings : Settings} {world : Action.World σ} {acts : List Act} {id : String}
    {t : Track σ}
    (tracked : ((initial settings world).performAll registry acts).track? id = some t) :
    ∃ g, ((initial settings world).performAll registry acts).graph? t.execution.graph = some g ∧
      g.Accepted ∧ t.execution.ledger.Agrees g := by
  refine follow (P := fun _ g t => t.execution.ledger.Agrees g) ?_ ?_ tracked
  · intro acts act g capacity context now _ accepted
    exact .start accepted id capacity context now
  · intro acts act g t t' there found accepted holds moves
    obtain ⟨g', found', _, onCourse⟩ := course there
    obtain rfl : g' = g := Option.some.inj (found'.symm.trans found)
    exact moves.agrees accepted onCourse holds

/--
After any acts in any order the metrics of an execution agree with its nodes:
invocations, in all and for each component, are the nodes that completed or
failed, of which one at most failed; the messages emitted are the edges of the
completed nodes; and the greatest latency is that of the nodes.
-/
theorem metrics_agree {settings : Settings} {world : Action.World σ} {acts : List Act}
    {id : String} {e : Execution}
    (held : ((initial settings world).performAll registry acts).held? id = some e) :
    ∃ g, ((initial settings world).performAll registry acts).graph? e.graph = some g ∧
      e.metrics.invocations = e.instances.values.countP Instance.isOver ∧
      (e.metrics.components.sum fun count => count) = e.metrics.invocations ∧
      (∀ c, (e.metrics.components.get? c).getD 0 =
        e.instances.values.countP fun i => i.isOver && i.component = c) ∧
      (e.metrics.errors = e.instances.values.countP fun i => i.status = .failed) ∧
      e.metrics.errors ≤ 1 ∧
      (e.metrics.emitted = e.instances.sum fun i =>
        if i.status = .completed then (g.definition.outgoing i.node).length else 0) ∧
      e.metrics.maxLatency = e.instances.greatest fun i => i.lastDuration.getD 0 := by
  obtain ⟨g, found, accepted, tallied⟩ := agrees (track?_of_held held)
  obtain ⟨g', found', _, keyed, ordered, _⟩ := orderly (track?_of_held held)
  obtain rfl : g' = g := Option.some.inj (found'.symm.trans found)
  have summed : ∀ f : Entry → Nat, e.ledger.entries.sum f = e.instances.sum fun i => f i.entry :=
    fun f => Dict.sum_map f Instance.entry e.instances
  have errors : e.metrics.errors = e.instances.values.countP fun i => i.status = .failed := by
    rw [Dict.countP_values]
    refine (tallied.errors.trans (summed _)).trans ?_
    simp only [Instance.entry_failed]
  refine ⟨g', found, ?_, tallied.total, fun c => ?_, errors, ?_, ?_, ?_⟩
  · rw [Dict.countP_values]
    refine (tallied.invocations.trans (summed _)).trans ?_
    simp only [Instance.entry_closed]
  · rw [Dict.countP_values]
    refine ((tallied.components c).trans (summed _)).trans ?_
    simp only [Instance.entry_closed]
    rfl
  · rw [errors]
    refine Dict.countP_values_le_one fun a b i j thereA thereB failedA failedB => ?_
    have status : ∀ {node i}, e.instances.get? node = some i → decide (i.status = .failed) →
        e.status? node = some .failed := by
      intro node i there failed
      rw [status?, there, Option.map_some, of_decide_eq_true failed]
    have known : ∀ {node st}, e.status? node = some st → node ∈ g'.topology.sorted :=
      fun there => (keyed _).mp (Option.isSome_iff_exists.mpr ⟨_, there⟩)
    exact ordered.unfinished_unique (known (status thereA failedA)) (known (status thereB failedB))
      (status thereA failedA) (status thereB failedB) rfl (by decide)
  · refine (tallied.emitted.trans (summed _)).trans ?_
    simp only [Instance.entry_sent]
  · exact tallied.maxLatency.trans (Dict.greatest_map _ _ _)

def faltering : Definition :=
  ((Definition.named "faltering" "1").withNode (.plain "a" "task")).withNode (.plain "b" "absent")
    |>.withEdge (.ported "a" "left" "b" "in")
    |>.withEdge (.ported "a" "right" "b" "in")

/-- The first node completes and forwards two messages, and the second fails. -/
def falteringRun : List Act :=
  [.load faltering, .start "g1" default, .take "e1"] ++ List.replicate 16 (.go "e1")

theorem metrics_agree_of_falteringRun :
    ∃ e, ((initial default quiet).performAll answering falteringRun).held? "e1" = some e ∧
      (e.status? "a" = some .completed ∧ e.status? "b" = some .failed ∧
        e.metrics.invocations = 2 ∧ e.metrics.errors = 1 ∧ e.metrics.emitted = 2) ∧
      ∃ g, ((initial default quiet).performAll answering falteringRun).graph? e.graph = some g ∧
        e.metrics.invocations = e.instances.values.countP Instance.isOver ∧
        (e.metrics.components.sum fun count => count) = e.metrics.invocations ∧
        (∀ c, (e.metrics.components.get? c).getD 0 =
          e.instances.values.countP fun i => i.isOver && i.component = c) ∧
        (e.metrics.errors = e.instances.values.countP fun i => i.status = .failed) ∧
        e.metrics.errors ≤ 1 ∧
        (e.metrics.emitted = e.instances.sum fun i =>
          if i.status = .completed then (g.definition.outgoing i.node).length else 0) ∧
        e.metrics.maxLatency = e.instances.greatest fun i => i.lastDuration.getD 0 := by
  have counts :
      (((initial default quiet).performAll answering falteringRun).held? "e1").map (fun e =>
        (e.status? "a", e.status? "b", e.metrics.invocations, e.metrics.errors,
          e.metrics.emitted)) = some (some .completed, some .failed, 2, 1, 2) := by
    decide +kernel
  obtain ⟨e, held, same⟩ := Option.map_eq_some_iff.mp counts
  simp only [Prod.mk.injEq] at same
  exact ⟨e, held, same, metrics_agree held⟩

end ActionGraph.System
