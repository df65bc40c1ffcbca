import ActionGraph.Proofs.Execution.Calls
import ActionGraph.Proofs.Execution.Course
import ActionGraph.Proofs.Execution.Operations
import ActionGraph.Proofs.Execution.Sections

/-!
# Precedence

However many calls try to run an execution, one of them does, and it gives
each node one turn at most.  `InOrder` is what its turns keep to: there is a
place in the order of the graph before which every node is completed and after
which none has begun.
-/

namespace ActionGraph.Execution

open ActionGraph.Graph

variable {σ : Type} {registry : Action.Registry σ}

/-! ## One turn at a time -/

def Status.begun : Status → Bool
  | .running => true
  | .completed => true
  | .failed => true
  | .pending => false
  | .skipped => false

theorem Status.skip_begun {status : Status} (idle : status.begun = false) :
    status.skip.begun = false := by
  cases status <;> first | rfl | cases idle

/-- Nodes before some place of the order are completed, and none after it has begun. -/
def InOrder (order : List String) (status : String → Option Status) : Prop :=
  ∃ done later, order = done ++ later ∧ (∀ id ∈ done, status id = some .completed) ∧
    ∀ id ∈ later.tail, ∀ st ∈ status id, st.begun = false

theorem Stands.inOrder {turns rest : List Turn} {status : String → Option Status} {turn : Turn}
    {here there : Status} (stands : Stands turns status turn rest here there)
    (idle : there.begun = false) : InOrder (turns.map (·.node.id)) status := by
  obtain ⟨done, split, completed⟩ := stands.done
  refine ⟨done.map (·.node.id), (turn :: rest).map (·.node.id), ?_, ?_, ?_⟩
  · rw [split, List.map_append]
  · exact List.forall_mem_map.mpr completed
  · refine List.forall_mem_map.mpr fun t mem st found => ?_
    rw [stands.there t mem] at found
    rw [← Option.some.inj found]
    exact idle

namespace InOrder

variable {order : List String} {status : String → Option Status}

theorem skip (ordered : InOrder order status) :
    InOrder order fun id => (status id).map Status.skip := by
  obtain ⟨done, later, split, completed, idle⟩ := ordered
  refine ⟨done, later, split, fun id mem => ?_, fun id mem st found => ?_⟩
  · exact congrArg (Option.map Status.skip) (completed id mem)
  · obtain ⟨old, there, rfl⟩ := Option.map_eq_some_iff.mp found
    exact Status.skip_begun (idle id mem old there)

/-- A node that has begun is before that place or at it. -/
theorem mem_or_head (ordered : InOrder order status) :
    ∃ done later, order = done ++ later ∧ (∀ id ∈ done, status id = some .completed) ∧
      ∀ id ∈ order, ∀ st ∈ status id, st.begun = true → id ∈ done ∨ later.head? = some id := by
  obtain ⟨done, later, split, completed, idle⟩ := ordered
  refine ⟨done, later, split, completed, fun id mem st found begun => ?_⟩
  rw [split, List.mem_append] at mem
  refine mem.imp_right fun here => ?_
  cases later with
  | nil => cases here
  | cons head tail =>
      rcases List.mem_cons.mp here with rfl | after
      · rfl
      · rw [idle id after st found] at begun
        cases begun

/-- At most one node has begun and is not completed. -/
theorem unfinished_unique (ordered : InOrder order status) {a b : String} (memA : a ∈ order)
    (memB : b ∈ order) {st : Status} (thereA : status a = some st) (thereB : status b = some st)
    (begun : st.begun = true) (unfinished : st ≠ .completed) : a = b := by
  obtain ⟨done, later, _, completed, place⟩ := ordered.mem_or_head
  have head : ∀ id ∈ order, status id = some st → later.head? = some id := by
    intro id mem there
    refine (place id mem st there begun).resolve_left fun before => ?_
    rw [completed id before] at there
    exact unfinished (Option.some.inj there).symm
  exact Option.some.inj ((head a memA thereA).symm.trans (head b memB thereB))

/-- At most one node is running. -/
theorem running_unique (ordered : InOrder order status) {a b : String} (memA : a ∈ order)
    (memB : b ∈ order) (runningA : status a = some .running)
    (runningB : status b = some .running) : a = b :=
  ordered.unfinished_unique memA memB runningA runningB rfl nofun

/-- What comes before a node that has begun is completed. -/
theorem completed_of_begun (ordered : InOrder order status) {source target : String}
    (before : order.idxOf source < order.idxOf target) (mem : target ∈ order) {st : Status}
    (found : status target = some st) (begun : st.begun = true) :
    status source = some .completed := by
  obtain ⟨done, later, split, completed, place⟩ := ordered.mem_or_head
  refine completed source (by_contra fun absent => ?_)
  have low : done.length ≤ order.idxOf source := by
    rw [split, List.idxOf_append_of_notMem absent]
    exact Nat.le_add_right _ _
  have high : order.idxOf target ≤ done.length := by
    rcases place target mem st found begun with early | head
    · rw [split, List.idxOf_append_of_mem early]
      exact Nat.le_of_lt (List.idxOf_lt_length_of_mem early)
    · by_cases early : target ∈ done
      · rw [split, List.idxOf_append_of_mem early]
        exact Nat.le_of_lt (List.idxOf_lt_length_of_mem early)
      · obtain ⟨tail, rfl⟩ : ∃ tail, later = target :: tail := by
          cases later with
          | nil => cases head
          | cons first tail => exact ⟨tail, congrArg (· :: tail) (Option.some.inj head)⟩
        rw [split, List.idxOf_append_of_notMem early, List.idxOf_cons_self, Nat.add_zero]
  omega

/-- A step of the run keeps to the order. -/
theorem advance {lost late : Prop} {g : Loaded} (accepted : g.Accepted) {e after : Execution}
    {phase phase' : Phase σ} (ordered : InOrder g.topology.sorted e.status?)
    (stage : Stage lost late g.turns e.standing (some phase))
    (advances : Run.Advances registry e phase after phase') :
    InOrder g.topology.sorted after.status? := by
  have ids := accepted.turns_ids
  have distinct : (g.turns.map (·.node.id)).Nodup := ids ▸ accepted.sorted_nodup
  have ofStanding : ∀ s : Standing, after.standing = s → InOrder g.topology.sorted s.status →
      InOrder g.topology.sorted after.status? := by
    rintro _ rfl kept
    exact kept
  have marked : ∀ {turn rest} (st : Status), AtTurn lost g.turns e.standing turn rest .running →
      InOrder g.topology.sorted (e.standing.mark turn.node.id st).status := by
    intro turn rest st atTurn
    rw [← ids]
    exact (atTurn.stands.mark distinct st).inOrder rfl
  cases advances with
  | claim taken =>
      refine ofStanding _ (standing_claim taken).2 ?_
      rw [← ids]
      exact (stage.stands.mark distinct .running).inOrder rfl
  | @record turn rest duration report context now =>
      cases success : report.success with
      | true =>
          exact ofStanding _ (record_success e now turn.node turn.edges duration report context
            success).1 (marked .completed stage)
      | false =>
          refine ofStanding _ (record_failure e now turn.node turn.edges duration report context
            success).1 ?_
          split
          · exact marked .failed stage
          · exact (marked .failed stage).skip
  | recordExpired now =>
      obtain ⟨rest, atTurn⟩ := stage
      exact ofStanding _ (standing_recordExpired e now _ _ _) (marked .failed atTurn).skip
  | finish now duration =>
      refine ofStanding _ (standing_finish e now duration) ?_
      have statuses : (e.standing.finish now).status = fun id => (e.status? id).map Status.skip :=
        funext fun id => Standing.finish_status _ _ id
      rw [statuses]
      exact ordered.skip
  | _ => exact ordered

end InOrder

/-! ## One turn for each node -/

/-- A property of instances that messages and the end of a turn keep. -/
structure Instance.Lasting (P : Instance → Prop) : Prop where
  receive : ∀ i port value, P i → P (i.receive port value)
  conclude : ∀ i duration report, P i → P (i.conclude duration report)
  expire : ∀ i duration text, P i → P (i.expire duration text)
  skip : ∀ i, P i → P i.skip

namespace All

variable {P : Instance → Prop} {e : Execution} (lasting : Instance.Lasting P) (all : e.All P)
include lasting all

theorem deliver {now : Nat} {node port : String} {value : Json} {sent : Change}
    (delivered : e.deliver now node port value = .ok sent) : sent.1.All P := by
  obtain ⟨i, found, same, _⟩ := deliver_eq_ok delivered
  rw [same]
  exact All.insert all (lasting.receive i port value (all node i found))

theorem apply {request : Request} {now : Nat} {change : Change}
    (accepted : request.apply now e = .ok change) : change.1.All P := by
  rcases Request.apply_eq_ok accepted with
    ⟨node, port, value, injected⟩ | ⟨state, touched, ended, listed, same, _⟩
  · obtain ⟨_, sent, delivered, rfl⟩ := inject_eq_ok injected
    have holds : sent.1.All P := All.deliver lasting all delivered
    exact holds
  · rw [same]
    exact all

theorem fail (now : Nat) (message : String) : (e.fail now message).1.All P :=
  All.skipPending (e := { e with state := _, ended := _, error := _ }) all lasting.skip

theorem record (now : Nat) (node : Node) (edges : List Edge) (duration : Nat)
    (report : Action.Report) (context : Context) :
    (e.record now node edges duration report context).1.1.All P := by
  have concluded : ∀ success,
      (e.counted now node duration success (·.conclude duration report)).All P :=
    fun success => all.counted now node duration success fun i holds =>
      lasting.conclude i duration report holds
  cases success : report.success with
  | true =>
      rw [record_of_success _ _ _ _ _ _ success]
      refine forward_keeps (P := fun change => change.1.All P) ?_ (concluded true)
      intro edge _ before events sent holds delivered
      have after : sent.1.All P := All.deliver lasting holds delivered
      exact after
  | false =>
      rw [record_of_failure _ _ _ _ _ _ success]
      split
      · exact concluded false
      · exact All.fail lasting (concluded false) now _

theorem finish (now duration : Nat) : (e.finish now duration).1.All P := by
  unfold Execution.finish
  split
  · exact All.skipPending (e := { e with state := _, ended := _ }) all lasting.skip
  · exact all.skipPending lasting.skip

theorem advance {after : Execution} {phase phase' : Phase σ}
    (begins : ∀ turn rest i, phase = .claiming turn rest →
      e.instances.get? turn.node.id = some i → P i.begin)
    (advances : Run.Advances registry e phase after phase') : after.All P := by
  cases advances with
  | claim taken =>
      obtain ⟨i, found, rfl, _⟩ := claim_eq_taken taken
      exact All.insert all (begins _ _ i rfl found)
  | record now => exact All.record lasting all now _ _ _ _ _
  | recordExpired now =>
      rw [recordExpired_eq]
      refine All.fail lasting (all.counted now _ _ _ fun i holds => ?_) now _
      exact lasting.expire i _ _ holds
  | finish now duration => exact All.finish lasting all now duration
  | _ => exact all

end All

/-- A node that was given one turn at most, and none if it is pending. -/
def Instance.Once (i : Instance) : Prop :=
  i.invocations ≤ 1 ∧ (i.status = .pending → i.invocations = 0)

theorem Instance.once_lasting : Instance.Lasting Instance.Once where
  receive _ _ _ once := once
  conclude _ _ report once := by
    refine ⟨once.1, fun pending => ?_⟩
    simp only [Instance.conclude] at pending
    split at pending <;> cases pending
  expire _ _ _ once := by
    refine ⟨once.1, fun pending => ?_⟩
    cases pending
  skip i once := by
    unfold Instance.skip
    split
    · exact once
    · refine ⟨once.1, fun pending => ?_⟩
      cases pending

theorem Instance.Once.begin {i : Instance} (once : i.Once) (pending : i.status = .pending) :
    i.begin.Once := by
  refine ⟨?_, nofun⟩
  simp only [Instance.begin, once.2 pending]
  exact Nat.le_refl 1

end ActionGraph.Execution

namespace ActionGraph.Track

open Execution ActionGraph.Graph

variable {σ : Type} {registry : Action.Registry σ} {g : Loaded} {act : Act} {t t' : Track σ}

/-- An execution that was taken up is never given back. -/
theorem Moves.remains_driven (moves : t.Moves registry g act t')
    (driven : t.execution.driven = true) : t'.execution.driven = true := by
  cases moves with
  | stay waits => exact driven
  | request accepted => exact (Request.steered accepted).driven.trans driven
  | withdraw => exact driven
  | take accepted => rw [(drive_eq_ok accepted).2.2]
  | go advances => exact advances.frame.2.2.trans driven

/-- Turns are given in the order of the graph, and to each node one at most. -/
structure Orderly (g : Loaded) (t : Track σ) : Prop where
  inOrder : InOrder g.topology.sorted t.execution.status?
  once : t.execution.All Instance.Once

theorem Orderly.start (accepted : g.Accepted) (id : String) (capacity : Nat) (context : Context)
    (now : Nat) : Orderly (σ := σ) g ⟨.start id g.id g.nodes capacity context now, none⟩ := by
  have distinct : (g.nodes.map (·.id)).Nodup := accepted.nodes_ids ▸ accepted.sorted_nodup
  refine ⟨⟨[], g.topology.sorted, rfl, nofun, fun node _ st found => ?_⟩, ?_⟩
  · rw [status?_start distinct] at found
    split at found
    · cases found
      rfl
    · cases found
  · exact .start (fun _ => ⟨Nat.zero_le 1, fun _ => rfl⟩) _ _ _ _ _

theorem Orderly.move (accepted : g.Accepted) {lost late : Prop} (course : Course lost late g t)
    (orderly : t.Orderly g) (moves : t.Moves registry g act t') : t'.Orderly g := by
  obtain ⟨inOrder, once⟩ := orderly
  have stage := course.stage
  cases moves with
  | stay waits => exact ⟨inOrder, once⟩
  | request applied =>
      refine ⟨?_, All.apply Instance.once_lasting once applied⟩
      exact (congrArg (InOrder _) (Request.steered applied).status).mpr inOrder
  | withdraw => exact ⟨inOrder, once⟩
  | take driven =>
      obtain ⟨_, _, rfl⟩ := drive_eq_ok driven
      exact ⟨inOrder, once⟩
  | @go e after phase phase' advances =>
      refine ⟨inOrder.advance accepted stage advances,
        All.advance Instance.once_lasting once ?_ advances⟩
      rintro turn rest i rfl found
      have pending : e.status? turn.node.id = some .pending := stage.stands.here
      rw [status?, found] at pending
      exact (once _ i found).begin (Option.some.inj pending)

end ActionGraph.Track

namespace ActionGraph.System

open Execution ActionGraph.Graph

variable {σ : Type} {registry : Action.Registry σ}

/-- After any acts in any order turns were given in order, one to each node at most. -/
theorem orderly {settings : Settings} {world : Action.World σ} {acts : List Act} {id : String}
    {t : Track σ}
    (tracked : ((initial settings world).performAll registry acts).track? id = some t) :
    ∃ g, ((initial settings world).performAll registry acts).graph? t.execution.graph = some g ∧
      g.Accepted ∧ Keyed g t.execution ∧ t.Orderly g := by
  have kept : ∃ g,
      ((initial settings world).performAll registry acts).graph? t.execution.graph = some g ∧
      g.Accepted ∧ t.Orderly g := by
    refine follow (P := fun _ g t => t.Orderly g) ?_ ?_ tracked
    · intro acts act g capacity context now _ accepted
      exact .start accepted id capacity context now
    · intro acts act g t t' there found accepted holds moves
      obtain ⟨g', found', _, onCourse⟩ := course there
      obtain rfl : g' = g := Option.some.inj (found'.symm.trans found)
      exact holds.move accepted onCourse moves
  obtain ⟨g, found, accepted, holds⟩ := kept
  obtain ⟨g', found', _, onCourse⟩ := course tracked
  obtain rfl : g' = g := Option.some.inj (found'.symm.trans found)
  exact ⟨g', found, accepted, onCourse.keyed, holds⟩

/-! ## One run at most -/

/-- What the guards answer to a call that would run an execution. -/
def guard (s : System σ) (id : String) : Except Failure Execution :=
  match s.held? id with
  | none => .error (.unknownExecution id)
  | some e =>
      match s.graph? e.graph with
      | none => .error (.unknownGraph e.graph)
      | some _ => e.drive

/-- The answers of the guards to all such calls, in the order of the calls. -/
def answers (registry : Action.Registry σ) (id : String) :
    System σ → List Act → List (Except Failure Execution)
  | _, [] => []
  | s, act :: rest =>
      let later := answers registry id (s.perform registry act) rest
      match act with
      | .take execution => if execution = id then s.guard id :: later else later
      | _ => later

section Guard

variable {s : System σ} {id : String}

/-- What the guards let pass is taken up. -/
theorem guard_eq_ok_iff {after : Execution} :
    s.guard id = .ok after ↔
      ∃ e, s.held? id = some e ∧ ∃ g, s.graph? e.graph = some g ∧ e.drive = .ok after := by
  unfold guard
  cases held : s.held? id with
  | none => simp
  | some e =>
      simp only [Option.some.injEq, exists_eq_left']
      cases s.graph? e.graph with
      | none => simp
      | some g => simp

/-- A call that the guards refuse changes nothing. -/
theorem perform_take_of_refused {failure : Failure} (refused : s.guard id = .error failure) :
    s.perform registry (.take id) = s := by
  apply perform_of_none
  cases done : s.attempt registry (.take id) with
  | none => rfl
  | some s' =>
      obtain ⟨e, held, g, found, after, driven, _⟩ := attempt_take_iff.mp done
      rw [guard_eq_ok_iff.mpr ⟨e, held, g, found, driven⟩] at refused
      cases refused

/-- Nor does it in one go: it is over at once with a failure. -/
theorem start_of_refused (numbered : s.Numbered) {failure : Failure}
    (refused : s.guard id = .error failure) :
    ∃ answer, Run.start id s.place = (⟨id, s.now, .ended (.error answer)⟩, s.place) := by
  rw [Run.start_eq numbered]
  cases taken : Run.take s.place.engine id with
  | error answer => exact ⟨answer, rfl⟩
  | ok accepted =>
      obtain ⟨engine, turns⟩ := accepted
      have done := numbered.take Action.Registry.empty taken
      obtain ⟨e, held, g, found, after, driven, _⟩ := attempt_take_iff.mp done
      rw [guard_eq_ok_iff.mpr ⟨e, held, g, found, driven⟩] at refused
      cases refused

def Driven (s : System σ) (id : String) : Prop :=
  ∃ e, s.held? id = some e ∧ e.driven = true

theorem Driven.guard (driven : s.Driven id) : ∃ failure, s.guard id = .error failure := by
  obtain ⟨e, held, drives⟩ := driven
  cases answer : s.guard id with
  | error failure => exact ⟨failure, rfl⟩
  | ok after =>
      obtain ⟨e', held', _, _, accepted⟩ := guard_eq_ok_iff.mp answer
      obtain rfl : e' = e := Option.some.inj (held'.symm.trans held)
      rw [(drive_eq_ok accepted).2.1] at drives
      cases drives

theorem driven_of_accepted {after : Execution} (accepted : s.guard id = .ok after) :
    (s.perform registry (.take id)).Driven id := by
  obtain ⟨e, held, g, found, driven⟩ := guard_eq_ok_iff.mp accepted
  obtain ⟨s', done⟩ : ∃ s', s.attempt registry (.take id) = some s' :=
    ⟨_, attempt_take_iff.mpr ⟨e, held, g, found, after, driven, rfl⟩⟩
  obtain ⟨_, _, _, after', _, _, takenUp, _, heldAfter, _⟩ := attempt_take done
  rw [perform_of_some done]
  refine ⟨after', (heldAfter id).trans (if_pos rfl), ?_⟩
  rw [(drive_eq_ok takenUp).2.2]

theorem Driven.perform (sound : s.Sound) (driven : s.Driven id) (act : Act) :
    (s.perform registry act).Driven id := by
  obtain ⟨e, held, drives⟩ := driven
  obtain ⟨g, found⟩ := sound.graphs id e held
  obtain ⟨t', after, moves⟩ : ∃ t', (s.perform registry act).track? id = some t' ∧
      Track.Moves registry g act ⟨e, (s.run? id).map (·.phase)⟩ t' :=
    moves_of_perform sound (track?_of_held held) found
  refine ⟨t'.execution, (track?_eq_some_iff.mp after).1, ?_⟩
  exact moves.remains_driven drives

theorem answers_of_driven (sound : s.Sound) (driven : s.Driven id) (acts : List Act) :
    (answers registry id s acts).countP (·.isOk) = 0 := by
  induction acts generalizing s with
  | nil => rfl
  | cons act rest ih =>
      have later := ih (sound.perform registry act) (driven.perform sound act)
      cases act with
      | take execution =>
          rw [answers]
          split
          · obtain ⟨failure, refused⟩ := driven.guard
            rw [refused, List.countP_cons_of_neg Bool.false_ne_true, later]
          · exact later
      | _ => exact later

/-- The guards let one call pass at most. -/
theorem answers_le_one (sound : s.Sound) (acts : List Act) :
    (answers registry id s acts).countP (·.isOk) ≤ 1 := by
  induction acts generalizing s with
  | nil => exact Nat.zero_le 1
  | cons act rest ih =>
      have later := ih (sound.perform registry act)
      cases act with
      | take execution =>
          rw [answers]
          split
          · rename_i here
            subst here
            cases answer : s.guard execution with
            | error failure =>
                rw [List.countP_cons_of_neg Bool.false_ne_true]
                exact later
            | ok after =>
                rw [List.countP_cons_of_pos rfl,
                  answers_of_driven (sound.perform registry _) (driven_of_accepted answer)]
          · exact later
      | _ => exact later

end Guard

/--
Dependencies are respected and no node runs twice, after any acts in any
order.  The guards let one call pass at most; a call that they refuse changes
nothing, and its run is over with a failure.  Every node had one turn at most,
one node at most is running, and of a node that has begun every node with an
edge to it is completed.
-/
theorem dependencies_respected {settings : Settings} {world : Action.World σ} {acts : List Act}
    {id : String} {e : Execution}
    (held : ((initial settings world).performAll registry acts).held? id = some e) :
    let s := (initial settings world).performAll registry acts
    (answers registry id (initial settings world) acts).countP (·.isOk) ≤ 1 ∧
      (∀ failure, s.guard id = .error failure →
        s.perform registry (.take id) = s ∧
          ∃ answer, Run.start id s.place = (⟨id, s.now, .ended (.error answer)⟩, s.place)) ∧
      (∀ node i, e.instances.get? node = some i → i.invocations ≤ 1) ∧
      (∀ a b, e.status? a = some .running → e.status? b = some .running → a = b) ∧
      ∃ g, s.graph? e.graph = some g ∧ g.Accepted ∧
        ∀ edge ∈ g.definition.edges,
          ∀ status ∈ [Status.running, .completed, .failed],
            e.status? edge.target.node = some status →
            e.status? edge.source.node = some .completed := by
  obtain ⟨g, found, accepted, keyed, inOrder, once⟩ := orderly (track?_of_held held)
  have known : ∀ {node status}, e.status? node = some status → node ∈ g.topology.sorted :=
    fun there => (keyed _).mp (Option.isSome_iff_exists.mpr ⟨_, there⟩)
  refine ⟨answers_le_one (sound_initial settings world) acts, fun failure refused => ?_,
    fun node i there => (once node i there).1, fun a b runningA runningB => ?_,
    g, found, accepted, fun edge declared status begun there => ?_⟩
  · have numbered : ((initial settings world).performAll registry acts).Numbered :=
      (numbered_initial settings world).performAll acts
    exact ⟨perform_take_of_refused refused, start_of_refused numbered refused⟩
  · exact inOrder.running_unique (known runningA) (known runningB) runningA runningB
  · refine inOrder.completed_of_begun (accepted.orders.sources_first edge declared)
      (known there) there ?_
    simp only [List.mem_cons, List.not_mem_nil, or_false] at begun
    rcases begun with rfl | rfl | rfl <;> rfl

/-- Two calls run a graph of two nodes, and the second node is at work. -/
def contendedRun : List Act :=
  [.load twice, .start "g1" default, .take "e1", .take "e1"] ++ List.replicate 12 (.go "e1")

theorem dependencies_respected_of_contendedRun :
    ∃ e, ((initial default quiet).performAll answering contendedRun).held? "e1" = some e ∧
      e.status? "a" = some .completed ∧ e.status? "b" = some .running ∧
      let s := (initial default quiet).performAll answering contendedRun
      (answers answering "e1" (initial default quiet) contendedRun).countP (·.isOk) ≤ 1 ∧
        (∀ failure, s.guard "e1" = .error failure →
          s.perform answering (.take "e1") = s ∧
            ∃ answer, Run.start "e1" s.place = (⟨"e1", s.now, .ended (.error answer)⟩, s.place)) ∧
        (∀ node i, e.instances.get? node = some i → i.invocations ≤ 1) ∧
        (∀ a b, e.status? a = some .running → e.status? b = some .running → a = b) ∧
        ∃ g, s.graph? e.graph = some g ∧ g.Accepted ∧
          ∀ edge ∈ g.definition.edges,
            ∀ status ∈ [Status.running, .completed, .failed],
              e.status? edge.target.node = some status →
              e.status? edge.source.node = some .completed := by
  have statuses :
      (((initial default quiet).performAll answering contendedRun).held? "e1").map
        (fun e => (e.status? "a", e.status? "b")) = some (some .completed, some .running) := by
    decide +kernel
  obtain ⟨e, held, same⟩ := Option.map_eq_some_iff.mp statuses
  rw [Prod.mk.injEq] at same
  exact ⟨e, held, same.1, same.2, dependencies_respected held⟩

end ActionGraph.System
