import ActionGraph.Execution.Basic
import ActionGraph.Proofs.Execution.Mailboxes

/-!
# The sections of an execution

What each section makes of the instances, the counters and the context, as
equations, so that no later proof opens a section again.
-/

namespace ActionGraph.Execution

/-! ## Instances -/

/-- Every instance of an execution has the property. -/
def All (P : Instance → Prop) (e : Execution) : Prop :=
  ∀ node i, e.instances.get? node = some i → P i

theorem get?_amend (e : Execution) (node id : String) (f : Instance → Instance) :
    (e.amend node f).instances.get? id =
      if id = node then (e.instances.get? id).map f else e.instances.get? id := by
  unfold amend
  cases found : e.instances.get? node with
  | none =>
      by_cases here : id = node
      · rw [if_pos here, here, found, Option.map_none]
      · rw [if_neg here]
  | some i =>
      by_cases here : id = node
      · rw [if_pos here, Dict.get?_insert, if_pos here, here, found, Option.map_some]
      · rw [if_neg here, Dict.get?_insert, if_neg here]

/-- Changing an instance changes nothing beside the instances. -/
theorem amend_eq (e : Execution) (node : String) (f : Instance → Instance) :
    e.amend node f = { e with instances := (e.amend node f).instances } := by
  unfold amend
  cases e.instances.get? node <;> rfl

theorem get?_skipPending (e : Execution) (id : String) :
    e.skipPending.instances.get? id = (e.instances.get? id).map Instance.skip :=
  Dict.get?_map _ _ _

theorem get?_start {nodes : List Graph.Node} (distinct : (nodes.map (·.id)).Nodup)
    (id graph : String) (capacity : Nat) (context : Context) (now : Nat) {node : Graph.Node}
    (mem : node ∈ nodes) :
    (start id graph nodes capacity context now).instances.get? node.id =
      some (.ofNode capacity node) := by
  refine Dict.get?_ofList_of_mem ?_ (List.mem_map_of_mem mem)
  rwa [List.map_map]

theorem All.start {P : Instance → Prop} {capacity : Nat}
    (fresh : ∀ node, P (.ofNode capacity node)) (id graph : String) (nodes : List Graph.Node)
    (context : Context) (now : Nat) : (start id graph nodes capacity context now).All P := by
  intro id i found
  obtain ⟨node, _, same⟩ := List.mem_map.mp (Dict.mem_of_get?_ofList found)
  cases same
  exact fresh node

theorem All.insert {P : Instance → Prop} {e : Execution} (all : e.All P) {node : String}
    {i : Instance} (here : P i) :
    ({ e with instances := e.instances.insert node i } : Execution).All P := by
  intro id j found
  rw [Dict.get?_insert] at found
  split at found
  · rw [← Option.some.inj found]
    exact here
  · exact all id j found

theorem All.amend {P : Instance → Prop} {e : Execution} (all : e.All P) {node : String}
    {f : Instance → Instance} (keeps : ∀ i, P i → P (f i)) : (e.amend node f).All P := by
  intro id j found
  rw [get?_amend] at found
  split at found
  · obtain ⟨i, there, rfl⟩ := Option.map_eq_some_iff.mp found
    exact keeps i (all id i there)
  · exact all id j found

theorem All.skipPending {P : Instance → Prop} {e : Execution} (all : e.All P)
    (keeps : ∀ i, P i → P i.skip) : e.skipPending.All P := by
  intro id j found
  rw [get?_skipPending] at found
  obtain ⟨i, there, rfl⟩ := Option.map_eq_some_iff.mp found
  exact keeps i (all id i there)

/-! ## Messages -/

def Delivery.events (execution node port : String) : Delivery → List Event
  | .queued _ => []
  | .droppedOldest depth => [.backpressure execution node port depth]

def Instance.receive (port : String) (value : Json) (i : Instance) : Instance :=
  { i with inbox := (i.inbox.push port value).1 }

theorem deliver_eq_ok {e : Execution} {now : Nat} {node port : String} {value : Json}
    {change : Change} (delivered : e.deliver now node port value = .ok change) :
    ∃ i, e.instances.get? node = some i ∧
      change.1 =
        { e with
          instances := e.instances.insert node (i.receive port value)
          metrics :=
            { e.metrics with
              backpressure := e.metrics.backpressure + (i.inbox.push port value).2.lost }
          touched := now } ∧
      change.2 = (i.inbox.push port value).2.events e.id node port := by
  unfold deliver at delivered
  cases found : e.instances.get? node with
  | none =>
      rw [found] at delivered
      cases delivered
  | some i =>
      rw [found] at delivered
      refine ⟨i, rfl, ?_⟩
      cases outcome : (i.inbox.push port value).2 with
      | queued depth =>
          simp only [outcome] at delivered
          cases delivered
          exact ⟨rfl, rfl⟩
      | droppedOldest depth =>
          simp only [outcome] at delivered
          cases delivered
          exact ⟨rfl, rfl⟩

theorem inject_eq_ok {e : Execution} {now : Nat} {node port : String} {value : Json}
    {change : Change} (accepted : e.inject now node port value = .ok change) :
    e.state = .running ∧ ∃ sent, e.deliver now node port value = .ok sent ∧
      change = (sent.1, sent.2 ++ [.messageInjected e.id node port]) := by
  unfold inject at accepted
  split at accepted
  · cases accepted
  · rename_i running
    refine ⟨Decidable.not_not.mp running, ?_⟩
    cases delivered : e.deliver now node port value with
    | error failure =>
        rw [delivered] at accepted
        cases accepted
    | ok sent =>
        rw [delivered] at accepted
        cases accepted
        exact ⟨sent, rfl, rfl⟩

/-- What one more delivery along an edge keeps, forwarding keeps. -/
theorem forward_keeps {P : Change → Prop} {now : Nat} {output : Json} {edges : List Graph.Edge}
    {change : Change}
    (step : ∀ edge ∈ edges, ∀ e events sent, P (e, events) →
      e.deliver now edge.target.node edge.targetPort (portValue output edge.sourcePort) =
        .ok sent →
      P ({ sent.1 with metrics := sent.1.metrics.emit, touched := now }, events ++ sent.2))
    (before : P change) : P (forward now output edges change).1 := by
  induction edges generalizing change with
  | nil => exact before
  | cons edge rest ih =>
      obtain ⟨e, events⟩ := change
      unfold forward
      cases delivered : e.deliver now edge.target.node edge.targetPort
          (portValue output edge.sourcePort) with
      | error failure => exact before
      | ok sent =>
          refine ih (fun other mem => step other (List.mem_cons_of_mem _ mem)) ?_
          exact step edge List.mem_cons_self e events sent before delivered

/-! ## Turns -/

theorem drive_eq_ok {e after : Execution} (accepted : e.drive = .ok after) :
    e.state.isTerminal = false ∧ e.driven = false ∧ after = { e with driven := true } := by
  unfold drive at accepted
  split at accepted
  · cases accepted
  · split at accepted
    · cases accepted
    · rename_i live free
      cases accepted
      exact ⟨Bool.eq_false_iff.mpr live, Bool.eq_false_iff.mpr free, rfl⟩

def Instance.begin (i : Instance) : Instance :=
  { i with status := .running, invocations := i.invocations + 1, inbox := i.inbox.drain.1 }

theorem claim_eq_taken {e after : Execution} {now : Nat} {node : String} {context : Context}
    (taken : e.claim now node = .taken after context) :
    ∃ i, e.instances.get? node = some i ∧
      after =
        { e with
          instances := e.instances.insert node i.begin
          metrics := e.metrics.process (countAll i.inbox.drain.2)
          touched := now } ∧
      context = e.context.set inputsKey (inputs i.inbox.drain.2) := by
  unfold claim at taken
  split at taken
  · cases taken
  · cases found : e.instances.get? node with
    | none =>
        rw [found] at taken
        cases taken
    | some i =>
        rw [found] at taken
        cases taken
        exact ⟨i, rfl, rfl, rfl⟩

def Instance.conclude (duration : Nat) (report : Action.Report) (i : Instance) : Instance :=
  { i with
    lastDuration := some duration
    output := report.output
    error := report.error
    status := if report.success then .completed else .failed }

def Instance.expire (duration : Nat) (text : String) (i : Instance) : Instance :=
  { i with status := .failed, error := some text, lastDuration := some duration }

/-- The execution once the end of a node is counted and entered in its instance. -/
def counted (e : Execution) (now : Nat) (node : Graph.Node) (duration : Nat) (success : Bool)
    (f : Instance → Instance) : Execution :=
  amend
    { e with metrics := e.metrics.invocation node.component duration success, touched := now }
    node.id f

section Counted

variable (e : Execution) (now : Nat) (node : Graph.Node) (duration : Nat) (success : Bool)
  (f : Instance → Instance)

theorem counted_eq :
    e.counted now node duration success f =
      { e with
        metrics := e.metrics.invocation node.component duration success
        touched := now
        instances := (e.counted now node duration success f).instances } :=
  amend_eq _ _ _

theorem get?_counted (id : String) :
    (e.counted now node duration success f).instances.get? id =
      if id = node.id then (e.instances.get? id).map f else e.instances.get? id :=
  get?_amend _ _ _ _

variable {e f} in
theorem All.counted {P : Instance → Prop} (all : e.All P) (keeps : ∀ i, P i → P (f i)) :
    (e.counted now node duration success f).All P := by
  unfold Execution.counted
  refine All.amend ?_ keeps
  exact all

end Counted

theorem recordExpired_eq (e : Execution) (now : Nat) (node : Graph.Node) (duration : Nat)
    (text : String) :
    e.recordExpired now node duration text =
      (e.counted now node duration false (·.expire duration text)).fail now
        (failureAt node.id text) :=
  rfl

section Record

variable (e : Execution) (now : Nat) (node : Graph.Node) (edges : List Graph.Edge)
  (duration : Nat) {report : Action.Report} (context : Context)

theorem record_of_success (success : report.success = true) :
    (e.record now node edges duration report context).1 =
      (forward now (report.output.getD .null) edges
        ({ e.counted now node duration true (·.conclude duration report) with
            context := context.remove inputsKey },
          [])).1 := by
  simp only [record, success, if_true, counted, Instance.conclude]
  generalize forward _ _ _ _ = forwarded
  obtain ⟨change, failure⟩ := forwarded
  cases failure <;> rfl

theorem record_of_failure (failed : report.success = false) :
    (e.record now node edges duration report context).1 =
      if e.state.isTerminal then
        (e.counted now node duration false (·.conclude duration report), [])
      else
        (e.counted now node duration false (·.conclude duration report)).fail now
          (failureAt node.id (report.error.getD "unknown error")) := by
  have state : (e.counted now node duration false (·.conclude duration report)).state =
      e.state := by
    rw [counted_eq]
  rw [← state]
  simp only [record, failed, counted, Instance.conclude, Bool.false_eq_true, if_false]
  split <;> rfl

end Record

end ActionGraph.Execution
