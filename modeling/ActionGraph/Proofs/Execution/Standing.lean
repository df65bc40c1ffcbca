import ActionGraph.Execution.Basic
import ActionGraph.Proofs.Dictionaries

/-!
# The standing of an execution

The standing of an execution is what its course is told by: its state, when
and why it ended, whether a run has taken it up, and where each node is.  Each
section in which an execution changes has one lemma that says what it does to
the standing; messages and counters do not show there.
-/

namespace ActionGraph.Execution

@[ext] structure Standing where
  id : String
  graph : String
  state : State
  ended : Option Nat
  error : Option String
  driven : Bool
  status : String → Option Status

def status? (e : Execution) (node : String) : Option Status :=
  (e.instances.get? node).map (·.status)

def standing (e : Execution) : Standing :=
  ⟨e.id, e.graph, e.state, e.ended, e.error, e.driven, e.status?⟩

/-- To come to the state that it is in changes nothing, its mirror included. -/
theorem setState_state (e : Execution) : e.setState e.state = e := by
  obtain ⟨_, _, state, mirror, _, _, _, _, _, _, _, _, _, mirrored⟩ := e
  subst mirrored
  rfl

namespace Status

def skip (status : Status) : Status :=
  if status.isSettled then status else .skipped

end Status

namespace Standing

def mark (s : Standing) (node : String) (status : Status) : Standing :=
  { s with
    status := fun id => if id = node then (s.status id).map fun _ => status else s.status id }

/-- Nodes that did not have their turn lose it. -/
def skipPending (s : Standing) : Standing :=
  { s with status := fun id => (s.status id).map Status.skip }

def fail (s : Standing) (now : Nat) (message : String) : Standing :=
  skipPending { s with state := .failed, ended := some now, error := some message }

/-- The end of a run: what is still running is complete. -/
def finish (s : Standing) (now : Nat) : Standing :=
  if s.state = .running then
    skipPending { s with state := .completed, ended := some now }
  else s.skipPending

theorem mark_status_self {s : Standing} {node : String} (known : (s.status node).isSome)
    (status : Status) : (s.mark node status).status node = some status := by
  obtain ⟨old, found⟩ := Option.isSome_iff_exists.mp known
  simp [mark, found]

theorem isSome_mark (s : Standing) (node id : String) (status : Status) :
    ((s.mark node status).status id).isSome = (s.status id).isSome := by
  unfold mark
  by_cases here : id = node
  · simp [here]
  · simp [here]

theorem mark_status_of_ne {s : Standing} {node id : String} (ne : id ≠ node) (status : Status) :
    (s.mark node status).status id = s.status id :=
  if_neg ne

@[simp] theorem fail_status (s : Standing) (now : Nat) (message id : String) :
    (s.fail now message).status id = (s.status id).map Status.skip :=
  rfl

theorem finish_id (s : Standing) (now : Nat) : (s.finish now).id = s.id := by
  unfold finish
  split <;> rfl

theorem finish_graph (s : Standing) (now : Nat) : (s.finish now).graph = s.graph := by
  unfold finish
  split <;> rfl

theorem finish_driven (s : Standing) (now : Nat) : (s.finish now).driven = s.driven := by
  unfold finish
  split <;> rfl

theorem finish_status (s : Standing) (now : Nat) (id : String) :
    (s.finish now).status id = (s.status id).map Status.skip := by
  unfold finish
  split <;> rfl

theorem finish_state (s : Standing) (now : Nat) :
    (s.finish now).state = if s.state = .running then .completed else s.state := by
  unfold finish
  split <;> rfl

end Standing

/-! ## What each section does to the standing -/

theorem status?_start {nodes : List Graph.Node} (distinct : (nodes.map (·.id)).Nodup)
    (id graph : String) (capacity : Nat) (context : Context) (now : Nat) (node : String) :
    (start id graph nodes capacity context now).status? node =
      if node ∈ nodes.map (·.id) then some .pending else none := by
  have keys : (nodes.map fun node => (node.id, Instance.ofNode capacity node)).map (·.1) =
      nodes.map (·.id) := by
    rw [List.map_map]
    rfl
  rw [← keys] at distinct
  split
  · rename_i mem
    obtain ⟨n, declared, rfl⟩ := List.mem_map.mp mem
    rw [status?, start, Dict.get?_ofList_of_mem distinct (List.mem_map_of_mem declared)]
    rfl
  · rename_i absent
    rw [← keys] at absent
    rw [status?, start, Dict.get?_ofList_of_notMem absent]
    rfl

theorem standing_skipPending (e : Execution) : e.skipPending.standing = e.standing.skipPending := by
  refine Standing.ext rfl rfl rfl rfl rfl rfl ?_
  funext id
  simp only [standing, status?, Execution.skipPending, Standing.skipPending, Dict.get?_map,
    Option.map_map]
  congr 1
  funext i
  simp only [Function.comp_apply, Instance.skip, Status.skip]
  split <;> rfl

/-- Changing an instance without its status does not show. -/
theorem status?_insert_of_status_eq {e : Execution} {node : String} {i j : Instance}
    (found : e.instances.get? node = some i) (same : j.status = i.status) (id : String) :
    ((e.instances.insert node j).get? id).map (·.status) = e.status? id := by
  rw [Dict.get?_insert, status?]
  by_cases here : id = node
  · rw [if_pos here, here, found, Option.map_some, Option.map_some, same]
  · rw [if_neg here]

/-- Putting a new status into an instance marks the node. -/
theorem status?_insert_of_found {e : Execution} {node : String} {i j : Instance}
    (found : e.instances.get? node = some i) (id : String) :
    ((e.instances.insert node j).get? id).map (·.status) =
      (e.standing.mark node j.status).status id := by
  rw [Dict.get?_insert]
  by_cases here : id = node
  · subst here
    have known : (e.standing.status id).isSome := by simp [standing, status?, found]
    rw [if_pos rfl, Standing.mark_status_self known, Option.map_some]
  · rw [if_neg here, Standing.mark_status_of_ne here]
    rfl

theorem standing_amend (e : Execution) (node : String) (f : Instance → Instance)
    (status : Status) (sets : ∀ i, (f i).status = status) :
    (e.amend node f).standing = e.standing.mark node status := by
  unfold amend
  cases found : e.instances.get? node with
  | none =>
      refine Standing.ext rfl rfl rfl rfl rfl rfl (funext fun id => ?_)
      by_cases here : id = node
      · simp [Standing.mark, standing, status?, here, found]
      · simp [Standing.mark, here]
  | some i =>
      refine Standing.ext rfl rfl rfl rfl rfl rfl (funext fun id => ?_)
      rw [← sets i]
      exact status?_insert_of_found found id

theorem standing_deliver {e after : Execution} {now : Nat} {node port : String} {value : Json}
    {events : List Event} (delivered : e.deliver now node port value = .ok (after, events)) :
    after.standing = e.standing := by
  unfold deliver at delivered
  cases found : e.instances.get? node with
  | none => rw [found] at delivered; cases delivered
  | some i =>
      rw [found] at delivered
      dsimp only at delivered
      split at delivered
      all_goals
        cases delivered
        refine Standing.ext rfl rfl rfl rfl rfl rfl (funext fun id => ?_)
        exact status?_insert_of_status_eq (j := { i with inbox := (i.inbox.push port value).1 })
          found rfl id

/-- A message is refused only by a node that does not exist. -/
theorem deliver_of_error {e : Execution} {now : Nat} {node port : String} {value : Json}
    {failure : Failure} (refused : e.deliver now node port value = .error failure) :
    e.status? node = none := by
  unfold deliver at refused
  cases found : e.instances.get? node with
  | none => rw [status?, found]; rfl
  | some i =>
      rw [found] at refused
      dsimp only at refused
      split at refused <;> cases refused

theorem standing_inject {e : Execution} {now : Nat} {node port : String} {value : Json}
    {change : Change} (accepted : e.inject now node port value = .ok change) :
    change.1.standing = e.standing := by
  unfold inject at accepted
  split at accepted
  · cases accepted
  · cases delivered : e.deliver now node port value with
    | error failure => rw [delivered] at accepted; cases accepted
    | ok sent =>
        rw [delivered] at accepted
        cases accepted
        exact standing_deliver delivered

theorem pause_eq_ok {e : Execution} {now : Nat} {change : Change}
    (accepted : e.pause now = .ok change) :
    e.state = .running ∧
      change = ({ e.setState .paused with touched := now }, [.executionPaused e.id]) := by
  unfold pause at accepted
  split at accepted
  · cases accepted
  · rename_i running
    cases accepted
    exact ⟨Decidable.not_not.mp running, rfl⟩

theorem resume_eq_ok {e : Execution} {now : Nat} {change : Change}
    (accepted : e.resume now = .ok change) :
    e.state = .paused ∧
      change = ({ e.setState .running with touched := now }, [.executionResumed e.id]) := by
  unfold resume at accepted
  split at accepted
  · cases accepted
  · rename_i paused
    cases accepted
    exact ⟨Decidable.not_not.mp paused, rfl⟩

theorem remove_eq_ok {e : Execution} {change : Change} (accepted : e.remove = .ok change) :
    e.state.isTerminal = true ∧ change = ({ e with listed := false }, []) := by
  unfold remove at accepted
  split at accepted
  · rename_i terminal
    cases accepted
    rw [e.mirrored] at terminal
    exact ⟨terminal, rfl⟩
  · cases accepted

theorem standing_pause {e : Execution} {now : Nat} {change : Change}
    (accepted : e.pause now = .ok change) :
    e.state = .running ∧ change.1.standing = { e.standing with state := .paused } := by
  obtain ⟨running, rfl⟩ := pause_eq_ok accepted
  exact ⟨running, rfl⟩

theorem standing_resume {e : Execution} {now : Nat} {change : Change}
    (accepted : e.resume now = .ok change) :
    e.state = .paused ∧ change.1.standing = { e.standing with state := .running } := by
  obtain ⟨paused, rfl⟩ := resume_eq_ok accepted
  exact ⟨paused, rfl⟩

theorem standing_stop (e : Execution) (now : Nat) :
    (e.stop now).1.standing =
      if e.state.isTerminal then e.standing
      else { e.standing with state := .cancelled, ended := some now } := by
  unfold stop
  split <;> rfl

theorem standing_remove {e : Execution} {change : Change} (accepted : e.remove = .ok change) :
    change.1.standing = e.standing := by
  obtain ⟨_, rfl⟩ := remove_eq_ok accepted
  rfl

theorem standing_drive {e after : Execution} (accepted : e.drive = .ok after) :
    e.state.isTerminal = false ∧ e.driven = false ∧
      after.standing = { e.standing with driven := true } := by
  unfold drive at accepted
  split at accepted
  · cases accepted
  · split at accepted
    · cases accepted
    · rename_i open_ free
      cases accepted
      exact ⟨Bool.eq_false_iff.mpr open_, Bool.eq_false_iff.mpr free, rfl⟩

theorem claim_refused {e : Execution} {now : Nat} {node : String}
    (refused : e.claim now node = .refused) : e.state ≠ .running := by
  unfold claim at refused
  split at refused
  · assumption
  · cases found : e.instances.get? node with
    | none => rw [found] at refused; cases refused
    | some i => rw [found] at refused; cases refused

theorem claim_absent {e : Execution} {now : Nat} {node : String}
    (absent : e.claim now node = .absent) : e.status? node = none := by
  unfold claim at absent
  split at absent
  · cases absent
  · cases found : e.instances.get? node with
    | none => rw [status?, found]; rfl
    | some i => rw [found] at absent; cases absent

theorem standing_claim {e after : Execution} {now : Nat} {node : String} {context : Context}
    (taken : e.claim now node = .taken after context) :
    e.state = .running ∧ after.standing = e.standing.mark node .running := by
  unfold claim at taken
  split at taken
  · cases taken
  · rename_i running
    cases found : e.instances.get? node with
    | none => rw [found] at taken; cases taken
    | some i =>
        rw [found] at taken
        cases taken
        refine ⟨Decidable.not_not.mp running, ?_⟩
        exact Standing.ext rfl rfl rfl rfl rfl rfl
          (funext fun id => status?_insert_of_found found id)

theorem standing_fail (e : Execution) (now : Nat) (message : String) :
    (e.fail now message).1.standing = e.standing.fail now message :=
  standing_skipPending _

theorem standing_recordExpired (e : Execution) (now : Nat) (node : Graph.Node) (duration : Nat)
    (text : String) :
    (e.recordExpired now node duration text).1.standing =
      (e.standing.mark node.id .failed).fail now (failureAt node.id text) := by
  rw [recordExpired, standing_fail, standing_amend _ _ _ .failed fun _ => rfl]
  rfl

/-- Forwarding does not show, and breaks off only before a target that does not exist. -/
theorem standing_forward (now : Nat) (output : Json) (edges : List Graph.Edge)
    (change : Change) :
    (forward now output edges change).1.1.standing = change.1.standing ∧
      ((∀ edge ∈ edges, (change.1.status? edge.target.node).isSome) →
        (forward now output edges change).2 = none) := by
  induction edges generalizing change with
  | nil => exact ⟨rfl, fun _ => rfl⟩
  | cons edge rest ih =>
      obtain ⟨e, events⟩ := change
      unfold forward
      cases delivered : e.deliver now edge.target.node edge.targetPort
          (portValue output edge.sourcePort) with
      | error failure =>
          refine ⟨rfl, fun known => ?_⟩
          have target := known edge List.mem_cons_self
          rw [deliver_of_error delivered] at target
          cases target
      | ok sent =>
          obtain ⟨after, more⟩ := sent
          have same := standing_deliver delivered
          obtain ⟨kept, completes⟩ := ih
            ({ after with metrics := after.metrics.emit, touched := now }, events ++ more)
          refine ⟨kept.trans same, fun known => completes fun other mem => ?_⟩
          have there := known other (List.mem_cons_of_mem _ mem)
          have statuses : after.status? = e.status? := congrArg Standing.status same
          exact statuses ▸ there

section Record

variable (e : Execution) (now : Nat) (node : Graph.Node) (edges : List Graph.Edge)
  (duration : Nat) (report : Action.Report) (context : Context)

/-- The execution with the outcome of the node in its instance. -/
theorem standing_recorded :
    (amend { e with
        metrics := e.metrics.invocation node.component duration report.success, touched := now }
      node.id fun i =>
        { i with
          lastDuration := some duration
          output := report.output
          error := report.error
          status := if report.success then .completed else .failed }).standing =
      e.standing.mark node.id (if report.success then .completed else .failed) :=
  standing_amend _ _ _ _ fun _ => rfl

/-- A node that succeeded is completed, and the next one has its turn. -/
theorem record_success (success : report.success = true) :
    (e.record now node edges duration report context).1.1.standing =
        e.standing.mark node.id .completed ∧
      ((∀ edge ∈ edges, (e.status? edge.target.node).isSome) →
        (e.record now node edges duration report context).2 = .next) := by
  have recorded := standing_recorded e now node duration report
  rw [success, if_pos rfl] at recorded
  simp only [record, success, if_true]
  -- the execution that hands on its context stands as the one with the outcome
  generalize handed : ({ amend _ node.id _ with context := _ } : Execution) = after
  have recorded : after.standing = e.standing.mark node.id .completed := handed ▸ recorded
  obtain ⟨kept, completes⟩ := standing_forward now (report.output.getD .null) edges (after, [])
  cases forwarded : forward now (report.output.getD .null) edges (after, []) with
  | mk change failure =>
      rw [forwarded] at kept completes
      have shown : change.1.standing = e.standing.mark node.id .completed := kept.trans recorded
      refine ⟨?_, fun targets => ?_⟩
      · cases failure with
        | none => exact shown
        | some failure => exact shown
      · have none : failure = none := completes fun edge mem => by
          have statuses : after.status? = (e.standing.mark node.id .completed).status :=
            congrArg Standing.status recorded
          have marked : (after.status? edge.target.node).isSome := by
            rw [statuses, Standing.isSome_mark]
            exact targets edge mem
          exact marked
        subst none
        rfl

/-- A node that failed makes the execution fail, unless that has ended. -/
theorem record_failure (failed : report.success = false) :
    (e.record now node edges duration report context).1.1.standing =
        (if e.state.isTerminal then e.standing.mark node.id .failed
        else (e.standing.mark node.id .failed).fail now
          (failureAt node.id (report.error.getD "unknown error"))) ∧
      (e.record now node edges duration report context).2 = .settle := by
  have recorded := standing_recorded e now node duration report
  rw [failed, if_neg Bool.false_ne_true] at recorded
  simp only [record, failed, Bool.false_eq_true, if_false]
  generalize amended : amend _ node.id _ = after at recorded ⊢
  have state : after.state = e.state := congrArg Standing.state recorded
  rw [state]
  by_cases terminal : e.state.isTerminal = true
  · rw [if_pos terminal, if_pos terminal]
    exact ⟨recorded, rfl⟩
  · rw [if_neg terminal, if_neg terminal]
    refine ⟨?_, rfl⟩
    rw [← recorded]
    exact standing_fail _ _ _

end Record

theorem standing_finish (e : Execution) (now duration : Nat) :
    (e.finish now duration).1.standing = e.standing.finish now := by
  unfold finish Standing.finish
  by_cases running : e.state = .running
  · have shown : e.standing.state = .running := running
    rw [if_pos running, if_pos shown]
    exact standing_skipPending _
  · have shown : ¬ e.standing.state = .running := running
    rw [if_neg running, if_neg shown]
    exact standing_skipPending _

end ActionGraph.Execution
