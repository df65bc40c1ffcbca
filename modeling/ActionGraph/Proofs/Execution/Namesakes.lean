import ActionGraph.Proofs.Execution.Operations
import ActionGraph.Proofs.Execution.Sections

/-!
# Executions under other names

The sections of an execution read its identifier and that of its graph only
for what they publish and refuse.  Under other names it goes through them in
the same way.
-/

namespace ActionGraph.Execution

open ActionGraph.Graph

structure Names where
  id : String
  graph : String

def named (e : Execution) (names : Names) : Execution :=
  { e with id := names.id, graph := names.graph }

/-- Changes of an execution and of the same under other names. -/
def Change.Alike (names : Names) (change other : Change) : Prop :=
  other.1 = change.1.named names

def Claim.named (names : Names) : Claim → Claim
  | .refused => .refused
  | .absent => .absent
  | .taken after context => .taken (after.named names) context

variable (e : Execution) (names : Names)

theorem amend_named (node : String) (f : Instance → Instance) :
    (e.named names).amend node f = (e.amend node f).named names := by
  have same : (e.named names).instances = e.instances := rfl
  rw [amend, amend, same]
  cases e.instances.get? node <;> rfl

theorem counted_named (now : Nat) (node : Node) (duration : Nat) (success : Bool)
    (f : Instance → Instance) :
    (e.named names).counted now node duration success f =
      (e.counted now node duration success f).named names :=
  amend_named
    { e with metrics := e.metrics.invocation node.component duration success, touched := now }
    names node.id f

/-! ## Requests -/

theorem deliver_named (now : Nat) (node port : String) (value : Json) :
    Option.Rel (Change.Alike names) (e.deliver now node port value).toOption
      ((e.named names).deliver now node port value).toOption := by
  have same : (e.named names).instances = e.instances := rfl
  rw [deliver, deliver, same]
  cases e.instances.get? node with
  | none => exact .none
  | some i =>
      dsimp only
      cases (i.inbox.push port value).2 <;> exact .some rfl

theorem apply_named (now : Nat) (request : Request) :
    Option.Rel (Change.Alike names) (request.apply now e).toOption
      (request.apply now (e.named names)).toOption := by
  have state : (e.named names).state = e.state := rfl
  have mirror : (e.named names).mirror = e.mirror := rfl
  cases request with
  | inject node port value =>
      simp only [Request.apply, inject, state]
      split
      · exact .none
      · rw [toOption_map, toOption_map]
        exact rel_map (deliver_named e names now node port value) fun _ _ _ alike => alike
  | pause =>
      simp only [Request.apply, pause, state]
      split
      · exact .none
      · exact .some rfl
  | resume =>
      simp only [Request.apply, resume, state]
      split
      · exact .none
      · exact .some rfl
  | stop =>
      simp only [Request.apply, stop, state]
      split <;> exact .some rfl
  | remove =>
      simp only [Request.apply, remove, mirror]
      split
      · exact .some rfl
      · exact .none

/-! ## Turns -/

theorem drive_named :
    Option.Rel (fun after other => other = after.named names) e.drive.toOption
      (e.named names).drive.toOption := by
  have state : (e.named names).state = e.state := rfl
  have driven : (e.named names).driven = e.driven := rfl
  simp only [drive, state, driven]
  split
  · exact .none
  · split
    · exact .none
    · exact .some rfl

theorem claim_named (now : Nat) (node : String) :
    (e.named names).claim now node = (e.claim now node).named names := by
  have state : (e.named names).state = e.state := rfl
  have instances : (e.named names).instances = e.instances := rfl
  simp only [claim, state, instances]
  split
  · rfl
  · cases e.instances.get? node <;> rfl

theorem forward_named (now : Nat) (output : Json) (edges : List Edge)
    (events more : List Event) :
    (forward now output edges (e.named names, more)).1.1 =
      (forward now output edges (e, events)).1.1.named names := by
  induction edges generalizing e events more with
  | nil => rfl
  | cons edge rest ih =>
      have same := deliver_named e names now edge.target.node edge.targetPort
        (portValue output edge.sourcePort)
      rw [forward, forward]
      generalize e.deliver now edge.target.node edge.targetPort _ = sent at same ⊢
      generalize (e.named names).deliver now edge.target.node edge.targetPort _ = sent' at same ⊢
      cases sent with
      | error failure =>
          cases sent' with
          | error failure' => rfl
          | ok change' => cases same
      | ok change =>
          cases sent' with
          | error failure' => cases same
          | ok change' =>
              cases same with
              | some alike =>
                  obtain ⟨after, told⟩ := change'
                  obtain rfl : after = change.1.named names := alike
                  exact ih { change.1 with metrics := change.1.metrics.emit, touched := now } _ _

theorem fail_named (now : Nat) (message : String) :
    ((e.named names).fail now message).1 = (e.fail now message).1.named names :=
  rfl

theorem record_named (now : Nat) (node : Node) (edges : List Edge) (duration : Nat)
    (report : Action.Report) (context : Context) :
    ((e.named names).record now node edges duration report context).1.1 =
      (e.record now node edges duration report context).1.1.named names := by
  cases success : report.success with
  | true =>
      rw [record_of_success _ now node edges duration context success,
        record_of_success _ now node edges duration context success, counted_named]
      exact forward_named
        { e.counted now node duration true (·.conclude duration report) with
          context := context.remove inputsKey }
        names now _ edges [] []
  | false =>
      rw [record_of_failure _ now node edges duration context success,
        record_of_failure _ now node edges duration context success, counted_named]
      have state : (e.named names).state = e.state := rfl
      rw [state]
      split
      · rfl
      · exact fail_named _ names now _

theorem recordExpired_named (now : Nat) (node : Node) (duration : Nat) (text : String) :
    ((e.named names).recordExpired now node duration text).1 =
      (e.recordExpired now node duration text).1.named names := by
  rw [recordExpired_eq, recordExpired_eq, counted_named]
  exact fail_named _ names now _

theorem finish_named (now duration : Nat) :
    ((e.named names).finish now duration).1 = (e.finish now duration).1.named names := by
  have state : (e.named names).state = e.state := rfl
  rw [finish, finish, state]
  split <;> rfl

end ActionGraph.Execution
