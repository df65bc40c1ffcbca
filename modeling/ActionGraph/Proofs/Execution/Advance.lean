import ActionGraph.Execution.Run
import ActionGraph.Proofs.Execution.Standing

/-!
# The steps of a run

`Advances` lists what one step of a run can do to its execution and to where
the run is, with the condition of each.  A run that makes no step waits.
-/

namespace ActionGraph

/-! ## Executions held by an engine -/

namespace Engine

theorem held?_id {engine : Engine} {id : String} {e : Execution}
    (held : engine.held? id = some e) : e.id = id := by
  have chosen := List.find?_some held
  exact of_decide_eq_true chosen

/-- What is entered for an execution takes its place, and no other changes. -/
theorem held?_enter (engine : Engine) (change : Execution.Change) (id : String) :
    (engine.enter change).held? id =
      if id = change.1.id then (engine.held? id).map fun _ => change.1 else engine.held? id := by
  have place : ∀ e : Execution, (if e.id = change.1.id then change.1 else e).id = e.id := by
    intro e
    split
    · rename_i same
      exact same.symm
    · rfl
  have found : (engine.enter change).held? id =
      (engine.held? id).map fun e => if e.id = change.1.id then change.1 else e := by
    simp only [held?, enter, List.find?_map]
    congr 2
    funext e
    simp only [Function.comp_apply, place]
  rw [found]
  cases held : engine.held? id with
  | none => simp
  | some e =>
      have named := held?_id held
      by_cases here : id = change.1.id
      · simp [here, named]
      · simp [here, named]

theorem held?_enter_of_held {engine : Engine} {id : String} {e : Execution}
    (held : engine.held? id = some e) {change : Execution.Change} (same : change.1.id = e.id)
    (other : String) :
    (engine.enter change).held? other =
      if other = id then some change.1 else engine.held? other := by
  have named : change.1.id = id := same.trans (held?_id held)
  rw [held?_enter, named]
  by_cases here : other = id
  · rw [if_pos here, if_pos here, here, held, Option.map_some]
  · rw [if_neg here, if_neg here]

end Engine

namespace Execution

open ActionGraph.Action ActionGraph.Graph

variable {σ : Type}

def Onward.phase (rest : List Turn) : Onward → Phase σ
  | .next => .before rest
  | .settle => .settling
  | .abort failure => .ended (.error failure)

/-- A run that is here makes no step: its execution is paused, its node waits, or it is over. -/
def Phase.Waits (e : Execution) : Phase σ → Prop
  | .resting _ _ => e.state = .paused
  | .working _ _ _ _ work => ∃ alarm next, work = .wait alarm next
  | .settling => e.state = .paused
  | .ended _ => True
  | _ => False

/-- If the execution is not paused, a run waits only for its node, or it is over. -/
theorem Phase.Waits.unpaused {e : Execution} {phase : Phase σ} (waits : phase.Waits e)
    (unpaused : e.state ≠ .paused) :
    (∃ turn rest context since alarm next,
      phase = .working turn rest context since (.wait alarm next)) ∨
      ∃ result, phase = .ended result := by
  cases phase with
  | resting turn rest => exact absurd waits unpaused
  | working turn rest context since work =>
      obtain ⟨alarm, next, rfl⟩ := waits
      exact .inl ⟨turn, rest, context, since, alarm, next, rfl⟩
  | settling => exact absurd waits unpaused
  | ended result => exact .inr ⟨result, rfl⟩
  | _ => exact waits.elim

namespace Run

def assigned (registry : Registry σ) (limit : Nat) (node : Node) (context : Context) : Work σ :=
  Process.timeout limit (registry.dispatch (spec node) context)

inductive Advances (registry : Registry σ) :
    Execution → Phase σ → Execution → Phase σ → Prop where
  | turn {e : Execution} {turn : Turn} {rest : List Turn} (running : e.state = .running) :
      Advances registry e (.resting turn rest) e (.claiming turn rest)
  | giveUp {e : Execution} {turn : Turn} {rest : List Turn} (terminal : e.state.isTerminal = true) :
      Advances registry e (.resting turn rest) e .settling
  | refused {e : Execution} {turn : Turn} {rest : List Turn} (notRunning : e.state ≠ .running) :
      Advances registry e (.claiming turn rest) e .settling
  | absent {e : Execution} {turn : Turn} {rest : List Turn}
      (unknown : e.status? turn.node.id = none) :
      Advances registry e (.claiming turn rest) e (.before rest)
  | claim {e after : Execution} {turn : Turn} {rest : List Turn} {now : Nat} {context : Context}
      (taken : e.claim now turn.node.id = .taken after context) :
      Advances registry e (.claiming turn rest) after (.announcing turn rest context)
  | announce {e : Execution} {turn : Turn} {rest : List Turn} {context : Context}
      (limit now : Nat) :
      Advances registry e (.announcing turn rest context) e
        (.working turn rest context now (assigned registry limit turn.node context))
  | interrupt {e : Execution} {turn : Turn} {rest : List Turn} {context : Context} {since : Nat}
      {work : Work σ} (cancelled : e.state = .cancelled) :
      Advances registry e (.working turn rest context since work) e .settling
  | work {e : Execution} {turn : Turn} {rest : List Turn} {context : Context} {since : Nat}
      {work next : Work σ} (child : Process.Child next work) :
      Advances registry e (.working turn rest context since work) e
        (.working turn rest context since next)
  | overdue {e : Execution} {turn : Turn} {rest : List Turn} {context : Context} {since : Nat}
      (live : e.state ≠ .cancelled) (limit elapsed : Nat) :
      Advances registry e (.working turn rest context since (.done none)) e
        (.reporting turn rest elapsed (overdue turn.node limit elapsed) context)
  | report {e : Execution} {turn : Turn} {rest : List Turn} {context after : Context}
      {since : Nat} {report : Action.Report} (live : e.state ≠ .cancelled) (elapsed : Nat) :
      Advances registry e (.working turn rest context since (.done (some (.ok report, after)))) e
        (.reporting turn rest elapsed report after)
  | expire {e : Execution} {turn : Turn} {rest : List Turn} {context after : Context}
      {since : Nat} {failure : Failure} (live : e.state ≠ .cancelled) (elapsed : Nat) :
      Advances registry e
        (.working turn rest context since (.done (some (.error failure, after)))) e
        (.expiring turn elapsed failure)
  | publish {e : Execution} {turn : Turn} {rest : List Turn} {duration : Nat}
      {report : Action.Report} {context : Context} :
      Advances registry e (.reporting turn rest duration report context) e
        (.recording turn rest duration report context)
  | record {e : Execution} {turn : Turn} {rest : List Turn} {duration : Nat}
      {report : Action.Report} {context : Context} (now : Nat) :
      Advances registry e (.recording turn rest duration report context)
        (e.record now turn.node turn.edges duration report context).1.1
        ((e.record now turn.node turn.edges duration report context).2.phase rest)
  | recordExpired {e : Execution} {turn : Turn} {duration : Nat} {failure : Failure}
      (now : Nat) :
      Advances registry e (.expiring turn duration failure)
        (e.recordExpired now turn.node duration failure.message).1 (.ended (.error failure))
  | settle {e : Execution} (notPaused : e.state ≠ .paused) :
      Advances registry e .settling e .finishing
  | finish {e : Execution} (now duration : Nat) :
      Advances registry e .finishing (e.finish now duration).1
        (.ended (.ok ⟨(e.finish now duration).1, duration⟩))

/-- A step that leaves the world of actions alone, and what is entered for the execution. -/
theorem advances_of_stepEngine {registry : Registry σ} {now started : Nat} {e : Execution}
    {engine engine' : Engine} {phase phase' : Phase σ}
    (stepped : stepEngine registry now started e engine phase = some (phase', engine')) :
    (Advances registry e phase e phase' ∧ ∃ bus, engine' = { engine with bus }) ∨
      ∃ change, Advances registry e phase change.1 phase' ∧ engine' = engine.enter change := by
  cases phase with
  | resting turn rest =>
      simp only [stepEngine, e.mirrored] at stepped
      cases state : e.state with
      | paused => simp only [state, reduceCtorEq] at stepped
      | running =>
          simp only [state, Option.some.injEq, Prod.mk.injEq] at stepped
          obtain ⟨rfl, rfl⟩ := stepped
          exact .inl ⟨.turn state, _, rfl⟩
      | cancelled | completed | failed =>
          simp only [state, Option.some.injEq, Prod.mk.injEq] at stepped
          obtain ⟨rfl, rfl⟩ := stepped
          exact .inl ⟨.giveUp (by rw [state]; rfl), _, rfl⟩
  | claiming turn rest =>
      simp only [stepEngine] at stepped
      cases claimed : e.claim now turn.node.id with
      | refused =>
          simp only [claimed, Option.some.injEq, Prod.mk.injEq] at stepped
          obtain ⟨rfl, rfl⟩ := stepped
          exact .inl ⟨.refused (claim_refused claimed), _, rfl⟩
      | absent =>
          simp only [claimed, Option.some.injEq, Prod.mk.injEq] at stepped
          obtain ⟨rfl, rfl⟩ := stepped
          exact .inl ⟨.absent (claim_absent claimed), _, rfl⟩
      | taken after context =>
          simp only [claimed, Option.some.injEq, Prod.mk.injEq] at stepped
          obtain ⟨rfl, rfl⟩ := stepped
          exact .inr ⟨(after, []), .claim claimed, rfl⟩
  | announcing turn rest context =>
      simp only [stepEngine, Option.some.injEq, Prod.mk.injEq] at stepped
      obtain ⟨rfl, rfl⟩ := stepped
      exact .inl ⟨.announce _ _, _, rfl⟩
  | working turn rest context since work =>
      simp only [stepEngine] at stepped
      split at stepped
      · rename_i cancelled
        simp only [Option.some.injEq, Prod.mk.injEq] at stepped
        obtain ⟨rfl, rfl⟩ := stepped
        exact .inl ⟨.interrupt cancelled, _, rfl⟩
      · rename_i live
        split at stepped <;>
          simp only [Option.some.injEq, Prod.mk.injEq, reduceCtorEq] at stepped
        all_goals obtain ⟨rfl, rfl⟩ := stepped
        · exact .inl ⟨.overdue live _ _, _, rfl⟩
        · exact .inl ⟨.report live _, _, rfl⟩
        · exact .inl ⟨.expire live _, _, rfl⟩
  | reporting turn rest duration report context =>
      simp only [stepEngine, Option.some.injEq, Prod.mk.injEq] at stepped
      obtain ⟨rfl, rfl⟩ := stepped
      exact .inl ⟨.publish, _, rfl⟩
  | recording turn rest duration report context =>
      simp only [stepEngine, Option.some.injEq, Prod.mk.injEq] at stepped
      obtain ⟨rfl, rfl⟩ := stepped
      exact .inr ⟨_, .record now, rfl⟩
  | expiring turn duration failure =>
      simp only [stepEngine, Option.some.injEq, Prod.mk.injEq] at stepped
      obtain ⟨rfl, rfl⟩ := stepped
      exact .inr ⟨_, .recordExpired now, rfl⟩
  | settling =>
      simp only [stepEngine, e.mirrored] at stepped
      split at stepped
      · cases stepped
      · rename_i notPaused
        simp only [Option.some.injEq, Prod.mk.injEq] at stepped
        obtain ⟨rfl, rfl⟩ := stepped
        exact .inl ⟨.settle notPaused, _, rfl⟩
  | finishing =>
      simp only [stepEngine, Option.some.injEq, Prod.mk.injEq] at stepped
      obtain ⟨rfl, rfl⟩ := stepped
      exact .inr ⟨_, .finish now _, rfl⟩
  | ended result => cases stepped

/-- Whose execution it is, of which graph and whether it is being run: a step leaves that alone. -/
theorem Advances.frame {registry : Registry σ} {e after : Execution} {phase phase' : Phase σ}
    (advances : Advances registry e phase after phase') :
    after.id = e.id ∧ after.graph = e.graph ∧ after.driven = e.driven := by
  have ofStanding : ∀ s : Standing, after.standing = s →
      s.id = e.id ∧ s.graph = e.graph ∧ s.driven = e.driven →
      after.id = e.id ∧ after.graph = e.graph ∧ after.driven = e.driven := by
    rintro _ rfl kept
    exact kept
  cases advances with
  | claim taken => exact ofStanding _ (standing_claim taken).2 ⟨rfl, rfl, rfl⟩
  | @record turn rest duration report context now =>
      cases success : report.success with
      | true =>
          exact ofStanding _ (record_success e now turn.node turn.edges duration report context
            success).1 ⟨rfl, rfl, rfl⟩
      | false =>
          refine ofStanding _ (record_failure e now turn.node turn.edges duration report context
            success).1 ?_
          split <;> exact ⟨rfl, rfl, rfl⟩
  | recordExpired now => exact ofStanding _ (standing_recordExpired e now _ _ _) ⟨rfl, rfl, rfl⟩
  | finish now duration =>
      exact ofStanding _ (standing_finish e now duration)
        ⟨Standing.finish_id _ _, Standing.finish_graph _ _, Standing.finish_driven _ _⟩
  | _ => exact ⟨rfl, rfl, rfl⟩

/-- The nodes of an execution stay the same. -/
theorem Advances.known {registry : Registry σ} {e after : Execution} {phase phase' : Phase σ}
    (advances : Advances registry e phase after phase') (id : String) :
    (after.status? id).isSome = (e.status? id).isSome := by
  have marked : ∀ {node : String} {status : Status},
      after.standing = e.standing.mark node status →
      (after.status? id).isSome = (e.status? id).isSome := by
    intro node status same
    exact (congrArg (fun s => (s.status id).isSome) same).trans (Standing.isSome_mark _ _ _ _)
  have failed : ∀ {node message : String} {status : Status} {now : Nat},
      after.standing = (e.standing.mark node status).fail now message →
      (after.status? id).isSome = (e.status? id).isSome := by
    intro node message status now same
    refine (congrArg (fun s => (s.status id).isSome) same).trans ?_
    rw [Standing.fail_status, Option.isSome_map]
    exact Standing.isSome_mark _ _ _ _
  cases advances with
  | claim taken => exact marked (standing_claim taken).2
  | @record turn rest duration report context now =>
      cases success : report.success with
      | true =>
          exact marked (record_success e now turn.node turn.edges duration report context success).1
      | false =>
          have same := (record_failure e now turn.node turn.edges duration report context success).1
          split at same
          · exact marked same
          · exact failed same
  | recordExpired now => exact failed (standing_recordExpired e now _ _ _)
  | finish now duration =>
      have same := congrArg (fun s => (s.status id).isSome) (standing_finish e now duration)
      refine same.trans ?_
      rw [Standing.finish_status, Option.isSome_map]
      rfl
  | _ => rfl

/-- No step of a run pauses its execution. -/
theorem Advances.unpaused {registry : Registry σ} {e after : Execution} {phase phase' : Phase σ}
    (advances : Advances registry e phase after phase') (unpaused : e.state ≠ .paused) :
    after.state ≠ .paused := by
  have ofStanding : ∀ s : Standing, after.standing = s → s.state ≠ .paused →
      after.state ≠ .paused := by
    rintro _ rfl kept
    exact kept
  cases advances with
  | claim taken => exact ofStanding _ (standing_claim taken).2 unpaused
  | @record turn rest duration report context now =>
      cases success : report.success with
      | true =>
          exact ofStanding _ (record_success e now turn.node turn.edges duration report context
            success).1 unpaused
      | false =>
          refine ofStanding _ (record_failure e now turn.node turn.edges duration report context
            success).1 ?_
          split
          · exact unpaused
          · exact nofun
  | recordExpired now => exact ofStanding _ (standing_recordExpired e now _ _ _) nofun
  | finish now duration =>
      refine ofStanding _ (standing_finish e now duration) ?_
      rw [Standing.finish_state]
      split
      · exact nofun
      · exact unpaused
  | _ => exact unpaused

theorem advances_of_stepWork {registry : Registry σ} {world world' : World σ} {e : Execution}
    {phase phase' : Phase σ} (stepped : stepWork world phase = some (phase', world')) :
    Advances registry e phase e phase' := by
  unfold stepWork at stepped
  split at stepped
  · cases stepped
    exact .work (.act _ _ _)
  · split at stepped
    · cases stepped
      exact .work (.wait _ _)
    · cases stepped
  · cases stepped

/-- A step of a run advances it on its execution, and changes no other execution. -/
theorem advances_of_step {registry : Registry σ} {run after : Run σ} {w v : Workplace σ}
    {e : Execution} (held : w.engine.held? run.execution = some e)
    (stepped : run.step registry w = some (after, v)) :
    after.execution = run.execution ∧
      ∃ e', Advances registry e run.phase e' after.phase ∧
        ∀ id, v.engine.held? id = if id = run.execution then some e' else w.engine.held? id := by
  have unchanged : ∀ id, w.engine.held? id =
      if id = run.execution then some e else w.engine.held? id := by
    intro id
    split
    · rename_i here
      rw [here, held]
    · rfl
  simp only [step, held] at stepped
  split at stepped
  · rename_i phase engine found
    cases stepped
    refine ⟨rfl, ?_⟩
    rcases advances_of_stepEngine found with ⟨advances, bus, rfl⟩ | ⟨change, advances, rfl⟩
    · exact ⟨e, advances, unchanged⟩
    · exact ⟨change.1, advances, Engine.held?_enter_of_held held advances.frame.1⟩
  · split at stepped
    · rename_i phase world found
      cases stepped
      exact ⟨rfl, e, advances_of_stepWork found, unchanged⟩
    · cases stepped

theorem held_of_step {registry : Registry σ} {run after : Run σ} {w v : Workplace σ}
    (stepped : run.step registry w = some (after, v)) :
    ∃ e, w.engine.held? run.execution = some e := by
  cases held : w.engine.held? run.execution with
  | none =>
      rw [step, held] at stepped
      cases stepped
  | some e => exact ⟨e, rfl⟩

theorem execution_of_step {registry : Registry σ} {run after : Run σ} {w v : Workplace σ}
    (stepped : run.step registry w = some (after, v)) : after.execution = run.execution := by
  obtain ⟨e, held⟩ := held_of_step stepped
  exact (advances_of_step held stepped).1

/-- A run that makes no step waits. -/
theorem waits_of_step_none {registry : Registry σ} {run : Run σ} {w : Workplace σ}
    {e : Execution} (held : w.engine.held? run.execution = some e)
    (stuck : run.step registry w = none) : run.phase.Waits e := by
  have none : stepEngine registry w.now run.started e w.engine run.phase = none ∧
      stepWork w.world run.phase = none := by
    simp only [step, held] at stuck
    split at stuck
    · cases stuck
    · rename_i idle
      split at stuck
      · cases stuck
      · rename_i asleep
        exact ⟨idle, asleep⟩
  obtain ⟨idle, asleep⟩ := none
  cases phase : run.phase with
  | resting turn rest =>
      simp only [phase, stepEngine, e.mirrored] at idle
      cases state : e.state with
      | paused => exact state
      | _ => simp only [state, reduceCtorEq] at idle
  | claiming turn rest =>
      simp only [phase, stepEngine] at idle
      cases claimed : e.claim w.now turn.node.id with
      | _ => simp only [claimed, reduceCtorEq] at idle
  | working turn rest context since work =>
      cases work with
      | done result =>
          simp only [phase, stepEngine] at idle
          split at idle
          · cases idle
          · cases result with
            | none => cases idle
            | some result =>
                obtain ⟨outcome, after⟩ := result
                cases outcome with
                | ok report => cases idle
                | error failure => cases idle
      | act change next => simp only [phase, stepWork, reduceCtorEq] at asleep
      | wait alarm next => exact ⟨alarm, next, rfl⟩
  | settling =>
      simp only [phase, stepEngine, e.mirrored] at idle
      cases state : e.state with
      | paused => exact state
      | _ => simp only [state, reduceCtorEq] at idle
  | ended result => trivial
  | _ => simp only [phase, stepEngine, reduceCtorEq] at idle

theorem phase_of_result? {run : Run σ} {result : Except Failure Execution.Report}
    (answered : run.result? = some result) : run.phase = .ended result := by
  unfold result? at answered
  split at answered
  · rename_i ended
    rw [ended, Option.some.inj answered]
  · cases answered

/-- A node whose alarm rings goes on. -/
theorem exists_step_of_due (registry : Registry σ) {run : Run σ} {w : Workplace σ}
    {e : Execution} (held : w.engine.held? run.execution = some e) {turn : Turn}
    {rest : List Turn} {context : Context} {since : Nat} {alarm : Alarm} {next : Work σ}
    (here : run.phase = .working turn rest context since (.wait alarm next))
    (due : alarm.due ≤ w.world.now) : ∃ after, run.step registry w = some after := by
  have goesOn : stepWork w.world run.phase =
      some (.working turn rest context since next, w.world) := by
    rw [here, stepWork, if_pos due]
  simp only [step, held, goesOn]
  split
  · exact ⟨_, rfl⟩
  · exact ⟨_, rfl⟩

end Run

end Execution

end ActionGraph
