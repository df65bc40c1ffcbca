import ActionGraph.Proofs.Action.Likeness
import ActionGraph.Proofs.Execution.Course
import ActionGraph.Proofs.Execution.Namesakes

/-!
# Runs side by side

Two runs of one graph, each in a system of its own, are twins if they are at
the same place and their worlds are the same to the share that their nodes
keep to.  The names of their executions may differ, and so may the places of
the alarms that they wait for.  A step of one is matched by a step of the
other.
-/

namespace ActionGraph

open ActionGraph.Action (Shares Task World)
open Execution (Names Phase Run)
open ActionGraph.Graph (Loaded)

variable {σ V : Type} {registry : Action.Registry σ} {shares : Shares σ V} {i : Nat}
  {r : Nat → Nat → Prop} {names : Names}

/-! ## Shares of runs -/

/-- What every node of a graph dispatches keeps to a share, whatever its context. -/
def Graph.Loaded.KeepsTo (registry : Action.Registry σ) (shares : Shares σ V) (i : Nat)
    (g : Loaded) : Prop :=
  ∀ turn ∈ g.turns, ∀ context,
    Task.KeepsTo shares i (registry.dispatch (Run.spec turn.node) context)

def Execution.Report.named (report : Execution.Report) (names : Names) : Execution.Report :=
  { report with execution := report.execution.named names }

def Execution.Phase.Alike (shares : Shares σ V) (i : Nat) (names : Names)
    (r : Nat → Nat → Prop) : Phase σ → Phase σ → Prop
  | .working turn rest context since work, other =>
      ∃ work', other = .working turn rest context since work' ∧ Task.Alike shares i r work work'
  | .ended result, other => other = .ended (result.map (·.named names))
  | phase, other => other = phase

theorem Execution.Phase.alike_before (rest : List Graph.Turn) :
    (Phase.before rest : Phase σ).Alike shares i names r (.before rest) := by
  cases rest <;> rfl

/-! ## Engines side by side -/

/-- Engines with the same settings, in which an execution is the same under other names. -/
structure Engine.Twin (id : String) (names : Names) (a b : Engine) : Prop where
  limits : b.limits = a.limits
  held : b.held? names.id = (a.held? id).map (·.named names)

namespace Engine.Twin

variable {id : String} {a b : Engine}

theorem publish (twin : Engine.Twin id names a b) (event other : Event) :
    Engine.Twin id names (a.publish event) (b.publish other) :=
  ⟨twin.limits, twin.held⟩

theorem enter (twin : Engine.Twin id names a b) {e : Execution} (held : a.held? id = some e)
    {change change' : Execution.Change} (same : change.1.id = e.id)
    (likewise : change'.1 = change.1.named names) :
    Engine.Twin id names (a.enter change) (b.enter change') := by
  have heldToo := twin.held
  rw [held, Option.map_some] at heldToo
  have sameToo : change'.1.id = (e.named names).id := by rw [likewise]; rfl
  refine ⟨twin.limits, ?_⟩
  rw [held?_enter_of_held held same, held?_enter_of_held heldToo sameToo, if_pos rfl, if_pos rfl,
    likewise, Option.map_some]

end Engine.Twin

/-! ## Steps -/

namespace Execution.Run

structure Twin (shares : Shares σ V) (i : Nat) (names : Names) (p q : Run σ × Workplace σ) :
    Prop where
  engine : Engine.Twin p.1.execution names p.2.engine q.2.engine
  execution : q.1.execution = names.id
  started : q.1.started = p.1.started
  abreast : ∃ r, World.Matched shares i r p.2.world q.2.world ∧
    p.1.phase.Alike shares i names r q.1.phase

section Step

variable {g : Loaded} {e : Execution} {engine engine' : Engine} {phase phase' : Phase σ}
  {lost late : Prop}

/-- Twins that are not at work make the same step. -/
theorem stepEngine_alike (accepted : g.Accepted)
    (course : Track.Course lost late g ⟨e, some phase⟩) (keeps : g.KeepsTo registry shares i)
    (held : engine.held? e.id = some e) (twin : Engine.Twin e.id names engine engine')
    (alike : phase.Alike shares i names r phase') (now started : Nat) :
    Option.Rel
      (fun p q => p.1.Alike shares i names r q.1 ∧ Engine.Twin e.id names p.2 q.2)
      (stepEngine registry now started e engine phase)
      (stepEngine registry now started (e.named names) engine' phase') := by
  have state : (e.named names).state = e.state := rfl
  have mirror : (e.named names).mirror = e.mirror := rfl
  have stage := course.stage
  cases phase with
  | resting turn rest =>
      obtain rfl : phase' = _ := alike
      simp only [stepEngine, mirror]
      split
      · exact .some ⟨rfl, twin⟩
      · exact .none
      · exact .some ⟨rfl, twin⟩
  | claiming turn rest =>
      obtain rfl : phase' = _ := alike
      simp only [stepEngine, claim_named]
      cases claimed : e.claim now turn.node.id with
      | refused => exact .some ⟨rfl, twin⟩
      | absent => exact .some ⟨Phase.alike_before rest, twin⟩
      | taken after context =>
          have same : after.id = e.id := congrArg Standing.id (standing_claim claimed).2
          exact .some ⟨rfl, twin.enter held same rfl⟩
  | announcing turn rest context =>
      obtain rfl : phase' = _ := alike
      have work := keeps turn (AtTurn.stands stage).mem context
      simp only [stepEngine, twin.limits]
      exact .some ⟨⟨_, rfl, (work.timeout _).alike r⟩, twin.publish _ _⟩
  | working turn rest context since work =>
      obtain ⟨work', rfl, likewise⟩ := alike
      simp only [stepEngine, state, twin.limits]
      split
      · exact .some ⟨rfl, twin⟩
      · cases likewise with
        | done ended =>
            rcases ended with _ | ⟨_ | report, after⟩
            · exact .some ⟨rfl, twin⟩
            · exact .some ⟨rfl, twin⟩
            · exact .some ⟨rfl, twin⟩
        | act => exact .none
        | wait => exact .none
  | reporting turn rest duration report context =>
      obtain rfl : phase' = _ := alike
      exact .some ⟨rfl, twin.publish _ _⟩
  | recording turn rest duration report context =>
      obtain rfl : phase' = _ := alike
      have mem := (AtTurn.stands stage).mem
      have keyedToo : Keyed g (e.named names) := course.keyed
      have advances : Advances registry e (.recording turn rest duration report context) _ _ :=
        .record now
      have same := advances.frame.1
      have after := twin.enter held same
        (record_named e names now turn.node turn.edges duration report context)
      simp only [stepEngine, record_onward accepted course.keyed mem,
        record_onward accepted keyedToo mem]
      cases report.success with
      | true => exact .some ⟨Phase.alike_before rest, after⟩
      | false => exact .some ⟨rfl, after⟩
  | expiring turn duration failure =>
      obtain rfl : phase' = _ := alike
      have same : (e.recordExpired now turn.node duration failure.message).1.id = e.id :=
        congrArg Standing.id (standing_recordExpired e now _ _ _)
      exact .some ⟨rfl, twin.enter held same (recordExpired_named e names now _ _ _)⟩
  | settling =>
      obtain rfl : phase' = _ := alike
      simp only [stepEngine, mirror]
      split
      · exact .none
      · exact .some ⟨rfl, twin⟩
  | finishing =>
      obtain rfl : phase' = _ := alike
      have same : (e.finish now (now - started)).1.id = e.id :=
        (congrArg Standing.id (standing_finish e now _)).trans (Standing.finish_id _ _)
      have likewise := finish_named e names now (now - started)
      refine .some ⟨?_, twin.enter held same likewise⟩
      exact congrArg (fun after => Phase.ended (.ok ⟨after, now - started⟩)) likewise
  | ended result =>
      obtain rfl : phase' = _ := alike
      exact .none

/-- Twins at work make the same step, and tell it to nobody with another share. -/
theorem stepWork_alike {v w : World σ} (matched : World.Matched shares i r v w)
    (alike : phase.Alike shares i names r phase') :
    Option.Rel
      (fun p q => (∃ s, World.Matched shares i s p.2 q.2 ∧ p.1.Alike shares i names s q.1) ∧
        ∃ count, World.Tame shares i count v p.2)
      (stepWork v phase) (stepWork w phase') := by
  cases phase with
  | working turn rest context since work =>
      obtain ⟨work', rfl, likewise⟩ := alike
      cases likewise with
      | done ended => exact .none
      | act count tame same goOn =>
          obtain ⟨first, second⟩ := tame v w matched
          have now := first.now.trans (matched.now.trans second.now.symm)
          have alarms := matched.alarms.setMore (count v w)
          rw [← first.alarms, ← second.alarms] at alarms
          refine .some ⟨⟨_, ⟨now, same v w matched, alarms⟩, ?_⟩, count v w, first⟩
          exact ⟨_, rfl, goOn v w matched⟩
      | wait related goOn =>
          simp only [stepWork, related.due, matched.now]
          split
          · exact .some ⟨⟨r, matched, _, rfl, goOn⟩, 0, rfl, rfl, fun _ _ => rfl⟩
          · exact .none
  | ended result =>
      obtain rfl : phase' = _ := alike
      exact .none
  | _ =>
      obtain rfl : phase' = _ := alike
      exact .none

/-- A step is one that leaves the world alone or, failing that, one of the node at work. -/
theorem step_eq {run : Run σ} {w : Workplace σ} (held : w.engine.held? run.execution = some e) :
    run.step registry w =
      ((stepEngine registry w.now run.started e w.engine run.phase).map
          fun p => ({ run with phase := p.1 }, { w with engine := p.2 })).or
        ((stepWork w.world run.phase).map
          fun p => ({ run with phase := p.1 }, { w with world := p.2 })) := by
  simp only [step, held]
  cases stepEngine registry w.now run.started e w.engine run.phase with
  | some p => rfl
  | none => cases stepWork w.world run.phase <;> rfl

/-- A step of a run is matched by a step of its twin. -/
theorem Twin.step {run run' : Run σ} {w w' : Workplace σ}
    (twin : Twin shares i names (run, w) (run', w')) (held : w.engine.held? run.execution = some e)
    (accepted : g.Accepted) (course : Track.Course lost late g ⟨e, some run.phase⟩)
    (keeps : g.KeepsTo registry shares i) :
    Option.Rel
      (fun p q => Twin shares i names p q ∧ p.1.execution = run.execution ∧
        ∃ count, World.Tame shares i count w.world p.2.world)
      (run.step registry w) (run'.step registry w') := by
  obtain ⟨engine, execution, started, r, matched, alike⟩ := twin
  dsimp only at engine execution started matched alike
  have named : e.id = run.execution := Engine.held?_id held
  have heldToo : w'.engine.held? run'.execution = some (e.named names) := by
    rw [execution, engine.held, held, Option.map_some]
  have now : w'.now = w.now := matched.now.symm
  have turned := stepEngine_alike accepted course keeps (named ▸ held) (named ▸ engine) alike
    w.now run.started
  rw [step_eq held, step_eq heldToo, now, started]
  refine rel_or (rel_map turned ?_) (rel_map (stepWork_alike matched alike) ?_)
  · rintro p q - ⟨phases, engines⟩
    rw [named] at engines
    exact ⟨⟨engines, execution, rfl, r, matched, phases⟩, rfl, 0, rfl, rfl, fun _ _ => rfl⟩
  · rintro p q - ⟨abreast, tame⟩
    exact ⟨⟨engine, execution, rfl, abreast⟩, rfl, tame⟩

end Step

end Execution.Run

end ActionGraph
