import ActionGraph.Proofs.Execution.Expiry

/-!
# The final shape of an execution

On one thread requests take effect only where a run lets go of it: while its
execution is paused, or while a node is at work.  Then the answer of a run
finds every node completed, or a failed node between completed and skipped
ones, or completed nodes before skipped ones, as the state says.
-/

namespace ActionGraph

open Execution ActionGraph.Graph

variable {σ : Type}

/-- Whether an act belongs to an operation; the others are steps of runs and time that passes. -/
def Act.isControl : Act → Bool
  | .go _ => false
  | .pass _ => false
  | _ => true

namespace Execution

/-- Whether a run may let go of its thread: for a pause, or for a node at work. -/
def Phase.isSuspended : Phase σ → Bool
  | .resting _ _ => true
  | .working _ _ _ _ _ => true
  | .settling => true
  | .ended _ => true
  | _ => false

/-- What a run on one thread knows from its last look at the state. -/
def Phase.Calm (e : Execution) : Phase σ → Prop
  | .claiming _ _ => e.state = .running
  | .announcing _ _ _ => e.state = .running
  | .reporting _ _ _ _ _ => e.state ≠ .cancelled
  | .recording _ _ _ _ _ => e.state ≠ .cancelled
  | .expiring _ _ _ => e.state ≠ .cancelled
  | .finishing => e.state ≠ .paused
  | .ended _ => e.state.isTerminal = true
  | _ => True

theorem calm_before (e : Execution) (rest : List Turn) :
    (Phase.before rest : Phase σ).Calm e := by
  cases rest with
  | nil => trivial
  | cons turn rest => trivial

/-- Where a run lets go, nothing that a request may change is relied on. -/
theorem Phase.Calm.steer {e after : Execution} {phase : Phase σ} (calm : phase.Calm e)
    (suspended : phase.isSuspended = true) (steered : e.standing.Steered after.standing) :
    phase.Calm after := by
  cases phase with
  | ended result =>
      have terminal : e.state.isTerminal = true := calm
      have same : after.state = e.state := (steered.ended terminal).1
      exact (congrArg State.isTerminal same).trans terminal
  | resting turn rest => trivial
  | working turn rest context since work => trivial
  | settling => trivial
  | _ => cases suspended

theorem Phase.Calm.advance {registry : Action.Registry σ} {lost late : Prop} {g : Loaded}
    (accepted : g.Accepted) {e after : Execution} (keyed : Keyed g e) {phase phase' : Phase σ}
    (stage : Stage lost late g.turns e.standing (some phase))
    (advances : Run.Advances registry e phase after phase') (calm : phase.Calm e) :
    phase'.Calm after := by
  cases advances with
  | turn running => exact running
  | absent unknown => exact calm_before _ _
  | claim taken =>
      obtain ⟨running, same⟩ := standing_claim taken
      exact (congrArg Standing.state same).trans running
  | overdue live limit elapsed => exact live
  | report live elapsed => exact live
  | expire live elapsed => exact live
  | publish => exact calm
  | @record turn rest duration report context now =>
      have atTurn : AtTurn lost g.turns e.standing turn rest .running := stage
      rw [record_onward accepted keyed atTurn.stands.mem]
      split
      · exact calm_before _ _
      · trivial
  | recordExpired now => rfl
  | settle notPaused => exact notPaused
  | finish now duration =>
      have notPaused : e.state ≠ .paused := calm
      have same : (e.finish now duration).1.state =
          if e.state = .running then .completed else e.state :=
        (congrArg Standing.state (standing_finish e now duration)).trans
          (Standing.finish_state e.standing now)
      rw [Phase.Calm, same]
      cases state : e.state with
      | paused => exact absurd state notPaused
      | _ => rfl
  | _ => trivial

end Execution

namespace Track

variable {registry : Action.Registry σ} {g : Loaded} {act : Act} {t t' : Track σ}

/-- The act is one of an operation, and the run does not let go. -/
def Interrupts (t : Track σ) (act : Act) : Prop :=
  act.isControl = true ∧ ∃ phase, t.phase = some phase ∧ phase.isSuspended = false

instance (t : Track σ) (act : Act) : Decidable (t.Interrupts act) :=
  inferInstanceAs (Decidable (_ ∧ _))

def Calm (t : Track σ) : Prop :=
  ∀ phase, t.phase = some phase → phase.Calm t.execution

theorem Calm.move (accepted : g.Accepted) {lost late : Prop} (course : t.Course lost late g)
    (calm : t.Calm) (alone : ¬ t.Interrupts act) (moves : t.Moves registry g act t') :
    t'.Calm := by
  cases moves with
  | stay waits => exact calm
  | request applied =>
      intro phase there
      have suspended : phase.isSuspended = true := by
        rw [← Bool.not_eq_false]
        exact fun busy => alone ⟨rfl, phase, there, busy⟩
      exact (calm phase there).steer suspended (Request.steered applied)
  | withdraw => exact calm
  | take driven =>
      rintro _ ⟨⟩
      exact calm_before _ _
  | go advances =>
      rintro _ ⟨⟩
      exact Phase.Calm.advance accepted course.keyed course.stage advances (calm _ rfl)

/-- A run that is calm loses no turn. -/
theorem Calm.not_losesTurn (calm : t.Calm) : ¬ t.LosesTurn act := by
  rintro ⟨_, phase, there, loses⟩
  have known := calm phase there
  cases phase with
  | claiming turn rest => exact absurd (known.symm.trans loses) nofun
  | _ => exact loses

theorem Calm.not_failsLate (calm : t.Calm) : ¬ t.FailsLate act := by
  rintro ⟨_, phase, there, fails⟩
  have known := calm phase there
  cases phase with
  | recording turn rest duration report context => exact known fails.2
  | _ => exact fails

end Track

namespace Execution

/--
The shape of an execution of nodes in order, given what its run answered and
which nodes were seen to end with an expired credential.
-/
def FinalShape (sorted : List String) (expired : String → Failure → Prop) (e : Execution)
    (result : Except Failure Report) : Prop :=
  match e.state with
  | .completed =>
      (∀ id ∈ sorted, e.status? id = some .completed) ∧ ∃ report, result = .ok report
  | .failed =>
      ∃ before node after, sorted = before ++ node :: after ∧
        (∀ id ∈ before, e.status? id = some .completed) ∧
        e.status? node = some .failed ∧
        (∀ id ∈ after, e.status? id = some .skipped) ∧
        ∀ failure, result = .error failure ↔ expired node failure
  | .cancelled =>
      ∃ before after, sorted = before ++ after ∧
        (∀ id ∈ before, e.status? id = some .completed) ∧
        (∀ id ∈ after, e.status? id = some .skipped) ∧ ∃ report, result = .ok report
  | .running => False
  | .paused => False

/-- The identifiers on both sides of a turn, and how their nodes stand. -/
theorem Stands.ids {g : Loaded} (accepted : g.Accepted) {status : String → Option Status}
    {turn : Turn} {rest : List Turn} {here there : Status}
    (stands : Stands g.turns status turn rest here there) :
    ∃ before after, g.topology.sorted = before ++ turn.node.id :: after ∧
      (∀ id ∈ before, status id = some .completed) ∧
      ∀ id ∈ after, status id = some there := by
  obtain ⟨done, split, completed⟩ := stands.done
  refine ⟨done.map (·.node.id), rest.map (·.node.id), ?_, ?_, ?_⟩
  · rw [← accepted.turns_ids, split, List.map_append, List.map_cons]
  · exact List.forall_mem_map.mpr completed
  · exact List.forall_mem_map.mpr stands.there

theorem ok_of_not_error {result : Except Failure Report}
    (notError : ∀ failure, result ≠ .error failure) : ∃ report, result = .ok report := by
  cases result with
  | ok report => exact ⟨report, rfl⟩
  | error failure => exact absurd rfl (notError failure)

/-- The failed node is the one that the answer of the run blames, if it blames one. -/
theorem error_iff_expired {sorted before after : List String} {node : String} {e : Execution}
    {result : Except Failure Report} {expired : String → Failure → Prop}
    (keyed : ∀ id, (e.status? id).isSome ↔ id ∈ sorted) (split : sorted = before ++ node :: after)
    (completed : ∀ id ∈ before, e.status? id = some .completed)
    (skipped : ∀ id ∈ after, e.status? id = some .skipped) (failed : e.state = .failed)
    (account : Track.Account (σ := σ) expired ⟨e, some (.ended result)⟩) (failure : Failure) :
    result = .error failure ↔ expired node failure := by
  constructor
  · rintro rfl
    obtain ⟨blamed, seen, there⟩ : ∃ blamed, expired blamed failure ∧
        e.status? blamed = some .failed := account.blames _ rfl
    have mem : blamed ∈ sorted := (keyed blamed).mp (by rw [there]; rfl)
    rw [split, List.mem_append, List.mem_cons] at mem
    rcases mem with earlier | rfl | later
    · exact absurd (there.symm.trans (completed blamed earlier)) nofun
    · exact seen
    · exact absurd (there.symm.trans (skipped blamed later)) nofun
  · intro seen
    obtain ⟨_, ⟨⟩, aftermath⟩ := account.aftermath node failure seen
    cases result with
    | ok report => exact absurd (failed.symm.trans aftermath) nofun
    | error found =>
        obtain ⟨rfl, _⟩ := aftermath
        rfl

/-- A run that lost no turn and recorded nothing late leaves its execution in shape. -/
theorem Settled.finalShape {g : Loaded} (accepted : g.Accepted) {e : Execution}
    (keyed : Keyed g e) {result : Except Failure Report} {expired : String → Failure → Prop}
    (settled : Settled False False g.turns (· = .skipped) e.standing)
    (terminal : e.state.isTerminal = true)
    (failure_state : ∀ failure, result = .error failure → e.state = .failed)
    (account : Track.Account (σ := σ) expired ⟨e, some (.ended result)⟩) :
    FinalShape g.topology.sorted expired e result := by
  have ok : e.state ≠ .failed → ∃ report, result = .ok report := fun notFailed =>
    ok_of_not_error fun failure same => notFailed (failure_state failure same)
  cases settled with
  | whole kept notFailed completed =>
      have all : ∀ id ∈ g.topology.sorted, e.status? id = some .completed := by
        rw [← accepted.turns_ids]
        exact List.forall_mem_map.mpr completed
      unfold FinalShape
      cases state : e.state with
      | completed => exact ⟨all, ok notFailed⟩
      | cancelled => exact ⟨_, [], (List.append_nil _).symm, all, nofun, ok notFailed⟩
      | failed => exact absurd state notFailed
      | running | paused =>
          rw [state] at terminal
          cases terminal
  | @broken turn rest failed stands =>
      have failed : e.state = .failed := failed
      obtain ⟨before, after, split, completed, skipped⟩ := stands.ids accepted
      rw [FinalShape, failed]
      exact ⟨before, _, after, split, completed, stands.here, skipped,
        error_iff_expired keyed split completed skipped failed account⟩
  | @short turn rest here there hereIdle thereIdle cause stands =>
      have cancelled : e.state = .cancelled := cause.resolve_left not_false
      obtain ⟨before, after, split, completed, skipped⟩ := stands.ids accepted
      subst hereIdle thereIdle
      rw [FinalShape, cancelled]
      refine ⟨before, _, split, completed, List.forall_mem_cons.mpr ⟨stands.here, skipped⟩, ok ?_⟩
      rw [cancelled]
      exact nofun
  | belated thereIdle happened cancelled stands => exact happened.elim

end Execution

namespace System

variable {registry : Action.Registry σ} {settings : Settings} {world : Action.World σ}
  {acts : List Act} {id : String}

/-- A run that lets go at every request is calm, and meets with no accident. -/
theorem calm_course {t : Track σ}
    (tracked : ((initial settings world).performAll registry acts).track? id = some t)
    (uninterrupted : ¬ Seen registry id Track.Interrupts (initial settings world) acts) :
    ∃ g, ((initial settings world).performAll registry acts).graph? t.execution.graph = some g ∧
      g.Accepted ∧ t.Course False False g ∧ t.Calm := by
  have holds := follow (P := fun acts g t =>
    ¬ Seen registry id Track.Interrupts (initial settings world) acts →
      t.Course False False g ∧ t.Calm) ?_ ?_ tracked
  · obtain ⟨g, found, accepted, calm⟩ := holds
    exact ⟨g, found, accepted, calm uninterrupted⟩
  · intro acts act g capacity context now _ accepted _
    refine ⟨.start accepted not_false id capacity context now, ?_⟩
    rintro _ ⟨⟩
  · intro acts act g t t' there _ accepted earlier moves alone
    rw [seen_snoc_of_tracked there, not_or] at alone
    obtain ⟨onCourse, calm⟩ := earlier alone.1
    refine ⟨(onCourse.move accepted moves).imp ?_ ?_, calm.move accepted onCourse alone.2 moves⟩
    · exact iff_of_false (not_or.mpr ⟨not_false, calm.not_losesTurn⟩) not_false
    · exact fun late => late.resolve_left not_false |> calm.not_failsLate

/-- A run that is over and that no operation interrupted leaves its execution in shape. -/
theorem shape_of_ended {e : Execution} {result : Except Failure Report}
    (tracked : ((initial settings world).performAll registry acts).track? id =
      some ⟨e, some (.ended result)⟩)
    (uninterrupted : ¬ Seen registry id Track.Interrupts (initial settings world) acts) :
    ∃ g, ((initial settings world).performAll registry acts).graph? e.graph = some g ∧
      (∀ node, (e.status? node).isSome ↔ node ∈ g.topology.sorted) ∧
      FinalShape g.topology.sorted
        (fun node failure =>
          Seen registry id (Track.Expired node failure) (initial settings world) acts) e result ∧
      ∀ failure, result = .error failure → failure.isCredential = true := by
  obtain ⟨g, found, accepted, onCourse, calm⟩ := calm_course tracked uninterrupted
  have account := account tracked
  obtain ⟨settled, failure_state⟩ := onCourse.stage
  refine ⟨g, found, onCourse.keyed, ?_, ?_⟩
  · exact settled.finalShape accepted onCourse.keyed (calm _ rfl) failure_state account
  · rintro failure rfl
    obtain ⟨node, seen, _⟩ : ∃ node, _ ∧ e.status? node = some .failed := account.blames _ rfl
    exact account.credential node failure seen

/--
If the acts of operations fall only where a run lets go, then what its answer
finds is an execution of an accepted graph in one of the three shapes; and it
answers a failure only for an expired credential.
-/
theorem final_shape {result : Except Failure Report}
    (uninterrupted : ¬ Seen registry id Track.Interrupts (initial settings world) acts)
    (returned : ((initial settings world).performAll registry acts).result? id = some result) :
    ∃ e g, ((initial settings world).performAll registry acts).held? id = some e ∧
      ((initial settings world).performAll registry acts).graph? e.graph = some g ∧
      (∀ node, (e.status? node).isSome ↔ node ∈ g.topology.sorted) ∧
      FinalShape g.topology.sorted
        (fun node failure =>
          Seen registry id (Track.Expired node failure) (initial settings world) acts) e result ∧
      ∀ failure, result = .error failure → failure.isCredential = true := by
  have sound := (sound_initial settings world).performAll registry acts
  obtain ⟨run, running, answered⟩ := Option.bind_eq_some_iff.mp returned
  obtain ⟨e, held, _⟩ := sound.driven id run running
  have tracked := track?_of_held held
  rw [running, Option.map_some, Run.phase_of_result? answered] at tracked
  obtain ⟨g, shape⟩ := shape_of_ended tracked uninterrupted
  exact ⟨e, g, held, shape⟩

def expiredRun : List Act :=
  [.load loneNode, .start "g1" default, .take "e1"] ++ List.replicate 8 (.go "e1")

theorem final_shape_of_expiredRun :
    ∃ result e g,
      ((initial default quiet).performAll expired expiredRun).result? "e1" = some result ∧
      ((initial default quiet).performAll expired expiredRun).held? "e1" = some e ∧
      ((initial default quiet).performAll expired expiredRun).graph? e.graph = some g ∧
      (∀ node, (e.status? node).isSome ↔ node ∈ g.topology.sorted) ∧
      FinalShape g.topology.sorted
        (fun node failure =>
          Seen expired "e1" (Track.Expired node failure) (initial default quiet) expiredRun) e
        result ∧
      ∀ failure, result = .error failure → failure.isCredential = true := by
  have answered :
      (((initial default quiet).performAll expired expiredRun).result? "e1").isSome := by
    rfl
  obtain ⟨result, returned⟩ := Option.isSome_iff_exists.mp answered
  have uninterrupted :
      ¬ Seen expired "e1" Track.Interrupts (initial default quiet) expiredRun := by
    decide +kernel
  obtain ⟨e, g, shape⟩ := final_shape uninterrupted returned
  exact ⟨result, e, g, returned, shape⟩

end System

end ActionGraph
