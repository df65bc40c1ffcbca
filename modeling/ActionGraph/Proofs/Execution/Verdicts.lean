import ActionGraph.Proofs.Execution.Course

/-!
# Verdicts

The verdict on an execution is its state, when it ended, and why it failed.
An execution that has ended keeps its verdict in every section but one: an
expired credential is recorded without a look at the state, so that an
execution that was cancelled while its node ended becomes a failed one.
-/

namespace ActionGraph

open Execution ActionGraph.Graph

variable {σ : Type}

namespace Execution

/-- The state of an execution, when it ended, and why it failed. -/
def verdict (e : Execution) : State × Option Nat × Option String :=
  (e.state, e.ended, e.error)

theorem Standing.Steered.verdict {e after : Execution}
    (steered : e.standing.Steered after.standing) (terminal : e.state.isTerminal = true) :
    after.verdict = e.verdict := by
  obtain ⟨state, ended⟩ := steered.ended terminal
  have error : after.error = e.error := steered.error
  have state : after.state = e.state := state
  have ended : after.ended = e.ended := ended
  rw [Execution.verdict, state, ended, error]
  rfl

theorem verdict_of_standing {e after : Execution} {s : Standing} (same : after.standing = s)
    (state : s.state = e.state) (ended : s.ended = e.ended) (error : s.error = e.error) :
    after.verdict = e.verdict := by
  subst same
  exact Prod.ext state (Prod.ext ended error)

/-- A step of the run keeps the verdict, unless it records an expired credential. -/
theorem Run.Advances.verdict {registry : Action.Registry σ} {e after : Execution}
    {phase phase' : Phase σ} (advances : Run.Advances registry e phase after phase')
    (terminal : e.state.isTerminal = true)
    (notExpiring : ∀ turn duration failure, phase ≠ .expiring turn duration failure) :
    after.verdict = e.verdict := by
  have notRunning : e.state ≠ .running := by
    intro running
    rw [running] at terminal
    cases terminal
  cases advances with
  | claim taken => exact absurd (standing_claim taken).1 notRunning
  | @record turn rest duration report context now =>
      cases success : report.success with
      | true =>
          exact verdict_of_standing (record_success e now turn.node turn.edges duration report
            context success).1 rfl rfl rfl
      | false =>
          have same := (record_failure e now turn.node turn.edges duration report context success).1
          rw [if_pos terminal] at same
          exact verdict_of_standing same rfl rfl rfl
  | recordExpired now => exact absurd rfl (notExpiring _ _ _)
  | finish now duration =>
      have same := standing_finish e now duration
      rw [Standing.finish, if_neg (show ¬ e.standing.state = .running from notRunning)] at same
      exact verdict_of_standing same rfl rfl rfl
  | _ => rfl

end Execution

namespace Track

variable {registry : Action.Registry σ} {g : Loaded} {act : Act} {t t' : Track σ}

def RecordsExpiry (t : Track σ) (act : Act) : Prop :=
  act = .go t.execution.id ∧
    ∃ turn duration failure, t.phase = some (.expiring turn duration failure)

/-- One act keeps the verdict on an execution that has ended, unless it records an expiry. -/
theorem Moves.verdict (moves : t.Moves registry g act t')
    (terminal : t.execution.state.isTerminal = true) (notExpiry : ¬ t.RecordsExpiry act) :
    t'.execution.verdict = t.execution.verdict := by
  cases moves with
  | stay waits => rfl
  | request applied => exact (Request.steered applied).verdict terminal
  | withdraw => rfl
  | take driven =>
      have live := (standing_drive driven).1
      exact absurd (live.symm.trans terminal) Bool.false_ne_true
  | go advances =>
      refine advances.verdict terminal fun turn duration failure expiring => ?_
      exact notExpiry ⟨rfl, turn, duration, failure, congrArg some expiring⟩

/-- An expiry that is recorded makes an execution fail, whatever it was before. -/
theorem Moves.state_of_recordsExpiry (moves : t.Moves registry g act t')
    (expiry : t.RecordsExpiry act) : t'.execution.state = .failed := by
  obtain ⟨isGo, turn, duration, failure, there⟩ := expiry
  cases moves with
  | stay waits => exact (waits _ isGo there).elim
  | request applied => cases isGo
  | withdraw => cases isGo
  | take driven => cases isGo
  | go advances =>
      cases there
      cases advances with
      | recordExpired now => rfl

/-- A failed execution stays so. -/
theorem Moves.failed (moves : t.Moves registry g act t') (failed : t.execution.state = .failed) :
    t'.execution.state = .failed := by
  by_cases expiry : t.RecordsExpiry act
  · exact moves.state_of_recordsExpiry expiry
  · have terminal : t.execution.state.isTerminal = true := by
      rw [failed]
      rfl
    exact (congrArg Prod.fst (moves.verdict terminal expiry)).trans failed

/-- An expiry is recorded of an execution that ended only if it was cancelled. -/
theorem Course.cancelled_of_recordsExpiry {lost late : Prop} (course : t.Course lost late g)
    (expiry : t.RecordsExpiry act) (terminal : t.execution.state.isTerminal = true) :
    t.execution.state = .cancelled := by
  obtain ⟨_, turn, duration, failure, there⟩ := expiry
  have stage := course.stage
  rw [there] at stage
  obtain ⟨rest, atTurn⟩ := stage
  exact State.eq_cancelled_of_live atTurn.live terminal

end Track

namespace System

variable {registry : Action.Registry σ} {settings : Settings} {world : Action.World σ}
  {acts more : List Act} {id : String} {e : Execution}

theorem held?_failed
    (held : ((initial settings world).performAll registry acts).held? id = some e)
    (failed : e.state = .failed) (rest : List Act) :
    ∃ after, ((initial settings world).performAll registry (acts ++ rest)).held? id = some after ∧
      after.state = .failed := by
  obtain ⟨g, found, _, _⟩ := course (track?_of_held held)
  obtain ⟨t, after, still⟩ := follow_on (P := fun t => t.execution.state = .failed)
    (fun _ _ _ _ _ _ failed moves => moves.failed failed) (track?_of_held held) found failed rest
  exact ⟨t.execution, (track?_eq_some_iff.mp after).1, still⟩

/--
Whatever follows in whatever order, the verdict on an execution that has ended
stays as it is exactly if no expired credential is recorded of it.
-/
theorem verdict_kept_iff_no_expiry
    (held : ((initial settings world).performAll registry acts).held? id = some e)
    (terminal : e.state.isTerminal = true) :
    (((initial settings world).performAll registry (acts ++ more)).held? id).map verdict =
        some e.verdict ↔
      ¬ Seen registry id Track.RecordsExpiry ((initial settings world).performAll registry acts)
        more := by
  induction more generalizing acts e with
  | nil =>
      rw [List.append_nil, held]
      exact iff_of_true rfl not_false
  | cons act rest ih =>
      obtain ⟨t, tracked, rfl⟩ :
          ∃ t, ((initial settings world).performAll registry acts).track? id = some t ∧
            t.execution = e := ⟨_, track?_of_held held, rfl⟩
      obtain ⟨g, found, _, onCourse⟩ := course tracked
      have sound := (sound_initial settings world).performAll registry acts
      obtain ⟨t', after, moves⟩ := moves_of_perform sound tracked found
      rw [← performAll_snoc] at after
      have heldAfter := (track?_eq_some_iff.mp after).1
      rw [List.append_cons]
      by_cases expiry : t.RecordsExpiry act
      · -- the execution had been cancelled, and from now on it is a failed one
        have cancelled := onCourse.cancelled_of_recordsExpiry expiry terminal
        obtain ⟨last, heldLast, failed⟩ :=
          held?_failed heldAfter (moves.state_of_recordsExpiry expiry) rest
        refine iff_of_false ?_ (not_not.mpr (.inl ⟨_, tracked, expiry⟩))
        rw [heldLast, Option.map_some, Option.some.injEq]
        intro same
        have states : last.state = t.execution.state := congrArg Prod.fst same
        exact absurd (failed.symm.trans (states.trans cancelled)) nofun
      · have kept := moves.verdict terminal expiry
        have states : t'.execution.state = t.execution.state := congrArg Prod.fst kept
        have step : Seen registry id Track.RecordsExpiry
            ((initial settings world).performAll registry acts) (act :: rest) ↔
            Seen registry id Track.RecordsExpiry
              ((initial settings world).performAll registry (acts ++ [act])) rest := by
          rw [Seen, tracked, performAll_snoc]
          simp only [Option.some.injEq, exists_eq_left', expiry, false_or]
        rw [step, ← kept]
        exact ih heldAfter (states ▸ terminal)

/-- The node of a run has ended with an expired credential, and the execution is stopped. -/
def stoppedExpiry : List Act :=
  [.load loneNode, .start "g1" default, .take "e1"] ++ List.replicate 7 (.go "e1")
    ++ [.request "e1" .stop]

/-- The execution was cancelled, and the next step of its run makes it a failed one. -/
theorem stoppedExpiry_verdicts :
    (((initial default quiet).performAll expired stoppedExpiry).held? "e1").map verdict =
        some (.cancelled, some 0, none) ∧
      (((initial default quiet).performAll expired (stoppedExpiry ++ [.go "e1"])).held? "e1").map
          verdict =
        some (.failed, some 0, some "Node 'a' failed: Authentication failed: token expired") :=
  ⟨by rfl, by rfl⟩

theorem verdict_kept_iff_of_stoppedExpiry :
    ∃ e, ((initial default quiet).performAll expired stoppedExpiry).held? "e1" = some e ∧
      e.state.isTerminal = true ∧
      ((((initial default quiet).performAll expired (stoppedExpiry ++ [.go "e1"])).held? "e1").map
          verdict = some e.verdict ↔
        ¬ Seen expired "e1" Track.RecordsExpiry
          ((initial default quiet).performAll expired stoppedExpiry) [.go "e1"]) := by
  have ended : (((initial default quiet).performAll expired stoppedExpiry).held? "e1").map
      (fun e => e.state.isTerminal) = some true := by
    rfl
  obtain ⟨e, held, terminal⟩ := Option.map_eq_some_iff.mp ended
  exact ⟨e, held, terminal, verdict_kept_iff_no_expiry held terminal⟩

end System

end ActionGraph
