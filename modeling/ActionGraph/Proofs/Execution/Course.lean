import ActionGraph.Proofs.Execution.Orders

/-!
# The course of a run

Where a run is tells how the nodes of its graph stand: those before its turn
are completed and those after it are pending.  `Stage` says so for each phase,
in every interleaving.  Two accidents show in it, given as parameters: that a
turn was lost because its claim met a paused execution, and that a failure was
recorded after the execution had been cancelled.
-/

namespace ActionGraph.Execution

open ActionGraph.Graph

variable {σ : Type}

/-- An execution that did not end in success or failure. -/
def Standing.Live (s : Standing) : Prop :=
  s.state ≠ .completed ∧ s.state ≠ .failed

/-- Nodes before a turn are completed; its own and the later ones stand as given. -/
structure Stands (turns : List Turn) (status : String → Option Status) (turn : Turn)
    (rest : List Turn) (here there : Status) : Prop where
  done : ∃ done, turns = done ++ turn :: rest ∧ ∀ t ∈ done, status t.node.id = some .completed
  here : status turn.node.id = some here
  there : ∀ t ∈ rest, status t.node.id = some there

namespace Stands

variable {turns rest : List Turn} {status : String → Option Status} {turn : Turn}
  {here there : Status}

theorem mem (stands : Stands turns status turn rest here there) : turn ∈ turns := by
  obtain ⟨done, split, _⟩ := stands.done
  rw [split]
  exact List.mem_append_right _ List.mem_cons_self

/-- Marking the node of the turn moves no other node. -/
theorem mark {s : Standing} (distinct : (turns.map (·.node.id)).Nodup)
    (stands : Stands turns s.status turn rest here there) (now : Status) :
    Stands turns (s.mark turn.node.id now).status turn rest now there := by
  obtain ⟨done, split, completed⟩ := stands.done
  rw [split, List.map_append, List.map_cons] at distinct
  have apart := List.nodup_middle.mp distinct
  rw [List.nodup_cons, List.mem_append, not_or] at apart
  obtain ⟨⟨notDone, notRest⟩, _⟩ := apart
  have known : (s.status turn.node.id).isSome := by rw [stands.here]; rfl
  refine ⟨⟨done, split, ?_⟩, Standing.mark_status_self known now, ?_⟩
  · intro t mem
    have ne : t.node.id ≠ turn.node.id := fun same =>
      notDone (List.mem_map.mpr ⟨t, mem, same⟩)
    rw [Standing.mark_status_of_ne ne]
    exact completed t mem
  · intro t mem
    have ne : t.node.id ≠ turn.node.id := fun same =>
      notRest (List.mem_map.mpr ⟨t, mem, same⟩)
    rw [Standing.mark_status_of_ne ne]
    exact stands.there t mem

/-- Skipping leaves completed nodes completed. -/
theorem skip (stands : Stands turns status turn rest here there) :
    Stands turns (fun id => (status id).map Status.skip) turn rest here.skip there.skip := by
  obtain ⟨done, split, completed⟩ := stands.done
  refine ⟨⟨done, split, fun t mem => ?_⟩, ?_, fun t mem => ?_⟩
  · rw [completed t mem]
    rfl
  · rw [stands.here]
    rfl
  · rw [stands.there t mem]
    rfl

/-- The next turn begins where this one is completed. -/
theorem next (stands : Stands turns status turn rest .completed there) :
    ∃ done, turns = done ++ rest ∧ ∀ t ∈ done, status t.node.id = some .completed := by
  obtain ⟨done, split, completed⟩ := stands.done
  refine ⟨done ++ [turn], by rw [split, List.append_assoc]; rfl, fun t mem => ?_⟩
  rcases List.mem_append.mp mem with earlier | last
  · exact completed t earlier
  · rw [List.mem_singleton.mp last]
    exact stands.here

end Stands

/--
How an execution stands after the last turn of its run.  Nodes that had no
turn are idle, which is pending or running at first and skipped in the end.
-/
inductive Settled (lost late : Prop) (turns : List Turn) (idle : Status → Prop) (s : Standing) :
    Prop where
  /-- Every node had its turn. -/
  | whole (kept : ¬ lost) (notFailed : s.state ≠ .failed)
      (completed : ∀ t ∈ turns, s.status t.node.id = some .completed)
  /-- A node failed, and the execution with it. -/
  | broken {turn : Turn} {rest : List Turn} (failed : s.state = .failed)
      (stands : Stands turns s.status turn rest .failed .skipped)
  /-- The turns ended early, for a turn that was lost or because the execution was cancelled. -/
  | short {turn : Turn} {rest : List Turn} {here there : Status} (hereIdle : idle here)
      (thereIdle : idle there) (cause : lost ∨ s.state = .cancelled)
      (stands : Stands turns s.status turn rest here there)
  /-- A node failed when the execution had been cancelled. -/
  | belated {turn : Turn} {rest : List Turn} {there : Status} (thereIdle : idle there)
      (happened : late) (cancelled : s.state = .cancelled)
      (stands : Stands turns s.status turn rest .failed there)

/-- A run is at a turn: nothing is lost yet, and the later nodes are pending. -/
structure AtTurn (lost : Prop) (turns : List Turn) (s : Standing) (turn : Turn)
    (rest : List Turn) (here : Status) : Prop where
  live : s.Live
  kept : ¬ lost
  stands : Stands turns s.status turn rest here .pending

def Stage (lost late : Prop) (turns : List Turn) (s : Standing) : Option (Phase σ) → Prop
  | none => s.Live ∧ ¬ lost ∧ ∀ t ∈ turns, s.status t.node.id = some .pending
  | some (.resting turn rest) => AtTurn lost turns s turn rest .pending
  | some (.claiming turn rest) => AtTurn lost turns s turn rest .pending
  | some (.announcing turn rest _) => AtTurn lost turns s turn rest .running
  | some (.working turn rest _ _ _) => AtTurn lost turns s turn rest .running
  | some (.reporting turn rest _ _ _) => AtTurn lost turns s turn rest .running
  | some (.recording turn rest _ _ _) => AtTurn lost turns s turn rest .running
  | some (.expiring turn _ _) => ∃ rest, AtTurn lost turns s turn rest .running
  | some .settling => Settled lost late turns (·.isSettled = false) s
  | some .finishing => Settled lost late turns (·.isSettled = false) s
  | some (.ended result) =>
      Settled lost late turns (· = .skipped) s ∧
        ∀ failure, result = .error failure → s.state = .failed

/-- The claim of a turn meets a paused execution. -/
def Phase.LosesTurn (e : Execution) : Phase σ → Prop
  | .claiming _ _ => e.state = .paused
  | _ => False

/-- The failure of a node is recorded of an execution that was cancelled. -/
def Phase.FailsLate (e : Execution) : Phase σ → Prop
  | .recording _ _ _ report _ => report.success = false ∧ e.state = .cancelled
  | _ => False

section Steered

variable {lost late : Prop} {turns : List Turn} {s after : Standing}
  (steered : s.Steered after)
include steered

theorem Standing.Steered.isLive (live : s.Live) : after.Live := by
  cases terminal : s.state.isTerminal with
  | true =>
      rw [Standing.Live, (steered.ended terminal).1]
      exact live
  | false => exact steered.live terminal

theorem Standing.Steered.state_of_terminal {state : State} (terminal : state.isTerminal = true)
    (here : s.state = state) : after.state = state := by
  rw [← here] at terminal
  exact (steered.ended terminal).1.trans here

theorem Standing.Steered.notFailed (notFailed : s.state ≠ .failed) : after.state ≠ .failed := by
  cases terminal : s.state.isTerminal with
  | true =>
      rw [(steered.ended terminal).1]
      exact notFailed
  | false => exact (steered.live terminal).2

theorem AtTurn.steer {turn : Turn} {rest : List Turn} {here : Status}
    (atTurn : AtTurn lost turns s turn rest here) : AtTurn lost turns after turn rest here := by
  refine ⟨steered.isLive atTurn.live, atTurn.kept, ?_⟩
  rw [steered.status]
  exact atTurn.stands

theorem Settled.steer {idle : Status → Prop} (settled : Settled lost late turns idle s) :
    Settled lost late turns idle after := by
  cases settled with
  | whole kept notFailed completed =>
      rw [← steered.status] at completed
      exact .whole kept (steered.notFailed notFailed) completed
  | broken failed stands =>
      rw [← steered.status] at stands
      exact .broken (steered.state_of_terminal rfl failed) stands
  | short hereIdle thereIdle cause stands =>
      rw [← steered.status] at stands
      exact .short hereIdle thereIdle (cause.imp_right (steered.state_of_terminal rfl)) stands
  | belated thereIdle happened cancelled stands =>
      rw [← steered.status] at stands
      exact .belated thereIdle happened (steered.state_of_terminal rfl cancelled) stands

/-- Requests do not change where a run is in its course. -/
theorem Stage.steer {phase : Option (Phase σ)} (stage : Stage lost late turns s phase) :
    Stage lost late turns after phase := by
  cases phase with
  | none =>
      obtain ⟨live, kept, pending⟩ := stage
      refine ⟨steered.isLive live, kept, ?_⟩
      rw [steered.status]
      exact pending
  | some phase =>
      cases phase with
      | expiring turn duration failure =>
          obtain ⟨rest, atTurn⟩ := stage
          exact ⟨rest, atTurn.steer steered⟩
      | settling => exact Settled.steer steered stage
      | finishing => exact Settled.steer steered stage
      | ended result =>
          refine ⟨Settled.steer steered stage.1, fun failure same => ?_⟩
          exact steered.state_of_terminal rfl (stage.2 failure same)
      | _ => exact AtTurn.steer steered stage

end Steered

/-! ## Steps of the run -/

theorem Status.skip_of_idle {status : Status} (idle : status.isSettled = false) :
    status.skip = .skipped := by
  rw [Status.skip, idle]
  rfl

/-- At the end of a run whatever is idle is skipped. -/
theorem Settled.finish {lost late : Prop} {turns : List Turn} {s : Standing}
    (settled : Settled lost late turns (·.isSettled = false) s) (now : Nat) :
    Settled lost late turns (· = .skipped) (s.finish now) := by
  have statuses : (s.finish now).status = fun id => (s.status id).map Status.skip :=
    funext fun id => s.finish_status now id
  have kept : ∀ {state : State}, s.state = state → state ≠ .running →
      (s.finish now).state = state := by
    rintro _ rfl notRunning
    rw [Standing.finish_state, if_neg notRunning]
  cases settled with
  | whole notLost notFailed completed =>
      refine .whole notLost ?_ fun t mem => ?_
      · rw [Standing.finish_state]
        split
        · exact nofun
        · exact notFailed
      · rw [Standing.finish_status, completed t mem]
        rfl
  | broken failed stands =>
      have skipped := stands.skip
      rw [← statuses] at skipped
      exact .broken (kept failed nofun) skipped
  | short hereIdle thereIdle cause stands =>
      have skipped := stands.skip
      rw [← statuses, Status.skip_of_idle hereIdle, Status.skip_of_idle thereIdle] at skipped
      exact .short rfl rfl (cause.imp_right fun cancelled => kept cancelled nofun) skipped
  | belated thereIdle happened cancelled stands =>
      have skipped := stands.skip
      rw [← statuses, Status.skip_of_idle thereIdle] at skipped
      exact .belated rfl happened (kept cancelled nofun) skipped

/-- The turns that are left begin where all earlier ones are completed. -/
theorem Stage.before {lost late : Prop} {turns done rest : List Turn} {s : Standing}
    (live : s.Live) (kept : ¬ lost) (split : turns = done ++ rest)
    (completed : ∀ t ∈ done, s.status t.node.id = some .completed)
    (pending : ∀ t ∈ rest, s.status t.node.id = some .pending) :
    Stage lost late turns s (some (Phase.before rest : Phase σ)) := by
  cases rest with
  | nil =>
      rw [List.append_nil] at split
      rw [← split] at completed
      exact .whole kept live.2 completed
  | cons turn rest =>
      exact ⟨live, kept, ⟨done, split, completed⟩, pending turn List.mem_cons_self,
        fun t mem => pending t (List.mem_cons_of_mem _ mem)⟩

theorem State.eq_cancelled_of_live {s : Standing} (live : s.Live)
    (terminal : s.state.isTerminal = true) : s.state = .cancelled := by
  cases state : s.state with
  | cancelled => rfl
  | completed => exact absurd state live.1
  | failed => exact absurd state live.2
  | running | paused =>
      rw [state] at terminal
      cases terminal

/-- An execution has a node of every turn, and of no other. -/
def Keyed (g : Loaded) (e : Execution) : Prop :=
  ∀ id, (e.status? id).isSome ↔ id ∈ g.topology.sorted

/-- After a turn of an accepted graph the run never breaks off. -/
theorem record_onward {g : Loaded} (accepted : g.Accepted) {e : Execution} (keyed : Keyed g e)
    {turn : Turn} (mem : turn ∈ g.turns) (now duration : Nat) (report : Action.Report)
    (context : Context) :
    (e.record now turn.node turn.edges duration report context).2 =
      if report.success then .next else .settle := by
  cases success : report.success with
  | true =>
      refine (record_success e now turn.node turn.edges duration report context success).2 ?_
      intro edge leaves
      exact (keyed _).mpr (accepted.target_mem_sorted mem leaves)
  | false => exact (record_failure e now turn.node turn.edges duration report context success).2

theorem Stage.record {lost late : Prop} {g : Loaded} (accepted : g.Accepted) {e : Execution}
    (keyed : Keyed g e) {turn : Turn} {rest : List Turn}
    (atTurn : AtTurn lost g.turns e.standing turn rest .running) (now duration : Nat)
    (report : Action.Report) (context : Context)
    (lateHere : report.success = false ∧ e.state = .cancelled → late) :
    Stage (σ := σ) lost late g.turns
      (e.record now turn.node turn.edges duration report context).1.1.standing
      (some ((e.record now turn.node turn.edges duration report context).2.phase rest)) := by
  obtain ⟨live, kept, stands⟩ := atTurn
  have distinct : (g.turns.map (·.node.id)).Nodup := accepted.turns_ids ▸ accepted.sorted_nodup
  rw [record_onward accepted keyed stands.mem]
  cases success : report.success with
  | true =>
      rw [(record_success e now turn.node turn.edges duration report context success).1]
      have marked := stands.mark distinct .completed
      obtain ⟨done, split, completed⟩ := marked.next
      exact Stage.before live kept split completed marked.there
  | false =>
      rw [(record_failure e now turn.node turn.edges duration report context success).1]
      have marked := stands.mark distinct .failed
      by_cases terminal : e.state.isTerminal = true
      · rw [if_pos terminal]
        have cancelled := State.eq_cancelled_of_live live terminal
        exact .belated rfl (lateHere ⟨success, cancelled⟩) cancelled marked
      · rw [if_neg terminal]
        exact .broken rfl marked.skip

theorem AtTurn.imp {lost lost' : Prop} {turns : List Turn} {s : Standing} {turn : Turn}
    {rest : List Turn} {here : Status} (atTurn : AtTurn lost turns s turn rest here)
    (kept : ¬ lost') : AtTurn lost' turns s turn rest here :=
  ⟨atTurn.live, kept, atTurn.stands⟩

theorem Settled.imp {lost lost' late late' : Prop} {turns : List Turn} {idle : Status → Prop}
    {s : Standing} (settled : Settled lost late turns idle s) (same : lost ↔ lost')
    (later : late → late') : Settled lost' late' turns idle s := by
  cases settled with
  | whole kept notFailed completed => exact .whole (mt same.mpr kept) notFailed completed
  | broken failed stands => exact .broken failed stands
  | short hereIdle thereIdle cause stands =>
      exact .short hereIdle thereIdle (cause.imp_left same.mp) stands
  | belated thereIdle happened cancelled stands =>
      exact .belated thereIdle (later happened) cancelled stands

theorem Stage.imp {lost lost' late late' : Prop} {turns : List Turn} {s : Standing}
    {phase : Option (Phase σ)} (stage : Stage lost late turns s phase) (same : lost ↔ lost')
    (later : late → late') : Stage lost' late' turns s phase := by
  cases phase with
  | none => exact ⟨stage.1, mt same.mpr stage.2.1, stage.2.2⟩
  | some phase =>
      cases phase with
      | expiring turn duration failure =>
          obtain ⟨rest, atTurn⟩ := stage
          exact ⟨rest, atTurn.imp (mt same.mpr atTurn.kept)⟩
      | settling => exact Settled.imp stage same later
      | finishing => exact Settled.imp stage same later
      | ended result => exact ⟨stage.1.imp same later, stage.2⟩
      | _ => exact AtTurn.imp stage (mt same.mpr stage.kept)

/-- A step of the run leads from stage to stage. -/
theorem Stage.advance {registry : Action.Registry σ} {lost late : Prop} {g : Loaded}
    (accepted : g.Accepted) {e after : Execution} (keyed : Keyed g e) {phase phase' : Phase σ}
    (stage : Stage lost late g.turns e.standing (some phase))
    (advances : Run.Advances registry e phase after phase') :
    Stage (lost ∨ phase.LosesTurn e) (late ∨ phase.FailsLate e) g.turns after.standing
      (some phase') := by
  have distinct : (g.turns.map (·.node.id)).Nodup := accepted.turns_ids ▸ accepted.sorted_nodup
  cases advances with
  | turn running => exact AtTurn.imp stage (not_or.mpr ⟨stage.kept, not_false⟩)
  | giveUp terminal =>
      have cancelled := State.eq_cancelled_of_live stage.live terminal
      exact .short rfl rfl (.inr cancelled) stage.stands
  | refused notRunning =>
      refine .short rfl rfl ?_ stage.stands
      cases state : e.state with
      | running => exact absurd state notRunning
      | paused => exact .inl (.inr state)
      | cancelled => exact .inr state
      | completed => exact absurd state stage.live.1
      | failed => exact absurd state stage.live.2
  | absent unknown => exact absurd (unknown.symm.trans stage.stands.here) nofun
  | claim taken =>
      obtain ⟨running, same⟩ := standing_claim taken
      have notPaused : e.state ≠ .paused := by
        rw [running]
        exact nofun
      rw [same]
      exact ⟨stage.live, not_or.mpr ⟨stage.kept, notPaused⟩, stage.stands.mark distinct .running⟩
  | announce limit now => exact AtTurn.imp stage (not_or.mpr ⟨stage.kept, not_false⟩)
  | interrupt cancelled => exact .short rfl rfl (.inr cancelled) stage.stands
  | work child => exact AtTurn.imp stage (not_or.mpr ⟨stage.kept, not_false⟩)
  | overdue live limit elapsed => exact AtTurn.imp stage (not_or.mpr ⟨stage.kept, not_false⟩)
  | report live elapsed => exact AtTurn.imp stage (not_or.mpr ⟨stage.kept, not_false⟩)
  | expire live elapsed => exact ⟨_, AtTurn.imp stage (not_or.mpr ⟨stage.kept, not_false⟩)⟩
  | publish => exact AtTurn.imp stage (not_or.mpr ⟨stage.kept, not_false⟩)
  | record now =>
      exact Stage.record accepted keyed (AtTurn.imp stage (not_or.mpr ⟨stage.kept, not_false⟩))
        now _ _ _ .inr
  | recordExpired now =>
      obtain ⟨rest, atTurn⟩ := stage
      rw [standing_recordExpired]
      exact ⟨.broken rfl (atTurn.stands.mark distinct .failed).skip, fun _ _ => rfl⟩
  | settle notPaused => exact Settled.imp stage (or_iff_left not_false).symm .inl
  | finish now duration =>
      rw [standing_finish]
      refine ⟨(Settled.imp stage (or_iff_left not_false).symm .inl).finish now, nofun⟩

/-! ## The track of an execution -/

theorem keyed_start {g : Loaded} (accepted : g.Accepted) (id : String) (capacity : Nat)
    (context : Context) (now : Nat) :
    Keyed g (.start id g.id g.nodes capacity context now) := by
  intro node
  have ids := accepted.nodes_ids
  have distinct : (g.nodes.map (·.id)).Nodup := ids ▸ accepted.sorted_nodup
  rw [status?_start distinct, ids]
  split
  · rename_i mem
    exact iff_of_true rfl mem
  · rename_i absent
    exact iff_of_false Bool.false_ne_true absent

end ActionGraph.Execution

namespace ActionGraph.Track

open Execution ActionGraph.Graph

variable {σ : Type} {registry : Action.Registry σ} {g : Loaded} {act : Act} {t t' : Track σ}

def LosesTurn (t : Track σ) (act : Act) : Prop :=
  act = .go t.execution.id ∧ ∃ phase, t.phase = some phase ∧ phase.LosesTurn t.execution

def FailsLate (t : Track σ) (act : Act) : Prop :=
  act = .go t.execution.id ∧ ∃ phase, t.phase = some phase ∧ phase.FailsLate t.execution

/-- An execution has the nodes of its graph, and they stand as its run has come. -/
structure Course (lost late : Prop) (g : Loaded) (t : Track σ) : Prop where
  keyed : Keyed g t.execution
  stage : Stage lost late g.turns t.execution.standing t.phase

theorem Moves.keyed (moves : t.Moves registry g act t') (keyed : Keyed g t.execution) :
    Keyed g t'.execution := by
  cases moves with
  | stay waits => exact keyed
  | request accepted =>
      intro id
      have same := congrFun (Request.steered accepted).status id
      exact (congrArg (Option.isSome · = true) same).to_iff.trans (keyed id)
  | withdraw => exact keyed
  | take accepted =>
      intro id
      have same := congrArg (fun s => s.status id) (standing_drive accepted).2.2
      exact (congrArg (Option.isSome · = true) same).to_iff.trans (keyed id)
  | go advances =>
      intro id
      rw [advances.known]
      exact keyed id

theorem Course.start (accepted : g.Accepted) {lost late : Prop} (kept : ¬ lost) (id : String)
    (capacity : Nat) (context : Context) (now : Nat) :
    Course (σ := σ) lost late g ⟨.start id g.id g.nodes capacity context now, none⟩ := by
  refine ⟨keyed_start accepted id capacity context now, ⟨nofun, nofun⟩, kept, ?_⟩
  intro turn mem
  obtain ⟨node, declared, rfl⟩ := List.mem_map.mp mem
  have distinct : (g.nodes.map (·.id)).Nodup := accepted.nodes_ids ▸ accepted.sorted_nodup
  exact (status?_start distinct _ _ _ _ _ _).trans (if_pos (List.mem_map_of_mem declared))

theorem losesTurn_go {e : Execution} {phase : Phase σ} :
    (⟨e, some phase⟩ : Track σ).LosesTurn (.go e.id) ↔ phase.LosesTurn e := by
  constructor
  · rintro ⟨_, _, ⟨⟩, loses⟩
    exact loses
  · intro loses
    exact ⟨rfl, phase, rfl, loses⟩

theorem failsLate_go {e : Execution} {phase : Phase σ} :
    (⟨e, some phase⟩ : Track σ).FailsLate (.go e.id) ↔ phase.FailsLate e := by
  constructor
  · rintro ⟨_, _, ⟨⟩, fails⟩
    exact fails
  · intro fails
    exact ⟨rfl, phase, rfl, fails⟩

/-- A claim always goes on, so that a run that waits loses no turn. -/
theorem not_losesTurn_of_waits
    (waits : ∀ phase, act = .go t.execution.id → t.phase = some phase →
      phase.Waits t.execution) : ¬ t.LosesTurn act := by
  rintro ⟨rfl, phase, there, loses⟩
  have stuck := waits phase rfl there
  cases phase with
  | claiming turn rest => exact stuck
  | _ => exact loses

theorem Course.imp {lost lost' late late' : Prop} (course : Course lost late g t)
    (same : lost ↔ lost') (later : late → late') : Course lost' late' g t :=
  ⟨course.keyed, course.stage.imp same later⟩

/-- What an act can do to the track of an execution keeps it on its course. -/
theorem Course.move (accepted : g.Accepted) {lost late : Prop} (course : Course lost late g t)
    (moves : t.Moves registry g act t') :
    Course (lost ∨ t.LosesTurn act) (late ∨ t.FailsLate act) g t' := by
  refine ⟨moves.keyed course.keyed, ?_⟩
  have stage := course.stage
  cases moves with
  | stay waits =>
      exact stage.imp (or_iff_left (not_losesTurn_of_waits waits)).symm .inl
  | request applied =>
      refine (stage.steer (Request.steered applied)).imp (or_iff_left ?_).symm .inl
      rintro ⟨⟨⟩, _⟩
  | withdraw =>
      refine stage.imp (or_iff_left ?_).symm .inl
      rintro ⟨⟨⟩, _⟩
  | take driven =>
      obtain ⟨live, kept, pending⟩ := stage
      rw [(standing_drive driven).2.2]
      refine Stage.before live ?_ (List.nil_append _).symm nofun pending
      rintro (already | ⟨⟨⟩, _⟩)
      exact kept already
  | go advances =>
      refine (Stage.advance accepted course.keyed stage advances).imp ?_ ?_
      · exact or_congr_right losesTurn_go.symm
      · exact Or.imp_right failsLate_go.mpr

end ActionGraph.Track

namespace ActionGraph.System

open Execution ActionGraph.Graph

variable {σ : Type}

/-- After any acts in any order an execution is on its course. -/
theorem course {registry : Action.Registry σ} {settings : Settings} {world : Action.World σ}
    {acts : List Act} {id : String} {t : Track σ}
    (tracked : ((initial settings world).performAll registry acts).track? id = some t) :
    ∃ g, ((initial settings world).performAll registry acts).graph? t.execution.graph = some g ∧
      g.Accepted ∧
      t.Course (Seen registry id Track.LosesTurn (initial settings world) acts)
        (Seen registry id Track.FailsLate (initial settings world) acts) g := by
  refine follow (P := fun acts g t => t.Course
    (Seen registry id Track.LosesTurn (initial settings world) acts)
    (Seen registry id Track.FailsLate (initial settings world) acts) g) ?_ ?_ tracked
  · intro acts act g capacity context now absent accepted
    exact .start accepted (not_seen_snoc_of_absent (sound_initial settings world) absent)
      id capacity context now
  · intro acts act g t t' there _ accepted onCourse moves
    refine (onCourse.move accepted moves).imp ?_ ?_
    · exact (seen_snoc_of_tracked there act).symm
    · exact (seen_snoc_of_tracked there act).mpr

/-! ## Two graphs to run -/

def loneNode : Definition :=
  (Definition.named "lone" "1").withNode (.plain "a" "task")

/-- A world in which nothing is outside the library. -/
def quiet : Action.World Unit :=
  ⟨0, 0, .empty 0, ()⟩

def expired : Action.Registry Unit :=
  Action.Registry.empty.register
    { type := "task"
      description := ""
      run := fun _ _ context => .done (.failed context (.credentialExpired "token expired")) }

/-- A graph of two nodes, the first of which sends two messages to a port of the second. -/
def twice : Definition :=
  ((Definition.named "twice" "1").withNode (.plain "a" "task")).withNode (.plain "b" "task")
    |>.withEdge (.ported "a" "left" "b" "in")
    |>.withEdge (.ported "a" "right" "b" "in")

def answering : Action.Registry Unit :=
  Action.Registry.empty.register
    { type := "task"
      description := ""
      run := fun _ _ context =>
        .done (.unchanged context (.ok (.ok (.ofFields [("left", .str "l")])))) }

def narrow : Settings :=
  { Settings.defaults with
    executor := { Settings.Defaults.executor with maxQueueDepth := 0 } }

end ActionGraph.System
