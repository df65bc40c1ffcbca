import ActionGraph.Proofs.Action.Dispatch
import ActionGraph.Proofs.Execution.Course

/-!
# Expired credentials

A run answers a failure exactly if it came to record that a credential had
expired at a node.  `Account` follows such a node from the end of its dispatch
to the answer of the run.
-/

namespace ActionGraph

open Execution ActionGraph.Graph

variable {σ : Type}

namespace Execution

/-- The dispatch of the node has ended with the failure. -/
def Phase.ExpiredAt (node : String) (failure : Failure) : Phase σ → Prop
  | .working turn _ _ _ (.done (some (.error found, _))) =>
      turn.node.id = node ∧ found = failure
  | _ => False

def Phase.Aftermath (node : String) (failure : Failure) (e : Execution) : Phase σ → Prop
  | .working turn _ _ _ (.done (some (.error found, _))) =>
      turn.node.id = node ∧ found = failure
  | .expiring turn _ found => turn.node.id = node ∧ found = failure
  | .ended (.error found) => found = failure ∧ e.status? node = some .failed
  | .settling => e.state = .cancelled
  | .finishing => e.state = .cancelled
  | .ended (.ok _) => e.state = .cancelled
  | _ => False

/-- A failure that a run answers, or is about to, is that of a node. -/
def Phase.Blames (expired : String → Failure → Prop) (e : Execution) : Phase σ → Prop
  | .expiring turn _ failure => expired turn.node.id failure
  | .ended (.error failure) => ∃ node, expired node failure ∧ e.status? node = some .failed
  | _ => True

/-- The node at work fails only for an expired credential. -/
def Phase.Guarded : Phase σ → Prop
  | .working _ _ _ _ work => work.Ends (Process.InTime Action.OnlyCredentials)
  | _ => True

theorem Phase.ExpiredAt.aftermath {node : String} {failure : Failure} {phase : Phase σ}
    (expired : phase.ExpiredAt node failure) (e : Execution) : phase.Aftermath node failure e := by
  unfold ExpiredAt at expired
  split at expired
  · exact expired
  · exact expired.elim

theorem Phase.ExpiredAt.isCredential {node : String} {failure : Failure} {phase : Phase σ}
    (expired : phase.ExpiredAt node failure) (guarded : phase.Guarded) :
    failure.isCredential = true := by
  unfold ExpiredAt at expired
  split at expired
  · obtain ⟨_, rfl⟩ := expired
    exact guarded _ rfl _ rfl
  · exact expired.elim

theorem guarded_before (rest : List Turn) : (Phase.before rest : Phase σ).Guarded := by
  cases rest with
  | nil => trivial
  | cons turn rest => trivial

theorem blames_before (expired : String → Failure → Prop) (e : Execution) (rest : List Turn) :
    (Phase.before rest : Phase σ).Blames expired e := by
  cases rest with
  | nil => trivial
  | cons turn rest => trivial

theorem status?_recordExpired {e : Execution} {node : Node}
    (known : (e.status? node.id).isSome) (now duration : Nat) (text : String) :
    (e.recordExpired now node duration text).1.status? node.id = some .failed := by
  have same := congrArg (fun s => s.status node.id)
    (standing_recordExpired e now node duration text)
  refine same.trans ?_
  rw [Standing.fail_status, Standing.mark_status_self known]
  rfl

section Steered

variable {e after : Execution} (steered : e.standing.Steered after.standing)
include steered

theorem Standing.Steered.status?_eq (id : String) : after.status? id = e.status? id :=
  congrFun steered.status id

theorem Phase.Aftermath.steer {node : String} {failure : Failure} {phase : Phase σ}
    (aftermath : phase.Aftermath node failure e) : phase.Aftermath node failure after := by
  have cancelled : e.state = .cancelled → after.state = .cancelled :=
    steered.state_of_terminal rfl
  unfold Aftermath at aftermath ⊢
  split at aftermath
  · exact aftermath
  · exact aftermath
  · exact ⟨aftermath.1, (steered.status?_eq node).trans aftermath.2⟩
  · exact cancelled aftermath
  · exact cancelled aftermath
  · exact cancelled aftermath
  · exact aftermath.elim

theorem Phase.Blames.steer {expired : String → Failure → Prop} {phase : Phase σ}
    (blames : phase.Blames expired e) : phase.Blames expired after := by
  unfold Blames at blames ⊢
  split at blames
  · exact blames
  · obtain ⟨node, seen, failed⟩ := blames
    exact ⟨node, seen, (steered.status?_eq node).trans failed⟩
  · trivial

end Steered

theorem Phase.Blames.mono {expired expired' : String → Failure → Prop} {e : Execution}
    {phase : Phase σ} (older : ∀ node failure, expired node failure → expired' node failure)
    (blames : phase.Blames expired e) : phase.Blames expired' e := by
  unfold Blames at blames ⊢
  split at blames
  · exact older _ _ blames
  · obtain ⟨node, seen, failed⟩ := blames
    exact ⟨node, older _ _ seen, failed⟩
  · trivial

section Advance

variable {registry : Action.Registry σ} {e after : Execution} {phase phase' : Phase σ}
  (advances : Run.Advances registry e phase after phase')
include advances

theorem Phase.Guarded.advance (guarded : phase.Guarded) : phase'.Guarded := by
  cases advances with
  | announce limit now => exact (registry.dispatch_ends _ _).timeout limit
  | work child => exact guarded.of_child child
  | absent unknown => exact guarded_before _
  | record now =>
      cases (e.record now _ _ _ _ _).2 with
      | next => exact guarded_before _
      | settle => trivial
      | abort failure => trivial
  | _ => trivial

theorem Phase.Aftermath.advance {lost late : Prop} {turns : List Turn}
    (stage : Stage lost late turns e.standing (some phase)) {node : String} {failure : Failure}
    (aftermath : phase.Aftermath node failure e) : phase'.Aftermath node failure after := by
  cases advances with
  | interrupt cancelled => exact cancelled
  | work child => cases child <;> exact aftermath.elim
  | expire live elapsed => exact aftermath
  | recordExpired now =>
      obtain ⟨rfl, rfl⟩ := aftermath
      obtain ⟨rest, atTurn⟩ := stage
      have known : (e.status? _).isSome := Option.isSome_iff_exists.mpr ⟨_, atTurn.stands.here⟩
      exact ⟨rfl, status?_recordExpired known _ _ _⟩
  | settle notPaused => exact aftermath
  | finish now duration =>
      have cancelled : e.standing.state = .cancelled := aftermath
      have same := congrArg Standing.state (standing_finish e now duration)
      rw [Standing.finish_state, cancelled] at same
      exact same
  | _ => exact aftermath.elim

theorem Phase.Blames.advance {lost late : Prop} {g : Loaded} (accepted : g.Accepted)
    (keyed : Keyed g e) (stage : Stage lost late g.turns e.standing (some phase))
    {expired : String → Failure → Prop}
    (here : ∀ node failure, phase.ExpiredAt node failure → expired node failure)
    (blames : phase.Blames expired e) : phase'.Blames expired after := by
  cases advances with
  | absent unknown => exact blames_before _ _ _
  | expire live elapsed => exact here _ _ ⟨rfl, rfl⟩
  | @record turn rest duration report context now =>
      have atTurn : AtTurn lost g.turns e.standing turn rest .running := stage
      rw [record_onward accepted keyed atTurn.stands.mem]
      split
      · exact blames_before _ _ _
      · trivial
  | recordExpired now =>
      obtain ⟨rest, atTurn⟩ := stage
      have known : (e.status? _).isSome := Option.isSome_iff_exists.mpr ⟨_, atTurn.stands.here⟩
      exact ⟨_, blames, status?_recordExpired known _ _ _⟩
  | _ => trivial

end Advance

end Execution

namespace Track

variable {registry : Action.Registry σ} {g : Loaded} {act : Act} {t t' : Track σ}

def Expired (node : String) (failure : Failure) (t : Track σ) (_ : Act) : Prop :=
  ∃ phase, t.phase = some phase ∧ phase.ExpiredAt node failure

/-- What a run makes of the credentials that were seen to have expired. -/
structure Account (expired : String → Failure → Prop) (t : Track σ) : Prop where
  aftermath : ∀ node failure, expired node failure →
    ∃ phase, t.phase = some phase ∧ phase.Aftermath node failure t.execution
  blames : ∀ phase, t.phase = some phase → phase.Blames expired t.execution
  guarded : ∀ phase, t.phase = some phase → phase.Guarded
  credential : ∀ node failure, expired node failure → failure.isCredential = true

theorem Account.start {expired : String → Failure → Prop}
    (none : ∀ node failure, ¬ expired node failure) (e : Execution) :
    Account (σ := σ) expired ⟨e, .none⟩ where
  aftermath node failure seen := absurd seen (none node failure)
  blames _ there := by cases there
  guarded _ there := by cases there
  credential node failure seen := absurd seen (none node failure)

/-- What is seen now is accounted for. -/
theorem Account.see {expired expired' : String → Failure → Prop} (account : t.Account expired)
    (seen : ∀ node failure, expired' node failure ↔
      expired node failure ∨ t.Expired node failure act) : t.Account expired' where
  aftermath node failure now := by
    rcases (seen node failure).mp now with earlier | ⟨phase, there, ended⟩
    · exact account.aftermath node failure earlier
    · exact ⟨phase, there, ended.aftermath _⟩
  blames phase there :=
    (account.blames phase there).mono fun node failure earlier =>
      (seen node failure).mpr (.inl earlier)
  guarded := account.guarded
  credential node failure now := by
    rcases (seen node failure).mp now with earlier | ⟨phase, there, ended⟩
    · exact account.credential node failure earlier
    · exact ended.isCredential (account.guarded phase there)

theorem Account.steer {expired : String → Failure → Prop} {e after : Execution}
    {phase : Option (Phase σ)} (account : Account expired ⟨e, phase⟩)
    (steered : e.standing.Steered after.standing) : Account expired ⟨after, phase⟩ where
  aftermath node failure seen := by
    obtain ⟨phase, there, aftermath⟩ := account.aftermath node failure seen
    exact ⟨phase, there, aftermath.steer steered⟩
  blames phase there := (account.blames phase there).steer steered
  guarded := account.guarded
  credential := account.credential

/-- What an act can do to the track of an execution keeps the account of it. -/
theorem Account.move (accepted : g.Accepted) {lost late : Prop} (course : t.Course lost late g)
    {expired : String → Failure → Prop} (account : t.Account expired)
    (here : ∀ node failure, t.Expired node failure act → expired node failure)
    (moves : t.Moves registry g act t') : t'.Account expired := by
  cases moves with
  | stay waits => exact account
  | request applied => exact account.steer (Request.steered applied)
  | withdraw => exact account.steer (.refl _)
  | take driven =>
      have none : ∀ node failure, ¬ expired node failure := by
        intro node failure seen
        obtain ⟨phase, there, _⟩ := account.aftermath node failure seen
        cases there
      refine ⟨fun node failure seen => absurd seen (none node failure), ?_, ?_,
        account.credential⟩
      · rintro _ ⟨⟩
        exact blames_before _ _ _
      · rintro _ ⟨⟩
        exact guarded_before _
  | @go e after phase phase' advances =>
      refine ⟨?_, ?_, ?_, account.credential⟩
      · intro node failure seen
        obtain ⟨_, ⟨⟩, aftermath⟩ := account.aftermath node failure seen
        exact ⟨phase', rfl, aftermath.advance advances course.stage⟩
      · rintro _ ⟨⟩
        refine Phase.Blames.advance advances accepted course.keyed course.stage ?_
          (account.blames phase rfl)
        exact fun node failure ended => here node failure ⟨phase, rfl, ended⟩
      · rintro _ ⟨⟩
        exact (account.guarded phase rfl).advance advances

end Track

namespace System

/-- After any acts in any order the run of an execution has an account. -/
theorem account {registry : Action.Registry σ} {settings : Settings} {world : Action.World σ}
    {acts : List Act} {id : String} {t : Track σ}
    (tracked : ((initial settings world).performAll registry acts).track? id = some t) :
    t.Account fun node failure =>
      Seen registry id (Track.Expired node failure) (initial settings world) acts := by
  have holds := follow (P := fun acts _ t => t.Account fun node failure =>
    Seen registry id (Track.Expired node failure) (initial settings world) acts) ?_ ?_ tracked
  · obtain ⟨_, _, _, account⟩ := holds
    exact account
  · intro acts act g capacity context now absent accepted
    refine .start (fun node failure => ?_) _
    exact not_seen_snoc_of_absent (sound_initial settings world) absent
  · intro acts act g t t' there found accepted account moves
    obtain ⟨g', found', _, onCourse⟩ := course there
    obtain rfl : g' = g := Option.some.inj (found'.symm.trans found)
    have seen : ∀ node failure,
        Seen registry id (Track.Expired node failure) (initial settings world) (acts ++ [act]) ↔
          Seen registry id (Track.Expired node failure) (initial settings world) acts ∨
            t.Expired node failure act := fun node failure => seen_snoc_of_tracked there act
    refine (account.see seen).move accepted onCourse ?_ moves
    exact fun node failure ended => (seen node failure).mpr (.inr ended)

end System

end ActionGraph
