import ActionGraph.Proofs.Execution.Calls
import ActionGraph.Proofs.Execution.Conservation
import ActionGraph.Proofs.Execution.Verdicts

/-!
# Messages that are left over

A node takes the messages of its mailbox once, when it has its turn.  Messages
are accepted at every node as long as the execution is running, so that one may
come to a node whose turn is over; and nodes whose turn is lost take nothing.
There is no other way in which a completed execution is left with messages.
-/

namespace ActionGraph

open Execution ActionGraph.Graph

namespace Execution

/-! ## Messages that wait at a node -/

def waiting (e : Execution) (node : String) : Nat :=
  ((e.instances.get? node).map fun i => i.inbox.total).getD 0

theorem waiting_of_get? {e : Execution} {node : String} {i : Instance}
    (found : e.instances.get? node = some i) : e.waiting node = i.inbox.total := by
  rw [waiting, found]
  rfl

theorem known_of_waiting {e : Execution} {node : String} (waits : 0 < e.waiting node) :
    (e.status? node).isSome := by
  unfold waiting at waits
  cases found : e.instances.get? node with
  | none =>
      rw [found] at waits
      exact absurd waits (Nat.lt_irrefl 0)
  | some i =>
      rw [status?, found]
      rfl

/-- Every mailbox is empty exactly if no message waits. -/
theorem emptied_iff (e : Execution) :
    (∀ node i, e.instances.get? node = some i → i.inbox.isEmpty = true) ↔
      ¬ ∃ node, 0 < e.waiting node := by
  constructor
  · rintro all ⟨node, waits⟩
    obtain ⟨i, found, _⟩ := Option.map_eq_some_iff.mp
      (Option.isSome_iff_exists.mp (known_of_waiting waits)).choose_spec
    rw [waiting_of_get? found, (i.inbox.isEmpty_iff).mp (all node i found)] at waits
    exact Nat.lt_irrefl 0 waits
  · intro none node i found
    rw [i.inbox.isEmpty_iff, ← waiting_of_get? found]
    exact Nat.eq_zero_of_not_pos fun waits => none ⟨node, waits⟩

theorem queued_eq_zero_iff (e : Execution) :
    e.queued = 0 ↔ ∀ node i, e.instances.get? node = some i → i.inbox.isEmpty = true := by
  simp only [Mailbox.isEmpty_iff]
  exact Dict.sum_eq_zero_iff _ _

/-- Only the mailboxes of instances matter. -/
theorem waiting_of_map {e after : Execution} {node : String} {f : Instance → Instance}
    (inbox : ∀ i, (f i).inbox = i.inbox)
    (same : after.instances.get? node = (e.instances.get? node).map f) :
    after.waiting node = e.waiting node := by
  rw [waiting, same, Option.map_map, waiting]
  exact congrArg (fun g => ((e.instances.get? node).map g).getD 0)
    (funext fun i => congrArg Mailbox.total (inbox i))

theorem waiting_deliver {e : Execution} {now : Nat} {node port : String} {value : Json}
    {sent : Change} (delivered : e.deliver now node port value = .ok sent) :
    0 < sent.1.waiting node ∧ ∀ other, other ≠ node → sent.1.waiting other = e.waiting other := by
  obtain ⟨i, _, same, _⟩ := deliver_eq_ok delivered
  have found : ∀ other, sent.1.instances.get? other =
      if other = node then some (i.receive port value) else e.instances.get? other := by
    intro other
    rw [same]
    exact Dict.get?_insert _ _ _ _
  refine ⟨?_, fun other elsewhere => ?_⟩
  · rw [waiting_of_get? ((found node).trans (if_pos rfl))]
    exact i.inbox.total_push_pos port value
  · rw [waiting, found, if_neg elsewhere, waiting]

theorem waiting_claim {e after : Execution} {now : Nat} {node : String} {context : Context}
    (taken : e.claim now node = .taken after context) :
    after.waiting node = 0 ∧ ∀ other, other ≠ node → after.waiting other = e.waiting other := by
  obtain ⟨i, _, same, _⟩ := claim_eq_taken taken
  have found : ∀ other, after.instances.get? other =
      if other = node then some i.begin else e.instances.get? other := by
    intro other
    rw [same]
    exact Dict.get?_insert _ _ _ _
  refine ⟨?_, fun other elsewhere => ?_⟩
  · rw [waiting_of_get? ((found node).trans (if_pos rfl))]
    rfl
  · rw [waiting, found, if_neg elsewhere, waiting]

theorem waiting_forward (now : Nat) (output : Json) (edges : List Edge) (change : Change)
    {node : String} (apart : ∀ edge ∈ edges, edge.target.node ≠ node) :
    (forward now output edges change).1.1.waiting node = change.1.waiting node := by
  refine forward_keeps (P := fun after => after.1.waiting node = change.1.waiting node) ?_ rfl
  intro edge mem e events sent same delivered
  exact ((waiting_deliver delivered).2 node (apart edge mem).symm).trans same

theorem waiting_skipPending (e : Execution) (node : String) :
    e.skipPending.waiting node = e.waiting node :=
  waiting_of_map Instance.skip_inbox (get?_skipPending e node)

theorem waiting_counted (e : Execution) (now : Nat) (turned : Node) (duration : Nat)
    (success : Bool) {f : Instance → Instance} (inbox : ∀ i, (f i).inbox = i.inbox)
    (node : String) :
    (e.counted now turned duration success f).waiting node = e.waiting node := by
  have found := get?_counted e now turned duration success f node
  split at found
  · exact waiting_of_map inbox found
  · rw [waiting, found, waiting]

/-- What a node hands on comes to the nodes that its edges lead to. -/
theorem waiting_record (e : Execution) (now : Nat) (turned : Node) (edges : List Edge)
    (duration : Nat) {report : Action.Report} (context : Context)
    (success : report.success = true) {node : String}
    (apart : ∀ edge ∈ edges, edge.target.node ≠ node) :
    (e.record now turned edges duration report context).1.1.waiting node = e.waiting node := by
  rw [record_of_success _ _ _ _ _ _ success, waiting_forward _ _ _ _ apart]
  exact waiting_counted e now turned duration true
    (f := (·.conclude duration report)) (fun _ => rfl) node

theorem waiting_finish (e : Execution) (now duration : Nat) (node : String) :
    (e.finish now duration).1.waiting node = e.waiting node := by
  unfold finish
  split
  · exact waiting_skipPending _ node
  · exact waiting_skipPending e node

/-- Requests other than messages leave the mailboxes alone. -/
theorem waiting_apply {e : Execution} {request : Request} {now : Nat} {change : Change}
    (accepted : request.apply now e = .ok change)
    (noMessage : ∀ node port value, request ≠ .inject node port value) (node : String) :
    change.1.waiting node = e.waiting node := by
  cases request with
  | inject node port value => exact absurd rfl (noMessage node port value)
  | pause =>
      obtain ⟨_, rfl⟩ := pause_eq_ok accepted
      rfl
  | resume =>
      obtain ⟨_, rfl⟩ := resume_eq_ok accepted
      rfl
  | stop =>
      cases accepted
      rw [stop]
      split
      · rfl
      · rfl
  | remove =>
      obtain ⟨_, rfl⟩ := remove_eq_ok accepted
      rfl

/-! ## Nodes that are awaited -/

section Upcoming

variable {σ : Type}

def Phase.upcoming : Phase σ → List String
  | .resting turn rest => (turn :: rest).map (·.node.id)
  | .claiming turn rest => (turn :: rest).map (·.node.id)
  | .announcing _ rest _ => rest.map (·.node.id)
  | .working _ rest _ _ _ => rest.map (·.node.id)
  | .reporting _ rest _ _ _ => rest.map (·.node.id)
  | .recording _ rest _ _ _ => rest.map (·.node.id)
  | _ => []

theorem Phase.upcoming_before (rest : List Turn) :
    (Phase.before rest : Phase σ).upcoming = rest.map (·.node.id) := by
  cases rest <;> rfl

/-- Messages wait at a node whose turn is not to come. -/
def Phase.Strands (e : Execution) (phase : Phase σ) : Prop :=
  ∃ node, node ∉ phase.upcoming ∧ 0 < e.waiting node

/-- A turn is lost while messages wait at a node whose turn was to come. -/
def Phase.Forsakes (e : Execution) (phase : Phase σ) : Prop :=
  phase.LosesTurn e ∧ ∃ node ∈ phase.upcoming, 0 < e.waiting node

/-- The execution came to another end than completion, or is about to. -/
def Phase.Dooms (e : Execution) (phase : Option (Phase σ)) : Prop :=
  e.state = .cancelled ∨ e.state = .failed ∨
    ∃ turn duration failure, phase = some (.expiring turn duration failure)

theorem Phase.not_forsakes {e : Execution} {phase : Phase σ} (kept : ¬ phase.LosesTurn e) :
    ¬ phase.Forsakes e :=
  fun forsakes => kept forsakes.1

theorem Phase.Strands.congr {e after : Execution} {phase phase' : Phase σ}
    (upcoming : phase'.upcoming = phase.upcoming)
    (waiting : ∀ node, after.waiting node = e.waiting node) :
    phase'.Strands after ↔ phase.Strands e := by
  rw [Strands, Strands, upcoming]
  exact exists_congr fun node => by rw [waiting]

/-- A message is stranded if it comes to a node whose turn is not to come. -/
theorem Phase.strands_deliver {e : Execution} {now : Nat} {node port : String} {value : Json}
    {sent : Change} (delivered : e.deliver now node port value = .ok sent) (phase : Phase σ) :
    phase.Strands sent.1 ↔ phase.Strands e ∨ node ∉ phase.upcoming := by
  obtain ⟨there, others⟩ := waiting_deliver delivered
  constructor
  · rintro ⟨other, past, waits⟩
    by_cases same : other = node
    · exact .inr (same ▸ past)
    · rw [others other same] at waits
      exact .inl ⟨other, past, waits⟩
  · rintro (⟨other, past, waits⟩ | past)
    · by_cases same : other = node
      · exact ⟨node, same ▸ past, there⟩
      · exact ⟨other, past, (others other same).symm ▸ waits⟩
    · exact ⟨node, past, there⟩

/-- A pause that loses a turn strands all messages that wait. -/
theorem Phase.strands_refused {e : Execution} (turn : Turn) (rest : List Turn)
    (paused : e.state = .paused) :
    (settling : Phase σ).Strands e ↔
      (claiming turn rest : Phase σ).Strands e ∨ (claiming turn rest : Phase σ).Forsakes e := by
  constructor
  · rintro ⟨node, _, waits⟩
    by_cases awaited : node ∈ (claiming turn rest : Phase σ).upcoming
    · exact .inr ⟨paused, node, awaited, waits⟩
    · exact .inl ⟨node, awaited, waits⟩
  · rintro (⟨node, _, waits⟩ | ⟨_, node, _, waits⟩)
    · exact ⟨node, List.not_mem_nil, waits⟩
    · exact ⟨node, List.not_mem_nil, waits⟩

/-- A node that is claimed takes its messages, so that none of them is stranded. -/
theorem Phase.strands_claim {e after : Execution} {turn : Turn} {now : Nat} {context : Context}
    (taken : e.claim now turn.node.id = .taken after context) (rest : List Turn) :
    (announcing turn rest context : Phase σ).Strands after ↔
      (claiming turn rest : Phase σ).Strands e := by
  obtain ⟨emptied, others⟩ := waiting_claim taken
  refine exists_congr fun node => ?_
  by_cases here : node = turn.node.id
  · subst here
    refine iff_of_false (fun stranded => ?_) fun stranded => stranded.1 List.mem_cons_self
    rw [emptied] at stranded
    exact Nat.lt_irrefl 0 stranded.2
  · rw [others node here]
    refine and_congr_left fun _ => not_congr ?_
    exact (List.mem_cons.trans (or_iff_right here)).symm

/-- What a node hands on comes to nodes whose turn is to come. -/
theorem Phase.strands_record {g : Loaded} (accepted : g.Accepted) {done rest : List Turn}
    {turn : Turn} (split : g.turns = done ++ turn :: rest) (e : Execution) (now duration : Nat)
    {report : Action.Report} (context : Context) (success : report.success = true) :
    (Phase.before rest : Phase σ).Strands
        (e.record now turn.node turn.edges duration report context).1.1 ↔
      (recording turn rest duration report context : Phase σ).Strands e := by
  refine exists_congr fun node => ?_
  rw [upcoming_before]
  refine and_congr_right fun past => ?_
  rw [waiting_record e now turn.node turn.edges duration context success]
  rintro edge leaves rfl
  exact past (accepted.target_mem_later split leaves)

/-- In a step of a run that may still complete, messages are stranded only by a lost turn. -/
theorem Phase.Strands.advance {registry : Action.Registry σ} {lost late : Prop} {g : Loaded}
    (accepted : g.Accepted) {e after : Execution} {phase phase' : Phase σ} (keyed : Keyed g e)
    (stage : Stage lost late g.turns e.standing (some phase))
    (advances : Run.Advances registry e phase after phase')
    (hopeful : ¬ Phase.Dooms after (some phase')) :
    phase'.Strands after ↔ phase.Strands e ∨ phase.Forsakes e := by
  have still : ∀ {phase phase' : Phase σ}, ¬ phase.LosesTurn e →
      phase'.upcoming = phase.upcoming → (∀ node, after.waiting node = e.waiting node) →
      (phase'.Strands after ↔ phase.Strands e ∨ phase.Forsakes e) := by
    intro phase phase' kept upcoming waiting
    rw [or_iff_left (not_forsakes kept)]
    exact Strands.congr upcoming waiting
  cases advances with
  | giveUp terminal =>
      have cancelled := State.eq_cancelled_of_live stage.live terminal
      exact absurd (.inl cancelled) hopeful
  | @refused turn rest notRunning =>
      refine strands_refused turn rest ?_
      cases state : e.state with
      | running => exact absurd state notRunning
      | paused => rfl
      | cancelled => exact absurd (.inl state) hopeful
      | completed => exact absurd state stage.live.1
      | failed => exact absurd state stage.live.2
  | absent unknown => exact absurd (unknown.symm.trans stage.stands.here) nofun
  | @claim _ turn rest now context taken =>
      have running := (standing_claim taken).1
      have kept : ¬ (claiming turn rest : Phase σ).LosesTurn e := fun paused =>
        nomatch running.symm.trans paused
      rw [or_iff_left (not_forsakes kept)]
      exact strands_claim taken rest
  | interrupt cancelled => exact absurd (.inl cancelled) hopeful
  | expire live elapsed => exact absurd (.inr (.inr ⟨_, _, _, rfl⟩)) hopeful
  | @record turn rest duration report context now =>
      have atTurn : AtTurn lost g.turns e.standing turn rest .running := stage
      cases success : report.success with
      | true =>
          obtain ⟨done, split, _⟩ := atTurn.stands.done
          have kept : ¬ (recording turn rest duration report context : Phase σ).LosesTurn e :=
            not_false
          rw [or_iff_left (not_forsakes kept), record_onward accepted keyed atTurn.stands.mem,
            success, if_pos rfl]
          exact strands_record accepted split e now duration context success
      | false =>
          have same := (record_failure e now turn.node turn.edges duration report context
            success).1
          refine absurd ?_ hopeful
          by_cases terminal : e.state.isTerminal = true
          · rw [if_pos terminal] at same
            have cancelled := State.eq_cancelled_of_live atTurn.live terminal
            exact .inl ((congrArg Standing.state same).trans cancelled)
          · rw [if_neg terminal] at same
            exact .inr (.inl (congrArg Standing.state same))
  | recordExpired now => exact absurd (.inr (.inl rfl)) hopeful
  | finish now duration => exact still not_false rfl (waiting_finish e now duration)
  | _ => exact still not_false rfl fun _ => rfl

/-- The run of a completed execution has no turns left. -/
theorem Stage.over {lost late : Prop} {turns : List Turn} {e : Execution}
    {phase : Option (Phase σ)} (stage : Stage lost late turns e.standing phase)
    (completed : e.state = .completed) :
    ∃ here, phase = some here ∧ here.upcoming = [] ∧
      ∀ turn duration failure, here ≠ .expiring turn duration failure := by
  have notLive : ¬ e.standing.Live := fun live => live.1 completed
  cases phase with
  | none => exact absurd stage.1 notLive
  | some phase =>
      cases phase with
      | settling => exact ⟨_, rfl, rfl, nofun⟩
      | finishing => exact ⟨_, rfl, rfl, nofun⟩
      | ended result => exact ⟨_, rfl, rfl, nofun⟩
      | expiring turn duration failure =>
          obtain ⟨rest, atTurn⟩ := stage
          exact absurd atTurn.live notLive
      | _ => exact absurd stage.live notLive

end Upcoming

end Execution

namespace Track

variable {σ : Type} {registry : Action.Registry σ} {g : Loaded} {act : Act} {t t' : Track σ}

def Stranded (t : Track σ) : Prop :=
  ∃ phase, t.phase = some phase ∧ phase.Strands t.execution

/-- The act is the acceptance of a message for a node whose turn is not to come. -/
def ComesLate (t : Track σ) (act : Act) : Prop :=
  ∃ node port value, act = .request t.execution.id (.inject node port value) ∧
    t.execution.state = .running ∧ (t.execution.status? node).isSome ∧
    ∃ phase, t.phase = some phase ∧ node ∉ phase.upcoming

def Forsakes (t : Track σ) (act : Act) : Prop :=
  act = .go t.execution.id ∧ ∃ phase, t.phase = some phase ∧ phase.Forsakes t.execution

def LeavesOver (t : Track σ) (act : Act) : Prop :=
  t.ComesLate act ∨ t.Forsakes act

def Doomed (t : Track σ) : Prop :=
  Phase.Dooms t.execution t.phase

theorem Doomed.move (doomed : t.Doomed) (moves : t.Moves registry g act t') : t'.Doomed := by
  rcases doomed with cancelled | failed | ⟨turn, duration, failure, expiring⟩
  · by_cases expiry : t.RecordsExpiry act
    · exact .inr (.inl (moves.state_of_recordsExpiry expiry))
    · have terminal : t.execution.state.isTerminal = true := by
        rw [cancelled]
        rfl
      exact .inl ((congrArg Prod.fst (moves.verdict terminal expiry)).trans cancelled)
  · exact .inr (.inl (moves.failed failed))
  · cases moves with
    | take accepted => cases expiring
    | go advances =>
        cases expiring
        exact .inr (.inl (Moves.state_of_recordsExpiry (g := g) (.go advances)
          ⟨rfl, _, _, _, rfl⟩))
    | _ => exact .inr (.inr ⟨turn, duration, failure, expiring⟩)

/-- An act other than a message strands messages only where it loses turns. -/
theorem Moves.stranded (accepted : g.Accepted) {lost late : Prop} (course : t.Course lost late g)
    (moves : t.Moves registry g act t') (hopeful : ¬ t'.Doomed)
    (noMessage : ∀ node port value, act ≠ .request t.execution.id (.inject node port value)) :
    t'.Stranded ↔ t.Stranded ∨ t.LeavesOver act := by
  have none : ¬ t.ComesLate act := fun ⟨node, port, value, same, _⟩ =>
    noMessage node port value same
  rw [LeavesOver, or_iff_right none]
  cases moves with
  | stay waits =>
      refine (or_iff_left ?_).symm
      rintro ⟨isGo, phase, there, loses, _⟩
      exact not_losesTurn_of_waits waits ⟨isGo, phase, there, loses⟩
  | request applied =>
      have waiting := waiting_apply applied fun node port value same =>
        noMessage node port value (congrArg _ same)
      rw [or_iff_left fun forsakes => nomatch forsakes.1]
      exact exists_congr fun phase => and_congr_right fun _ => Phase.Strands.congr rfl waiting
  | withdraw =>
      rw [or_iff_left fun forsakes => nomatch forsakes.1]
      exact Iff.rfl
  | take driven =>
      obtain ⟨_, _, rfl⟩ := drive_eq_ok driven
      refine iff_of_false ?_ ?_
      · rintro ⟨_, ⟨⟩, node, past, waits⟩
        refine past ?_
        rw [Phase.upcoming_before, accepted.turns_ids]
        exact (course.keyed node).mp (known_of_waiting waits)
      · rintro (⟨_, ⟨⟩, _⟩ | ⟨⟨⟩, _⟩)
  | go advances =>
      have step := Phase.Strands.advance accepted course.keyed course.stage advances hopeful
      simpa only [Stranded, Forsakes, Option.some.injEq, exists_eq_left', true_and] using step

end Track

namespace System

variable {σ : Type} {registry : Action.Registry σ} {s : System σ} {id : String} {t t' : Track σ}

/-- A message that is accepted for a node whose turn is not to come is stranded. -/
theorem stranded_inject (tracked : s.track? id = some t) {node port : String} {value : Json}
    (after : (s.perform registry (.request id (.inject node port value))).track? id = some t') :
    t'.Stranded ↔ t.Stranded ∨ t.LeavesOver (.request id (.inject node port value)) := by
  obtain ⟨held, phase⟩ := track?_eq_some_iff.mp tracked
  have named := track?_id tracked
  have noStep : ¬ t.Forsakes (.request id (.inject node port value)) := fun forsakes =>
    nomatch forsakes.1
  rw [Track.LeavesOver, or_iff_left noStep]
  cases done : s.attempt registry (.request id (.inject node port value)) with
  | none =>
      rw [perform_of_none done] at after
      obtain rfl := Option.some.inj (tracked.symm.trans after)
      refine (or_iff_left ?_).symm
      rintro ⟨_, _, _, ⟨⟩, running, known, _⟩
      obtain ⟨change, accepted⟩ : ∃ change,
          (Request.inject node port value).apply s.now t.execution = .ok change :=
        inject_eq_ok_iff.mpr ⟨running, known⟩
      rw [attempt_request_iff.mpr ⟨_, held, change, accepted, rfl⟩] at done
      cases done
  | some s' =>
      rw [perform_of_some done] at after
      obtain ⟨runs, _, e, change, heldThere, accepted, heldAfter⟩ := attempt_request done
      obtain rfl : e = t.execution := Option.some.inj (heldThere.symm.trans held)
      obtain ⟨running, known⟩ := inject_eq_ok_iff.mp ⟨change, accepted⟩
      obtain ⟨_, sent, delivered, rfl⟩ := inject_eq_ok accepted
      obtain rfl : t' = ⟨sent.1, t.phase⟩ := by
        have heldHere := heldAfter id
        rw [if_pos rfl] at heldHere
        rw [track?_of_held heldHere, run?, runs, ← run?, ← phase] at after
        exact (Option.some.inj after).symm
      constructor
      · rintro ⟨phase, here, stranded⟩
        obtain before | past := (Phase.strands_deliver delivered phase).mp stranded
        · exact .inl ⟨phase, here, before⟩
        · exact .inr ⟨node, port, value, by rw [named], running, known, phase, here, past⟩
      · rintro (⟨phase, here, before⟩ | ⟨_, _, _, ⟨⟩, _, _, phase, here, past⟩)
        · exact ⟨phase, here, (Phase.strands_deliver delivered phase).mpr (.inl before)⟩
        · exact ⟨phase, here, (Phase.strands_deliver delivered phase).mpr (.inr past)⟩

/-- After any acts in any order, messages are stranded exactly if one was left over. -/
theorem stranded_iff_seen {settings : Settings} {world : Action.World σ} {acts : List Act}
    (tracked : ((initial settings world).performAll registry acts).track? id = some t)
    (hopeful : ¬ t.Doomed) :
    t.Stranded ↔ Seen registry id Track.LeavesOver (initial settings world) acts := by
  have followed := follow_through (P := fun acts _ t => ¬ t.Doomed →
    (t.Stranded ↔ Seen registry id Track.LeavesOver (initial settings world) acts)) ?_ ?_ tracked
  · obtain ⟨_, _, _, holds⟩ := followed
    exact holds hopeful
  · intro acts act g capacity context now absent _ _
    refine iff_of_false ?_ (not_seen_snoc_of_absent (sound_initial settings world) absent)
    rintro ⟨_, ⟨⟩, _⟩
  · intro acts act g t t' there after found accepted holds moves hopeful
    rw [seen_snoc_of_tracked there, ← holds fun doomed => hopeful (doomed.move moves)]
    by_cases message : ∃ node port value,
        act = .request t.execution.id (.inject node port value)
    · obtain ⟨node, port, value, rfl⟩ := message
      rw [track?_id there, performAll_snoc] at after
      rw [track?_id there]
      exact stranded_inject there after
    · obtain ⟨g', found', _, onCourse⟩ := course there
      obtain rfl : g' = g := Option.some.inj (found'.symm.trans found)
      exact moves.stranded accepted onCourse hopeful fun node port value same =>
        message ⟨node, port, value, same⟩

/--
Once an execution is completed, whatever was asked of it in whatever order, its
mailboxes are empty exactly if no message was left over: none was accepted for
a node whose turn was no longer to come, and no turn was lost while messages
waited for it.  As exactly then, the messages that were injected or forwarded
are those that nodes took and those of which an event says that they were
driven out.
-/
theorem emptied_iff_none_left_over {settings : Settings} {world : Action.World σ}
    {acts : List Act} {e : Execution}
    (held : ((initial settings world).performAll registry acts).held? id = some e)
    (completed : e.state = .completed) :
    let history := ((initial settings world).performAll registry acts).engine.history
    ((∀ node i, e.instances.get? node = some i → i.inbox.isEmpty = true) ↔
      ¬ Seen registry id Track.LeavesOver (initial settings world) acts) ∧
    (history.countP (·.isInjection id) + e.metrics.emitted =
        e.metrics.processed + history.countP (·.isOverflow id) ↔
      ¬ Seen registry id Track.LeavesOver (initial settings world) acts) := by
  intro history
  obtain ⟨t, tracked, rfl⟩ :
      ∃ t, ((initial settings world).performAll registry acts).track? id = some t ∧
        t.execution = e := ⟨_, track?_of_held held, rfl⟩
  obtain ⟨_, _, _, onCourse⟩ := course tracked
  obtain ⟨phase, there, past, notExpiring⟩ := onCourse.stage.over completed
  have hopeful : ¬ t.Doomed := by
    rintro (cancelled | failed | ⟨turn, duration, failure, expiring⟩)
    · exact absurd (completed.symm.trans cancelled) nofun
    · exact absurd (completed.symm.trans failed) nofun
    · exact notExpiring _ _ _ (Option.some.inj (there.symm.trans expiring))
  have stranded : (∃ node, 0 < t.execution.waiting node) ↔
      Seen registry id Track.LeavesOver (initial settings world) acts := by
    rw [← stranded_iff_seen tracked hopeful]
    simp only [Track.Stranded, there, Option.some.injEq, exists_eq_left', Phase.Strands, past,
      List.not_mem_nil, not_false_eq_true, true_and]
  obtain ⟨messages, overflows⟩ :
      history.countP (·.isInjection id) + t.execution.metrics.emitted =
          t.execution.metrics.processed + t.execution.metrics.backpressure + t.execution.queued ∧
        t.execution.metrics.backpressure = history.countP (·.isOverflow id) :=
    messages_conserved held
  rw [← stranded, ← emptied_iff, ← queued_eq_zero_iff, ← overflows]
  refine ⟨Iff.rfl, ?_⟩
  omega

/-! ## A message that comes late -/

/-- The only node is at work when a second message comes to it. -/
def lateMessage : List Act :=
  [.load loneNode, .start "g1" default, .take "e1", .go "e1", .go "e1",
    .request "e1" (.inject "a" "in" .null)] ++ List.replicate 12 (.go "e1")

/-- The message was accepted, and it still waits when the execution is completed. -/
theorem lateMessage_is_left_over :
    (((initial default quiet).performAll answering lateMessage).held? "e1").map
        (fun e => (e.state, (e.instances.get? "a").map (·.inbox.isEmpty), e.metrics.processed,
          e.metrics.backpressure)) = some (.completed, some false, 0, 0) ∧
      ((initial default quiet).performAll answering lateMessage).engine.history.countP
        (·.isInjection "e1") = 1 := by
  decide +kernel

theorem emptied_iff_of_lateMessage :
    ∃ e, ((initial default quiet).performAll answering lateMessage).held? "e1" = some e ∧
      e.state = .completed ∧
      let history := ((initial default quiet).performAll answering lateMessage).engine.history
      ((∀ node i, e.instances.get? node = some i → i.inbox.isEmpty = true) ↔
        ¬ Seen answering "e1" Track.LeavesOver (initial default quiet) lateMessage) ∧
      (history.countP (·.isInjection "e1") + e.metrics.emitted =
          e.metrics.processed + history.countP (·.isOverflow "e1") ↔
        ¬ Seen answering "e1" Track.LeavesOver (initial default quiet) lateMessage) := by
  have ended : (((initial default quiet).performAll answering lateMessage).held? "e1").map
      (fun e => e.state) = some .completed := by
    decide +kernel
  obtain ⟨e, held, completed⟩ := Option.map_eq_some_iff.mp ended
  exact ⟨e, held, completed, emptied_iff_none_left_over held completed⟩

end System

end ActionGraph
