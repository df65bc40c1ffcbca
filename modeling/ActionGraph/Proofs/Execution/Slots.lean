import ActionGraph.Proofs.Execution.Calls
import ActionGraph.Proofs.Execution.Sections

/-!
# Slots for executions

An execution of the table occupies a slot while it is running or paused.  No
act but a start occupies a slot that was free, since an execution that has
ended or was taken out of the table never comes back, and a start needs a free
slot.  So there are never more executions at a time than the settings allow.
-/

namespace ActionGraph

open Execution (Run Phase Change)

variable {σ : Type}

namespace Execution

def occupies (e : Execution) : Bool :=
  e.listed && (e.state == .running || e.state == .paused)

theorem occupies_eq (e : Execution) : e.occupies = (e.listed && !e.mirror.isTerminal) := by
  rw [occupies, e.mirrored]
  cases e.state <;> rfl

theorem occupies_congr {e after : Execution} (listed : after.listed = e.listed)
    (state : after.state = e.state) : after.occupies = e.occupies := by
  rw [occupies, listed, state]
  rfl

/-- An execution that has ended occupies nothing. -/
theorem occupies_of_terminal {e : Execution} (terminal : e.state.isTerminal = true) :
    e.occupies = false := by
  rw [occupies_eq, e.mirrored, terminal]
  exact Bool.and_false _

/-! ## What each section does to the slot of its execution -/

variable {e : Execution} {change : Change}

theorem listed_deliver {now : Nat} {node port : String} {value : Json} {sent : Change}
    (delivered : e.deliver now node port value = .ok sent) : sent.1.listed = e.listed := by
  obtain ⟨i, _, same, _⟩ := deliver_eq_ok delivered
  rw [same]

theorem listed_forward (now : Nat) (output : Json) (edges : List Graph.Edge) :
    (forward now output edges (e, [])).1.1.listed = e.listed := by
  refine forward_keeps (P := fun change => change.1.listed = e.listed) ?_ rfl
  intro edge _ before events sent same delivered
  exact (listed_deliver delivered).trans same

/-- No request occupies a slot that was free. -/
theorem occupies_of_apply {request : Request} {now : Nat}
    (accepted : request.apply now e = .ok change) (occupies : change.1.occupies = true) :
    e.occupies = true := by
  cases request with
  | inject node port value =>
      obtain ⟨_, sent, delivered, rfl⟩ := inject_eq_ok accepted
      have state : sent.1.state = e.state := congrArg Standing.state (standing_deliver delivered)
      rwa [occupies_congr (listed_deliver delivered) state] at occupies
  | pause =>
      obtain ⟨running, rfl⟩ := pause_eq_ok accepted
      have listed : (e.listed && true) = true := occupies
      rw [Execution.occupies, running]
      exact listed
  | resume =>
      obtain ⟨paused, rfl⟩ := resume_eq_ok accepted
      have listed : (e.listed && true) = true := occupies
      rw [Execution.occupies, paused]
      exact listed
  | stop =>
      cases accepted
      unfold stop at occupies
      split at occupies
      · exact occupies
      · rw [occupies_of_terminal rfl] at occupies
        cases occupies
  | remove =>
      obtain ⟨_, rfl⟩ := remove_eq_ok accepted
      cases occupies

theorem occupies_record (now : Nat) (node : Graph.Node) (edges : List Graph.Edge)
    (duration : Nat) (report : Action.Report) (context : Context)
    (occupies : (e.record now node edges duration report context).1.1.occupies = true) :
    e.occupies = true := by
  cases success : report.success with
  | true =>
      have same := (record_success e now node edges duration report context success).1
      have state := congrArg Standing.state same
      rw [record_of_success e now node edges duration context success] at state occupies
      have listed := listed_forward now (report.output.getD .null) edges
        (e := { e.counted now node duration true (·.conclude duration report) with
          context := context.remove inputsKey })
      rw [counted_eq] at listed state occupies
      rwa [occupies_congr listed state] at occupies
  | false =>
      rw [record_of_failure e now node edges duration context success] at occupies
      split at occupies
      · rw [counted_eq] at occupies
        exact occupies
      · rw [occupies_of_terminal rfl] at occupies
        cases occupies

/-- No step of a run occupies a slot that was free. -/
theorem Run.Changes.occupies {phase : Phase σ} (changes : Run.Changes e phase change)
    (occupies : change.1.occupies = true) : e.occupies = true := by
  cases changes with
  | silent => exact occupies
  | claim taken =>
      obtain ⟨i, _, rfl, _⟩ := claim_eq_taken taken
      exact occupies
  | announce => exact occupies
  | publish => exact occupies
  | record now => exact occupies_record _ _ _ _ _ _ occupies
  | recordExpired now =>
      rw [occupies_of_terminal rfl] at occupies
      cases occupies
  | finish now duration =>
      unfold Execution.finish at occupies
      split at occupies
      · rw [occupies_of_terminal rfl] at occupies
        cases occupies
      · exact occupies

end Execution

/-! ## Engines -/

namespace Engine

def occupied (engine : Engine) : Nat :=
  engine.executions.countP Execution.occupies

/-- What a start counts is the slots that are occupied. -/
theorem active_eq_occupied (engine : Engine) : engine.active = engine.occupied := by
  rw [active, listed, List.filter_filter, occupied, List.countP_eq_length_filter]
  congr 2
  funext e
  rw [Execution.occupies_eq, Bool.and_comm]

variable {engine after : Engine}

theorem occupied_enter_le (apart : (engine.executions.map (·.id)).Nodup) {id : String}
    {e : Execution} (held : engine.held? id = some e) {change : Change}
    (named : change.1.id = e.id) (keeps : change.1.occupies = true → e.occupies = true) :
    (engine.enter change).occupied ≤ engine.occupied := by
  have mem : e ∈ engine.executions := List.mem_of_find?_eq_some held
  simp only [occupied, enter, List.countP_map]
  refine List.countP_mono_left fun other there occupies => ?_
  simp only [Function.comp_apply] at occupies
  split at occupies
  · rename_i same
    obtain rfl : other = e := List.inj_on_of_nodup_map apart there mem (same.trans named)
    exact keeps occupies
  · exact occupies

/-- Executions that are taken out of the table leave their slots. -/
theorem occupied_withdraw_le (engine : Engine) (graph : String) :
    (engine.withdraw graph).1.occupied ≤ engine.occupied := by
  simp only [occupied, withdraw, List.countP_map]
  refine List.countP_mono_left fun e _ occupies => ?_
  simp only [Function.comp_apply] at occupies
  split at occupies
  · cases occupies
  · exact occupies

/-- A start needs a free slot, and occupies it. -/
theorem enroll_eq_ok_iff (engine : Engine) (now : Nat) (g : Graph.Loaded) (context : Context) :
    (∃ after id, engine.enroll now g context = .ok (after, id)) ↔
      engine.occupied < engine.limits.maxConcurrent := by
  rw [enroll, active_eq_occupied]
  split
  · rename_i full
    refine iff_of_false ?_ (Nat.not_lt.mpr full)
    rintro ⟨after, id, ⟨⟩⟩
  · rename_i free
    exact iff_of_true ⟨_, _, rfl⟩ (Nat.not_le.mp free)

theorem occupied_enroll {now : Nat} {g : Graph.Loaded} {context : Context} {id : String}
    (enrolled : engine.enroll now g context = .ok (after, id)) :
    after.occupied = engine.occupied + 1 ∧ after.limits = engine.limits := by
  obtain ⟨_, _, rfl⟩ := enroll_eq_ok enrolled
  refine ⟨?_, rfl⟩
  rw [occupied, publish, List.countP_append]
  rfl

end Engine

/-! ## Systems -/

namespace System

variable {registry : Action.Registry σ} {s : System σ}

/-- An act other than a start occupies no slot that was free. -/
theorem Alters.occupies {id : String} {e : Execution} {change : Change}
    (alters : s.Alters id e change) (occupies : change.1.occupies = true) :
    e.occupies = true := by
  cases alters with
  | request accepted => exact Execution.occupies_of_apply accepted occupies
  | take accepted =>
      obtain ⟨_, _, rfl⟩ := Execution.drive_eq_ok accepted
      exact occupies
  | go running changes => exact changes.occupies occupies

/-- There are no more executions than there are slots. -/
def Within (slots : Nat) (engine : Engine) : Prop :=
  engine.limits.maxConcurrent = slots ∧ engine.occupied ≤ slots

theorem Effect.within {engine : Engine} (effect : s.Effect engine) (numbered : s.Numbered)
    {slots : Nat} (within : Within slots s.engine) : Within slots engine := by
  obtain ⟨limit, below⟩ := within
  cases effect with
  | still executions limits history unowned =>
      refine ⟨limits ▸ limit, ?_⟩
      rw [Engine.occupied, executions]
      exact below
  | alter held alters =>
      refine ⟨limit, Nat.le_trans ?_ below⟩
      exact Engine.occupied_enter_le numbered.executions_apart held alters.id alters.occupies
  | withdraw graph => exact ⟨limit, Nat.le_trans (s.engine.occupied_withdraw_le graph) below⟩
  | enroll enrolled =>
      obtain ⟨more, limits⟩ := Engine.occupied_enroll enrolled
      have free := (Engine.enroll_eq_ok_iff _ _ _ _).mp ⟨_, _, enrolled⟩
      refine ⟨limits ▸ limit, ?_⟩
      omega

theorem within_performAll (settings : Settings) (world : Action.World σ) (acts : List Act) :
    Within settings.executor.maxConcurrent
      ((initial settings world).performAll registry acts).engine := by
  induction acts using List.reverseRecOn with
  | nil => exact ⟨rfl, Nat.zero_le _⟩
  | append_singleton acts act ih =>
      have numbered : ((initial settings world).performAll registry acts).Numbered :=
        (numbered_initial settings world).performAll acts
      rw [performAll_snoc]
      exact (effect_of_perform numbered registry act).within numbered ih

/--
After any acts in any order no more executions of the table are running or
paused than the settings allow, and a graph that is loaded can be started
exactly while they are fewer.
-/
theorem occupied_le_and_start_iff (settings : Settings) (world : Action.World σ)
    (acts : List Act) :
    let engine := ((initial settings world).performAll registry acts).engine
    engine.occupied ≤ settings.executor.maxConcurrent ∧
      ∀ now graph context,
        (Call.start now graph context).Accepted engine ↔
          (∃ g, engine.graph? graph = .ok g) ∧
            engine.occupied < settings.executor.maxConcurrent := by
  intro engine
  obtain ⟨limit, below⟩ : Within settings.executor.maxConcurrent engine :=
    within_performAll settings world acts
  refine ⟨below, fun now graph context => ?_⟩
  rw [← limit, Engine.accepted_iff_of_settle (Call.on_start now graph context engine)]
  constructor
  · rintro ⟨⟨after, id⟩, started⟩
    obtain ⟨g, found, enrolled⟩ := bind_eq_ok_iff.mp started
    exact ⟨⟨g, found⟩, (engine.enroll_eq_ok_iff now g context).mp ⟨after, id, enrolled⟩⟩
  · rintro ⟨⟨g, found⟩, free⟩
    obtain ⟨after, id, enrolled⟩ := (engine.enroll_eq_ok_iff now g context).mpr free
    exact ⟨(after, id), bind_eq_ok_iff.mpr ⟨g, found, enrolled⟩⟩

end System

end ActionGraph
