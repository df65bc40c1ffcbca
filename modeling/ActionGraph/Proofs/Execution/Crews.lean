import ActionGraph.CommandLine.Program
import ActionGraph.Proofs.Execution.Calls
import ActionGraph.Proofs.Execution.FinalShape
import ActionGraph.Proofs.Execution.Operations
import ActionGraph.Proofs.Execution.Tidings

/-!
# Crews on one thread

A crew goes on by itself until each of its runs waits, and operations come in
between.  Whatever is done with a crew is therefore an order of acts in which
no operation falls where a run does not let go, and what holds of such orders
holds of what a crew tells and answers.
-/

namespace ActionGraph

open Execution (Run Phase Crew FinalShape)

variable {σ : Type}

namespace Execution

theorem Phase.Waits.suspended {e : Execution} {phase : Phase σ} (waits : phase.Waits e) :
    phase.isSuspended = true := by
  cases phase with
  | resting turn rest => rfl
  | working turn rest context since work => rfl
  | settling => rfl
  | ended result => rfl
  | _ => exact waits.elim

theorem Phase.suspended_before (rest : List Graph.Turn) :
    (Phase.before rest : Phase σ).isSuspended = true := by
  cases rest with
  | nil => rfl
  | cons turn rest => rfl

namespace Run

/-- A run that was over at once. -/
def Refused (run : Run σ) : Prop :=
  ∃ failure, run.phase = .ended (.error failure) ∧ failure.isCredential = false

theorem Refused.not_step {registry : Action.Registry σ} {run after : Run σ} {w v : Workplace σ}
    (refused : run.Refused) : run.step registry w ≠ some (after, v) := by
  intro stepped
  obtain ⟨failure, ended, _⟩ := refused
  obtain ⟨e, held⟩ := held_of_step stepped
  obtain ⟨_, _, advances, _⟩ := advances_of_step held stepped
  rw [ended] at advances
  cases advances

/-- A run is not refused for an expired credential. -/
theorem take_error {engine : Engine} {id : String} {failure : Failure}
    (refused : take engine id = .error failure) : failure.isCredential = false := by
  rcases bind_eq_error_iff.mp refused with unknown | ⟨e, _, refused⟩
  · unfold Engine.execution? at unknown
    split at unknown
    · cases unknown
    · cases unknown
      rfl
  rcases bind_eq_error_iff.mp refused with unknown | ⟨g, _, refused⟩
  · unfold Engine.graph? at unknown
    split at unknown
    · cases unknown
    · cases unknown
      rfl
  rcases bind_eq_error_iff.mp refused with busy | ⟨after, _, accepted⟩
  · unfold drive at busy
    split at busy
    · cases busy
      rfl
    · split at busy
      · cases busy
        rfl
      · cases busy
  · cases accepted

end Run

end Execution

/-- The sections of an operation are acts of an operation. -/
theorem Operation.acts_control (operation : Operation) (engine : Engine) :
    ∀ act ∈ operation.acts engine, act.isControl = true := by
  cases operation with
  | load d => exact List.forall_mem_singleton.mpr rfl
  | start graph context => exact List.forall_mem_singleton.mpr rfl
  | request id request => exact List.forall_mem_singleton.mpr rfl
  | unload graph =>
      simp only [acts, List.forall_mem_append, List.forall_mem_map, List.forall_mem_singleton]
      exact ⟨⟨rfl, fun _ _ => rfl⟩, rfl⟩

namespace System

/-- Every run of a system lets go. -/
def Idle (s : System σ) : Prop :=
  ∀ id run, s.run? id = some run → run.phase.isSuspended = true

/--
The runs of a crew and its workplace are those of a system.  Only runs in the
queue do not let go.
-/
structure Hosts (s : System σ) (runs : List (Run σ)) (queue : List Nat) (w : Workplace σ) :
    Prop where
  sound : s.Sound
  numbered : s.Numbered
  place : s.place = w
  known : ∀ (i : Nat) run, runs[i]? = some run → run.Refused ∨ s.run? run.execution = some run
  apart : ∀ (i j : Nat) a b, runs[i]? = some a → runs[j]? = some b →
    a.execution = b.execution → a.Refused ∨ b.Refused ∨ i = j
  queued : ∀ id run, s.run? id = some run → run.phase.isSuspended = false →
    ∃ i ∈ queue, runs[i]? = some run

/-- What is at a place of a list after one place was set. -/
theorem getElem?_set_cases {α : Type} {l : List α} {i j : Nat} {a b : α}
    (there : (l.set i a)[j]? = some b) : i = j ∧ b = a ∨ i ≠ j ∧ l[j]? = some b := by
  rw [List.getElem?_set] at there
  split at there
  · rename_i here
    rw [Option.ite_none_right_eq_some] at there
    obtain ⟨_, ⟨⟩⟩ := there
    exact .inl ⟨here, rfl⟩
  · rename_i elsewhere
    exact .inr ⟨elsewhere, there⟩

section Hosts

variable {registry : Action.Registry σ} {s : System σ} {runs : List (Run σ)} {queue : List Nat}
  {w v : Workplace σ} {i : Nat} {run after : Run σ}

theorem Hosts.idle (hosts : s.Hosts runs [] w) : s.Idle := by
  intro id run running
  rw [← Bool.not_eq_false]
  intro busy
  obtain ⟨i, mem, _⟩ := hosts.queued id run running busy
  cases mem

theorem Idle.hosts_queue (idle : s.Idle) (hosts : s.Hosts runs queue w) (other : List Nat) :
    s.Hosts runs other w :=
  { hosts with
    queued := fun id run running busy =>
      absurd ((idle id run running).symm.trans busy) nofun }

/-- A run that makes no step, or is not there, leaves the queue. -/
theorem Hosts.skip (hosts : s.Hosts runs (i :: queue) w) (registry : Action.Registry σ)
    (stuck : ∀ run, runs[i]? = some run → run.step registry w = none) :
    s.Hosts runs queue w := by
  obtain rfl := hosts.place
  refine { hosts with queued := ?_ }
  intro id run running busy
  obtain ⟨j, mem, there⟩ := hosts.queued id run running busy
  rcases List.mem_cons.mp mem with rfl | later
  · obtain ⟨e, held, _⟩ := hosts.sound.driven id run running
    rw [← run?_execution running] at held
    have waits := Run.waits_of_step_none held (stuck run there)
    exact absurd (waits.suspended.symm.trans busy) nofun
  · exact ⟨j, later, there⟩

/-- A step of a run of the crew is one of the run in the system. -/
theorem Hosts.go (hosts : s.Hosts runs queue w) (mem : i ∈ queue) (there : runs[i]? = some run)
    (stepped : run.step registry w = some (after, v)) :
    (s.perform registry (.go run.execution)).Hosts (runs.set i after) queue v := by
  have running : s.run? run.execution = some run :=
    (hosts.known i run there).resolve_left fun refused => refused.not_step stepped
  have done : s.attempt registry (.go run.execution) = some _ :=
    attempt_go_iff.mpr ⟨run, running, after, v, hosts.place ▸ stepped, rfl⟩
  have same : after.execution = run.execution := Run.execution_of_step stepped
  have replaced := run?_replace running same
  have inside : i < runs.length := (List.getElem?_eq_some_iff.mp there).1
  -- what another place of the crew holds is refused or a run of another execution
  have elsewhere : ∀ j other, i ≠ j → runs[j]? = some other →
      other.Refused ∨ other.execution ≠ run.execution := by
    intro j other apart found
    by_cases named : other.execution = run.execution
    · rcases hosts.apart i j run other there found named.symm with refused | refused | same
      · exact absurd stepped refused.not_step
      · exact .inl refused
      · exact absurd same apart
    · exact .inr named
  have sound := hosts.sound.perform registry (.go run.execution)
  rw [perform_of_some done] at sound ⊢
  refine ⟨sound, hosts.numbered.attempt done, rfl, ?_, ?_, ?_⟩
  · intro j other found
    rcases getElem?_set_cases found with ⟨_, rfl⟩ | ⟨apart, found⟩
    · exact .inr ((replaced _).trans (if_pos same))
    · rcases elsewhere j other apart found with refused | away
      · exact .inl refused
      · exact (hosts.known j other found).imp_right ((replaced _).trans (if_neg away)).trans
  · intro j k a b foundA foundB named
    rcases getElem?_set_cases foundA with ⟨hereA, rfl⟩ | ⟨apartA, thereA⟩ <;>
      rcases getElem?_set_cases foundB with ⟨hereB, rfl⟩ | ⟨apartB, thereB⟩
    · exact .inr (.inr (hereA.symm.trans hereB))
    · exact .inr (.inl ((elsewhere k b apartB thereB).resolve_right
        (not_not.mpr (named.symm.trans same))))
    · exact .inl ((elsewhere j a apartA thereA).resolve_right (not_not.mpr (named.trans same)))
    · exact hosts.apart j k a b thereA thereB named
  · intro id other found busy
    have found : (if id = run.execution then some after else s.run? id) = some other :=
      (replaced id).symm.trans found
    by_cases here : id = run.execution
    · rw [if_pos here] at found
      cases found
      exact ⟨i, mem, List.getElem?_set_self inside⟩
    · rw [if_neg here] at found
      obtain ⟨j, memJ, thereJ⟩ := hosts.queued id other found busy
      have away : i ≠ j := by
        rintro rfl
        rw [there] at thereJ
        cases thereJ
        exact here (run?_execution found).symm
      exact ⟨j, memJ, (List.getElem?_set_ne away).trans thereJ⟩

/-- Time passes for a crew as it does in the system. -/
theorem Hosts.pass (hosts : s.Hosts runs queue w) (registry : Action.Registry σ)
    (milliseconds : Nat) :
    (s.perform registry (.pass milliseconds)).Hosts runs queue
      { w with world := w.world.advance milliseconds } := by
  obtain rfl := hosts.place
  have done : s.attempt registry (.pass milliseconds) = some _ := rfl
  exact ⟨hosts.sound.perform registry _, hosts.numbered.attempt done, rfl, hosts.known,
    hosts.apart, hosts.queued⟩

/-- By steps of runs and time that passes, a system comes to host a crew all of which lets go. -/
def Settles (registry : Action.Registry σ) (s : System σ) (runs : List (Run σ))
    (w : Workplace σ) : Prop :=
  ∃ acts, (∀ act ∈ acts, act.isControl = false) ∧
    (s.performAll registry acts).Hosts runs [] w

theorem Hosts.settles (hosts : s.Hosts runs [] w) : s.Settles registry runs w :=
  ⟨[], fun _ mem => absurd mem List.not_mem_nil, hosts⟩

theorem Settles.cons {act : Act} (free : act.isControl = false)
    (rest : (s.perform registry act).Settles registry runs w) : s.Settles registry runs w := by
  obtain ⟨acts, others, hosts⟩ := rest
  exact ⟨act :: acts, List.forall_mem_cons.mpr ⟨free, others⟩, hosts⟩

/-- At the deadline, if there is one, the crew is as it was. -/
theorem Hosts.late (hosts : s.Hosts runs [] w) (deadline : Option Nat) :
    s.Settles registry runs ((deadline.map fun time => Crew.clockTo time w).getD w) := by
  cases deadline with
  | none => exact hosts.settles
  | some time => exact .cons rfl (hosts.pass registry (time - w.now)).settles

/-- A crew goes on by steps of its runs and time that passes, until all of it lets go. -/
theorem Hosts.work (hosts : s.Hosts runs queue w) (registry : Action.Registry σ)
    (goal deadline : Option Nat) :
    s.Settles registry (Crew.work registry goal deadline runs queue w).1
      (Crew.work registry goal deadline runs queue w).2 := by
  fun_induction Crew.work registry goal deadline runs queue w generalizing s with
  | case1 runs w i rest absent ih =>
      refine ih (hosts.skip registry fun run there => ?_)
      rw [absent] at there
      cases there
  | case2 runs w i rest run there stuck ih =>
      refine ih (hosts.skip registry fun other found => ?_)
      rw [there] at found
      cases found
      exact stuck
  | case3 runs w i rest run there after v stepped ih =>
      exact .cons rfl (ih (hosts.go List.mem_cons_self there stepped))
  | case4 runs w reached => exact hosts.settles
  | case5 => exact hosts.late deadline
  | case6 => exact hosts.late deadline
  | case7 => exact hosts.late deadline
  | case8 runs w notOver alarm i first inTime run there after v stepped ih =>
      have idle : s.Hosts runs [i] w := hosts.idle.hosts_queue hosts [i]
      have rung := idle.pass registry (alarm.due - w.now)
      exact .cons rfl (.cons rfl (ih (rung.go List.mem_cons_self there stepped)))
  | case9 => exact hosts.late deadline

/-! ### Operations between the steps of a crew -/

theorem Idle.perform (idle : s.Idle) {act : Act} (control : act.isControl = true) :
    (s.perform registry act).Idle := by
  cases done : s.attempt registry act with
  | none => rwa [perform_of_none done]
  | some s' =>
      rw [perform_of_some done]
      have of_same : s'.runs = s.runs → s'.Idle := by
        intro same id run running
        rw [run?, same] at running
        exact idle id run running
      cases act with
      | load d => exact of_same (attempt_load done).2.1
      | start graph context => exact of_same (attempt_start done).1
      | request execution request => exact of_same (attempt_request done).1
      | withdraw graph =>
          cases done
          exact of_same rfl
      | discard graph removed =>
          cases done
          exact of_same rfl
      | take execution =>
          obtain ⟨_, _, _, _, _, _, _, _, _, runAfter⟩ := attempt_take done
          intro id run running
          rw [runAfter, Option.or_eq_some_iff] at running
          rcases running with before | ⟨_, fresh⟩
          · exact idle id run before
          · rw [Option.ite_none_right_eq_some] at fresh
            obtain ⟨_, ⟨⟩⟩ := fresh
            exact Phase.suspended_before _
      | go execution => cases control
      | pass milliseconds => cases control

/-- Where every run lets go, operations do not interrupt. -/
theorem Idle.not_seen (idle : s.Idle) {acts : List Act}
    (control : ∀ act ∈ acts, act.isControl = true) (id : String) :
    ¬ Seen registry id Track.Interrupts s acts := by
  induction acts generalizing s with
  | nil => exact not_false
  | cons act rest ih =>
      rw [List.forall_mem_cons] at control
      rintro (⟨t, tracked, _, phase, there, busy⟩ | later)
      · rw [(track?_eq_some_iff.mp tracked).2] at there
        obtain ⟨run, running, rfl⟩ := Option.map_eq_some_iff.mp there
        exact absurd ((idle id run running).symm.trans busy) nofun
      · exact ih (idle.perform control.1) control.2 later

/-- Steps of runs and time that passes do not interrupt. -/
theorem not_seen_of_free {acts : List Act} (free : ∀ act ∈ acts, act.isControl = false)
    (id : String) : ¬ Seen registry id Track.Interrupts s acts := by
  induction acts generalizing s with
  | nil => exact not_false
  | cons act rest ih =>
      rw [List.forall_mem_cons] at free
      rintro (⟨t, _, control, _⟩ | later)
      · exact absurd (free.1.symm.trans control) nofun
      · exact ih free.2 later

theorem Hosts.operate (hosts : s.Hosts runs [] w) (registry : Action.Registry σ)
    {operation : Operation} {engine : Engine}
    (accepted : operation.apply w.now w.engine = .ok engine) :
    (s.performAll registry (operation.acts w.engine)).Hosts runs [] { w with engine } := by
  obtain rfl := hosts.place
  obtain ⟨place, sameRuns⟩ := hosts.numbered.operate registry accepted
  have same : ∀ id, (s.performAll registry (operation.acts s.engine)).run? id = s.run? id := by
    intro id
    rw [run?, sameRuns, run?]
  refine ⟨hosts.sound.performAll registry _, hosts.numbered.performAll _, place, ?_,
    hosts.apart, ?_⟩
  · exact fun i run there => (hosts.known i run there).imp_right (same _).trans
  · exact fun id run running busy => hosts.queued id run ((same id).symm.trans running) busy

/-- A run that was refused, or is the first of its execution, joins the crew. -/
theorem Hosts.join {s' : System σ} {fresh : Run σ} (hosts : s.Hosts runs [] w)
    (sound : s'.Sound) (numbered : s'.Numbered) (place : s'.place = v) (idle : s'.Idle)
    (kept : ∀ id run, s.run? id = some run → s'.run? id = some run)
    (joins : fresh.Refused ∨
      s.run? fresh.execution = none ∧ s'.run? fresh.execution = some fresh) :
    s'.Hosts (runs ++ [fresh]) [] v := by
  have cases_of : ∀ (i : Nat) run, (runs ++ [fresh])[i]? = some run →
      runs[i]? = some run ∨ i = runs.length ∧ run = fresh := by
    intro i run there
    rw [List.getElem?_append] at there
    split at there
    · exact .inl there
    · rename_i beyond
      rw [List.getElem?_singleton, Option.ite_none_right_eq_some] at there
      obtain ⟨last, ⟨⟩⟩ := there
      exact .inr ⟨by omega, rfl⟩
  -- no run of the crew that is known has the execution of the new one
  have apart : ∀ (i : Nat) run, runs[i]? = some run → run.execution = fresh.execution →
      run.Refused ∨ fresh.Refused := by
    intro i run there named
    rcases joins with refused | ⟨free, _⟩
    · exact .inr refused
    · refine .inl ((hosts.known i run there).resolve_right fun running => ?_)
      rw [named, free] at running
      cases running
  refine ⟨sound, numbered, place, ?_, ?_, ?_⟩
  · intro i run there
    rcases cases_of i run there with before | ⟨_, rfl⟩
    · exact (hosts.known i run before).imp_right (kept _ _)
    · exact joins.imp_right And.right
  · intro i j a b thereA thereB named
    rcases cases_of i a thereA with beforeA | ⟨lastA, rfl⟩
    · rcases cases_of j b thereB with beforeB | ⟨lastB, rfl⟩
      · exact hosts.apart i j a b beforeA beforeB named
      · exact (apart i a beforeA named).imp_right .inl
    · rcases cases_of j b thereB with beforeB | ⟨lastB, rfl⟩
      · exact (apart j b beforeB named.symm).elim (.inr ∘ .inl) .inl
      · exact .inr (.inr (lastA.trans lastB.symm))
  · intro id run running busy
    exact absurd ((idle id run running).symm.trans busy) nofun

theorem Hosts.begin (hosts : s.Hosts runs [] w) (registry : Action.Registry σ)
    (execution : String) :
    ∃ acts, (∀ act ∈ acts, act.isControl = true) ∧
      (s.performAll registry acts).Hosts (runs ++ [(Run.start execution w).1]) []
        (Run.start execution w).2 := by
  obtain rfl := hosts.place
  rw [Run.start_eq hosts.numbered]
  cases taken : Run.take s.place.engine execution with
  | error failure =>
      refine ⟨[], fun _ mem => absurd mem List.not_mem_nil, ?_⟩
      exact hosts.join hosts.sound hosts.numbered rfl hosts.idle (fun _ _ => id)
        (.inl ⟨failure, rfl, Run.take_error taken⟩)
  | ok pair =>
      have done := hosts.numbered.take registry taken
      obtain ⟨_, e, _, after, held, _, driven, _⟩ := attempt_take done
      have free := hosts.sound.run?_of_free held (Execution.standing_drive driven).2.1
      have sound := hosts.sound.perform registry (.take execution)
      have idle : (s.perform registry (.take execution)).Idle := hosts.idle.perform rfl
      rw [perform_of_some done] at sound idle
      refine ⟨[.take execution], List.forall_mem_singleton.mpr rfl, ?_⟩
      rw [performAll, List.foldl_cons, List.foldl_nil, perform_of_some done]
      have runs := s.run?_append ⟨execution, s.now, .before pair.2⟩
      refine hosts.join sound (hosts.numbered.attempt done) rfl idle ?_ (.inr ⟨free, ?_⟩)
      · intro id run running
        refine (runs id).trans ?_
        rw [running]
        rfl
      · refine (runs execution).trans ?_
        rw [free, Option.none_or]
        exact if_pos rfl

/-- A run that is dropped goes on in the system no further. -/
theorem Hosts.drop (hosts : s.Hosts runs [] w) (i : Nat) : s.Hosts (runs.eraseIdx i) [] w := by
  have place : ∀ j, (runs.eraseIdx i)[j]? = runs[if j < i then j else j + 1]? := by
    intro j
    rw [List.getElem?_eraseIdx]
    split <;> rfl
  refine { hosts with known := ?_, apart := ?_, queued := ?_ }
  · intro j run there
    rw [place] at there
    exact hosts.known _ run there
  · intro j k a b thereA thereB named
    rw [place] at thereA thereB
    refine (hosts.apart _ _ a b thereA thereB named).imp_right (Or.imp_right fun same => ?_)
    split at same <;> split at same <;> omega
  · intro id run running busy
    exact absurd ((hosts.idle id run running).symm.trans busy) nofun

end Hosts

end System

/-! ## Sessions -/

inductive Execution.Crew.Command where
  | operate (operation : Operation)
  /-- A run of an execution joins. -/
  | begin (execution : String)
  | goOn (goal deadline : Option Nat)
  /-- The run at a place is dropped. -/
  | drop (i : Nat)

namespace Execution.Crew

/-- A command is obeyed; an operation that is refused changes nothing. -/
def obey (registry : Action.Registry σ) (crew : Crew σ) : Command → Crew σ
  | .operate operation =>
      match operation.apply crew.place.now crew.place.engine with
      | .error _ => crew
      | .ok engine => { crew with place := { crew.place with engine } }
  | .begin execution => crew.add execution
  | .goOn goal deadline => crew.goOn registry goal deadline
  | .drop i => { crew with runs := crew.runs.eraseIdx i }

def session (registry : Action.Registry σ) (settings : Settings) (world : Action.World σ)
    (commands : List Command) : Crew σ :=
  commands.foldl (obey registry) ⟨[], ⟨Engine.ofSettings settings, world⟩⟩

/-- To complete a run is to begin it, to wait for it and to drop it. -/
theorem complete_eq_obey (registry : Action.Registry σ) (crew : Crew σ) (execution : String)
    (limit : Option Nat) :
    (crew.complete registry execution limit).1 =
      [.begin execution,
        .goOn (some crew.runs.length) (limit.map ((crew.add execution).place.now + ·)),
        .drop crew.runs.length].foldl (obey registry) crew :=
  rfl

end Execution.Crew

namespace System

variable {s : System σ} {crew : Crew σ}

open Execution.Crew (Command)

theorem Hosts.obey (hosts : s.Hosts crew.runs [] crew.place) (registry : Action.Registry σ)
    (command : Command) :
    ∃ acts, (∀ id, ¬ Seen registry id Track.Interrupts s acts) ∧
      (s.performAll registry acts).Hosts (crew.obey registry command).runs []
        (crew.obey registry command).place := by
  cases command with
  | operate operation =>
      rw [Crew.obey]
      cases accepted : operation.apply crew.place.now crew.place.engine with
      | error failure => exact ⟨[], fun _ => not_false, hosts⟩
      | ok engine =>
          exact ⟨_, hosts.idle.not_seen (operation.acts_control _),
            hosts.operate registry accepted⟩
  | begin execution =>
      obtain ⟨acts, control, after⟩ := hosts.begin registry execution
      exact ⟨acts, hosts.idle.not_seen control, after⟩
  | goOn goal deadline =>
      have queued := hosts.idle.hosts_queue hosts (List.range crew.runs.length)
      obtain ⟨acts, free, after⟩ := queued.work registry goal deadline
      exact ⟨acts, not_seen_of_free free, after⟩
  | drop i => exact ⟨[], fun _ => not_false, hosts.drop i⟩

/--
Whatever is done with a crew, there are acts that lead a system to the same
runs and the same workplace, and no act of an operation interrupts a run.
-/
theorem hosts_session (registry : Action.Registry σ) (settings : Settings)
    (world : Action.World σ) (commands : List Command) :
    ∃ acts, (∀ id, ¬ Seen registry id Track.Interrupts (initial settings world) acts) ∧
      ((initial settings world).performAll registry acts).Hosts
        (Crew.session registry settings world commands).runs []
        (Crew.session registry settings world commands).place := by
  have onwards : ∀ (commands : List Command) (s : System σ) (crew : Crew σ),
      s.Hosts crew.runs [] crew.place →
      ∃ acts, (∀ id, ¬ Seen registry id Track.Interrupts s acts) ∧
        (s.performAll registry acts).Hosts (commands.foldl (Crew.obey registry) crew).runs []
          (commands.foldl (Crew.obey registry) crew).place := by
    intro commands
    induction commands with
    | nil => exact fun s crew hosts => ⟨[], fun _ => not_false, hosts⟩
    | cons command rest ih =>
        intro s crew hosts
        obtain ⟨first, quiet, between⟩ := hosts.obey registry command
        obtain ⟨later, quietLater, after⟩ := ih _ _ between
        rw [← performAll_append] at after
        refine ⟨first ++ later, fun id => ?_, after⟩
        rw [seen_append, not_or]
        exact ⟨quiet id, quietLater id⟩
  refine onwards commands _ ⟨[], ⟨Engine.ofSettings settings, world⟩⟩ ?_
  have noRun : ∀ (i : Nat) (run : Run σ), ([] : List (Run σ))[i]? ≠ some run := fun i run there =>
    absurd (List.getElem?_nil.symm.trans there) (Option.some_ne_none run).symm
  have notRun : ∀ id, (initial settings world).run? id = none := fun _ => rfl
  refine ⟨sound_initial settings world, numbered_initial settings world, rfl,
    fun i run there => absurd there (noRun i run),
    fun i j a b there _ _ => absurd there (noRun i a), fun id run running => ?_⟩
  rw [notRun] at running
  cases running

/-- What is told of an execution of a session tells how it stands. -/
theorem session_truthful (registry : Action.Registry σ) (settings : Settings)
    (world : Action.World σ) (commands : List Command) (id : String) :
    (Crew.session registry settings world commands).place.engine.Truthful id := by
  obtain ⟨acts, quiet, hosts⟩ := hosts_session registry settings world commands
  have told := truthful_performAll (quiet id)
  rwa [engine, hosts.place] at told

/--
What a run answered is a refusal, or it left its execution in one of the three
shapes, with a failure only for an expired credential.
-/
def Answered (registry : Action.Registry σ) (settings : Settings) (world : Action.World σ)
    (engine : Engine) (result : Except Failure Execution.Report) : Prop :=
  (∃ failure, result = .error failure ∧ failure.isCredential = false) ∨
    ∃ acts e g, ((initial settings world).performAll registry acts).engine = engine ∧
      engine.held? e.id = some e ∧
      ((initial settings world).performAll registry acts).graph? e.graph = some g ∧
      FinalShape g.topology.sorted
        (fun node failure =>
          Seen registry e.id (Track.Expired node failure) (initial settings world) acts) e
        result ∧
      ∀ failure, result = .error failure → failure.isCredential = true

/-- Every answer in a session is such a one. -/
theorem session_answered (registry : Action.Registry σ) (settings : Settings)
    (world : Action.World σ) (commands : List Command) {i : Nat}
    {result : Except Failure Execution.Report}
    (returned : (Crew.session registry settings world commands).result? i = some result) :
    Answered registry settings world (Crew.session registry settings world commands).place.engine
      result := by
  obtain ⟨acts, quiet, hosts⟩ := hosts_session registry settings world commands
  have same := congrArg Workplace.engine hosts.place
  obtain ⟨run, there, returned⟩ := Option.bind_eq_some_iff.mp returned
  have ended := Run.phase_of_result? returned
  obtain ⟨failure, refused, other⟩ | running := hosts.known i run there
  · exact .inl ⟨failure, Phase.ended.inj (ended.symm.trans refused), other⟩
  · obtain ⟨e, held, _⟩ := hosts.sound.driven run.execution run running
    have tracked := track?_of_held held
    rw [running, Option.map_some, ended] at tracked
    obtain ⟨g, found, _, shape⟩ := shape_of_ended tracked (quiet run.execution)
    have named := Engine.held?_id held
    rw [held?, engine, same, ← named] at held
    rw [← named] at shape
    exact .inr ⟨acts, e, g, same, held, found, shape⟩

end System

/-! ## The program -/

namespace CommandLine

open Execution.Crew (Command)

variable {registry : Action.Registry σ} {settings : Settings} {w : Action.World σ}
  {engine after : Engine}

/-- The engine is one that a session leaves before any run begins. -/
def Made (registry : Action.Registry σ) (settings : Settings) (w : Action.World σ)
    (engine : Engine) : Prop :=
  ∃ commands, Crew.session registry settings w commands = ⟨[], ⟨engine, w⟩⟩

theorem made_of_bus (bus : Engine.ofSettings? settings = some engine) :
    Made registry settings w engine := by
  refine ⟨[], ?_⟩
  obtain ⟨bus, made, rfl⟩ := Option.map_eq_some_iff.mp bus
  unfold Bus.ofCapacity? at made
  rw [Option.ite_none_right_eq_some] at made
  obtain ⟨_, ⟨⟩⟩ := made
  rfl

theorem Made.operate (made : Made registry settings w engine) (operation : Operation)
    (accepted : operation.apply w.now engine = .ok after) : Made registry settings w after := by
  obtain ⟨commands, same⟩ := made
  refine ⟨commands ++ [.operate operation], ?_⟩
  rw [Crew.session, List.foldl_append, ← Crew.session, same, List.foldl_cons, List.foldl_nil,
    Crew.obey]
  change (match operation.apply w.now engine with | .error _ => _ | .ok engine => _) = _
  rw [accepted]

theorem Made.numbered (made : Made registry settings w engine) :
    ∃ loaded, engine.Numbered loaded := by
  obtain ⟨commands, same⟩ := made
  obtain ⟨acts, _, hosts⟩ := System.hosts_session registry settings w commands
  have numbered := hosts.numbered
  rw [System.Numbered, System.engine, hosts.place, same] at numbered
  exact ⟨_, numbered⟩

theorem Made.injectAll (made : Made registry settings w engine) {id : String}
    {injections : List Injection}
    (done : (injectAll w.now id injections).on engine = (.ok (), after)) :
    Made registry settings w after := by
  induction injections generalizing engine with
  | nil =>
      cases done
      exact made
  | cons injection rest ih =>
      obtain ⟨_, between, first, later⟩ := Call.on_bind_eq_ok done
      obtain ⟨_, numbered⟩ := made.numbered
      rw [Call.on_inject numbered] at first
      refine ih (made.operate
        (.request id (.inject injection.node injection.port injection.value)) ?_) later
      obtain ⟨_, injected, ⟨⟩⟩ := map_eq_ok_iff.mp (Engine.settle_eq_ok first)
      exact injected

/-- A graph is loaded, and an execution of it is started and sent its messages. -/
theorem Made.enlist (made : Made registry settings w engine) {d : Graph.Definition}
    {context : Context} {injections : List Injection} {id : String}
    (done : (enlist w.now d context injections).on engine = (.ok id, after)) :
    Made registry settings w after := by
  obtain ⟨graph, loaded, first, done⟩ := Call.on_bind_eq_ok done
  obtain ⟨execution, started, second, done⟩ := Call.on_bind_eq_ok done
  obtain ⟨_, injected, third, ⟨⟩⟩ := Call.on_bind_eq_ok done
  rw [Call.on_load] at first
  rw [Call.on_start] at second
  have made : Made registry settings w loaded :=
    made.operate (.load d) (map_eq_ok_iff.mpr ⟨_, Engine.settle_eq_ok first, rfl⟩)
  have made : Made registry settings w started :=
    made.operate (.start graph context)
      (map_eq_ok_iff.mpr ⟨_, Engine.settle_eq_ok second, rfl⟩)
  exact made.injectAll third

/-- What the program is answered when it runs a graph is an answer in a session. -/
theorem runGraph_answered (bus : Engine.ofSettings? settings = some engine)
    {d : Graph.Definition} {context : Context} {injections : List Injection} {id : String}
    (enlisted : (enlist w.now d context injections).on engine = (.ok id, after))
    {result : Except Failure Execution.Report}
    (completed : ((Crew.mk [] ⟨after, w⟩).complete registry id none).2 = some result) :
    System.Answered registry settings w
      ((Crew.mk [] ⟨after, w⟩).complete registry id none).1.place.engine result := by
  obtain ⟨commands, same⟩ := (made_of_bus bus).enlist enlisted
  have answered := @System.session_answered σ registry settings w
    (commands ++ [.begin id, .goOn (some 0) none]) 0 result
  rw [Crew.session, List.foldl_append, ← Crew.session, same] at answered
  exact answered completed

end CommandLine

end ActionGraph
