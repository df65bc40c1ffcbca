import ActionGraph.Execution.Run

/-!
# Crews

A crew is a number of runs that go on side by side on a virtual clock: every
run goes on as far as it can, and then the clock is moved to the first alarm
that some run waits for.
-/

namespace ActionGraph.Execution

open ActionGraph.Action

structure Crew (σ : Type) where
  runs : List (Run σ)
  place : Workplace σ

namespace Crew

variable {σ : Type}

def clockTo (time : Nat) (w : Workplace σ) : Workplace σ :=
  { w with world := w.world.advance (time - w.now) }

def alarms (i : Nat) : List (Run σ) → List (Alarm × Nat)
  | [] => []
  | run :: rest =>
      match run.alarm? with
      | some alarm => (alarm, i) :: alarms (i + 1) rest
      | none => alarms (i + 1) rest

def firstAlarm : List (Alarm × Nat) → Option (Alarm × Nat)
  | [] => none
  | entry :: rest =>
      match firstAlarm rest with
      | none => some entry
      | some other => if other.1.before entry.1 then some other else some entry

def inTime (time : Nat) : Option Nat → Bool
  | none => true
  | some deadline => decide (time ≤ deadline)

def isOver (runs : List (Run σ)) : Option Nat → Bool
  | none => false
  | some i =>
      match runs[i]? with
      | some run => run.isOver
      | none => true

instance wellFoundedRelation : WellFoundedRelation (List (Run σ)) :=
  ⟨Process.ReplaceOne Run.Nearer, Process.ReplaceOne.wf Run.nearer_wf⟩

/--
Let runs go on, first those in the queue, until the goal is over or the
deadline is reached.
-/
def work (registry : Registry σ) (goal deadline : Option Nat) (runs : List (Run σ))
    (queue : List Nat) (w : Workplace σ) : List (Run σ) × Workplace σ :=
  match queue with
  | i :: rest =>
      match _at : runs[i]? with
      | none => work registry goal deadline runs rest w
      | some run =>
          match _h : run.step registry w with
          | none => work registry goal deadline runs rest w
          | some (after, v) => work registry goal deadline (runs.set i after) (i :: rest) v
  | [] =>
      if isOver runs goal then (runs, w)
      else
        let late := (runs, (deadline.map fun time => clockTo time w).getD w)
        match firstAlarm (alarms 0 runs) with
        | none => late
        | some (alarm, i) =>
            if inTime alarm.due deadline then
              match _at : runs[i]? with
              | none => late
              | some run =>
                  match _h : run.step registry (clockTo alarm.due w) with
                  | none => late
                  | some (after, v) => work registry goal deadline (runs.set i after) [i] v
            else late
termination_by (runs, queue.length)
decreasing_by
  all_goals first
    | exact Prod.Lex.left _ _ (Process.ReplaceOne.set _at (Run.nearer_step _h))
    | exact Prod.Lex.right _ (by simp)

def goOn (registry : Registry σ) (goal deadline : Option Nat) (crew : Crew σ) : Crew σ :=
  let (runs, place) :=
    work registry goal deadline crew.runs (List.range crew.runs.length) crew.place
  ⟨runs, place⟩

def pass (registry : Registry σ) (milliseconds : Nat) (crew : Crew σ) : Crew σ :=
  crew.goOn registry none (some (crew.place.now + milliseconds))

def add (crew : Crew σ) (id : String) : Crew σ :=
  let (run, place) := Run.start id crew.place
  ⟨crew.runs ++ [run], place⟩

def result? (crew : Crew σ) (i : Nat) : Option (Except Failure Report) :=
  crew.runs[i]?.bind Run.result?

def await (registry : Registry σ) (i : Nat) (limit : Option Nat) (crew : Crew σ) : Crew σ :=
  crew.goOn registry (some i) (limit.map (crew.place.now + ·))

/--
Run an execution and wait so long for it, if a limit is given; a run that is
not over by then is dropped.
-/
def complete (registry : Registry σ) (id : String) (limit : Option Nat) (crew : Crew σ) :
    Crew σ × Option (Except Failure Report) :=
  let i := crew.runs.length
  let crew := (crew.add id).await registry i limit
  ({ crew with runs := crew.runs.eraseIdx i }, crew.result? i)

end Crew

end ActionGraph.Execution
