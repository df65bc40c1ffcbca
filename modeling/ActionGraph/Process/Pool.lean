import ActionGraph.Process.Basic

/-!
# Pools of processes

A pool runs processes side by side.  They start in order; later those whose
alarm rings go on in the order of their alarms.  Values are taken one at a
time, in the order in which the processes end, until a value ends the pool;
processes that still wait are then dropped, and processes that did not start
never do.

The pool is defined by recursion on its list of processes: each step replaces
one of them by one of its own subtrees.
-/

namespace ActionGraph.Process

variable {W α σ : Type}

/-- A process and one of its immediate subtrees. -/
inductive Child : Process W α → Process W α → Prop where
  | act (change : W → W) (next : W → Process W α) (w : W) : Child (next w) (.act change next)
  | wait (alarm : Alarm) (next : Process W α) : Child next (.wait alarm next)

theorem child_wf : WellFounded (Child (W := W) (α := α)) := by
  refine ⟨fun p => ?_⟩
  induction p with
  | done a => exact ⟨_, fun q h => by cases h⟩
  | act change next ih =>
      refine ⟨_, fun q h => ?_⟩
      cases h with
      | act _ _ w => exact ih w
  | wait alarm next ih =>
      refine ⟨_, fun q h => ?_⟩
      cases h with
      | wait => exact ih

/-- One element of a list is replaced by a smaller one. -/
inductive ReplaceOne {β : Type} (r : β → β → Prop) : List β → List β → Prop where
  | head {x y : β} (rest : List β) (h : r x y) : ReplaceOne r (x :: rest) (y :: rest)
  | tail (x : β) {xs ys : List β} (h : ReplaceOne r xs ys) : ReplaceOne r (x :: xs) (x :: ys)

theorem ReplaceOne.acc_cons {β : Type} {r : β → β → Prop} {x : β} (hx : Acc r x) :
    ∀ {xs : List β}, Acc (ReplaceOne r) xs → Acc (ReplaceOne r) (x :: xs) := by
  induction hx with
  | intro x _ ihx =>
      intro xs hxs
      induction hxs with
      | intro xs accs ihxs =>
          refine ⟨_, fun ys h => ?_⟩
          cases h with
          | head _ h => exact ihx _ h ⟨_, accs⟩
          | tail _ h => exact ihxs _ h

theorem ReplaceOne.wf {β : Type} {r : β → β → Prop} (h : WellFounded r) :
    WellFounded (ReplaceOne r) := by
  refine ⟨fun xs => ?_⟩
  induction xs with
  | nil => exact ⟨_, fun ys h => by cases h⟩
  | cons x xs ih => exact ReplaceOne.acc_cons (h.apply x) ih

theorem ReplaceOne.set {β : Type} {r : β → β → Prop} {xs : List β} {i : Nat} {x y : β}
    (at_ : xs[i]? = some y) (h : r x y) : ReplaceOne r (xs.set i x) xs := by
  induction xs generalizing i with
  | nil => simp at at_
  | cons z zs ih =>
      cases i with
      | zero =>
          simp at at_
          subst at_
          exact .head _ h
      | succ i => exact .tail _ (ih (by simpa using at_))

instance wellFoundedRelation : WellFoundedRelation (List (Process W α)) :=
  ⟨ReplaceOne Child, ReplaceOne.wf child_wf⟩

def alarm? : Process W α → Option Alarm
  | .wait alarm _ => some alarm
  | _ => none

def alarms (i : Nat) : List (Process W α) → List (Alarm × Nat)
  | [] => []
  | p :: rest =>
      match p.alarm? with
      | some alarm => (alarm, i) :: alarms (i + 1) rest
      | none => alarms (i + 1) rest

/-- The processes whose alarm rings next, in the order of their alarms. -/
def ringing (processes : List (Process W α)) : List (Alarm × Nat) :=
  let all := (alarms 0 processes).mergeSort fun a b => !b.1.before a.1
  match all with
  | [] => []
  | (alarm, _) :: _ => all.takeWhile fun other => other.1.due == alarm.due

/-- What takes the values of a pool: the values so far, and whether they are enough. -/
abbrev Taker (σ α : Type) := σ → Nat → α → σ × Bool

/--
Run processes side by side.  The queue holds the places of those that can go
on, and whether their alarm rang.
-/
def pool (take : Taker σ α) (processes : List (Process W α)) (queue : List (Nat × Bool))
    (sofar : σ) : Process W σ :=
  match queue with
  | (i, rang) :: rest =>
      match _h : processes[i]? with
      | none => pool take processes rest sofar
      | some (.done a) =>
          let (sofar, enough) := take sofar i a
          if enough then .done sofar else pool take processes rest sofar
      | some (.act change next) =>
          .act change fun w => pool take (processes.set i (next w)) ((i, false) :: rest) sofar
      | some (.wait _ next) =>
          if rang then pool take (processes.set i next) ((i, false) :: rest) sofar
          else pool take processes rest sofar
  | [] =>
      match ringing processes with
      | [] => .done sofar
      | (alarm, i) :: others =>
          match _h : processes[i]? with
          | some (.wait _ next) =>
              .wait alarm <|
                pool take (processes.set i next)
                  ((i, false) :: others.map fun other => (other.2, true)) sofar
          | _ => .done sofar
termination_by (processes, queue.length)
decreasing_by
  all_goals first
    | exact Prod.Lex.left _ _ (ReplaceOne.set _h (.act change next w))
    | exact Prod.Lex.left _ _ (ReplaceOne.set _h (.wait _ next))
    | exact Prod.Lex.right _ (by simp)

/-- Start processes in order and take their values as they end. -/
def gather (take : Taker σ α) (init : σ) (processes : List (Process W α)) : Process W σ :=
  pool take processes ((List.range processes.length).map fun i => (i, false)) init

end ActionGraph.Process
