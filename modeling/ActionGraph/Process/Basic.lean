/-!
# Processes

A process is a tree of atomic actions on a world and of waits.  It runs on a
virtual clock: actions take no time, and a wait ends at its alarm.  Alarms are
ordered by the time at which they are due and, at one time, by the order in
which they were set.
-/

namespace ActionGraph

/-- An alarm: when it is due, and its place among all alarms that were set. -/
structure Alarm where
  due : Nat
  order : Nat
deriving DecidableEq, Repr

namespace Alarm

def before (a b : Alarm) : Bool :=
  decide (a.due < b.due) || (a.due == b.due && decide (a.order < b.order))

def first (a b : Alarm) : Alarm :=
  if b.before a then b else a

end Alarm

/-- A world with a clock in milliseconds and a count of the alarms set so far. -/
class Clocked (W : Type) where
  now : W → Nat
  alarms : W → Nat
  /-- Count one more alarm. -/
  setAlarm : W → W

/-- A process that ends with a value. -/
inductive Process (W : Type) (α : Type) where
  | done (value : α)
  /-- Change the world in one step and go on with what it was. -/
  | act (change : W → W) (next : W → Process W α)
  /-- Go on when the alarm rings. -/
  | wait (alarm : Alarm) (next : Process W α)

namespace Process

variable {W α β : Type}

def bind (p : Process W α) (f : α → Process W β) : Process W β :=
  match p with
  | .done a => f a
  | .act change next => .act change fun w => (next w).bind f
  | .wait alarm next => .wait alarm (next.bind f)

def map (f : α → β) (p : Process W α) : Process W β :=
  p.bind fun a => .done (f a)

instance : Monad (Process W) where
  pure := .done
  bind := bind

@[simp] theorem pure_eq (a : α) : (pure a : Process W α) = .done a :=
  rfl

@[simp] theorem bind_eq (p : Process W α) (f : α → Process W β) : (p >>= f) = p.bind f :=
  rfl

@[simp] theorem bind_done (p : Process W α) : p.bind .done = p := by
  induction p with
  | done a => rfl
  | act change next ih => simp [bind, ih]
  | wait alarm next ih => simp [bind, ih]

theorem bind_assoc {γ : Type} (p : Process W α) (f : α → Process W β) (g : β → Process W γ) :
    (p.bind f).bind g = p.bind fun a => (f a).bind g := by
  induction p with
  | done a => rfl
  | act change next ih => simp [bind, ih]
  | wait alarm next ih => simp [bind, ih]

def look : Process W W :=
  .act id .done

/-- Change the world and answer something about what it was. -/
def modify (f : W → β × W) : Process W β :=
  .act (fun w => (f w).2) fun w => .done (f w).1

/-- The process on a part of a larger world. -/
def within {V : Type} (get : V → W) (set : W → V → V) : Process W α → Process V α
  | .done a => .done a
  | .act change next =>
      .act (fun v => set (change (get v)) v) fun v => (next (get v)).within get set
  | .wait alarm next => .wait alarm (next.within get set)

section Clock

variable [Clocked W]

def setAlarm (milliseconds : Nat) : Process W Alarm :=
  .act Clocked.setAlarm fun w => .done ⟨Clocked.now w + milliseconds, Clocked.alarms w⟩

/-- Wait some time; no time at all is no wait. -/
def sleep (milliseconds : Nat) : Process W Unit :=
  if milliseconds = 0 then .done ()
  else (setAlarm milliseconds).bind fun alarm => .wait alarm (.done ())

def now : Process W Nat :=
  look.bind fun w => .done (Clocked.now w)

end Clock

/-- What a process is after it ran as far as it can without waiting. -/
inductive Pause (W : Type) (α : Type) where
  | done (value : α)
  | waiting (alarm : Alarm) (next : Process W α)

def run (w : W) : Process W α → W × Pause W α
  | .done a => (w, .done a)
  | .act change next => run (change w) (next w)
  | .wait alarm next => (w, .waiting alarm next)

end Process

end ActionGraph
