import ActionGraph.Embedding.Cache
import ActionGraph.Process.Basic

/-!
# The world of actions

Actions run in a world that has a clock, a cache of embeddings, and the
collaborators outside the library, of whose state nothing is known here.
-/

namespace ActionGraph.Action

/-- The clock, the cache, and the state of the collaborators. -/
structure World (σ : Type) where
  /-- Milliseconds since the beginning of 1970. -/
  now : Nat
  /-- How many alarms were set. -/
  alarms : Nat
  cache : Embedding.Cache
  outside : σ

namespace World

variable {σ : Type}

instance : Clocked (World σ) where
  now := World.now
  alarms := World.alarms
  setAlarm w := { w with alarms := w.alarms + 1 }

def advance (w : World σ) (milliseconds : Nat) : World σ :=
  { w with now := w.now + milliseconds }

end World

abbrev Task (σ : Type) (α : Type) :=
  Process (World σ) α

namespace Task

variable {σ α : Type}

/-- Ask or change the collaborators in one step. -/
def outside (f : σ → α × σ) : Task σ α :=
  Process.modify fun w => ((f w.outside).1, { w with outside := (f w.outside).2 })

/-- Ask or change the cache in one step, at the time of the clock. -/
def cached (f : Embedding.Cache → Nat → Embedding.Cache × α) : Task σ α :=
  Process.modify fun w => ((f w.cache w.now).2, { w with cache := (f w.cache w.now).1 })

/-- Run a task to its end; the clock is moved to each alarm that it waits for. -/
def complete (w : World σ) : Task σ α → World σ × α
  | .done a => (w, a)
  | .act change next => complete (change w) (next w)
  | .wait alarm next => complete (w.advance (alarm.due - w.now)) next

end Task

end ActionGraph.Action
