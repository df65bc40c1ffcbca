import ActionGraph.Event.Basic

/-!
# The event bus

A bus keeps what was published.  A listener holds its own place in that
history; one that falls behind by more than the window goes on with the oldest
event still held and counts what it missed.
-/

namespace ActionGraph

/-- What was published, oldest first, and how much of it is held for listeners. -/
structure Bus where
  window : Nat
  history : Array Event
  listeners : Nat
deriving DecidableEq

/-- A place in the history of a bus. -/
structure Listener where
  /-- The execution whose events are asked for; all events without one. -/
  execution : Option String
  position : Nat
  skipped : Nat
deriving DecidableEq

namespace Bus

/-- The least power of two that is not below a number. -/
def powerAtLeast (n : Nat) : Nat :=
  if n ≤ 1 then 1 else Nat.pow 2 (Nat.log2 (n - 1) + 1)

/-- A bus that nobody listens to; its window is the capacity, rounded up to a power of two. -/
def ofCapacity (capacity : Nat) : Bus :=
  ⟨powerAtLeast capacity, #[], 0⟩

def maxCapacity : Nat :=
  (Nat.pow 2 64 - 1) / 2

def ofCapacity? (capacity : Nat) : Option Bus :=
  if 0 < capacity ∧ capacity ≤ maxCapacity then some (ofCapacity capacity) else none

/-- Publish to whoever listens, and say how many they are. -/
def publish (bus : Bus) (event : Event) : Bus × Nat :=
  ({ bus with history := bus.history.push event }, bus.listeners)

def publishAll (bus : Bus) (events : List Event) : Bus :=
  events.foldl (fun bus event => (bus.publish event).1) bus

def oldest (bus : Bus) : Nat :=
  bus.history.size - bus.window

/-- A new listener hears what is published from now on. -/
def listen (bus : Bus) (execution : Option String) : Bus × Listener :=
  ({ bus with listeners := bus.listeners + 1 }, ⟨execution, bus.history.size, 0⟩)

def drop (bus : Bus) : Bus :=
  { bus with listeners := bus.listeners - 1 }

end Bus

namespace Listener

def wants (listener : Listener) (event : Event) : Bool :=
  match listener.execution with
  | none => true
  | some execution => event.execution? == some execution

inductive Turn where
  | heard (event : Event)
  /-- An event that was not asked for. -/
  | passed (event : Event)
  /-- So many events are no longer held. -/
  | missed (count : Nat)
  | nothing
deriving DecidableEq

/-- One turn: what is no longer held is skipped; if nothing is, one event is taken. -/
def turn (bus : Bus) (listener : Listener) : Listener × Turn :=
  if listener.position < bus.oldest then
    let missed := bus.oldest - listener.position
    ({ listener with position := bus.oldest, skipped := listener.skipped + missed },
      .missed missed)
  else
    match bus.history[listener.position]? with
    | none => (listener, .nothing)
    | some event =>
        ({ listener with position := listener.position + 1 },
          if listener.wants event then .heard event else .passed event)

/-- A turn that comes to something goes on in the history. -/
theorem turn_nearer {bus : Bus} {listener after : Listener} {turned : Turn}
    (took : listener.turn bus = (after, turned)) (something : turned ≠ .nothing) :
    bus.history.size - after.position < bus.history.size - listener.position := by
  unfold turn at took
  split at took
  · rename_i behind
    cases took
    have held : bus.oldest ≤ bus.history.size := Nat.sub_le _ _
    exact Nat.sub_lt_sub_left (Nat.lt_of_lt_of_le behind held) behind
  · split at took
    · cases took
      exact absurd rfl something
    · rename_i event there
      cases took
      have inside := (Array.getElem?_eq_some_iff.mp there).1
      exact Nat.sub_lt_sub_left inside (Nat.lt_succ_self _)

def next (bus : Bus) (listener : Listener) : Listener × Option Event :=
  match _took : listener.turn bus with
  | (after, .heard event) => (after, some event)
  | (after, .nothing) => (after, none)
  | (after, .passed _) => next bus after
  | (after, .missed _) => next bus after
termination_by bus.history.size - listener.position
decreasing_by
  · exact turn_nearer _took nofun
  · exact turn_nearer _took nofun

end Listener

end ActionGraph
