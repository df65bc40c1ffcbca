import ActionGraph.Json.Basic

/-!
# Mailboxes

The messages that wait at the input ports of a node.  Each port holds the
newest messages in order, up to the capacity; a message that finds its port
full drives out the oldest.
-/

namespace ActionGraph.Execution

inductive Delivery where
  | queued (depth : Nat)
  | droppedOldest (depth : Nat)
deriving DecidableEq, Repr

/-- The messages of each port, oldest first. -/
structure Mailbox where
  capacity : Nat
  ports : Dict (List Json)
deriving DecidableEq

def countAll (ports : Dict (List Json)) : Nat :=
  (ports.values.map List.length).foldr (· + ·) 0

namespace Mailbox

/-- A mailbox without messages; a port always has room for one. -/
def ofCapacity (capacity : Nat) : Mailbox :=
  ⟨max capacity 1, .empty⟩

def queue (m : Mailbox) (port : String) : List Json :=
  (m.ports.get? port).getD []

def depth (m : Mailbox) (port : String) : Nat :=
  (m.queue port).length

def push (m : Mailbox) (port : String) (value : Json) : Mailbox × Delivery :=
  let old := m.queue port
  if m.capacity ≤ old.length then
    let new := old.drop 1 ++ [value]
    ({ m with ports := m.ports.insert port new }, .droppedOldest new.length)
  else
    let new := old ++ [value]
    ({ m with ports := m.ports.insert port new }, .queued new.length)

/-- Take every message; ports without any are left out. -/
def drain (m : Mailbox) : Mailbox × Dict (List Json) :=
  ({ m with ports := .empty }, m.ports.filter fun _ queue => !queue.isEmpty)

def total (m : Mailbox) : Nat :=
  countAll m.ports

def isEmpty (m : Mailbox) : Bool :=
  m.total == 0

def toJson (m : Mailbox) : Json :=
  .ofDict (m.ports.map Json.arr)

end Mailbox

end ActionGraph.Execution
