import ActionGraph.Execution.Mailbox
import ActionGraph.Proofs.Dictionaries

/-!
# Messages in mailboxes

A message that is added to a port is one more, or it drives out another one.
Taking every message loses none.
-/

namespace ActionGraph.Execution

/-- How many messages a delivery drives out. -/
def Delivery.lost : Delivery → Nat
  | .queued _ => 0
  | .droppedOldest _ => 1

namespace Mailbox

theorem total_insert (m : Mailbox) (port : String) (queue : List Json) :
    ({ m with ports := m.ports.insert port queue } : Mailbox).total + (m.queue port).length =
      m.total + queue.length := by
  have changed := m.ports.sum_insert List.length port queue
  have old : ((m.ports.get? port).map List.length).getD 0 = (m.queue port).length := by
    rw [Mailbox.queue]
    cases m.ports.get? port <;> rfl
  rwa [old] at changed

@[simp] theorem push_capacity (m : Mailbox) (port : String) (value : Json) :
    (m.push port value).1.capacity = m.capacity := by
  simp only [push]
  split <;> rfl

/-- Where there is room for one message, one that is driven out gives way to one that came. -/
theorem total_push {m : Mailbox} (room : 0 < m.capacity) (port : String) (value : Json) :
    (m.push port value).1.total + (m.push port value).2.lost = m.total + 1 := by
  simp only [push]
  split
  · rename_i full
    have changed := m.total_insert port ((m.queue port).drop 1 ++ [value])
    rw [List.length_append, List.length_drop, List.length_singleton] at changed
    simp only [Delivery.lost]
    omega
  · have changed := m.total_insert port (m.queue port ++ [value])
    rw [List.length_append, List.length_singleton] at changed
    simp only [Delivery.lost]
    omega

/-- What is taken is all that there was. -/
theorem countAll_drain (m : Mailbox) : countAll m.drain.2 = m.total := by
  refine m.ports.sum_filter fun port queue dropped => ?_
  rw [Bool.not_eq_false', List.isEmpty_iff] at dropped
  rw [dropped, List.length_nil]

/-- A message goes to the end of its port, and a full port gives up its oldest one. -/
theorem queue_push (m : Mailbox) (port : String) (value : Json) (other : String) :
    (m.push port value).1.queue other =
      if other = port then
        (if m.capacity ≤ (m.queue port).length then (m.queue port).drop 1 else m.queue port)
          ++ [value]
      else m.queue other := by
  have inserted : ∀ queue : List Json,
      ({ m with ports := m.ports.insert port queue } : Mailbox).queue other =
        if other = port then queue else m.queue other := by
    intro queue
    rw [Mailbox.queue, Dict.get?_insert]
    split <;> rfl
  unfold push
  dsimp only
  split
  · exact inserted _
  · exact inserted _

/-- A full port gives up its oldest message, and either way it is told how many there are then. -/
theorem push_snd (m : Mailbox) (port : String) (value : Json) :
    (m.push port value).2 =
      if m.capacity ≤ m.depth port then .droppedOldest ((m.push port value).1.depth port)
      else .queued ((m.push port value).1.depth port) := by
  have after := m.queue_push port value port
  rw [if_pos rfl] at after
  rw [depth, depth, after, push]
  split
  · rfl
  · rfl

/-- A port is among what is taken exactly if there are messages at it. -/
theorem get?_drain (m : Mailbox) (port : String) :
    m.drain.2.get? port = if m.queue port = [] then none else some (m.queue port) := by
  refine (Dict.get?_filter m.ports _ port).trans ?_
  rw [Mailbox.queue]
  cases m.ports.get? port with
  | none => rfl
  | some queue =>
      cases queue with
      | nil => rfl
      | cons value rest => rfl

theorem length_queue_le_total (m : Mailbox) (port : String) :
    (m.queue port).length ≤ m.total := by
  have changed := m.total_insert port []
  rw [List.length_nil] at changed
  omega

/-- A message that comes is there, even if it drives out another one. -/
theorem total_push_pos (m : Mailbox) (port : String) (value : Json) :
    0 < (m.push port value).1.total := by
  have length := (m.push port value).1.length_queue_le_total port
  rw [queue_push, if_pos rfl, List.length_append, List.length_singleton] at length
  omega

theorem isEmpty_iff (m : Mailbox) : m.isEmpty = true ↔ m.total = 0 :=
  beq_iff_eq

end Mailbox

end ActionGraph.Execution
