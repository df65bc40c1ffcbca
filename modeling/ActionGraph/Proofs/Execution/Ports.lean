import ActionGraph.Proofs.Execution.Flow
import Mathlib.Algebra.BigOperators.Group.Finset.Basic
import Mathlib.Data.List.DropRight

/-!
# What the ports of a mailbox hold

Whatever is pushed and however often the mailbox is drained, a port holds the
newest of the values that were pushed on it since the last time, as many as
there is room for.  The ports do not matter to each other: the messages in the
mailbox are as many as all ports hold together.
-/

namespace ActionGraph.Execution.Mailbox

/-! ## What is done with a mailbox -/

inductive Act where
  | push (port : String) (value : Json)
  | drain
deriving DecidableEq

def Act.port? : Act → Option String
  | .push port _ => some port
  | .drain => none

def Act.valueFor? (port : String) : Act → Option Json
  | .push other value => if other = port then some value else none
  | .drain => none

def perform (m : Mailbox) : Act → Mailbox
  | .push port value => (m.push port value).1
  | .drain => m.drain.1

def performAll (m : Mailbox) (acts : List Act) : Mailbox :=
  acts.foldl perform m

/-- What was done since the last drain. -/
def sinceDrain (acts : List Act) : List Act :=
  acts.rtakeWhile (· ≠ .drain)

/-- The values that were pushed on a port since the last drain, in order. -/
def pushed (acts : List Act) (port : String) : List Json :=
  (sinceDrain acts).filterMap (Act.valueFor? port)

def portsOf (acts : List Act) : Finset String :=
  (acts.filterMap Act.port?).toFinset

section Pushed

variable (acts : List Act) (port : String)

theorem pushed_push (other : String) (value : Json) :
    pushed (acts ++ [.push other value]) port =
      pushed acts port ++ if other = port then [value] else [] := by
  have since : sinceDrain (acts ++ [.push other value]) =
      sinceDrain acts ++ [.push other value] :=
    List.rtakeWhile_concat_pos _ _ _ (by simp)
  rw [pushed, since, List.filterMap_append]
  by_cases here : other = port
  · simp [pushed, Act.valueFor?, here]
  · simp [pushed, Act.valueFor?, here]

theorem pushed_drain : pushed (acts ++ [.drain]) port = [] := by
  have since : sinceDrain (acts ++ [.drain]) = [] := List.rtakeWhile_concat_neg _ _ _ (by simp)
  rw [pushed, since, List.filterMap_nil]

variable {acts port}

theorem mem_portsOf_of_pushed (some : pushed acts port ≠ []) : port ∈ portsOf acts := by
  obtain ⟨value, mem⟩ := List.exists_mem_of_ne_nil _ some
  obtain ⟨act, there, is⟩ := List.mem_filterMap.mp mem
  have past : act ∈ acts := (List.rtakeWhile_suffix _ _).subset there
  refine List.mem_toFinset.mpr (List.mem_filterMap.mpr ⟨act, past, ?_⟩)
  cases act with
  | drain => cases is
  | push other value =>
      rw [Act.valueFor?] at is
      split at is
      · rename_i here
        exact congrArg Option.some here
      · cases is

end Pushed

/-! ## Operations in any order -/

/-- A mailbox holds what was pushed since the last drain, as far as there is room. -/
structure HoldsNewest (capacity : Nat) (acts : List Act) (m : Mailbox) : Prop where
  room : m.capacity = max capacity 1
  queue : ∀ port, m.queue port = newest (max capacity 1) (pushed acts port)

namespace HoldsNewest

variable {capacity : Nat} {acts : List Act} {m : Mailbox}

theorem perform (holds : m.HoldsNewest capacity acts) (act : Act) :
    (m.perform act).HoldsNewest capacity (acts ++ [act]) := by
  cases act with
  | drain =>
      refine ⟨holds.room, fun port => ?_⟩
      rw [pushed_drain]
      exact List.drop_nil.symm
  | push port value =>
      refine ⟨(m.push_capacity port value).trans holds.room, fun other => ?_⟩
      have held := holds.queue other
      rw [pushed_push]
      by_cases here : port = other
      · subst here
        rw [if_pos rfl]
        exact queue_push_of_newest holds.room held value
      · rw [if_neg here, List.append_nil, ← held]
        exact (m.queue_push port value other).trans (if_neg (Ne.symm here))

theorem performAll (capacity : Nat) (acts : List Act) :
    ((ofCapacity capacity).performAll acts).HoldsNewest capacity acts := by
  induction acts using List.reverseRecOn with
  | nil => exact ⟨rfl, fun _ => List.drop_nil.symm⟩
  | append_singleton acts act ih =>
      rw [Mailbox.performAll, List.foldl_append]
      exact ih.perform act

/-- A port is never beyond what there is room for. -/
theorem depth (holds : m.HoldsNewest capacity acts) (port : String) :
    m.depth port = min (pushed acts port).length (max capacity 1) := by
  rw [Mailbox.depth, holds.queue, length_newest]

/-- A message drives out another one exactly if its port is full. -/
theorem delivery (holds : m.HoldsNewest capacity acts) (port : String) (value : Json) :
    (m.push port value).2 =
      if m.depth port = max capacity 1 then .droppedOldest ((m.push port value).1.depth port)
      else .queued ((m.push port value).1.depth port) := by
  have within : m.depth port ≤ max capacity 1 := holds.depth port ▸ Nat.min_le_right _ _
  have full : m.capacity ≤ m.depth port ↔ m.depth port = max capacity 1 := by
    rw [holds.room]
    exact ⟨Nat.le_antisymm within, fun same => same.ge⟩
  rw [push_snd]
  exact ite_congr (propext full) (fun _ => rfl) fun _ => rfl

end HoldsNewest

/-! ## All ports -/

theorem total_eq_sum_keys (m : Mailbox) :
    m.total = ∑ port ∈ m.ports.keys.toFinset, m.depth port := by
  have lengths : m.ports.keys.map m.depth = m.ports.values.map List.length := by
    rw [Dict.keys, Dict.values, List.map_map, List.map_map]
    refine List.map_congr_left fun entry mem => ?_
    have found := (m.ports.mem_entries_iff entry.1 entry.2).mp mem
    exact congrArg (fun queue => (queue.getD []).length) found
  rw [List.sum_toFinset _ m.ports.keys_apart, lengths]
  rfl

/-- The messages of a mailbox are those at any ports among which are all that have messages. -/
theorem total_eq_sum (m : Mailbox) {ports : Finset String}
    (covers : ∀ port, m.queue port ≠ [] → port ∈ ports) :
    m.total = ∑ port ∈ ports, m.depth port := by
  have void : ∀ port, m.queue port = [] → m.depth port = 0 :=
    fun port none => List.length_eq_zero_iff.mpr none
  rw [total_eq_sum_keys]
  refine Finset.sum_congr_of_eq_on_inter (fun port _ absent => ?_) (fun port _ absent => ?_)
    fun _ _ _ => rfl
  · exact void port (Decidable.byContradiction fun some => absent (covers port some))
  · have missing : m.ports.get? port = none := by
      rw [List.mem_toFinset, Dict.mem_keys_iff] at absent
      simpa using absent
    exact void port (congrArg (·.getD []) missing)

/-! ## The law of mailboxes -/

structure Lawful (capacity : Nat) (acts : List Act) (m : Mailbox) : Prop where
  /-- Of the values pushed since the last drain, a port holds the last ones, oldest first. -/
  queue : ∀ port, m.queue port = newest (max capacity 1) (pushed acts port)
  depth : ∀ port, m.depth port = min (pushed acts port).length (max capacity 1)
  /-- A message drives out the oldest one exactly if its port is full, and the new depth is told. -/
  push : ∀ port value, (m.push port value).2 =
    if m.depth port = max capacity 1 then .droppedOldest ((m.push port value).1.depth port)
    else .queued ((m.push port value).1.depth port)
  /-- What is taken is the queue of each port that has messages. -/
  drain : ∀ port, m.drain.2.get? port = if m.queue port = [] then none else some (m.queue port)
  drained : m.drain.1 = ofCapacity capacity
  total : m.total = ∑ port ∈ portsOf acts, m.depth port
  isEmpty : m.isEmpty = true ↔ m.total = 0

theorem lawful_performAll (capacity : Nat) (acts : List Act) :
    ((ofCapacity capacity).performAll acts).Lawful capacity acts := by
  have holds := HoldsNewest.performAll capacity acts
  have room : 0 < max capacity 1 := Nat.le_max_right _ _
  exact {
    queue := holds.queue
    depth := holds.depth
    push := holds.delivery
    drain := get?_drain _
    drained := congrArg (Mailbox.mk · .empty) holds.room
    total := total_eq_sum _ fun port some => mem_portsOf_of_pushed fun none =>
      some ((holds.queue port).trans ((newest_eq_nil_iff room _).mpr none))
    isEmpty := isEmpty_iff _ }

end ActionGraph.Execution.Mailbox
