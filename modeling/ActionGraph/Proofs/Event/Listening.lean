import ActionGraph.Event.Bus
import Mathlib.Algebra.Ring.Nat
import Mathlib.Data.List.Induction
import Mathlib.Logic.Function.Iterate

/-!
# What listeners hear

Every event that is published while a listener is there is heard by it, passed
because it was not asked for, missed because it was no longer held, or still to
come.  What is heard is in the order of the history, and only a listener that
is more than the window behind misses anything.  Calls may give way to others
after each of their turns.
-/

namespace ActionGraph

/-! ## Windows -/

namespace Bus

theorem powerAtLeast_isPower (n : Nat) : ∃ k, powerAtLeast n = 2 ^ k := by
  unfold powerAtLeast
  split
  · exact ⟨0, rfl⟩
  · exact ⟨_, rfl⟩

theorem powerAtLeast_le_iff (n k : Nat) : powerAtLeast n ≤ 2 ^ k ↔ n ≤ 2 ^ k := by
  unfold powerAtLeast
  have least : 1 ≤ 2 ^ k := Nat.one_le_two_pow
  split
  · rename_i small
    exact iff_of_true least (Nat.le_trans small least)
  · rename_i large
    have nonzero : n - 1 ≠ 0 := by omega
    change 2 ^ (Nat.log2 (n - 1) + 1) ≤ 2 ^ k ↔ _
    rw [Nat.pow_le_pow_iff_right Nat.one_lt_two, Nat.add_one_le_iff, Nat.log2_lt nonzero]
    omega

end Bus

/-! ## Turns -/

namespace Listener

variable {bus : Bus} {l : Listener}

/-- What a turn can come to, and what it leaves of the listener. -/
inductive Turns (bus : Bus) (l : Listener) : Listener → Turn → Prop where
  | heard {event : Event} (held : bus.oldest ≤ l.position)
      (there : bus.history[l.position]? = some event) (wants : l.wants event = true) :
      Turns bus l { l with position := l.position + 1 } (.heard event)
  | passed {event : Event} (held : bus.oldest ≤ l.position)
      (there : bus.history[l.position]? = some event) (wants : l.wants event = false) :
      Turns bus l { l with position := l.position + 1 } (.passed event)
  | missed {count : Nat} (some : 0 < count) (reaches : l.position + count = bus.oldest) :
      Turns bus l { l with position := l.position + count, skipped := l.skipped + count }
        (.missed count)
  | nothing (held : bus.oldest ≤ l.position) (ended : bus.history.size ≤ l.position) :
      Turns bus l l .nothing

theorem turns_of_turn {after : Listener} {turned : Turn} (took : l.turn bus = (after, turned)) :
    Turns bus l after turned := by
  unfold turn at took
  split at took
  · rename_i behind
    cases took
    have reaches := Nat.add_sub_cancel' (Nat.le_of_lt behind)
    have turns := Turns.missed (Nat.sub_pos_of_lt behind) reaches
    rwa [reaches] at turns
  · rename_i held
    have held := Nat.le_of_not_lt held
    split at took
    · rename_i ended
      cases took
      exact .nothing held (Array.getElem?_eq_none_iff.mp ended)
    · rename_i event there
      cases took
      cases wants : l.wants event with
      | true => exact .heard held there wants
      | false => exact .passed held there wants

end Listener

/-! ## Ears -/

/-- A listener, when it was made, and what has become of the events at each place since. -/
structure Ear where
  listener : Listener
  /-- The execution that was asked for when it was made. -/
  asked : Option String
  /-- How many events had been published before. -/
  since : Nat
  heard : List (Nat × Event)
  passed : List (Nat × Event)
  /-- The places from which on so many events were missed. -/
  missed : List (Nat × Nat)

namespace Ear

def made (bus : Bus) (execution : Option String) : Ear :=
  ⟨(bus.listen execution).2, execution, bus.history.size, [], [], []⟩

def turn (bus : Bus) (ear : Ear) : Ear :=
  let place := ear.listener.position
  match ear.listener.turn bus with
  | (listener, .heard event) => { ear with listener, heard := ear.heard ++ [(place, event)] }
  | (listener, .passed event) => { ear with listener, passed := ear.passed ++ [(place, event)] }
  | (listener, .missed count) => { ear with listener, missed := ear.missed ++ [(place, count)] }
  | (listener, .nothing) => { ear with listener }

/-- What was asked for when a listener was made, and how many events had been published. -/
def entry (ear : Ear) : Option String × Nat :=
  (ear.asked, ear.since)

theorem turn_entry (bus : Bus) (ear : Ear) : (ear.turn bus).entry = ear.entry := by
  unfold turn
  split <;> rfl

def behind (bus : Bus) (ear : Ear) : Nat :=
  bus.history.size - ear.listener.position

/-- The listener was told that it missed the event at a place. -/
def Missed (ear : Ear) (place : Nat) : Prop :=
  ∃ gap ∈ ear.missed, gap.1 ≤ place ∧ place < gap.1 + gap.2

/-- The listener went past an event that it could see, be it wanted or not. -/
structure Took (history : Array Event) (ear : Ear) (wanted : Bool) (place : Nat) (event : Event) :
    Prop where
  since : ear.since ≤ place
  before : place < ear.listener.position
  published : history[place]? = some event
  wants : ear.listener.wants event = wanted
  seen : ¬ ear.Missed place

/-- What has been published since a listener was made, accounted for. -/
structure Accounted (bus : Bus) (ear : Ear) : Prop where
  asks : ear.listener.execution = ear.asked
  began : ear.since ≤ ear.listener.position
  within : ear.listener.position ≤ bus.history.size
  balance : bus.history.size - ear.since =
    ear.heard.length + ear.passed.length + ear.listener.skipped + ear.behind bus
  told : ear.listener.skipped = (ear.missed.map Prod.snd).sum
  /-- Events are heard in the order in which they were published, each once. -/
  order : (ear.heard.map Prod.fst).Pairwise (· < ·)
  heard : ∀ place event, (place, event) ∈ ear.heard ↔ ear.Took bus.history true place event
  passed : ∀ place event, (place, event) ∈ ear.passed ↔ ear.Took bus.history false place event
  /-- Where events were missed, the listener had been more than the window behind. -/
  missed : ∀ gap ∈ ear.missed, 0 < gap.2 ∧ ear.since ≤ gap.1 ∧
    gap.1 + gap.2 ≤ ear.listener.position ∧ gap.1 + gap.2 + bus.window ≤ bus.history.size

section Steps

variable {bus : Bus} {history : Array Event} {ear : Ear} {wanted : Bool} {place : Nat}
  {event : Event}

theorem took_push (within : ear.listener.position ≤ history.size) (more : Event) :
    ear.Took (history.push more) wanted place event ↔ ear.Took history wanted place event := by
  have same (before : place < ear.listener.position) :
      (history.push more)[place]? = history[place]? := by
    rw [Array.getElem?_push, if_neg (Nat.ne_of_lt (Nat.lt_of_lt_of_le before within))]
  constructor
  · rintro ⟨since, before, published, wants, seen⟩
    exact ⟨since, before, same before ▸ published, wants, seen⟩
  · rintro ⟨since, before, published, wants, seen⟩
    exact ⟨since, before, (same before).trans published, wants, seen⟩

/-- Going past an event adds that event. -/
theorem took_advance (began : ear.since ≤ ear.listener.position)
    (seen : ¬ ear.Missed ear.listener.position) {next : Event}
    (there : history[ear.listener.position]? = some next) (heard passed : List (Nat × Event)) :
    Took history ⟨{ ear.listener with position := ear.listener.position + 1 }, ear.asked, ear.since,
        heard, passed, ear.missed⟩ wanted place event ↔
      ear.Took history wanted place event ∨
        (place, event) = (ear.listener.position, next) ∧ ear.listener.wants next = wanted := by
  constructor
  · rintro ⟨since, before, published, wants, clear⟩
    obtain before | rfl := Nat.lt_succ_iff_lt_or_eq.mp before
    · exact .inl ⟨since, before, published, wants, clear⟩
    · cases there.symm.trans published
      exact .inr ⟨rfl, wants⟩
  · rintro (⟨since, before, published, wants, clear⟩ | ⟨⟨⟩, wants⟩)
    · exact ⟨since, Nat.lt_succ_of_lt before, published, wants, clear⟩
    · exact ⟨began, Nat.lt_succ_self _, there, wants, seen⟩

/-- Skipping events adds none of them. -/
theorem took_skip {count skipped : Nat} :
    Took history ⟨⟨ear.listener.execution, ear.listener.position + count, skipped⟩, ear.asked,
        ear.since, ear.heard, ear.passed, ear.missed ++ [(ear.listener.position, count)]⟩
        wanted place event ↔
      ear.Took history wanted place event := by
  constructor
  · rintro ⟨since, before, published, wants, clear⟩
    refine ⟨since, ?_, published, wants, fun missed => clear ?_⟩
    · refine Nat.lt_of_not_le fun after => clear ?_
      exact ⟨_, List.mem_append_right _ List.mem_cons_self, after, before⟩
    · obtain ⟨gap, mem, inside⟩ := missed
      exact ⟨gap, List.mem_append_left _ mem, inside⟩
  · rintro ⟨since, before, published, wants, clear⟩
    refine ⟨since, Nat.lt_add_right _ before, published, wants, ?_⟩
    rintro ⟨gap, mem, after, inside⟩
    obtain mem | mem := List.mem_append.mp mem
    · exact clear ⟨gap, mem, after, inside⟩
    · cases List.mem_singleton.mp mem
      exact absurd before (Nat.not_lt_of_le after)

namespace Accounted

theorem made (bus : Bus) (execution : Option String) :
    (Ear.made bus execution).Accounted (bus.listen execution).1 where
  asks := rfl
  began := Nat.le_refl _
  within := Nat.le_refl _
  balance := by simp [Ear.made, Ear.behind, Bus.listen]
  told := rfl
  order := .nil
  heard _ _ := iff_of_false List.not_mem_nil fun took =>
    absurd took.before (Nat.not_lt_of_le took.since)
  passed _ _ := iff_of_false List.not_mem_nil fun took =>
    absurd took.before (Nat.not_lt_of_le took.since)
  missed := List.forall_mem_nil _

variable (accounted : ear.Accounted bus)
include accounted

theorem listen (execution : Option String) : ear.Accounted (bus.listen execution).1 :=
  ⟨accounted.asks, accounted.began, accounted.within, accounted.balance, accounted.told,
    accounted.order, accounted.heard, accounted.passed, accounted.missed⟩

theorem publish (more : Event) : ear.Accounted (bus.publish more).1 where
  asks := accounted.asks
  began := accounted.began
  within := by
    have := accounted.within
    simp only [Bus.publish, Array.size_push]
    omega
  balance := by
    have balance := accounted.balance
    have began := accounted.began
    have within := accounted.within
    simp only [Ear.behind, Bus.publish, Array.size_push] at balance ⊢
    omega
  told := accounted.told
  order := accounted.order
  heard place event := (accounted.heard place event).trans (took_push accounted.within more).symm
  passed place event :=
    (accounted.passed place event).trans (took_push accounted.within more).symm
  missed gap mem := by
    obtain ⟨some, after, before, held⟩ := accounted.missed gap mem
    refine ⟨some, after, before, ?_⟩
    simp only [Bus.publish, Array.size_push]
    omega

/-- The place that a listener is at was not missed. -/
theorem not_missed : ¬ ear.Missed ear.listener.position := by
  rintro ⟨gap, mem, -, inside⟩
  exact absurd (accounted.missed gap mem).2.2.1 (Nat.not_le_of_lt inside)

theorem missed_of_le {position : Nat} (later : ear.listener.position ≤ position) :
    ∀ gap ∈ ear.missed, 0 < gap.2 ∧ ear.since ≤ gap.1 ∧
      gap.1 + gap.2 ≤ position ∧ gap.1 + gap.2 + bus.window ≤ bus.history.size := by
  intro gap mem
  obtain ⟨some, after, before, held⟩ := accounted.missed gap mem
  exact ⟨some, after, Nat.le_trans before later, held⟩

/-- What could be seen and was asked for is heard, and before anything later. -/
theorem heard_before (since : ear.since ≤ place) (published : bus.history[place]? = some event)
    (wants : ear.listener.wants event = true) (seen : ¬ ear.Missed place) {later : Nat × Event}
    (heard : later ∈ ear.heard) (before : place < later.1) :
    ∃ first rest, ear.heard = first ++ later :: rest ∧ (place, event) ∈ first := by
  have reached := ((accounted.heard later.1 later.2).mp heard).before
  have mem := (accounted.heard place event).mpr
    ⟨since, Nat.lt_trans before reached, published, wants, seen⟩
  obtain ⟨first, rest, split⟩ := List.append_of_mem heard
  refine ⟨first, rest, split, ?_⟩
  have order := accounted.order
  rw [split] at mem order
  rw [List.map_append, List.map_cons, List.pairwise_append, List.pairwise_cons] at order
  obtain first | same | rest : _ ∨ _ ∨ _ := by simpa using mem
  · exact first
  · exact absurd before (by simp [← same])
  · have after := order.2.1.1 place (List.mem_map_of_mem rest)
    exact absurd after (Nat.lt_asymm before)

theorem turn : (ear.turn bus).Accounted bus := by
  have began := accounted.began
  have balance := accounted.balance
  unfold Ear.behind at balance
  unfold Ear.turn
  cases took : ear.listener.turn bus with | mk after turned =>
  cases Listener.turns_of_turn took with
  | @heard event held there wants =>
    have inside := (Array.getElem?_eq_some_iff.mp there).1
    refine ⟨accounted.asks, Nat.le_succ_of_le began, inside, by simp [Ear.behind]; omega,
      accounted.told, ?_, fun place event => ?_, fun place event => ?_,
      accounted.missed_of_le (Nat.le_succ _)⟩
    · dsimp only
      rw [List.map_append, List.pairwise_append]
      refine ⟨accounted.order, List.pairwise_singleton _ _, ?_⟩
      rintro _ mem _ here
      obtain ⟨⟨place, heard⟩, before, rfl⟩ := List.mem_map.mp mem
      cases List.mem_singleton.mp here
      exact ((accounted.heard place heard).mp before).before
    · rw [List.mem_append, List.mem_singleton, accounted.heard,
        took_advance began accounted.not_missed there, and_iff_left wants]
    · rw [accounted.passed, took_advance began accounted.not_missed there]
      exact (or_iff_left fun other => Bool.false_ne_true (other.2.symm.trans wants)).symm
  | @passed event held there wants =>
    have inside := (Array.getElem?_eq_some_iff.mp there).1
    refine ⟨accounted.asks, Nat.le_succ_of_le began, inside, by simp [Ear.behind]; omega,
      accounted.told, accounted.order, fun place event => ?_, fun place event => ?_,
      accounted.missed_of_le (Nat.le_succ _)⟩
    · rw [accounted.heard, took_advance began accounted.not_missed there]
      exact (or_iff_left fun other => Bool.false_ne_true (wants.symm.trans other.2)).symm
    · rw [List.mem_append, List.mem_singleton, accounted.passed,
        took_advance began accounted.not_missed there, and_iff_left wants]
  | @missed count some reaches =>
    have held : ear.listener.position + count + bus.window = bus.history.size := by
      unfold Bus.oldest at reaches
      omega
    refine ⟨accounted.asks, Nat.le_add_right_of_le began, by simp; omega,
      by simp [Ear.behind]; omega, by simp [accounted.told], accounted.order,
      fun place event => (accounted.heard place event).trans took_skip.symm,
      fun place event => (accounted.passed place event).trans took_skip.symm, ?_⟩
    refine List.forall_mem_append.mpr ⟨accounted.missed_of_le (Nat.le_add_right _ _), ?_⟩
    exact List.forall_mem_singleton.mpr ⟨some, began, Nat.le_refl _, Nat.le_of_eq held⟩
  | nothing => exact accounted

end Accounted

end Steps

end Ear

/-! ## Calls -/

namespace Listener

variable {bus : Bus} {l : Listener}

theorem wants_iff {event : Event} :
    l.wants event = true ↔
      ∀ execution, l.execution = some execution → event.execution? = some execution := by
  unfold wants
  cases l.execution with
  | none => exact iff_of_true rfl nofun
  | some execution =>
      refine beq_iff_eq.trans ⟨?_, fun own => own execution rfl⟩
      rintro same _ ⟨⟩
      exact same

/-- The events that are held for a listener and that it asked for. -/
def due (bus : Bus) (l : Listener) : List Event :=
  (bus.history.toList.drop (max l.position bus.oldest)).filter l.wants

def calls (bus : Bus) : Nat → Listener → List (Option Event)
  | 0, _ => []
  | n + 1, l => (l.next bus).2 :: calls bus n (l.next bus).1

theorem due_of_held (held : bus.oldest ≤ l.position) {event : Event}
    (there : bus.history[l.position]? = some event) :
    l.due bus =
      if l.wants event then event :: due bus { l with position := l.position + 1 }
      else due bus { l with position := l.position + 1 } := by
  obtain ⟨inside, rfl⟩ := Array.getElem?_eq_some_iff.mp there
  unfold due
  rw [Nat.max_eq_left held, Nat.max_eq_left (Nat.le_succ_of_le held),
    List.drop_eq_getElem_cons (by simpa using inside), List.filter_cons]
  rfl

/-- A call answers the first event that is due, and leaves the others. -/
theorem next_due (bus : Bus) (l : Listener) :
    (l.next bus).2 = (l.due bus).head? ∧ (l.next bus).1.due bus = (l.due bus).tail := by
  fun_induction next bus l with
  | case1 l after event took =>
      cases turns_of_turn took with
      | heard held there wants =>
          rw [due_of_held held there, if_pos wants]
          exact ⟨rfl, rfl⟩
  | case2 l after took =>
      cases turns_of_turn took with
      | nothing held ended =>
          have none : l.due bus = [] := by
            unfold due
            rw [List.drop_of_length_le (by simp; omega), List.filter_nil]
          rw [none]
          exact ⟨rfl, rfl⟩
  | case3 l after event took ih =>
      cases turns_of_turn took with
      | passed held there wants =>
          rw [due_of_held held there, if_neg (Bool.eq_false_iff.mp wants)]
          exact ih
  | case4 l after count took ih =>
      cases turns_of_turn took with
      | missed some reaches =>
          have same : due bus { l with
              position := l.position + count, skipped := l.skipped + count } = l.due bus := by
            unfold due
            rw [reaches, Nat.max_self, Nat.max_eq_right (by omega)]
            rfl
          rwa [same] at ih

/-- So many calls answer what is due, in order, and then nothing. -/
theorem calls_eq (bus : Bus) (n : Nat) (l : Listener) :
    l.calls bus n =
      ((l.due bus).map some).take n ++ List.replicate (n - (l.due bus).length) none := by
  induction n generalizing l with
  | zero => simp [calls]
  | succ n ih =>
      obtain ⟨answer, later⟩ := next_due bus l
      rw [calls, ih, answer, later]
      cases l.due bus with
      | nil => simp [List.replicate_succ]
      | cons event rest => simp

end Listener

/-- A call for the next event takes some turns, and what it answers is what is heard in them. -/
theorem Ear.exists_turns (bus : Bus) (ear : Ear) :
    ∃ n, ((Ear.turn bus)^[n] ear).listener = (ear.listener.next bus).1 ∧
      ((Ear.turn bus)^[n] ear).heard.map Prod.snd =
        ear.heard.map Prod.snd ++ (ear.listener.next bus).2.toList := by
  generalize same : ear.listener = l
  fun_induction Listener.next bus l generalizing ear with
  | case1 l after event took =>
      refine ⟨1, ?_⟩
      simp [Ear.turn, same, took]
  | case2 l after took =>
      refine ⟨1, ?_⟩
      simp [Ear.turn, same, took]
  | case3 l after event took ih =>
      obtain ⟨n, later, heard⟩ := ih (ear.turn bus) (by simp [Ear.turn, same, took])
      refine ⟨n + 1, later, heard.trans ?_⟩
      simp [Ear.turn, same, took]
  | case4 l after count took ih =>
      obtain ⟨n, later, heard⟩ := ih (ear.turn bus) (by simp [Ear.turn, same, took])
      refine ⟨n + 1, later, heard.trans ?_⟩
      simp [Ear.turn, same, took]

/-! ## Halls -/

/-- A bus, whether it is closed, and those who listen to it. -/
structure Hall where
  bus : Bus
  closed : Bool
  ears : List Ear

namespace Hall

inductive Answer where
  | event (event : Event)
  | ended
  | waiting
deriving DecidableEq

/-- Without an event there, a call ends if the bus was dropped, and waits otherwise. -/
def answer (h : Hall) : Option Event → Answer
  | some event => .event event
  | none => if h.closed then .ended else .waiting

inductive Act where
  | publish (event : Event)
  /-- Somebody begins to listen, to one execution or to all that happens. -/
  | listen (execution : Option String)
  /-- Somebody's call for the next event takes one turn. -/
  | turn (i : Nat)
  /-- The bus is dropped. -/
  | close
deriving DecidableEq

def perform (h : Hall) : Act → Hall
  | .publish event => if h.closed then h else { h with bus := (h.bus.publish event).1 }
  | .listen execution =>
      if h.closed then h
      else
        { h with
          bus := (h.bus.listen execution).1
          ears := h.ears ++ [.made h.bus execution] }
  | .turn i => { h with ears := h.ears.modify i (Ear.turn h.bus) }
  | .close => { h with closed := true }

def after (capacity : Nat) (acts : List Act) : Hall :=
  acts.foldl perform ⟨.ofCapacity capacity, false, []⟩

/-- The events that are published in some acts, until the bus is dropped. -/
def published : List Act → List Event
  | [] => []
  | .publish event :: rest => event :: published rest
  | .listen _ :: rest => published rest
  | .turn _ :: rest => published rest
  | .close :: _ => []

/-- Who begins to listen in some acts, until the bus is dropped, and after how many events. -/
def joined (count : Nat) : List Act → List (Option String × Nat)
  | [] => []
  | .publish _ :: rest => joined (count + 1) rest
  | .listen execution :: rest => (execution, count) :: joined count rest
  | .turn _ :: rest => joined count rest
  | .close :: _ => []

theorem after_concat (capacity : Nat) (acts : List Act) (act : Act) :
    after capacity (acts ++ [act]) = (after capacity acts).perform act :=
  List.foldl_append

theorem after_append (capacity : Nat) (acts more : List Act) :
    after capacity (acts ++ more) = more.foldl perform (after capacity acts) :=
  List.foldl_append

theorem perform_window (h : Hall) (act : Act) : (h.perform act).bus.window = h.bus.window := by
  cases act with
  | publish event =>
      dsimp only [perform]
      split
      · rfl
      · rfl
  | listen execution =>
      dsimp only [perform]
      split
      · rfl
      · rfl
  | turn i => rfl
  | close => rfl

theorem after_window (capacity : Nat) (acts : List Act) :
    (after capacity acts).bus.window = Bus.powerAtLeast capacity := by
  induction acts using List.reverseRecOn with
  | nil => rfl
  | append_singleton acts act ih => rw [after_concat, perform_window, ih]

/-- What an act makes of those who listen. -/
theorem ear_of_perform {h : Hall} {act : Act} {i : Nat} {ear : Ear}
    (there : (h.perform act).ears[i]? = some ear) :
    h.ears[i]? = some ear ∨ (∃ execution, act = .listen execution ∧ ear = .made h.bus execution) ∨
      ∃ before, act = .turn i ∧ h.ears[i]? = some before ∧ ear = before.turn h.bus := by
  unfold perform at there
  cases act with
  | publish event =>
      refine .inl ?_
      dsimp only at there
      split at there
      · exact there
      · exact there
  | listen execution =>
      dsimp only at there
      split at there
      · exact .inl there
      · rw [List.getElem?_append] at there
        split at there
        · exact .inl there
        · have made := List.mem_singleton.mp (List.mem_of_getElem? there)
          exact .inr (.inl ⟨execution, rfl, made⟩)
  | turn j =>
      rw [List.getElem?_modify] at there
      obtain ⟨before, found, same⟩ := Option.map_eq_some_iff.mp there
      split at same
      · rename_i here
        subst here
        exact .inr (.inr ⟨before, rfl, found, same.symm⟩)
      · exact .inl (same ▸ found)
  | close => exact .inl there

def Accounted (h : Hall) : Prop :=
  ∀ ear ∈ h.ears, ear.Accounted h.bus

theorem Accounted.perform {h : Hall} (accounted : h.Accounted) (act : Act) :
    (h.perform act).Accounted := by
  unfold Hall.perform
  cases act with
  | publish event =>
      dsimp only
      split
      · exact accounted
      · exact fun ear mem => (accounted ear mem).publish event
  | listen execution =>
      dsimp only
      split
      · exact accounted
      · refine List.forall_mem_append.mpr ⟨fun ear mem => (accounted ear mem).listen execution, ?_⟩
        exact List.forall_mem_singleton.mpr (.made h.bus execution)
  | turn i =>
      intro ear mem
      obtain ⟨j, there⟩ := List.mem_iff_getElem?.mp mem
      have turned : (h.perform (.turn i)).ears[j]? = some ear := there
      obtain found | ⟨_, ⟨⟩, _⟩ | ⟨before, _, found, rfl⟩ := ear_of_perform turned
      · exact accounted ear (List.mem_of_getElem? found)
      · exact (accounted before (List.mem_of_getElem? found)).turn
  | close => exact accounted

theorem after_accounted (capacity : Nat) (acts : List Act) : (after capacity acts).Accounted := by
  induction acts using List.reverseRecOn with
  | nil => exact List.forall_mem_nil _
  | append_singleton acts act ih =>
      rw [after_concat]
      exact ih.perform act

/-- A listener has never been more than the window behind. -/
def Prompt (capacity : Nat) (acts : List Act) (i : Nat) : Prop :=
  ∀ before, before <+: acts → ∀ ear, (after capacity before).ears[i]? = some ear →
    ear.behind (after capacity before).bus ≤ (after capacity before).bus.window

theorem missed_of_prompt {capacity : Nat} {acts : List Act} {i : Nat}
    (prompt : Prompt capacity acts i) {ear : Ear}
    (there : (after capacity acts).ears[i]? = some ear) : ear.missed = [] := by
  induction acts using List.reverseRecOn generalizing ear with
  | nil => cases there
  | append_singleton acts act ih =>
      have earlier : Prompt capacity acts i := fun before prior =>
        prompt before (prior.trans (List.prefix_append _ _))
      rw [after_concat] at there
      obtain found | ⟨execution, -, rfl⟩ | ⟨before, -, found, rfl⟩ := ear_of_perform there
      · exact ih earlier found
      · rfl
      · have near := prompt acts (List.prefix_append _ _) before found
        have none := ih earlier found
        unfold Ear.turn
        cases took : before.listener.turn (after capacity acts).bus with | mk listener turned =>
        cases Listener.turns_of_turn took with
        | heard => exact none
        | passed => exact none
        | nothing => exact none
        | missed some reaches =>
            -- who can miss something is further behind
            unfold Ear.behind at near
            unfold Bus.oldest at reaches
            omega

theorem perform_turns (h : Hall) {i : Nat} {ear : Ear} (there : h.ears[i]? = some ear) (n : Nat) :
    (((List.replicate n (Act.turn i)).foldl perform h).ears)[i]? =
      some ((Ear.turn h.bus)^[n] ear) := by
  induction n generalizing h ear with
  | zero => exact there
  | succ n ih =>
      rw [List.replicate_succ, List.foldl_cons, Function.iterate_succ_apply]
      refine ih (h.perform (.turn i)) ?_
      simp [perform, there]

theorem perform_turn_entries (h : Hall) (i : Nat) :
    (h.perform (.turn i)).ears.map Ear.entry = h.ears.map Ear.entry := by
  refine List.ext_getElem? fun j => ?_
  rw [perform, List.getElem?_map, List.getElem?_modify, List.getElem?_map]
  cases h.ears[j]? with
  | none => rfl
  | some ear =>
      rw [Option.map_eq_map, Option.map_some, Option.map_some, Option.map_some]
      split
      · rw [Ear.turn_entry]
      · rfl

section Closed

variable {h : Hall} (closed : h.closed = true)
include closed

theorem perform_of_closed (act : Act) :
    (h.perform act).closed = true ∧ (h.perform act).bus = h.bus ∧
      (h.perform act).ears.map Ear.entry = h.ears.map Ear.entry := by
  cases act with
  | publish event => simp [perform, closed]
  | listen execution => simp [perform, closed]
  | turn i => exact ⟨closed, rfl, perform_turn_entries h i⟩
  | close => exact ⟨rfl, rfl, rfl⟩

theorem foldl_of_closed (acts : List Act) :
    (acts.foldl perform h).closed = true ∧ (acts.foldl perform h).bus = h.bus ∧
      (acts.foldl perform h).ears.map Ear.entry = h.ears.map Ear.entry := by
  induction acts generalizing h with
  | nil => exact ⟨closed, rfl, rfl⟩
  | cons act rest ih =>
      obtain ⟨stays, bus, ears⟩ := perform_of_closed closed act
      obtain ⟨after, same, entries⟩ := ih stays
      exact ⟨after, same.trans bus, entries.trans ears⟩

end Closed

section Open

variable {h : Hall} (opened : h.closed = false)
include opened

theorem perform_publish (event : Event) :
    h.perform (.publish event) = { h with bus := (h.bus.publish event).1 } :=
  if_neg (by simp [opened])

theorem perform_listen (execution : Option String) :
    h.perform (.listen execution) =
      { h with bus := (h.bus.listen execution).1, ears := h.ears ++ [.made h.bus execution] } :=
  if_neg (by simp [opened])

theorem perform_opened (act : Act) (keeps : act ≠ .close) : (h.perform act).closed = false := by
  cases act with
  | publish event => rw [perform_publish opened, opened]
  | listen execution => rw [perform_listen opened, opened]
  | turn i => exact opened
  | close => exact absurd rfl keeps

theorem foldl_closed (acts : List Act) :
    (acts.foldl perform h).closed = true ↔ Act.close ∈ acts := by
  induction acts generalizing h with
  | nil => simp [opened]
  | cons act rest ih =>
      rw [List.foldl_cons, List.mem_cons]
      by_cases closes : act = .close
      · subst closes
        exact iff_of_true (foldl_of_closed rfl rest).1 (.inl rfl)
      · rw [ih (perform_opened opened act closes), or_iff_right (Ne.symm closes)]

/-- The history of a bus grows by what is published to it. -/
theorem foldl_history (acts : List Act) :
    (acts.foldl perform h).bus.history.toList = h.bus.history.toList ++ published acts := by
  induction acts generalizing h with
  | nil => exact (List.append_nil _).symm
  | cons act rest ih =>
      rw [List.foldl_cons]
      cases act with
      | publish event =>
          rw [ih (perform_opened opened (.publish event) nofun), perform_publish opened,
            Bus.publish, Array.toList_push, List.append_assoc]
          rfl
      | listen execution =>
          rw [ih (perform_opened opened (.listen execution) nofun), perform_listen opened]
          rfl
      | turn i => exact ih (h := h.perform (.turn i)) opened
      | close =>
          rw [(foldl_of_closed (h := h.perform .close) rfl rest).2.1]
          exact (List.append_nil _).symm

theorem foldl_entries (acts : List Act) :
    (acts.foldl perform h).ears.map Ear.entry =
      h.ears.map Ear.entry ++ joined h.bus.history.size acts := by
  induction acts generalizing h with
  | nil => exact (List.append_nil _).symm
  | cons act rest ih =>
      rw [List.foldl_cons]
      cases act with
      | publish event =>
          rw [ih (perform_opened opened (.publish event) nofun), perform_publish opened,
            Bus.publish, Array.size_push]
          rfl
      | listen execution =>
          rw [ih (perform_opened opened (.listen execution) nofun), perform_listen opened,
            List.map_append, List.append_assoc]
          rfl
      | turn i =>
          rw [ih (perform_opened opened (.turn i) nofun), perform_turn_entries]
          rfl
      | close =>
          rw [(foldl_of_closed (h := h.perform .close) rfl rest).2.2]
          exact (List.append_nil _).symm

end Open

theorem answers_eq (h : Hall) (n : Nat) (l : Listener) :
    (l.calls h.bus n).map h.answer = ((l.due h.bus).map .event).take n ++
      List.replicate (n - (l.due h.bus).length) (if h.closed then .ended else .waiting) := by
  rw [Listener.calls_eq, List.map_append, List.map_replicate, List.map_take, List.map_map]
  rfl

structure Lawful (capacity : Nat) (acts : List Act) : Prop where
  /-- The window is the least power of two that is not below the capacity. -/
  window : (∃ k, (after capacity acts).bus.window = 2 ^ k) ∧
    ∀ k, (after capacity acts).bus.window ≤ 2 ^ k ↔ capacity ≤ 2 ^ k
  /-- The history is what has been published to the bus before it was dropped. -/
  history : (after capacity acts).bus.history.toList = published acts
  /-- Everybody who began to listen before the bus was dropped is there, in that order. -/
  entries : (after capacity acts).ears.map Ear.entry = joined 0 acts
  closed : (after capacity acts).closed = true ↔ Act.close ∈ acts
  accounted : (after capacity acts).Accounted
  own : ∀ ear ∈ (after capacity acts).ears, ∀ execution, ear.asked = some execution →
    ∀ place event, (place, event) ∈ ear.heard → event.execution? = some execution
  /-- An event that was asked for and not missed is heard before any that was published later. -/
  earlier : ∀ ear ∈ (after capacity acts).ears, ∀ place event, ear.since ≤ place →
    (after capacity acts).bus.history[place]? = some event → ear.listener.wants event = true →
    ¬ ear.Missed place → ∀ later ∈ ear.heard, place < later.1 →
    ∃ first rest, ear.heard = first ++ later :: rest ∧ (place, event) ∈ first
  prompt : ∀ i, Prompt capacity acts i → ∀ ear, (after capacity acts).ears[i]? = some ear →
    ear.missed = [] ∧ ear.listener.skipped = 0
  /-- Whoever calls for the next event takes turns, and is answered what is heard in them. -/
  calls : ∀ i ear, (after capacity acts).ears[i]? = some ear → ∃ turns later,
    (after capacity (acts ++ List.replicate turns (.turn i))).ears[i]? = some later ∧
      later.listener = (ear.listener.next (after capacity acts).bus).1 ∧
      later.heard.map Prod.snd =
        ear.heard.map Prod.snd ++ (ear.listener.next (after capacity acts).bus).2.toList
  /-- Calls answer what is due, and end after that once the bus is dropped. -/
  answers : ∀ ear ∈ (after capacity acts).ears, ∀ n,
    let due := ear.listener.due (after capacity acts).bus
    (ear.listener.calls (after capacity acts).bus n).map (after capacity acts).answer =
      (due.map .event).take n ++ List.replicate (n - due.length)
        (if (after capacity acts).closed then .ended else .waiting)
  /-- Nothing changes a bus that was dropped. -/
  dropped : (after capacity acts).closed = true →
    ∀ more, (after capacity (acts ++ more)).bus = (after capacity acts).bus

/--
Whoever listens is accounted for after any acts in any order: what has been
published since is heard, passed, missed or still to come, and nothing is missed
by a listener that has never been more than the window behind.
-/
theorem listeners_accounted (capacity : Nat) (acts : List Act) : Lawful capacity acts where
  window := by
    rw [after_window]
    exact ⟨Bus.powerAtLeast_isPower capacity, Bus.powerAtLeast_le_iff capacity⟩
  history := foldl_history (h := ⟨.ofCapacity capacity, false, []⟩) rfl acts
  entries := foldl_entries (h := ⟨.ofCapacity capacity, false, []⟩) rfl acts
  closed := foldl_closed (h := ⟨.ofCapacity capacity, false, []⟩) rfl acts
  accounted := after_accounted capacity acts
  own ear mem execution asked place event heard := by
    have accounted := after_accounted capacity acts ear mem
    have took := (accounted.heard place event).mp heard
    exact Listener.wants_iff.mp took.wants execution (accounted.asks.trans asked)
  earlier ear mem place event since published wants seen later heard before :=
    (after_accounted capacity acts ear mem).heard_before since published wants seen heard before
  prompt i prompt ear there := by
    have none := missed_of_prompt prompt there
    have accounted := after_accounted capacity acts ear (List.mem_of_getElem? there)
    refine ⟨none, ?_⟩
    rw [accounted.told, none]
    rfl
  calls i ear there := by
    obtain ⟨turns, listener, heard⟩ := ear.exists_turns (after capacity acts).bus
    refine ⟨turns, _, ?_, listener, heard⟩
    rw [after_append]
    exact perform_turns _ there turns
  answers ear _ n := answers_eq (after capacity acts) n ear.listener
  dropped closed more := by
    rw [after_append]
    exact (foldl_of_closed closed more).2.1

/-- Five events for a listener with a window of two, and one more after the bus is dropped. -/
def lagging : List Act :=
  .listen none :: (List.range 5).map (fun n => .publish (.executionPaused (toString n))) ++
    [.turn 0, .turn 0, .close, .publish (.executionPaused "late")]

/-- The first three of five events are missed, and the fourth one is heard. -/
theorem listeners_accounted_of_lagging :
    Lawful 2 lagging ∧
      published lagging = ["0", "1", "2", "3", "4"].map .executionPaused ∧
      (after 2 lagging).ears.map (fun ear => (ear.heard, ear.missed, ear.listener.skipped)) =
        [([(3, .executionPaused "3")], [(0, 3)], 3)] :=
  ⟨listeners_accounted 2 lagging, by decide +kernel, by decide +kernel⟩

end Hall

end ActionGraph
