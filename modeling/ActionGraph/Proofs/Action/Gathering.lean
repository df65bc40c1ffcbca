import ActionGraph.Proofs.Action.Interleaving

/-!
# A pool runs one course of its tasks

The tasks of a pool share one clock.  Those that can go on are at its time, and
those that wait are due at a time that has not passed, so that each of them
sees the time that a clock of its own would show.
-/

namespace ActionGraph.Action.Task

variable {σ V α τ : Type}

/-- A strand in a pool at some time, with what the queue says of it. -/
inductive OnTime (now : Nat) : Option Bool → Strand σ α → Prop
  | running (p : Task σ α) : OnTime now (some false) ⟨now, p⟩
  | rang {clock : Nat} {alarm : Alarm} {next : Task σ α} (due : max clock alarm.due = now) :
      OnTime now (some true) ⟨clock, .wait alarm next⟩
  | waiting {clock : Nat} {alarm : Alarm} {next : Task σ α} (past : clock ≤ now)
      (due : now ≤ max clock alarm.due) : OnTime now none ⟨clock, .wait alarm next⟩

/-- The tasks of a pool are strands on time, up to those that ended and were taken. -/
structure Timed (now : Nat) (tasks : List (Task σ α)) (queue : List (Nat × Bool))
    (strands : Strands σ α) : Prop where
  apart : (queue.map (·.1)).Nodup
  onTime : ∀ i strand, strands i = some strand →
    tasks[i]? = some strand.rest ∧ OnTime now (queue.lookup i) strand
  gone : ∀ i p, tasks[i]? = some p → strands i = none →
    queue.lookup i = none ∧ ∃ a, p = .done a

theorem lookup_cons_of_ne {i j : Nat} (ne : j ≠ i) (rang : Bool) (rest : List (Nat × Bool)) :
    ((i, rang) :: rest).lookup j = rest.lookup j := by
  rw [List.lookup_cons, beq_false_of_ne ne]

theorem lookup_of_notMem {i : Nat} {queue : List (Nat × Bool)}
    (absent : i ∉ queue.map (·.1)) : queue.lookup i = none := by
  rw [List.lookup_eq_none_iff]
  intro entry mem
  rw [bne_iff_ne]
  rintro rfl
  exact absent (List.mem_map_of_mem mem)

theorem lookup_of_mem_map {γ : Type} {i : Nat} {l : List γ} {place : γ → Nat} (rang : Bool)
    (mem : i ∈ l.map place) : (l.map fun x => (place x, rang)).lookup i = some rang := by
  induction l with
  | nil => cases mem
  | cons x rest ih =>
      rw [List.map_cons]
      by_cases here : i = place x
      · rw [here, List.lookup_cons_self]
      · rw [lookup_cons_of_ne here]
        exact ih ((List.mem_cons.mp mem).resolve_left here)

namespace Timed

variable {now : Nat} {tasks : List (Task σ α)} {i : Nat} {rang : Bool}
  {rest : List (Nat × Bool)} {strands : Strands σ α}

theorem start (now : Nat) (tasks : List (Task σ α)) :
    Timed now tasks ((List.range tasks.length).map fun i => (i, false))
      fun i => tasks[i]?.map fun p => ⟨now, p⟩ := by
  have attended := Process.Attended.start tasks
  refine ⟨attended.apart, fun i strand there => ?_, fun i p there none => ?_⟩
  · obtain ⟨p, here, rfl⟩ := Option.map_eq_some_iff.mp there
    have inRange : i ∈ (List.range tasks.length).map id := by
      rw [List.map_id, List.mem_range]
      exact (List.getElem?_eq_some_iff.mp here).1
    have queued : ((List.range tasks.length).map fun i => (i, false)).lookup i = some false :=
      lookup_of_mem_map false inRange
    rw [queued]
    exact ⟨here, .running p⟩
  · rw [there] at none
    cases none

/-- The strand of a task that was not taken. -/
theorem strand (timed : Timed now tasks ((i, rang) :: rest) strands) {p : Task σ α}
    (there : tasks[i]? = some p) :
    ∃ clock, strands i = some ⟨clock, p⟩ ∧ OnTime now (some rang) ⟨clock, p⟩ := by
  cases here : strands i with
  | none =>
      have idle := (timed.gone i p there here).1
      rw [List.lookup_cons_self] at idle
      cases idle
  | some strand =>
      obtain ⟨same, onTime⟩ := timed.onTime i strand here
      rw [List.lookup_cons_self] at onTime
      cases there.symm.trans same
      exact ⟨strand.clock, rfl, onTime⟩

/-- The first of the queue is absent. -/
theorem skip (timed : Timed now tasks ((i, rang) :: rest) strands) (absent : tasks[i]? = none) :
    Timed now tasks rest strands := by
  obtain ⟨apart, onTime, gone⟩ := timed
  refine ⟨(List.nodup_cons.mp apart).2, fun j strand there => ?_, fun j p there none => ?_⟩
  · obtain ⟨same, onTime⟩ := onTime j strand there
    have ne : j ≠ i := by
      rintro rfl
      cases same.symm.trans absent
    exact ⟨same, lookup_cons_of_ne ne rang rest ▸ onTime⟩
  · obtain ⟨idle, ended⟩ := gone j p there none
    have ne : j ≠ i := by
      rintro rfl
      cases there.symm.trans absent
    exact ⟨lookup_cons_of_ne ne rang rest ▸ idle, ended⟩

/-- The first of the queue ended and is taken. -/
theorem take (timed : Timed now tasks ((i, rang) :: rest) strands) {a : α}
    (ended : tasks[i]? = some (.done a)) :
    Timed now tasks rest (Function.update strands i none) := by
  obtain ⟨apart, onTime, gone⟩ := timed
  have left := lookup_of_notMem (List.nodup_cons.mp apart).1
  refine ⟨(List.nodup_cons.mp apart).2, fun j strand there => ?_, fun j p there none => ?_⟩
  · rw [Function.update_apply] at there
    split at there
    · cases there
    · rename_i ne
      obtain ⟨same, onTime⟩ := onTime j strand there
      exact ⟨same, lookup_cons_of_ne ne rang rest ▸ onTime⟩
  · by_cases here : j = i
    · subst here
      exact ⟨left, a, Option.some.inj (there.symm.trans ended)⟩
    · rw [Function.update_of_ne here] at none
      obtain ⟨idle, ended⟩ := gone j p there none
      exact ⟨lookup_cons_of_ne here rang rest ▸ idle, ended⟩

/-- The first of the queue goes on at the time of the pool. -/
theorem goOn (timed : Timed now tasks ((i, rang) :: rest) strands) (known : (strands i).isSome)
    (p : Task σ α) :
    Timed now (tasks.set i p) ((i, false) :: rest)
      (Function.update strands i (some ⟨now, p⟩)) := by
  obtain ⟨apart, onTime, gone⟩ := timed
  refine ⟨apart, fun j strand there => ?_, fun j q there none => ?_⟩
  · by_cases here : j = i
    · subst here
      rw [Function.update_self] at there
      cases there
      obtain ⟨strand, before⟩ := Option.isSome_iff_exists.mp known
      have inRange := (List.getElem?_eq_some_iff.mp (onTime j strand before).1).1
      rw [List.lookup_cons_self]
      exact ⟨List.getElem?_set_self inRange, .running p⟩
    · rw [Function.update_of_ne here] at there
      obtain ⟨same, onTime⟩ := onTime j strand there
      rw [lookup_cons_of_ne here] at onTime ⊢
      exact ⟨(List.getElem?_set_ne (Ne.symm here)).trans same, onTime⟩
  · by_cases here : j = i
    · subst here
      rw [Function.update_self] at none
      cases none
    · rw [Function.update_of_ne here] at none
      rw [List.getElem?_set_ne (Ne.symm here)] at there
      obtain ⟨idle, ended⟩ := gone j q there none
      rw [lookup_cons_of_ne here] at idle ⊢
      exact ⟨idle, ended⟩

/-- The first of the queue waits for an alarm that did not ring. -/
theorem sleep (timed : Timed now tasks ((i, false) :: rest) strands) {alarm : Alarm}
    {next : Task σ α} (there : tasks[i]? = some (.wait alarm next)) :
    Timed now tasks rest strands := by
  obtain ⟨clock, here, onTime⟩ := timed.strand there
  cases onTime
  obtain ⟨apart, onTime, gone⟩ := timed
  refine ⟨(List.nodup_cons.mp apart).2, fun j strand known => ?_, fun j p known none => ?_⟩
  · by_cases same : j = i
    · subst same
      cases here.symm.trans known
      rw [lookup_of_notMem (List.nodup_cons.mp apart).1]
      exact ⟨there, .waiting (Nat.le_refl now) (Nat.le_max_left ..)⟩
    · obtain ⟨place, onTime⟩ := onTime j strand known
      exact ⟨place, lookup_cons_of_ne same false rest ▸ onTime⟩
  · have ne : j ≠ i := by
      rintro rfl
      cases here.symm.trans none
    obtain ⟨idle, ended⟩ := gone j p known none
    exact ⟨lookup_cons_of_ne ne false rest ▸ idle, ended⟩

/-- The next alarms ring, and the time of the pool is theirs. -/
theorem ring (timed : Timed now tasks [] strands) {first : Alarm × Nat}
    {others : List (Alarm × Nat)} (rings : Process.ringing tasks = first :: others) :
    Timed (now + (first.1.due - now)) tasks
      ((first :: others).map fun entry => (entry.2, true)) strands := by
  obtain ⟨due, soonest⟩ := Process.ringing_first rings
  have apart := Process.ringing_apart tasks
  have there : ∀ entry ∈ Process.ringing tasks,
      ∃ next, tasks[entry.2]? = some (.wait entry.1 next) :=
    fun entry => Process.getElem?_of_mem_ringing
  rw [rings] at due apart there
  have places : (((first :: others).map fun entry => (entry.2, true)).map (·.1)) =
      (first :: others).map (·.2) :=
    List.map_map
  refine ⟨places ▸ apart, fun j strand known => ?_, fun j p known none => ?_⟩
  · obtain ⟨place, onTime⟩ := timed.onTime j strand known
    refine ⟨place, ?_⟩
    cases onTime with
    | @waiting clock alarm next past waits =>
        by_cases mem : j ∈ (first :: others).map (·.2)
        · obtain ⟨entry, listed, rfl⟩ := List.mem_map.mp mem
          obtain ⟨next, same⟩ := there _ listed
          cases place.symm.trans same
          have rang := due entry listed
          rw [lookup_of_mem_map true mem]
          exact .rang (by omega)
        · rw [lookup_of_notMem (places ▸ mem)]
          have notBefore := soonest j alarm next place
          exact .waiting (by omega) (by omega)
  · obtain ⟨_, a, rfl⟩ := timed.gone j p known none
    refine ⟨lookup_of_notMem fun queued => ?_, a, rfl⟩
    rw [places] at queued
    obtain ⟨entry, listed, rfl⟩ := List.mem_map.mp queued
    obtain ⟨next, same⟩ := there _ listed
    cases known.symm.trans same

/-- When no task can go on and no alarm rings, all ended. -/
theorem all_gone (timed : Timed now tasks [] strands) (silent : Process.ringing tasks = [])
    (i : Nat) : strands i = none := by
  cases here : strands i with
  | none => rfl
  | some strand =>
      obtain ⟨place, onTime⟩ := timed.onTime i strand here
      cases onTime with
      | waiting past due => exact absurd silent (Process.ringing_ne_nil place)

/-- Whatever is left may run to its end. -/
theorem exists_course {queue : List (Nat × Bool)} (timed : Timed now tasks queue strands)
    (w : World σ) : ∃ ends, Course w strands ends := by
  have all : ∀ i, i ∈ (List.range tasks.length).filter (fun i => (strands i).isSome) ↔
      (strands i).isSome := by
    intro i
    rw [List.mem_filter, List.mem_range]
    refine ⟨And.right, fun known => ⟨?_, known⟩⟩
    obtain ⟨strand, here⟩ := Option.isSome_iff_exists.mp known
    exact (List.getElem?_eq_some_iff.mp (timed.onTime i strand here).1).1
  obtain ⟨ends, course, _⟩ :=
    Course.exists_of_order (List.nodup_range.filter _) w strands all
  exact ⟨ends, course⟩

/-- A pool takes its values as its tasks end in one of their courses. -/
theorem course {shares : Shares σ V} {fates : Nat → α} (take : Process.Taker τ α)
    {queue : List (Nat × Bool)} {w : World σ} (abreast : Abreast shares fates w strands)
    (timed : Timed w.now tasks queue strands) (sofar : τ) :
    ∃ ends, Course w strands ends ∧
      (complete w (Process.pool take tasks queue sofar)).2 = Process.takeAll take sofar ends := by
  fun_induction Process.pool take tasks queue sofar generalizing w strands with
  | case1 tasks sofar i rang rest absent ih => exact ih abreast (timed.skip absent)
  | case2 tasks sofar i rang rest a ended last same =>
      obtain ⟨clock, here, _⟩ := timed.strand ended
      obtain ⟨ends, course⟩ := (timed.take ended).exists_course w
      refine ⟨(i, a) :: ends, .finish here course, ?_⟩
      rw [Process.takeAll, same]
      rfl
  | case3 tasks sofar i rang rest a ended last enough same goesOn ih =>
      obtain ⟨clock, here, _⟩ := timed.strand ended
      obtain ⟨ends, course, taken⟩ := ih (abreast.drop i) (timed.take ended)
      refine ⟨(i, a) :: ends, .finish here course, taken.trans ?_⟩
      rw [Process.takeAll, same, if_neg goesOn]
  | case4 tasks sofar i rang rest change next there ih =>
      obtain ⟨clock, here, onTime⟩ := timed.strand there
      cases onTime
      obtain ⟨count, tame⟩ := (abreast i _ here).act.2
      have after := abreast.act here
      have later := timed.goOn (Option.isSome_of_eq_some here) (next w)
      have now : (change w).now = w.now := tame.now
      rw [World.atTime_now, now] at after
      obtain ⟨ends, course, taken⟩ := ih w after (now.symm ▸ later)
      refine ⟨ends, .act here ?_, taken⟩
      rw [World.atTime_now, now]
      exact course
  | case5 tasks sofar i rest alarm next there ih =>
      obtain ⟨clock, here, onTime⟩ := timed.strand there
      cases onTime with
      | rang due =>
          have after := abreast.wait here
          rw [due] at after
          obtain ⟨ends, course, taken⟩ :=
            ih after (timed.goOn (Option.isSome_of_eq_some here) next)
          exact ⟨ends, .wait here (due.symm ▸ course), taken⟩
  | case6 tasks sofar i rang rest alarm next there asleep ih =>
      obtain rfl : rang = false := Bool.eq_false_iff.mpr asleep
      exact ih abreast (timed.sleep there)
  | case7 tasks sofar silent => exact ⟨[], .nil (timed.all_gone silent), rfl⟩
  | case8 tasks sofar alarm i others rings _ next there ih =>
      obtain ⟨_, waits⟩ := Process.getElem?_of_mem_ringing (rings ▸ List.mem_cons_self)
      cases there.symm.trans waits
      have rung : Timed (w.advance (alarm.due - w.now)).now tasks _ strands := timed.ring rings
      obtain ⟨clock, here, onTime⟩ := rung.strand there
      cases onTime with
      | rang due =>
          have after := (abreast.at_time (w.advance (alarm.due - w.now)).now).wait here
          rw [due] at after
          obtain ⟨ends, course, taken⟩ :=
            ih after (rung.goOn (Option.isSome_of_eq_some here) next)
          exact ⟨ends, .wait here (due.symm ▸ course.at_time w.now), taken⟩
  | case9 tasks sofar alarm i others rings stuck =>
      obtain ⟨next, waits⟩ := Process.getElem?_of_mem_ringing (rings ▸ List.mem_cons_self)
      exact absurd waits (stuck alarm next)

end Timed

end ActionGraph.Action.Task
