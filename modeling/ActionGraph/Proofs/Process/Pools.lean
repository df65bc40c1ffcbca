import ActionGraph.Proofs.Process.Endings

/-!
# Endings of pools

A pool takes the value of each of its processes at most once, and unless a
value ends it, it takes them all.  What holds of nothing taken, and of every
further value with what was taken before, holds of all that a pool takes.
-/

namespace ActionGraph.Process

variable {W α β σ τ : Type}

/-! ## Alarms that ring -/

/-- An alarm is listed with the place of the process that waits for it. -/
theorem getElem?_of_mem_alarms {processes : List (Process W α)} {i : Nat} {entry : Alarm × Nat}
    (mem : entry ∈ alarms i processes) :
    ∃ j next, entry.2 = i + j ∧ processes[j]? = some (.wait entry.1 next) := by
  induction processes generalizing i with
  | nil => cases mem
  | cons p rest ih =>
      have later : entry ∈ alarms (i + 1) rest →
          ∃ j next, entry.2 = i + j ∧ (p :: rest)[j]? = some (.wait entry.1 next) := by
        intro after
        obtain ⟨j, next, place, there⟩ := ih after
        exact ⟨j + 1, next, by omega, there⟩
      rw [alarms] at mem
      cases p with
      | done a => exact later mem
      | act change next => exact later mem
      | wait alarm next =>
          rcases List.mem_cons.mp mem with rfl | after
          · exact ⟨0, next, rfl, rfl⟩
          · exact later after

/-- Each process is listed once. -/
theorem alarms_apart (processes : List (Process W α)) (i : Nat) :
    ((alarms i processes).map (·.2)).Nodup := by
  induction processes generalizing i with
  | nil => exact List.nodup_nil
  | cons p rest ih =>
      rw [alarms]
      cases p with
      | done a => exact ih (i + 1)
      | act change next => exact ih (i + 1)
      | wait alarm next =>
          refine List.nodup_cons.mpr ⟨fun again => ?_, ih (i + 1)⟩
          obtain ⟨entry, mem, same⟩ := List.mem_map.mp again
          obtain ⟨j, _, place, _⟩ := getElem?_of_mem_alarms mem
          have before : i + 1 + j = i := place.symm.trans same
          omega

theorem ringing_sublist (processes : List (Process W α)) :
    ∃ all : List (Alarm × Nat), all.Perm (alarms 0 processes) ∧
      (ringing processes).Sublist all := by
  refine ⟨_, List.mergeSort_perm _ fun a b => !b.1.before a.1, ?_⟩
  unfold ringing
  dsimp only
  split
  · exact List.nil_sublist _
  · exact List.takeWhile_sublist _

theorem ringing_apart (processes : List (Process W α)) :
    ((ringing processes).map (·.2)).Nodup := by
  obtain ⟨all, perm, sublist⟩ := ringing_sublist processes
  have apart : (all.map (·.2)).Nodup := (perm.map _).nodup_iff.mpr (alarms_apart processes 0)
  exact apart.sublist (sublist.map _)

theorem getElem?_of_mem_ringing {processes : List (Process W α)} {entry : Alarm × Nat}
    (mem : entry ∈ ringing processes) :
    ∃ next, processes[entry.2]? = some (.wait entry.1 next) := by
  obtain ⟨all, perm, sublist⟩ := ringing_sublist processes
  obtain ⟨j, next, place, there⟩ := getElem?_of_mem_alarms (perm.mem_iff.mp (sublist.mem mem))
  rw [Nat.zero_add] at place
  exact ⟨next, place ▸ there⟩

theorem mem_alarms {processes : List (Process W α)} {j : Nat} {alarm : Alarm}
    {next : Process W α} (there : processes[j]? = some (.wait alarm next)) (i : Nat) :
    (alarm, i + j) ∈ alarms i processes := by
  induction processes generalizing i j with
  | nil => cases there
  | cons p rest ih =>
      rw [alarms]
      cases j with
      | zero =>
          obtain rfl : p = .wait alarm next := by simpa using there
          exact List.mem_cons_self
      | succ j =>
          have later : (alarm, i + (j + 1)) ∈ alarms (i + 1) rest := by
            have after := ih (by simpa using there) (i + 1)
            rwa [Nat.add_assoc, Nat.add_comm 1 j] at after
          cases p with
          | wait first _ => exact List.mem_cons_of_mem _ later
          | _ => exact later

/-- As long as a process waits some alarm rings. -/
theorem ringing_ne_nil {processes : List (Process W α)} {i : Nat} {alarm : Alarm}
    {next : Process W α} (there : processes[i]? = some (.wait alarm next)) :
    ringing processes ≠ [] := by
  have listed := mem_alarms there 0
  unfold ringing
  dsimp only
  split
  · rename_i none
    rw [← (List.mergeSort_perm _ _).mem_iff, none] at listed
    cases listed
  · rename_i sorted
    rw [sorted, List.takeWhile_cons, if_pos (beq_self_eq_true _)]
    exact List.cons_ne_nil _ _

theorem not_before_iff {a b : Alarm} :
    (!b.before a) = true ↔ a.due < b.due ∨ a.due = b.due ∧ a.order ≤ b.order := by
  simp only [Alarm.before, Bool.not_eq_true', Bool.or_eq_false_iff, Bool.and_eq_false_iff,
    decide_eq_false_iff_not, beq_eq_false_iff_ne]
  omega

theorem mergeSort_due (all : List (Alarm × Nat)) :
    (all.mergeSort fun a b => !b.1.before a.1).Pairwise fun a b => a.1.due ≤ b.1.due := by
  refine (List.pairwise_mergeSort ?_ ?_ all).imp fun le => ?_
  · intro a b c first second
    rw [not_before_iff] at *
    omega
  · intro a b
    rw [Bool.or_eq_true, not_before_iff, not_before_iff]
    omega
  · rw [not_before_iff] at le
    omega

/-- Those that ring are due at one time, and nothing that waits is due before. -/
theorem ringing_first {processes : List (Process W α)} {first : Alarm × Nat}
    {others : List (Alarm × Nat)} (rings : ringing processes = first :: others) :
    (∀ entry ∈ ringing processes, entry.1.due = first.1.due) ∧
      ∀ (j : Nat) alarm next, processes[j]? = some (.wait alarm next) →
        first.1.due ≤ alarm.due := by
  have sorted := mergeSort_due (alarms 0 processes)
  have perm := List.mergeSort_perm (alarms 0 processes) fun a b => !b.1.before a.1
  unfold ringing at rings ⊢
  generalize (alarms 0 processes).mergeSort _ = all at rings sorted perm ⊢
  cases all with
  | nil => cases rings
  | cons soonest rest =>
      dsimp only at rings ⊢
      rw [List.takeWhile_cons, if_pos (beq_self_eq_true _)] at rings
      obtain ⟨rfl, _⟩ := List.cons.inj rings
      refine ⟨fun entry mem => ?_, fun j alarm next there => ?_⟩
      · exact beq_iff_eq.mp (List.all_eq_true.mp List.all_takeWhile entry mem)
      · have listed := perm.mem_iff.mpr (mem_alarms there 0)
        rcases List.mem_cons.mp listed with same | later
        · exact Nat.le_of_eq (congrArg (·.1.due) same).symm
        · exact (List.pairwise_cons.mp sorted).1 _ later

/-! ## Turns -/

section Turns

variable {take : Taker σ α} {processes : List (Process W α)} {i : Nat} {rang : Bool}
  {rest : List (Nat × Bool)} {sofar : σ}

theorem pool_absent (absent : processes[i]? = none) :
    pool take processes ((i, rang) :: rest) sofar = pool take processes rest sofar := by
  rw [pool]
  split <;> simp_all

theorem pool_done {a : α} (ended : processes[i]? = some (.done a)) :
    pool take processes ((i, rang) :: rest) sofar =
      if (take sofar i a).2 then .done (take sofar i a).1
      else pool take processes rest (take sofar i a).1 := by
  rw [pool]
  split <;> simp_all

theorem pool_act {change : W → W} {next : W → Process W α}
    (there : processes[i]? = some (.act change next)) :
    pool take processes ((i, rang) :: rest) sofar =
      .act change fun w => pool take (processes.set i (next w)) ((i, false) :: rest) sofar := by
  rw [pool]
  split <;> simp_all

theorem pool_wait {alarm : Alarm} {next : Process W α}
    (there : processes[i]? = some (.wait alarm next)) :
    pool take processes ((i, rang) :: rest) sofar =
      if rang then pool take (processes.set i next) ((i, false) :: rest) sofar
      else pool take processes rest sofar := by
  rw [pool]
  split <;> simp_all

theorem pool_over (silent : ringing processes = []) :
    pool take processes [] sofar = .done sofar := by
  rw [pool]
  split <;> simp_all

theorem pool_ring {alarm : Alarm} {others : List (Alarm × Nat)}
    (rings : ringing processes = (alarm, i) :: others) {next : Process W α}
    (there : processes[i]? = some (.wait alarm next)) :
    pool take processes [] sofar = .wait alarm
      (pool take (processes.set i next)
        ((i, false) :: others.map fun other => (other.2, true)) sofar) := by
  conv => lhs; rw [pool]
  split
  · simp_all
  · rename_i first
    obtain ⟨⟨rfl, rfl⟩, rfl⟩ : (_ = _ ∧ _ = _) ∧ _ = _ := by simpa using rings.symm.trans first
    split <;> simp_all

end Turns

/-! ## Who was attended to -/

/--
Each process is in the queue at most once, and one that neither ended and was
taken nor is in the queue waits for its alarm.
-/
structure Attended (processes : List (Process W α)) (queue : List (Nat × Bool))
    (taken : List Nat) : Prop where
  apart : (queue.map (·.1)).Nodup
  gone : ∀ i ∈ taken, i ∉ queue.map (·.1) ∧ ∃ a, processes[i]? = some (.done a)
  waits : ∀ (i : Nat) (p : Process W α), processes[i]? = some p →
    i ∈ taken ∨ i ∈ queue.map (·.1) ∨ ∃ alarm next, p = .wait alarm next

namespace Attended

variable {processes : List (Process W α)} {i : Nat} {rang : Bool} {rest : List (Nat × Bool)}
  {taken : List Nat}

theorem start (processes : List (Process W α)) :
    Attended processes ((List.range processes.length).map fun i => (i, false)) [] := by
  have places : (((List.range processes.length).map fun i => (i, false)).map (·.1)) =
      List.range processes.length := by
    rw [List.map_map]
    exact List.map_id _
  refine ⟨?_, fun _ mem => absurd mem List.not_mem_nil, fun i p there => .inr (.inl ?_)⟩
  · rw [places]
    exact List.nodup_range
  · rw [places, List.mem_range]
    exact (List.getElem?_eq_some_iff.mp there).1

/-- The first of the queue may be left where it is absent or waits. -/
theorem drop (attended : Attended processes ((i, rang) :: rest) taken)
    (idle : ∀ p, processes[i]? = some p → ∃ alarm next, p = .wait alarm next) :
    Attended processes rest taken := by
  obtain ⟨apart, gone, waits⟩ := attended
  refine ⟨(List.nodup_cons.mp apart).2, fun j mem => ?_, fun j p there => ?_⟩
  · exact ⟨fun again => (gone j mem).1 (List.mem_cons_of_mem _ again), (gone j mem).2⟩
  · rcases waits j p there with before | queued | waiting
    · exact .inl before
    · rcases List.mem_cons.mp queued with rfl | later
      · exact .inr (.inr (idle p there))
      · exact .inr (.inl later)
    · exact .inr (.inr waiting)

/-- A process of the queue goes on. -/
theorem goOn (attended : Attended processes ((i, rang) :: rest) taken) (p : Process W α) :
    Attended (processes.set i p) ((i, false) :: rest) taken := by
  obtain ⟨apart, gone, waits⟩ := attended
  refine ⟨apart, fun j mem => ?_, fun j q there => ?_⟩
  · obtain ⟨unqueued, a, ended⟩ := gone j mem
    have ne : i ≠ j := fun same => unqueued (same ▸ List.mem_cons_self)
    exact ⟨unqueued, a, (List.getElem?_set_ne ne).trans ended⟩
  · by_cases here : i = j
    · exact .inr (.inl (here ▸ List.mem_cons_self))
    · rw [List.getElem?_set_ne here] at there
      exact waits j q there

/-- The first of the queue ended and is taken. -/
theorem take (attended : Attended processes ((i, rang) :: rest) taken) {a : α}
    (ended : processes[i]? = some (.done a)) : Attended processes rest (taken ++ [i]) := by
  obtain ⟨apart, gone, waits⟩ := attended
  obtain ⟨left, apart⟩ := List.nodup_cons.mp apart
  refine ⟨apart, fun j mem => ?_, fun j p there => ?_⟩
  · rcases List.mem_append.mp mem with before | last
    · exact ⟨fun again => (gone j before).1 (List.mem_cons_of_mem _ again), (gone j before).2⟩
    · rw [List.mem_singleton.mp last]
      exact ⟨left, a, ended⟩
  · rcases waits j p there with before | queued | waiting
    · exact .inl (List.mem_append_left _ before)
    · rcases List.mem_cons.mp queued with rfl | later
      · exact .inl (List.mem_append_right _ List.mem_cons_self)
      · exact .inr (.inl later)
    · exact .inr (.inr waiting)

theorem fresh (attended : Attended processes ((i, rang) :: rest) taken) : i ∉ taken :=
  fun mem => (attended.gone i mem).1 List.mem_cons_self

/-- Those whose alarm rings are queued again. -/
theorem ring (attended : Attended processes [] taken) {alarm : Alarm}
    {others : List (Alarm × Nat)} (rings : ringing processes = (alarm, i) :: others) :
    Attended processes ((i, true) :: others.map fun other => (other.2, true)) taken := by
  have places : (((i, true) :: others.map fun other => (other.2, true)).map (·.1)) =
      (ringing processes).map (·.2) := by
    rw [rings, List.map_cons, List.map_map, List.map_cons]
    rfl
  refine ⟨?_, fun j mem => ⟨fun queued => ?_, (attended.gone j mem).2⟩, fun j p there => ?_⟩
  · rw [places]
    exact ringing_apart processes
  · rw [places] at queued
    obtain ⟨entry, listed, rfl⟩ := List.mem_map.mp queued
    obtain ⟨next, waits⟩ := getElem?_of_mem_ringing listed
    obtain ⟨_, a, ended⟩ := attended.gone _ mem
    rw [waits] at ended
    cases ended
  · rcases attended.waits j p there with before | queued | waiting
    · exact .inl before
    · cases queued
    · exact .inr (.inr waiting)

/-- When the queue is empty no process can go on by itself. -/
theorem rests (attended : Attended processes [] taken) :
    ∀ p ∈ processes, ∀ change next, p ≠ .act change next := by
  rintro p mem change next rfl
  obtain ⟨i, there⟩ := List.mem_iff_getElem?.mp mem
  rcases attended.waits i _ there with before | queued | ⟨_, _, waiting⟩
  · obtain ⟨_, a, ended⟩ := attended.gone i before
    cases ended.symm.trans there
  · cases queued
  · cases waiting

/-- When no process can go on and no alarm rings, all were taken. -/
theorem all_taken (attended : Attended processes [] taken) (none : ringing processes = []) (j : Nat)
    (inRange : j < processes.length) : j ∈ taken := by
  have there : processes[j]? = some processes[j] := List.getElem?_eq_getElem inRange
  rcases attended.waits j _ there with before | queued | ⟨alarm, next, waiting⟩
  · exact before
  · cases queued
  · rw [waiting] at there
    exact absurd none (ringing_ne_nil there)

end Attended

/-- Those that are in the queue because an alarm rang still wait for it. -/
def Rung (processes : List (Process W α)) (queue : List (Nat × Bool)) : Prop :=
  ∀ i, (i, true) ∈ queue → ∃ alarm next, processes[i]? = some (.wait alarm next)

namespace Rung

variable {processes : List (Process W α)} {i : Nat} {rang : Bool} {rest : List (Nat × Bool)}

theorem start (processes : List (Process W α)) :
    Rung processes ((List.range processes.length).map fun i => (i, false)) := by
  intro i mem
  obtain ⟨_, _, other⟩ := List.mem_map.mp mem
  cases other

theorem drop (rung : Rung processes ((i, rang) :: rest)) : Rung processes rest :=
  fun j mem => rung j (List.mem_cons_of_mem _ mem)

theorem goOn {taken : List Nat} (rung : Rung processes ((i, rang) :: rest))
    (attended : Attended processes ((i, rang) :: rest) taken) (p : Process W α) :
    Rung (processes.set i p) ((i, false) :: rest) := by
  intro j mem
  rcases List.mem_cons.mp mem with other | later
  · cases other
  · have ne : i ≠ j := by
      rintro rfl
      exact (List.nodup_cons.mp attended.apart).1 (List.mem_map.mpr ⟨_, later, rfl⟩)
    rw [List.getElem?_set_ne ne]
    exact rung.drop j later

theorem ring {alarm : Alarm} {others : List (Alarm × Nat)}
    (rings : ringing processes = (alarm, i) :: others) :
    Rung processes ((i, true) :: others.map fun other => (other.2, true)) := by
  have all : ∀ entry ∈ (alarm, i) :: others, ∃ alarm next,
      processes[entry.2]? = some (.wait alarm next) := by
    intro entry mem
    obtain ⟨next, waits⟩ := getElem?_of_mem_ringing (rings ▸ mem)
    exact ⟨entry.1, next, waits⟩
  intro j mem
  rcases List.mem_cons.mp mem with first | later
  · cases first
    exact all _ List.mem_cons_self
  · obtain ⟨entry, listed, same⟩ := List.mem_map.mp later
    cases same
    exact all entry (List.mem_cons_of_mem _ listed)

end Rung

/-! ## What a pool takes -/

/--
What is known of a pool on its way: what its processes can still end with,
which of them ended and were taken, and what holds of the values so far.
-/
structure Underway (P : Nat → α → Prop) (I : List Nat → σ → Prop) (count : Nat)
    (processes : List (Process W α)) (queue : List (Nat × Bool)) (taken : List Nat) (sofar : σ) :
    Prop where
  all : processes.length = count
  ends : ∀ (i : Nat) (p : Process W α), processes[i]? = some p → p.Ends (P i)
  attended : Attended processes queue taken
  holds : I taken sofar

/-- A process of the queue goes on to one of its subtrees. -/
theorem Underway.goOn {P : Nat → α → Prop} {I : List Nat → σ → Prop} {count : Nat}
    {processes : List (Process W α)} {i : Nat} {rang : Bool} {rest : List (Nat × Bool)}
    {taken : List Nat} {sofar : σ}
    (underway : Underway P I count processes ((i, rang) :: rest) taken sofar)
    {p : Process W α} (ends : p.Ends (P i)) :
    Underway P I count (processes.set i p) ((i, false) :: rest) taken sofar := by
  refine ⟨(List.length_set ..).trans underway.all, fun j q there => ?_,
    underway.attended.goOn p, underway.holds⟩
  by_cases here : i = j
  · subst here
    rw [List.getElem?_set_self'] at there
    obtain ⟨_, _, rfl⟩ := Option.map_eq_some_iff.mp there
    exact ends
  · rw [List.getElem?_set_ne here] at there
    exact underway.ends j q there

/--
What each value that is not enough keeps holds until the pool ends: with a
value that is enough, or after all its processes ended.
-/
theorem Underway.pool {take : Taker σ α} {P : Nat → α → Prop} {I : List Nat → σ → Prop}
    {Q : σ → Prop} {count : Nat}
    (step : ∀ taken sofar i a, I taken sofar → i ∉ taken → P i a →
      if (take sofar i a).2 then Q (take sofar i a).1 else I (taken ++ [i]) (take sofar i a).1)
    (exhausted : ∀ taken sofar, I taken sofar → (∀ i < count, i ∈ taken) → Q sofar)
    {processes : List (Process W α)} {queue : List (Nat × Bool)} {taken : List Nat} {sofar : σ}
    (underway : Underway P I count processes queue taken sofar) :
    (pool take processes queue sofar).Ends Q := by
  fun_induction Process.pool take processes queue sofar generalizing taken with
  | case1 processes sofar i rang rest absent ih =>
      obtain ⟨all, ends, attended, holds⟩ := underway
      refine ih ⟨all, ends, attended.drop fun p there => ?_, holds⟩
      exact nomatch absent.symm.trans there
  | case2 processes sofar i rang rest a ended last same =>
      have after := step taken sofar i a underway.holds underway.attended.fresh
        (underway.ends i _ ended)
      rwa [same] at after
  | case3 processes sofar i rang rest a ended last enough same goesOn ih =>
      have after := step taken sofar i a underway.holds underway.attended.fresh
        (underway.ends i _ ended)
      rw [same, if_neg goesOn] at after
      exact ih ⟨underway.all, underway.ends, underway.attended.take ended, after⟩
  | case4 processes sofar i rang rest change next there ih =>
      exact fun w => ih w (underway.goOn (underway.ends i _ there w))
  | case5 processes sofar i rest alarm next there ih =>
      exact ih (underway.goOn (underway.ends i (.wait alarm next) there))
  | case6 processes sofar i rang rest alarm next there asleep ih =>
      obtain ⟨all, ends, attended, holds⟩ := underway
      refine ih ⟨all, ends, attended.drop fun p here => ?_, holds⟩
      exact ⟨alarm, next, Option.some.inj (here.symm.trans there)⟩
  | case7 processes sofar none =>
      exact exhausted taken sofar underway.holds fun i inRange =>
        underway.attended.all_taken none i (underway.all ▸ inRange)
  | case8 processes sofar alarm i others rings alarm' next there ih =>
      obtain ⟨all, ends, attended, holds⟩ := underway
      have rung : Underway P I count processes _ taken sofar :=
        ⟨all, ends, attended.ring rings, holds⟩
      exact ih (rung.goOn (ends i (.wait alarm' next) there))
  | case9 processes sofar alarm i others rings stuck =>
      obtain ⟨next, waits⟩ := getElem?_of_mem_ringing (rings ▸ List.mem_cons_self)
      exact absurd waits (stuck alarm next)

/-- What holds of a pool whose values were enough, or all of whose processes ended. -/
theorem Ends.gather_resolved {take : Taker σ α} {P : Nat → α → Prop} {I : List Nat → σ → Prop}
    {Q : σ → Prop} {processes : List (Process W α)}
    (step : ∀ taken sofar i a, I taken sofar → i ∉ taken → P i a →
      if (take sofar i a).2 then Q (take sofar i a).1 else I (taken ++ [i]) (take sofar i a).1)
    (exhausted : ∀ taken sofar, I taken sofar → (∀ i < processes.length, i ∈ taken) → Q sofar)
    {init : σ} (none : I [] init)
    (ends : ∀ (i : Nat) (p : Process W α), processes[i]? = some p → p.Ends (P i)) :
    (gather take init processes).Ends Q :=
  Underway.pool step exhausted ⟨rfl, ends, .start processes, none⟩

theorem Ends.gather {take : Taker σ α} {P : Nat → α → Prop} {I : List Nat → σ → Prop}
    (step : ∀ taken sofar i a, I taken sofar → i ∉ taken → P i a →
      I (taken ++ [i]) (take sofar i a).1)
    {init : σ} (none : I [] init) {processes : List (Process W α)}
    (ends : ∀ (i : Nat) (p : Process W α), processes[i]? = some p → p.Ends (P i)) :
    (gather take init processes).Ends fun last => ∃ taken, I taken last := by
  refine gather_resolved (I := I) ?_ (fun taken sofar holds _ => ⟨taken, holds⟩) none ends
  intro taken sofar i a holds fresh ended
  have after := step taken sofar i a holds fresh ended
  split
  · exact ⟨_, after⟩
  · exact after

/-! ## Pools of the same processes -/

theorem alarm?_map (f : α → β) (p : Process W α) : (p.map f).alarm? = p.alarm? := by
  cases p <;> rfl

theorem alarms_map (f : α → β) (processes : List (Process W α)) (i : Nat) :
    alarms i (processes.map (map f)) = alarms i processes := by
  induction processes generalizing i with
  | nil => rfl
  | cons p rest ih =>
      rw [List.map_cons, alarms, alarms, alarm?_map]
      cases p.alarm? with
      | none => exact ih (i + 1)
      | some alarm => exact congrArg ((alarm, i) :: ·) (ih (i + 1))

theorem ringing_map (f : α → β) (processes : List (Process W α)) :
    ringing (processes.map (map f)) = ringing processes := by
  rw [ringing, alarms_map, ringing]

theorem getElem?_map_map (f : α → β) {processes : List (Process W α)} {i : Nat}
    {p : Process W α} (there : processes[i]? = some p) :
    (processes.map (map f))[i]? = some (p.map f) := by
  rw [List.getElem?_map, there]
  rfl

/-- A pool takes its values as another one does that tells more of them. -/
theorem pool_map {take : Taker σ β} {finer : Taker τ α} (f : α → β) (g : τ → σ)
    (coarser : ∀ sofar i a,
      take (g sofar) i (f a) = (g (finer sofar i a).1, (finer sofar i a).2))
    (processes : List (Process W α)) (queue : List (Nat × Bool)) (sofar : τ) :
    pool take (processes.map (map f)) queue (g sofar) =
      (pool finer processes queue sofar).map g := by
  fun_induction Process.pool finer processes queue sofar with
  | case1 processes sofar i rang rest absent ih =>
      rw [pool_absent (by rw [List.getElem?_map, absent]; rfl), ih]
  | case2 processes sofar i rang rest a ended last same =>
      rw [pool_done (getElem?_map_map f ended), coarser, same]
      rfl
  | case3 processes sofar i rang rest a ended last enough same goesOn ih =>
      rw [pool_done (getElem?_map_map f ended), coarser, same]
      exact (if_neg goesOn).trans ih
  | case4 processes sofar i rang rest change next there ih =>
      rw [pool_act (getElem?_map_map f there)]
      refine congrArg (Process.act change) (funext fun w => ?_)
      have after := ih w
      rw [List.map_set] at after
      exact after
  | case5 processes sofar i rest alarm next there ih =>
      rw [pool_wait (getElem?_map_map f there), if_pos rfl, ← ih, List.map_set]
      rfl
  | case6 processes sofar i rang rest alarm next there asleep ih =>
      rw [pool_wait (getElem?_map_map f there), if_neg asleep, ih]
  | case7 processes sofar silent =>
      rw [pool_over ((ringing_map f processes).trans silent)]
      rfl
  | case8 processes sofar alarm i others rings alarm' next there ih =>
      obtain ⟨_, waits⟩ := getElem?_of_mem_ringing (rings ▸ List.mem_cons_self)
      cases there.symm.trans waits
      rw [pool_ring ((ringing_map f processes).trans rings) (getElem?_map_map f there)]
      refine congrArg (Process.wait alarm) ?_
      rw [List.map_set] at ih
      exact ih
  | case9 processes sofar alarm i others rings stuck =>
      obtain ⟨next, waits⟩ := getElem?_of_mem_ringing (rings ▸ List.mem_cons_self)
      exact absurd waits (stuck alarm next)

end ActionGraph.Process
