import ActionGraph.Proofs.Action.Composition
import ActionGraph.Proofs.Action.Likeness

/-!
# Tasks that are watched

A task is watched in a world that has a journal besides.  A watched task does
what the task does, and notes now and then what it sees.  It shows the task
itself up to where it strays: up to a note that tells of something the task
itself would not come to.
-/

namespace ActionGraph.Action

variable {σ S α β τ : Type}

namespace World

def journal (w : World (σ × List S)) : List S :=
  w.outside.2

def unwatched (w : World (σ × List S)) : World σ :=
  ⟨w.now, w.alarms, w.cache, w.outside.1⟩

def watched (w : World σ) : World (σ × List S) :=
  ⟨w.now, w.alarms, w.cache, (w.outside, [])⟩

def withJournal (v : World σ) (w : World (σ × List S)) : World (σ × List S) :=
  ⟨v.now, v.alarms, v.cache, (v.outside, w.journal)⟩

end World

namespace Task

/-- The task in a world with a journal, in which it notes nothing. -/
def besides (task : Task σ α) : Task (σ × List S) α :=
  task.within World.unwatched World.withJournal

def note (sighting : S) : Task (σ × List S) Unit :=
  outside fun state => ((), (state.1, state.2 ++ [sighting]))

theorem complete_besides (task : Task σ α) (w : World (σ × List S)) :
    Task.complete w task.besides =
      ((Task.complete w.unwatched task).1.withJournal w, (Task.complete w.unwatched task).2) := by
  induction task generalizing w with
  | done a => rfl
  | act change next ih => exact ih _ _
  | wait alarm next ih => exact ih _

/-! ## What is noted -/

def Adds (fine : S → Prop) (change : World (σ × List S) → World (σ × List S)) : Prop :=
  ∀ w, ∃ more, (change w).journal = w.journal ++ more ∧ ∀ sighting ∈ more, fine sighting

/-- Every step of the task adds only fine sightings to the journal. -/
def Notes (fine : S → Prop) : Task (σ × List S) α → Prop
  | .done _ => True
  | .act change next => Adds fine change ∧ ∀ w, Notes fine (next w)
  | .wait _ next => Notes fine next

section Notes

variable {fine : S → Prop}

theorem adds_none {change : World (σ × List S) → World (σ × List S)}
    (same : ∀ w, (change w).journal = w.journal) : Adds fine change :=
  fun w => ⟨[], (same w).trans (List.append_nil _).symm, List.forall_mem_nil _⟩

theorem notes_note {sighting : S} (holds : fine sighting) :
    Notes fine (note sighting : Task (σ × List S) Unit) :=
  ⟨fun _ => ⟨[sighting], rfl, List.forall_mem_singleton.mpr holds⟩, fun _ => trivial⟩

theorem notes_now : Notes fine (Process.now : Task (σ × List S) Nat) :=
  ⟨adds_none fun _ => rfl, fun _ => trivial⟩

theorem notes_besides (task : Task σ α) : Notes fine (task.besides : Task (σ × List S) α) := by
  induction task with
  | done a => trivial
  | act change next ih => exact ⟨adds_none fun _ => rfl, fun w => ih w.unwatched⟩
  | wait alarm next ih => exact ih

namespace Notes

variable {task : Task (σ × List S) α}

theorem bind (notes : Notes fine task) {f : α → Task (σ × List S) β}
    (next : ∀ a, Notes fine (f a)) : Notes fine (task.bind f) := by
  induction task with
  | done a => exact next a
  | act change rest ih => exact ⟨notes.1, fun w => ih w (notes.2 w)⟩
  | wait alarm rest ih => exact ih notes

theorem underAlarm (notes : Notes fine task) (limit : Alarm) (now : Nat) :
    Notes fine (task.underAlarm limit now) := by
  induction task generalizing now with
  | done a => trivial
  | act change next ih => exact ⟨notes.1, fun w => ih w (notes.2 w) now⟩
  | wait alarm next ih =>
      rw [Process.underAlarm]
      split
      · trivial
      · split
        · exact ih notes _
        · trivial

theorem within? (notes : Notes fine task) (milliseconds start : Nat) :
    Notes fine (task.within? milliseconds start) := by
  induction task with
  | done a => trivial
  | act change next ih => exact ⟨notes.1, fun w => ih w (notes.2 w)⟩
  | wait alarm next ih =>
      rw [Process.within?]
      split
      · trivial
      · have asleep : Notes fine (.wait alarm next) := notes
        exact ⟨adds_none fun _ => rfl, fun w => asleep.underAlarm _ _⟩

theorem timeout (notes : Notes fine task) (milliseconds : Nat) :
    Notes fine (task.timeout milliseconds) :=
  notes_now.bind fun start => notes.within? milliseconds start

theorem set {tasks : List (Task (σ × List S) α)} (all : ∀ task ∈ tasks, Notes fine task)
    (notes : Notes fine task) (i : Nat) : ∀ other ∈ tasks.set i task, Notes fine other := by
  intro other mem
  rcases List.mem_or_eq_of_mem_set mem with before | rfl
  · exact all other before
  · exact notes

theorem pool {take : Process.Taker τ α} {tasks : List (Task (σ × List S) α)}
    (all : ∀ task ∈ tasks, Notes fine task) (queue : List (Nat × Bool)) (sofar : τ) :
    Notes fine (Process.pool take tasks queue sofar) := by
  fun_induction Process.pool take tasks queue sofar with
  | case1 tasks sofar i rang rest absent ih => exact ih all
  | case2 tasks sofar i rang rest a ended last same => trivial
  | case3 tasks sofar i rang rest a ended last enough same goesOn ih => exact ih all
  | case4 tasks sofar i rang rest change next there ih =>
      obtain ⟨adds, later⟩ := all _ (List.mem_of_getElem? there)
      exact ⟨adds, fun w => ih w (set all (later w) i)⟩
  | case5 tasks sofar i rest alarm next there ih =>
      have later : Notes fine next := all (.wait alarm next) (List.mem_of_getElem? there)
      exact ih (set all later i)
  | case6 tasks sofar i rang rest alarm next there asleep ih => exact ih all
  | case7 tasks sofar silent => trivial
  | case8 tasks sofar alarm i others rings alarm' next there ih =>
      have later : Notes fine next := all (.wait alarm' next) (List.mem_of_getElem? there)
      exact ih (set all later i)
  | case9 tasks sofar alarm i others rings stuck => trivial

theorem gather {take : Process.Taker τ α} {tasks : List (Task (σ × List S) α)}
    (all : ∀ task ∈ tasks, Notes fine task) (init : τ) :
    Notes fine (Process.gather take init tasks) :=
  pool all _ init

theorem composable : Composable fun α (p _ : Task (σ × List S) α) => Notes fine p where
  done _ := trivial
  now := notes_now
  bind notes next := notes.bind next
  timeout milliseconds notes := notes.timeout milliseconds
  gather all := gather (List.forall_mem_map.mpr all) _

/-- The journal of a run goes on with fine sightings. -/
theorem complete (notes : Notes fine task) (w : World (σ × List S)) :
    ∃ more, (Task.complete w task).1.journal = w.journal ++ more ∧
      ∀ sighting ∈ more, fine sighting := by
  induction task generalizing w with
  | done a => exact ⟨[], (List.append_nil _).symm, List.forall_mem_nil _⟩
  | act change next ih =>
      obtain ⟨first, added, firstFine⟩ := notes.1 w
      obtain ⟨more, addedMore, moreFine⟩ := ih w (notes.2 w) (change w)
      refine ⟨first ++ more, ?_, List.forall_mem_append.mpr ⟨firstFine, moreFine⟩⟩
      rw [← List.append_assoc, ← added]
      exact addedMore
  | wait alarm next ih => exact ih notes _

end Notes

end Notes

/-! ## What is shown -/

/--
A watched task shows a task: it takes the same steps and comes to the same
value, apart from steps of its own that only the journal shows.  It is lost
once a sighting is off.
-/
inductive Shows (off : S → Prop) : Task (σ × List S) α → Task σ α → Prop
  | done (a : α) : Shows off (.done a) (.done a)
  | act {change : World (σ × List S) → World (σ × List S)} {change' : World σ → World σ}
      {next : World (σ × List S) → Task (σ × List S) α} {next' : World σ → Task σ α}
      (same : ∀ w, (change w).unwatched = change' w.unwatched)
      (goOn : ∀ w, Shows off (next w) (next' w.unwatched)) :
      Shows off (.act change next) (.act change' next')
  | aside {change : World (σ × List S) → World (σ × List S)}
      {next : World (σ × List S) → Task (σ × List S) α} {task : Task σ α}
      (same : ∀ w, (change w).unwatched = w.unwatched)
      (goOn : ∀ w, Shows off (next w) task) : Shows off (.act change next) task
  | lost {change : World (σ × List S) → World (σ × List S)}
      {next : World (σ × List S) → Task (σ × List S) α} {task : Task σ α}
      (strays : ∀ w, ∃ sighting ∈ (change w).journal, off sighting) :
      Shows off (.act change next) task
  | wait (alarm : Alarm) {next : Task (σ × List S) α} {next' : Task σ α}
      (goOn : Shows off next next') : Shows off (.wait alarm next) (.wait alarm next')

namespace Shows

variable {off : S → Prop} {watched : Task (σ × List S) α} {task : Task σ α}

theorem bind (shows : Shows off watched task) {f : α → Task (σ × List S) β} {g : α → Task σ β}
    (next : ∀ a, Shows off (f a) (g a)) : Shows off (watched.bind f) (task.bind g) := by
  induction shows with
  | done a => exact next a
  | act same goOn ih => exact .act same ih
  | aside same goOn ih => exact .aside same ih
  | lost strays => exact .lost strays
  | wait alarm goOn ih => exact .wait alarm ih

theorem now : Shows off (Process.now : Task (σ × List S) Nat) Process.now :=
  .act (fun _ => rfl) fun w => .done w.now

theorem besides (task : Task σ α) : Shows off (task.besides : Task (σ × List S) α) task := by
  induction task with
  | done a => exact .done a
  | act change next ih => exact .act (fun _ => rfl) fun w => ih w.unwatched
  | wait alarm next ih => exact .wait alarm ih

/-- A note is seen in the journal only. -/
theorem note (sighting : S) {f : Unit → Task (σ × List S) α} (goOn : Shows off (f ()) task) :
    Shows off ((Task.note sighting).bind f) task :=
  .aside (fun _ => rfl) fun _ => goOn

/-- Whatever follows the note of a sighting that is off, the task is lost. -/
theorem note_off {sighting : S} (strays : off sighting) (f : Unit → Task (σ × List S) α)
    (task : Task σ α) : Shows off ((Task.note sighting).bind f) task :=
  .lost fun _ => ⟨sighting, List.mem_append_right _ List.mem_cons_self, strays⟩

theorem underAlarm (shows : Shows off watched task) (limit : Alarm) (now : Nat) :
    Shows off (watched.underAlarm limit now) (task.underAlarm limit now) := by
  induction shows generalizing now with
  | done a => exact .done (some a)
  | act same goOn ih => exact .act same fun w => ih w now
  | aside same goOn ih => exact .aside same fun w => ih w now
  | lost strays => exact .lost strays
  | wait alarm goOn ih =>
      rw [Process.underAlarm, Process.underAlarm]
      split
      · exact .done none
      · split
        · exact .wait _ (ih _)
        · exact .wait limit (.done none)

theorem within? (shows : Shows off watched task) (milliseconds start : Nat) :
    Shows off (watched.within? milliseconds start) (task.within? milliseconds start) := by
  induction shows with
  | done a => exact .done (some a)
  | act same goOn ih => exact .act same ih
  | aside same goOn ih => exact .aside same ih
  | lost strays => exact .lost strays
  | wait alarm goOn ih =>
      rw [Process.within?, Process.within?]
      split
      · exact .done none
      · exact .act (fun _ => rfl) fun w => (Shows.wait alarm goOn).underAlarm _ start

theorem timeout (shows : Shows off watched task) (milliseconds : Nat) :
    Shows off (watched.timeout milliseconds) (task.timeout milliseconds) :=
  now.bind fun start => shows.within? milliseconds start

/-! ## Pools -/

/-- Both wait for the same alarm, unless the watched task can go on by itself. -/
theorem alarm?_eq (shows : Shows off watched task)
    (rests : ∀ change next, watched ≠ .act change next) : watched.alarm? = task.alarm? := by
  cases shows with
  | done a => rfl
  | act same goOn => exact absurd rfl (rests _ _)
  | aside same goOn => exact absurd rfl (rests _ _)
  | lost strays => exact absurd rfl (rests _ _)
  | wait alarm goOn => rfl

theorem alarms_eq {ps : List (Task (σ × List S) α)} {qs : List (Task σ α)}
    (shows : List.Forall₂ (Shows off) ps qs)
    (rest : ∀ p ∈ ps, ∀ change next, p ≠ .act change next) (k : Nat) :
    Process.alarms k ps = Process.alarms k qs := by
  induction shows generalizing k with
  | nil => rfl
  | cons first later ih =>
      obtain ⟨here, rest⟩ := List.forall_mem_cons.mp rest
      rw [Process.alarms, Process.alarms, first.alarm?_eq here, ih rest (k + 1)]

theorem ringing_eq {ps : List (Task (σ × List S) α)} {qs : List (Task σ α)}
    (shows : List.Forall₂ (Shows off) ps qs)
    (rest : ∀ p ∈ ps, ∀ change next, p ≠ .act change next) :
    Process.ringing ps = Process.ringing qs := by
  rw [Process.ringing, Process.ringing, alarms_eq shows rest]

/-- The task at one place goes on while the one that it shows stays. -/
theorem set_left {ps : List (Task (σ × List S) α)} {qs : List (Task σ α)}
    (shows : List.Forall₂ (Shows off) ps qs) {j : Nat} {q : Task σ α} (there : qs[j]? = some q)
    {p : Task (σ × List S) α} (goOn : Shows off p q) :
    List.Forall₂ (Shows off) (ps.set j p) qs := by
  have both := forall₂_set shows goOn j
  obtain ⟨inRange, rfl⟩ := List.getElem?_eq_some_iff.mp there
  rwa [List.set_getElem_self] at both

/-- A pool of watched tasks shows the pool of the tasks that they show. -/
theorem pool {take : Process.Taker τ α} {ps : List (Task (σ × List S) α)} {qs : List (Task σ α)}
    (shows : List.Forall₂ (Shows off) ps qs) {queue : List (Nat × Bool)} {taken : List Nat}
    (attended : Process.Attended ps queue taken) (rung : Process.Rung ps queue) (sofar : τ) :
    Shows off (Process.pool take ps queue sofar) (Process.pool take qs queue sofar) := by
  fun_induction Process.pool take ps queue sofar generalizing qs taken with
  | case1 ps sofar j rang rest absent ih =>
      have absentToo : qs[j]? = none := by
        rw [List.getElem?_eq_none_iff] at absent ⊢
        rwa [← shows.length_eq]
      rw [Process.pool_absent absentToo]
      refine ih shows (attended.drop fun p there => ?_) rung.drop
      cases absent.symm.trans there
  | case2 ps sofar j rang rest a ended last same =>
      obtain ⟨q, there, likewise⟩ := forall₂_getElem? shows ended
      cases likewise
      rw [Process.pool_done there, same]
      exact .done last
  | case3 ps sofar j rang rest a ended last enough same goesOn ih =>
      obtain ⟨q, there, likewise⟩ := forall₂_getElem? shows ended
      cases likewise
      rw [Process.pool_done there, same, if_neg goesOn]
      exact ih shows (attended.take ended) rung.drop
  | case4 ps sofar j rang rest change next here ih =>
      obtain ⟨q, there, likewise⟩ := forall₂_getElem? shows here
      cases likewise with
      | act same goOn =>
          rw [Process.pool_act there]
          exact .act same fun w =>
            ih w (forall₂_set shows (goOn w) j) (attended.goOn _) (rung.goOn attended _)
      | aside same goOn =>
          cases rang with
          -- a task whose alarm rang still waits, and has no step to take by itself
          | true =>
              obtain ⟨_, _, waits⟩ := rung j List.mem_cons_self
              cases waits.symm.trans here
          | false =>
              exact .aside same fun w =>
                ih w (set_left shows there (goOn w)) (attended.goOn _) (rung.goOn attended _)
      | lost strays => exact .lost strays
  | case5 ps sofar j rest alarm next here ih =>
      obtain ⟨q, there, likewise⟩ := forall₂_getElem? shows here
      cases likewise with
      | wait _ goOn =>
          rw [Process.pool_wait there, if_pos rfl]
          exact ih (forall₂_set shows goOn j) (attended.goOn next) (rung.goOn attended next)
  | case6 ps sofar j rang rest alarm next here asleep ih =>
      obtain ⟨q, there, likewise⟩ := forall₂_getElem? shows here
      cases likewise with
      | wait _ goOn =>
          rw [Process.pool_wait there, if_neg asleep]
          refine ih shows (attended.drop fun p also => ?_) rung.drop
          exact ⟨alarm, next, Option.some.inj (also.symm.trans here)⟩
  | case7 ps sofar silent =>
      rw [ringing_eq shows attended.rests] at silent
      rw [Process.pool_over silent]
      exact .done sofar
  | case8 ps sofar alarm j others rings _ next here ih =>
      obtain ⟨_, waits⟩ := Process.getElem?_of_mem_ringing (rings ▸ List.mem_cons_self)
      cases here.symm.trans waits
      have ringsToo := (ringing_eq shows attended.rests).symm.trans rings
      obtain ⟨q, there, likewise⟩ := forall₂_getElem? shows waits
      cases likewise with
      | wait _ goOn =>
          rw [Process.pool_ring ringsToo there]
          exact .wait _ (ih (forall₂_set shows goOn j) ((attended.ring rings).goOn next)
            ((Process.Rung.ring rings).goOn (attended.ring rings) next))
  | case9 ps sofar alarm j others rings stuck =>
      obtain ⟨next, waits⟩ := Process.getElem?_of_mem_ringing (rings ▸ List.mem_cons_self)
      exact absurd waits (stuck alarm next)

theorem gather {take : Process.Taker τ α} {init : τ} {ps : List (Task (σ × List S) α)}
    {qs : List (Task σ α)} (shows : List.Forall₂ (Shows off) ps qs) :
    Shows off (Process.gather take init ps) (Process.gather take init qs) := by
  unfold Process.gather
  rw [← shows.length_eq]
  exact pool shows (.start ps) (.start ps) init

theorem composable : Composable fun α (p : Task (σ × List S) α) q => Shows off p q where
  done := .done
  now := now
  bind shows next := shows.bind next
  timeout milliseconds shows := shows.timeout milliseconds
  gather shows := by
    apply Shows.gather
    rw [List.forall₂_map_left_iff, List.forall₂_map_right_iff, List.forall₂_same]
    exact shows

/-! ## Runs -/

/-- If nothing that is noted is off, a run of the task goes as that of the watched one. -/
theorem complete {fine : S → Prop} (shows : Shows off watched task) (notes : Notes fine watched)
    (w : World (σ × List S))
    (on : ∀ sighting ∈ (Task.complete w watched).1.journal, ¬ off sighting) :
    Task.complete w.unwatched task =
      ((Task.complete w watched).1.unwatched, (Task.complete w watched).2) := by
  induction shows generalizing w with
  | done a => rfl
  | act same goOn ih =>
      have later := ih w (notes.2 w) _ on
      rw [same w] at later
      exact later
  | aside same goOn ih =>
      have later := ih w (notes.2 w) _ on
      rw [same w] at later
      exact later
  | lost strays =>
      obtain ⟨sighting, mem, strayed⟩ := strays w
      obtain ⟨more, added, _⟩ := (notes.2 w).complete _
      refine absurd strayed (on sighting ?_)
      exact added ▸ List.mem_append_left more mem
  | wait alarm goOn ih => exact ih notes _ on

end Shows

end Task

end ActionGraph.Action
