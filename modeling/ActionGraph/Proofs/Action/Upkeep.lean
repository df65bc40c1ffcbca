import ActionGraph.Action.World
import ActionGraph.Proofs.Process.Endings

/-!
# What tasks maintain

A task maintains a property of the world if each of its steps does, whatever
happens between them that maintains it too.  So it does in any company, and
when it runs to its end by itself.
-/

namespace ActionGraph.Action.Task

variable {σ α β : Type}

/-- Whatever time passes, the property of the world stays. -/
def Lasts (I : World σ → Prop) : Prop :=
  ∀ w milliseconds, I w → I (w.advance milliseconds)

/--
The property of the world holds after every step of the task that finds it,
and lasts while the task waits; every value that the task comes to has the
other one.
-/
def Maintains (I : World σ → Prop) (P : α → Prop) : Task σ α → Prop
  | .done a => P a
  | .act change next => ∀ w, I w → I (change w) ∧ Maintains I P (next w)
  | .wait _ next => Lasts I ∧ Maintains I P next

namespace Maintains

variable {I J : World σ → Prop} {P Q : α → Prop} {task : Task σ α}

theorem mono (weaker : ∀ a, P a → Q a) (maintains : Maintains I P task) :
    Maintains I Q task := by
  induction task with
  | done a => exact weaker a maintains
  | act change next ih =>
      exact fun w holds => ⟨(maintains w holds).1, ih w (maintains w holds).2⟩
  | wait alarm next ih => exact ⟨maintains.1, ih maintains.2⟩

theorem and (first : Maintains I P task) (second : Maintains J Q task) :
    Maintains (fun w => I w ∧ J w) (fun a => P a ∧ Q a) task := by
  induction task with
  | done a => exact ⟨first, second⟩
  | act change next ih =>
      rintro w ⟨holds, holdsToo⟩
      obtain ⟨kept, later⟩ := first w holds
      obtain ⟨keptToo, laterToo⟩ := second w holdsToo
      exact ⟨⟨kept, keptToo⟩, ih w later laterToo⟩
  | wait alarm next ih =>
      refine ⟨fun w milliseconds holds => ?_, ih first.2 second.2⟩
      exact ⟨first.1 w milliseconds holds.1, second.1 w milliseconds holds.2⟩

theorem bind {P : α → Prop} {Q : β → Prop} {f : α → Task σ β} (maintains : Maintains I P task)
    (next : ∀ a, P a → Maintains I Q (f a)) : Maintains I Q (task.bind f) := by
  induction task with
  | done a => exact next a maintains
  | act change rest ih =>
      exact fun w holds => ⟨(maintains w holds).1, ih w (maintains w holds).2⟩
  | wait alarm rest ih => exact ⟨maintains.1, ih maintains.2⟩

/-- A task that runs by itself leaves the property, and comes to what it can. -/
theorem complete (maintains : Maintains I P task) {w : World σ} (holds : I w) :
    I (Task.complete w task).1 ∧ P (Task.complete w task).2 := by
  induction task generalizing w with
  | done a => exact ⟨holds, maintains⟩
  | act change next ih => exact ih w (maintains w holds).2 (maintains w holds).1
  | wait alarm next ih => exact ih maintains.2 (maintains.1 w _ holds)

end Maintains

theorem maintains_modify {I : World σ → Prop} {P : α → Prop} {f : World σ → α × World σ}
    (step : ∀ w, I w → I (f w).2 ∧ P (f w).1) : Maintains I P (Process.modify f) :=
  fun w holds => step w holds

/-- A task that reads the clock maintains everything. -/
theorem maintains_now {I : World σ → Prop} {P : Nat → Prop} (clock : ∀ w, I w → P w.now) :
    Maintains I P (Process.now : Task σ Nat) :=
  fun w holds => ⟨holds, clock w holds⟩

/-! ## Tasks that leave a part of the world alone -/

/-- Every step of the task leaves a part of the world as it is. -/
def Spares (part : World σ → β) : Task σ α → Prop
  | .done _ => True
  | .act change next => ∀ w, part (change w) = part w ∧ Spares part (next w)
  | .wait _ next => Spares part next

def Instant : Task σ α → Prop
  | .done _ => True
  | .act _ next => ∀ w, Instant (next w)
  | .wait _ _ => False

section Spares

variable {part : World σ → β} {K : β → Prop} {P : α → Prop} {task : Task σ α}

/-- What is said of that part is maintained. -/
theorem Spares.maintains (spares : Spares part task) (ends : Process.Ends P task)
    (lasts : Lasts fun w => K (part w)) : Maintains (fun w => K (part w)) P task := by
  induction task with
  | done a => exact ends
  | act change next ih =>
      intro w holds
      obtain ⟨same, later⟩ := spares w
      exact ⟨(congrArg K same).mpr holds, ih w later (ends w)⟩
  | wait alarm next ih => exact ⟨lasts, ih spares ends⟩

/-- Where there is no wait, it need not last. -/
theorem Spares.maintains_of_instant (spares : Spares part task) (instant : Instant task) :
    Maintains (fun w => K (part w)) (fun _ => True) task := by
  induction task with
  | done a => trivial
  | act change next ih =>
      intro w holds
      obtain ⟨same, later⟩ := spares w
      exact ⟨(congrArg K same).mpr holds, ih w later (instant w)⟩
  | wait alarm next ih => exact instant.elim

/-- A task that runs by itself leaves that part as it is, if the clock is none of it. -/
theorem Spares.complete (spares : Spares part task)
    (apart : ∀ w milliseconds, part (w.advance milliseconds) = part w) (w : World σ) :
    part (Task.complete w task).1 = part w := by
  induction task generalizing w with
  | done a => rfl
  | act change next ih => exact (ih w (spares w).2 _).trans (spares w).1
  | wait alarm next ih => exact (ih spares _).trans (apart w _)

end Spares

end ActionGraph.Action.Task
