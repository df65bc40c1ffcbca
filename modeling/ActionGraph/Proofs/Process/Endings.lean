import ActionGraph.Process.Pool
import ActionGraph.Process.Timeout

/-!
# Endings of processes

What is said here of the values a process ends with holds whatever the world
is at each of its actions, and however long its waits take.
-/

namespace ActionGraph.Process

variable {W α β : Type}

/-- Every value that the process can end with has the property. -/
def Ends (P : α → Prop) : Process W α → Prop
  | .done a => P a
  | .act _ next => ∀ w, (next w).Ends P
  | .wait _ next => next.Ends P

theorem Ends.mono {P Q : α → Prop} (weaker : ∀ a, P a → Q a) {p : Process W α}
    (ends : p.Ends P) : p.Ends Q := by
  induction p with
  | done a => exact weaker a ends
  | act change next ih => exact fun w => ih w (ends w)
  | wait alarm next ih => exact ih ends

theorem Ends.and {P Q : α → Prop} {p : Process W α} (first : p.Ends P) (second : p.Ends Q) :
    p.Ends fun a => P a ∧ Q a := by
  induction p with
  | done a => exact ⟨first, second⟩
  | act change next ih => exact fun w => ih w (first w) (second w)
  | wait alarm next ih => exact ih first second

theorem Ends.bind {P : α → Prop} {Q : β → Prop} {p : Process W α} {f : α → Process W β}
    (ends : p.Ends P) (next : ∀ a, P a → (f a).Ends Q) : (p.bind f).Ends Q := by
  induction p with
  | done a => exact next a ends
  | act change rest ih => exact fun w => ih w (ends w)
  | wait alarm rest ih => exact ih ends

theorem ends_true (p : Process W α) : p.Ends fun _ => True := by
  induction p with
  | done a => trivial
  | act change next ih => exact ih
  | wait alarm next ih => exact ih

/-- What follows a process is enough, whatever that process ends with. -/
theorem ends_bind_of_forall {Q : β → Prop} (p : Process W α) {f : α → Process W β}
    (next : ∀ a, (f a).Ends Q) : (p.bind f).Ends Q :=
  (ends_true p).bind fun a _ => next a

/-- Some run of the process ends with the value. -/
def MayEnd : Process W α → α → Prop
  | .done a, b => a = b
  | .act _ next, b => ∃ w, (next w).MayEnd b
  | .wait _ next, b => next.MayEnd b

theorem ends_mayEnd (p : Process W α) : p.Ends p.MayEnd := by
  induction p with
  | done a => exact rfl
  | act change next ih => exact fun w => (ih w).mono fun a ends => ⟨w, ends⟩
  | wait alarm next ih => exact ih

/-- A process on its way can only end as it could before. -/
theorem Ends.of_child {P : α → Prop} {p q : Process W α} (ends : p.Ends P)
    (child : Child q p) : q.Ends P := by
  cases child with
  | act change next w => exact ends w
  | wait alarm next => exact ends

section Limits

def InTime (P : α → Prop) (result : Option α) : Prop :=
  ∀ a, result = some a → P a

theorem InTime.some {P : α → Prop} {a : α} (holds : P a) : InTime P (some a) := by
  rintro _ ⟨⟩
  exact holds

theorem InTime.none {P : α → Prop} : InTime P none := by
  rintro _ ⟨⟩

variable {P : α → Prop} {p : Process W α}

theorem Ends.underAlarm (ends : p.Ends P) (limit : Alarm) (now : Nat) :
    (p.underAlarm limit now).Ends (InTime P) := by
  induction p generalizing now with
  | done a => exact .some ends
  | act change next ih => exact fun w => ih w (ends w) now
  | wait alarm next ih =>
      rw [Process.underAlarm]
      split
      · exact .none
      · split
        · exact ih ends _
        · exact .none

theorem Ends.within? [Clocked W] (ends : p.Ends P) (milliseconds start : Nat) :
    (p.within? milliseconds start).Ends (InTime P) := by
  induction p with
  | done a => exact .some ends
  | act change next ih => exact fun w => ih w (ends w)
  | wait alarm next ih =>
      rw [Process.within?]
      split
      · exact .none
      · intro w
        exact Ends.underAlarm (p := .wait alarm next) ends _ _

/-- A time limit adds only the end without a value. -/
theorem Ends.timeout [Clocked W] (ends : p.Ends P) (milliseconds : Nat) :
    (p.timeout milliseconds).Ends (InTime P) :=
  ends_bind_of_forall _ fun start => ends.within? milliseconds start

end Limits

end ActionGraph.Process
