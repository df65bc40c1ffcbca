import ActionGraph.Proofs.Action.Likeness
import Mathlib.Logic.Function.Basic

/-!
# Tasks that run side by side

Tasks share a world, and each has a clock of its own.  In a course of them any
task may take its next step at any time, so that they may end in any order.
Tasks that keep to shares of their own end in every course with the values
with which they end alone.
-/

namespace ActionGraph

namespace Process

/-- Take values in order until they are enough. -/
def takeAll {α τ : Type} (take : Taker τ α) (sofar : τ) : List (Nat × α) → τ
  | [] => sofar
  | (i, a) :: rest =>
      if (take sofar i a).2 then (take sofar i a).1 else takeAll take (take sofar i a).1 rest

end Process

namespace Action

def World.atTime {σ : Type} (w : World σ) (time : Nat) : World σ :=
  { w with now := time }

theorem World.atTime_now {σ : Type} (w : World σ) : w.atTime w.now = w :=
  rfl

namespace Task

variable {σ V α τ : Type}

/-! ## Courses -/

/-- A task on its way, and the time of its own clock. -/
structure Strand (σ α : Type) where
  clock : Nat
  rest : Task σ α

/-- Tasks on their way by their places; those that ended are gone. -/
abbrev Strands (σ α : Type) :=
  Nat → Option (Strand σ α)

/--
A course of tasks to their ends, which are told in the order in which they
come.  Whose turn it is and how long it takes to come is left open.
-/
inductive Course : World σ → Strands σ α → List (Nat × α) → Prop
  | nil {w : World σ} {strands : Strands σ α} (gone : ∀ i, strands i = none) :
      Course w strands []
  | act {w : World σ} {strands : Strands σ α} {ends : List (Nat × α)} {i clock : Nat}
      {change : World σ → World σ} {next : World σ → Task σ α}
      (here : strands i = some ⟨clock, .act change next⟩)
      (goOn : Course (change (w.atTime clock))
        (Function.update strands i
          (some ⟨(change (w.atTime clock)).now, next (w.atTime clock)⟩)) ends) :
      Course w strands ends
  | wait {w : World σ} {strands : Strands σ α} {ends : List (Nat × α)} {i clock : Nat}
      {alarm : Alarm} {next : Task σ α} (here : strands i = some ⟨clock, .wait alarm next⟩)
      (goOn : Course w (Function.update strands i (some ⟨max clock alarm.due, next⟩)) ends) :
      Course w strands ends
  | finish {w : World σ} {strands : Strands σ α} {ends : List (Nat × α)} {i clock : Nat} {a : α}
      (here : strands i = some ⟨clock, .done a⟩)
      (goOn : Course w (Function.update strands i none) ends) :
      Course w strands ((i, a) :: ends)

namespace Course

variable {w : World σ} {strands : Strands σ α} {ends : List (Nat × α)}

/-- The world has no time but that of each task. -/
theorem at_time (course : Course w strands ends) (time : Nat) :
    Course (w.atTime time) strands ends := by
  induction course with
  | nil gone => exact .nil gone
  | act here goOn ih => exact .act here goOn
  | wait here goOn ih => exact .wait here ih
  | finish here goOn ih => exact .finish here ih

theorem isSome_update_some {i : Nat} (here : (strands i).isSome) (strand : Strand σ α) (j : Nat) :
    (Function.update strands i (some strand) j).isSome = (strands j).isSome := by
  rw [Function.update_apply]
  split
  · rename_i same
    rw [same, here]
    rfl
  · rfl

/-- Each task ends once. -/
theorem places (course : Course w strands ends) :
    (ends.map (·.1)).Nodup ∧ ∀ i, i ∈ ends.map (·.1) ↔ (strands i).isSome := by
  induction course with
  | nil gone => exact ⟨List.nodup_nil, fun i => by simp [gone i]⟩
  | act here goOn ih =>
      refine ⟨ih.1, fun j => (ih.2 j).trans ?_⟩
      rw [isSome_update_some (by rw [here]; rfl)]
  | wait here goOn ih =>
      refine ⟨ih.1, fun j => (ih.2 j).trans ?_⟩
      rw [isSome_update_some (by rw [here]; rfl)]
  | @finish _ _ _ i _ a here goOn ih =>
      have after := ih.2
      refine ⟨List.nodup_cons.mpr ⟨fun again => ?_, ih.1⟩, fun j => ?_⟩
      · have known := (after i).mp again
        rw [Function.update_self] at known
        cases known
      · rw [List.map_cons, List.mem_cons, after]
        by_cases same : j = i
        · subst same
          simp [here]
        · simp [same]

/-- A task may run to its end before all others go on. -/
theorem ahead {i : Nat} {others : Strands σ α} {order : List Nat}
    (later : ∀ w, ∃ ends, Course w others ends ∧ ends.map (·.1) = order) (p : Task σ α)
    (w : World σ) (clock : Nat) (strands : Strands σ α)
    (here : strands i = some ⟨clock, p⟩) (rest : Function.update strands i none = others) :
    ∃ ends, Course w strands ends ∧ ends.map (·.1) = i :: order := by
  induction p generalizing w clock strands with
  | done a =>
      obtain ⟨ends, course, places⟩ := later w
      exact ⟨(i, a) :: ends, .finish here (rest ▸ course), congrArg (i :: ·) places⟩
  | act change next ih =>
      obtain ⟨ends, course, places⟩ := ih (w.atTime clock)
        (change (w.atTime clock)) (change (w.atTime clock)).now _
        (Function.update_self ..) ((Function.update_idem ..).trans rest)
      exact ⟨ends, .act here course, places⟩
  | wait alarm next ih =>
      obtain ⟨ends, course, places⟩ := ih w (max clock alarm.due) _ (Function.update_self ..)
        ((Function.update_idem ..).trans rest)
      exact ⟨ends, .wait here course, places⟩

/-- Tasks may end in any order. -/
theorem exists_of_order {order : List Nat} (apart : order.Nodup) (w : World σ)
    (strands : Strands σ α) (all : ∀ i, i ∈ order ↔ (strands i).isSome) :
    ∃ ends, Course w strands ends ∧ ends.map (·.1) = order := by
  induction order generalizing w strands with
  | nil =>
      refine ⟨[], .nil fun i => ?_, rfl⟩
      exact Option.not_isSome_iff_eq_none.mp fun known => List.not_mem_nil ((all i).mpr known)
  | cons i rest ih =>
      rw [List.nodup_cons] at apart
      obtain ⟨strand, here⟩ := Option.isSome_iff_exists.mp ((all i).mp List.mem_cons_self)
      refine ahead (fun w => ih apart.2 w (Function.update strands i none) fun j => ?_) strand.rest
        w strand.clock strands here rfl
      by_cases same : j = i
      · subst same
        simp [apart.1]
      · rw [Function.update_of_ne same, ← all, List.mem_cons]
        exact ⟨.inr, fun mem => mem.resolve_left same⟩

end Course

/-! ## Tasks that keep to their shares -/

/-- What is left of a task goes as it does alone, where it ends with a value. -/
def Fated (shares : Shares σ V) (i : Nat) (w : World σ) (strand : Strand σ α) (a : α) : Prop :=
  ∃ r alone v, Alike shares i r strand.rest alone ∧
    World.Matched shares i r (w.atTime strand.clock) v ∧ (alone.complete v).2 = a

namespace Fated

variable {shares : Shares σ V} {i j count clock : Nat} {w w' : World σ} {a b : α}

theorem start {p : Task σ α} (keeps : KeepsTo shares i p) (w : World σ) :
    Fated shares i w ⟨w.now, p⟩ (p.complete w).2 :=
  ⟨_, p, w, keeps, ⟨rfl, rfl, fits_none _ _⟩, rfl⟩

theorem done (fated : Fated shares i w ⟨clock, .done a⟩ b) : a = b := by
  obtain ⟨r, alone, v, alike, matched, ends⟩ := fated
  cases alike
  exact ends

theorem act {change : World σ → World σ} {next : World σ → Task σ α}
    (fated : Fated shares i w ⟨clock, .act change next⟩ a) :
    Fated shares i (change (w.atTime clock))
        ⟨(change (w.atTime clock)).now, next (w.atTime clock)⟩ a ∧
      ∃ count, World.Tame shares i count (w.atTime clock)
        (change (w.atTime clock)) := by
  obtain ⟨r, alone, v, alike, matched, ends⟩ := fated
  cases alike with
  | act count tame same goOn =>
      obtain ⟨first, second⟩ := tame _ _ matched
      refine ⟨⟨_, _, _, goOn _ _ matched, ⟨?_, same _ _ matched, ?_⟩, ends⟩, _, first⟩
      · exact first.now.trans (matched.now.trans second.now.symm)
      · change Fits _ (change (w.atTime clock)).alarms _
        dsimp only at first
        rw [first.alarms, second.alarms]
        exact matched.alarms.setMore _

theorem wait {alarm : Alarm} {next : Task σ α}
    (fated : Fated shares i w ⟨clock, .wait alarm next⟩ a) :
    Fated shares i w ⟨max clock alarm.due, next⟩ a := by
  obtain ⟨r, alone, v, alike, matched, ends⟩ := fated
  cases alike with
  | wait related goOn =>
      refine ⟨r, _, v.advance _, goOn, ⟨?_, matched.share, matched.alarms⟩, ends⟩
      have now : clock = v.now := matched.now
      have due := related.due
      change max clock alarm.due = v.now + (_ - v.now)
      omega

/-- What the owner of another share does is not noticed. -/
theorem elsewhere {strand : Strand σ α} (fated : Fated shares i w strand a)
    (tame : World.Tame shares j count (w.atTime clock) w') (other : i ≠ j) :
    Fated shares i w' strand a := by
  obtain ⟨r, alone, v, alike, matched, ends⟩ := fated
  refine ⟨r, alone, v, alike, ⟨matched.now, ?_, ?_⟩, ends⟩
  · exact (tame.others i other).trans matched.share
  · refine matched.alarms.later ?_ (Nat.le_refl _)
    exact tame.alarms ▸ Nat.le_add_right w.alarms count

end Fated

/-- Each task goes as it does alone. -/
def Abreast (shares : Shares σ V) (fates : Nat → α) (w : World σ) (strands : Strands σ α) :
    Prop :=
  ∀ i strand, strands i = some strand → Fated shares i w strand (fates i)

namespace Abreast

variable {shares : Shares σ V} {fates : Nat → α} {w : World σ} {strands : Strands σ α}
  {i clock : Nat}

theorem at_time (abreast : Abreast shares fates w strands) (time : Nat) :
    Abreast shares fates (w.atTime time) strands :=
  abreast

/-- One task went on, and the others go as before. -/
theorem put {strand : Strand σ α} (fated : Fated shares i w strand (fates i))
    (others : ∀ j other, strands j = some other → j ≠ i → Fated shares j w other (fates j)) :
    Abreast shares fates w (Function.update strands i (some strand)) := by
  intro j other there
  rw [Function.update_apply] at there
  split at there
  · rename_i same
    cases there
    exact same ▸ fated
  · rename_i ne
    exact others j other there ne

theorem drop (abreast : Abreast shares fates w strands) (i : Nat) :
    Abreast shares fates w (Function.update strands i none) := by
  intro j other there
  rw [Function.update_apply] at there
  split at there
  · cases there
  · exact abreast j other there

theorem act {change : World σ → World σ} {next : World σ → Task σ α}
    (abreast : Abreast shares fates w strands)
    (here : strands i = some ⟨clock, .act change next⟩) :
    Abreast shares fates (change (w.atTime clock))
      (Function.update strands i
        (some ⟨(change (w.atTime clock)).now, next (w.atTime clock)⟩)) := by
  obtain ⟨fated, count, tame⟩ := (abreast i _ here).act
  exact put fated fun j other there ne => (abreast j other there).elsewhere tame ne

theorem wait {alarm : Alarm} {next : Task σ α} (abreast : Abreast shares fates w strands)
    (here : strands i = some ⟨clock, .wait alarm next⟩) :
    Abreast shares fates w
      (Function.update strands i (some ⟨max clock alarm.due, next⟩)) :=
  put (abreast i _ here).wait fun j other there _ => abreast j other there

end Abreast

/-- In every course each task ends as it does alone. -/
theorem Course.fated {shares : Shares σ V} {fates : Nat → α} {w : World σ}
    {strands : Strands σ α} {ends : List (Nat × α)} (course : Course w strands ends)
    (abreast : Abreast shares fates w strands) : ∀ one ∈ ends, one.2 = fates one.1 := by
  induction course with
  | nil gone => exact List.forall_mem_nil _
  | act here goOn ih => exact ih (abreast.act here)
  | wait here goOn ih => exact ih (abreast.wait here)
  | finish here goOn ih =>
      exact List.forall_mem_cons.mpr ⟨(abreast _ _ here).done, ih (abreast.drop _)⟩

end Task

end Action

end ActionGraph
