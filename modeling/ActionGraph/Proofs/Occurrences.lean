import Mathlib.Data.List.Basic

/-!
# First occurrences

Which of two elements of a list occurs first does not depend on elements that
are left out, nor on what is repeated later.
-/

namespace ActionGraph

section Occurrences

variable {α : Type} [DecidableEq α] {l : List α} {a b : α}

/-- What is left out does not change which of two elements occurs first. -/
theorem idxOf_filter_lt_iff {p : α → Bool} (keepsA : p a = true) (keepsB : p b = true) :
    (l.filter p).idxOf a < (l.filter p).idxOf b ↔ l.idxOf a < l.idxOf b := by
  induction l with
  | nil => exact Iff.rfl
  | cons head rest ih =>
      by_cases there : head = b
      · subst there
        rw [List.filter_cons_of_pos keepsB, List.idxOf_cons_self, List.idxOf_cons_self]
        exact iff_of_false (Nat.not_lt_zero _) (Nat.not_lt_zero _)
      · by_cases here : head = a
        · subst here
          rw [List.filter_cons_of_pos keepsA, List.idxOf_cons_self, List.idxOf_cons_self,
            List.idxOf_cons_ne _ there, List.idxOf_cons_ne _ there]
          exact iff_of_true (Nat.succ_pos _) (Nat.succ_pos _)
        · rw [List.idxOf_cons_ne _ here, List.idxOf_cons_ne _ there, Nat.succ_lt_succ_iff, ← ih]
          cases kept : p head with
          | true =>
              rw [List.filter_cons_of_pos kept, List.idxOf_cons_ne _ here,
                List.idxOf_cons_ne _ there, Nat.succ_lt_succ_iff]
          | false => rw [List.filter_cons_of_neg (Bool.eq_false_iff.mp kept)]

/-- Where repetitions are left out, the first occurrences stay, in order. -/
theorem pairwise_eraseDups (l : List α) :
    l.eraseDups.Pairwise fun a b => l.idxOf a < l.idxOf b := by
  match l with
  | [] => exact .nil
  | head :: rest =>
      let others : α → Bool := fun b => !b == head
      have other : ∀ a ∈ (rest.filter others).eraseDups, others a = true ∧ head ≠ a := by
        intro a mem
        have kept := (List.mem_filter.mp (List.mem_eraseDups.mp mem)).2
        refine ⟨kept, ?_⟩
        rintro rfl
        simp [others] at kept
      rw [List.eraseDups_cons]
      refine List.pairwise_cons.mpr ⟨fun a mem => ?_, ?_⟩
      · rw [List.idxOf_cons_self, List.idxOf_cons_ne _ (other a mem).2]
        exact Nat.succ_pos _
      · refine (pairwise_eraseDups (rest.filter others)).imp_of_mem ?_
        intro a b memA memB before
        obtain ⟨keepsA, notA⟩ := other a memA
        obtain ⟨keepsB, notB⟩ := other b memB
        rw [List.idxOf_cons_ne _ notA, List.idxOf_cons_ne _ notB]
        exact Nat.succ_lt_succ ((idxOf_filter_lt_iff keepsA keepsB).mp before)
termination_by l.length
decreasing_by exact Nat.lt_succ_of_le (List.length_filter_le _ _)

end Occurrences

end ActionGraph
