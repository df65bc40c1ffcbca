import Mathlib.Data.List.Nodup
import Mathlib.Data.List.Perm.Subperm

/-!
# Places below a bound

Different places below a bound are at most as many as the bound, and as many
as the bound exactly if they are all the places below it.
-/

namespace ActionGraph

section Places

variable {places : List Nat} {count : Nat} (apart : places.Nodup)
  (inRange : ∀ i ∈ places, i < count)
include apart inRange

theorem subperm_range : places.Subperm (List.range count) :=
  List.subperm_of_subset apart fun i mem => List.mem_range.mpr (inRange i mem)

theorem length_le_of_apart : places.length ≤ count := by
  simpa using (subperm_range apart inRange).length_le

theorem perm_range_iff_length : places.Perm (List.range count) ↔ places.length = count := by
  refine ⟨fun perm => perm.length_eq.trans List.length_range, fun full => ?_⟩
  exact (subperm_range apart inRange).perm_of_length_le (by simp [full])

theorem perm_range_iff_covers :
    places.Perm (List.range count) ↔ ∀ i < count, i ∈ places := by
  rw [List.perm_ext_iff_of_nodup apart List.nodup_range]
  refine ⟨fun same i bound => (same i).mpr (List.mem_range.mpr bound), fun covers i => ?_⟩
  exact ⟨fun mem => List.mem_range.mpr (inRange i mem),
    fun mem => covers i (List.mem_range.mp mem)⟩

theorem length_eq_iff_covers : places.length = count ↔ ∀ i < count, i ∈ places :=
  (perm_range_iff_length apart inRange).symm.trans (perm_range_iff_covers apart inRange)

end Places

end ActionGraph
