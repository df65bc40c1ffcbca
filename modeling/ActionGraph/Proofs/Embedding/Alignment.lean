import ActionGraph.Proofs.Action.Services
import Mathlib.Data.List.Perm.Subperm

/-!
# Vectors and the texts they belong to

If every vector of a reply is tagged with the place of its text, the vectors
are put in the order of their tags.  So each comes to its text exactly if every
place is tagged once.  Whether it is, nobody looks: a reply with as many
vectors as there are texts is accepted.
-/

namespace ActionGraph.Embedding.Remote.Tagged

/-- The vector at each place is one that is tagged with it. -/
def Aligned (data : List Tagged) (expected : Nat) (vectors : List Vector) : Prop :=
  ∀ i < expected, ∃ tagged ∈ data, tagged.place = some i ∧ vectors[i]? = some tagged.vector

/-- Every place is tagged once, and nothing else is a tag. -/
def Permuted (data : List Tagged) (expected : Nat) : Prop :=
  (data.map (·.place)).Perm ((List.range expected).map some)

def tag (tagged : Tagged) : Nat :=
  tagged.place.getD 0

theorem accepted_iff (data : List Tagged) (expected : Nat) :
    (∃ vectors, ordered data expected = .ok vectors) ↔ data.length = expected :=
  ⟨fun ⟨_, answered⟩ => (ordered_eq_ok answered).1, exists_ordered⟩

theorem tags_pairwise (data : List Tagged) :
    ((data.mergeSort notBehind).map tag).Pairwise (· ≤ ·) := by
  have notBehind_iff (a b : Tagged) : notBehind a b = true ↔ a.tag ≤ b.tag := decide_eq_true_iff
  have sorted : (data.mergeSort notBehind).Pairwise fun a b => notBehind a b = true := by
    refine List.pairwise_mergeSort (fun a b c => ?_) (fun a b => ?_) data
    · simp only [notBehind_iff]
      exact Nat.le_trans
    · simp only [Bool.or_eq_true, notBehind_iff]
      exact Nat.le_total _ _
  exact List.pairwise_map.mpr (sorted.imp fun first => (notBehind_iff _ _).mp first)

section Complete

variable {data : List Tagged} {expected : Nat} {vectors : List Vector}
  (complete : ∀ tagged ∈ data, tagged.place.isSome = true)
include complete

theorem place_eq {tagged : Tagged} (mem : tagged ∈ data) : tagged.place = some tagged.tag := by
  obtain ⟨i, place⟩ := Option.isSome_iff_exists.mp (complete tagged mem)
  rw [tag, place]
  rfl

theorem permuted_iff : Permuted data expected ↔ (data.map tag).Perm (List.range expected) := by
  have places : data.map (·.place) = (data.map tag).map some := by
    rw [List.map_map]
    exact List.map_congr_left fun tagged mem => place_eq complete mem
  rw [Permuted, places, List.map_perm_map_iff (Option.some_injective Nat)]

theorem ordered_of_complete (answered : ordered data expected = .ok vectors) :
    vectors = (data.mergeSort notBehind).map (·.vector) := by
  unfold ordered at answered
  split at answered
  · cases answered
  · rw [if_pos (List.all_eq_true.mpr complete)] at answered
    exact (Except.ok.inj answered).symm

/-- If every place is tagged once, the tags are put in the order of the places. -/
theorem tags_of_permuted (permuted : Permuted data expected) :
    (data.mergeSort notBehind).map tag = List.range expected := by
  have perm := ((List.mergeSort_perm data notBehind).map tag).trans
    ((permuted_iff complete).mp permuted)
  exact perm.eq_of_pairwise (fun _ _ _ _ => Nat.le_antisymm) (tags_pairwise data)
    List.pairwise_le_range

theorem aligned_of_permuted (permuted : Permuted data expected)
    (answered : ordered data expected = .ok vectors) : Aligned data expected vectors := by
  intro i below
  have there : ((data.mergeSort notBehind).map tag)[i]? = some i := by
    rw [tags_of_permuted complete permuted, List.getElem?_range below]
  rw [List.getElem?_map, Option.map_eq_some_iff] at there
  obtain ⟨tagged, there, same⟩ := there
  have mem : tagged ∈ data := List.mem_mergeSort.mp (List.mem_of_getElem? there)
  refine ⟨tagged, mem, same ▸ place_eq complete mem, ?_⟩
  rw [ordered_of_complete complete answered, List.getElem?_map, there]
  rfl

/-- Vectors that come to all places take up all tags, since there are no more of them. -/
theorem permuted_of_aligned (aligned : Aligned data expected vectors)
    (enough : data.length = expected) : Permuted data expected := by
  have covers : List.range expected ⊆ data.map tag := by
    intro i mem
    obtain ⟨tagged, there, place, -⟩ := aligned i (List.mem_range.mp mem)
    rw [place_eq complete there, Option.some.injEq] at place
    exact place ▸ List.mem_map_of_mem there
  have fits : (List.range expected).Subperm (data.map tag) :=
    List.subperm_of_subset List.nodup_range covers
  refine (permuted_iff complete).mpr (fits.perm_of_length_le ?_).symm
  rw [List.length_map, List.length_range, enough]

/--
A reply all of whose vectors are tagged is accepted exactly if there are as
many as texts.  Then the vectors come to the texts that they are tagged with
exactly if every place is tagged once.
-/
theorem aligned_iff_permuted (expected : Nat) :
    ((∃ vectors, ordered data expected = .ok vectors) ↔ data.length = expected) ∧
      (Permuted data expected → data.length = expected) ∧
      ∀ vectors, ordered data expected = .ok vectors →
        (Aligned data expected vectors ↔ Permuted data expected) := by
  refine ⟨accepted_iff data expected, fun permuted => ?_, fun vectors answered => ?_⟩
  · simpa using permuted.length_eq
  · refine ⟨fun aligned => ?_, fun permuted => aligned_of_permuted complete permuted answered⟩
    exact permuted_of_aligned complete aligned (ordered_eq_ok answered).1

end Complete

/-- Two vectors, the one of the second text before that of the first. -/
def swappedPair : List Tagged :=
  [⟨some 1, [⟨0⟩]⟩, ⟨some 0, [⟨0x3f800000⟩]⟩]

theorem aligned_iff_of_swappedPair :
    (∀ tagged ∈ swappedPair, tagged.place.isSome = true) ∧
      ordered swappedPair 2 = .ok [[⟨0x3f800000⟩], [⟨0⟩]] ∧
      Aligned swappedPair 2 [[⟨0x3f800000⟩], [⟨0⟩]] :=
  have complete : ∀ tagged ∈ swappedPair, tagged.place.isSome = true := by decide
  have answered : ordered swappedPair 2 = .ok [[⟨0x3f800000⟩], [⟨0⟩]] := by
    simp [ordered, swappedPair, List.mergeSort, notBehind]
  have permuted : Permuted swappedPair 2 := List.Perm.swap _ _ _
  ⟨complete, answered, ((aligned_iff_permuted complete 2).2.2 _ answered).mpr permuted⟩

def repeatedPlace : List Tagged :=
  [⟨some 0, [⟨0x3f800000⟩]⟩, ⟨some 0, [⟨0⟩]⟩]

/-- A place may be tagged twice, and then a text gets a vector that belongs to another one. -/
theorem repeatedPlace_accepted :
    (∀ tagged ∈ repeatedPlace, tagged.place.isSome = true) ∧ ¬ Permuted repeatedPlace 2 ∧
      ordered repeatedPlace 2 = .ok [[⟨0x3f800000⟩], [⟨0⟩]] ∧
      ¬ Aligned repeatedPlace 2 [[⟨0x3f800000⟩], [⟨0⟩]] := by
  have untagged : ∀ tagged ∈ repeatedPlace, tagged.place ≠ some 1 := by decide
  refine ⟨by decide, ?_, ?_, fun aligned => ?_⟩
  · unfold Permuted
    decide
  · simp [ordered, repeatedPlace, List.mergeSort, notBehind]
  · obtain ⟨tagged, mem, place, -⟩ := aligned 1 Nat.one_lt_two
    exact untagged tagged mem place

end ActionGraph.Embedding.Remote.Tagged
