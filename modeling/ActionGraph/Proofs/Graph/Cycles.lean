import Mathlib.Data.Set.Card
import ActionGraph.Proofs.Graph.Compilation

/-!
# Cycles

A definition with a cycle is refused, with the count of the nodes that can be
ordered all the same: those that are on no cycle and that no cycle leads to.
-/

namespace ActionGraph.Graph.Definition

section Valid

variable {d : Definition} (valid : d.Valid)
include valid

/-- A node can be ordered by arcs exactly if it can be ordered by edges. -/
theorem orderable_follows_iff {i : Nat} {id : String} (found : d.ids[i]? = some id) :
    Orderable (Follows d.arcs) i ↔ Orderable d.Leads id := by
  have named : d.ids.getD i "" = id := by
    rw [List.getD_eq_getElem?_getD, found, Option.getD_some]
  have placed : d.ids.idxOf id = i :=
    index_eq_of_nodup valid.distinct (List.getElem?_idxOf (List.mem_of_getElem? found)) found
  constructor
  · rintro ⟨notOnCycle, notReached⟩
    refine ⟨fun back => ?_, fun c back path => ?_⟩
    · exact notOnCycle (placed ▸ transGen_follows_of_leads valid back)
    · exact notReached (d.ids.idxOf c) (transGen_follows_of_leads valid back)
        (placed ▸ transGen_follows_of_leads valid path)
  · rintro ⟨notOnCycle, notReached⟩
    refine ⟨fun back => ?_, fun c back path => ?_⟩
    · exact notOnCycle (named ▸ transGen_leads_of_follows valid.distinct back)
    · exact notReached (d.ids.getD c "") (transGen_leads_of_follows valid.distinct back)
        (named ▸ transGen_leads_of_follows valid.distinct path)

theorem mem_idsAt_sorted_iff (id : String) :
    id ∈ d.idsAt d.sorting.sorted ↔ id ∈ d.ids ∧ Orderable d.Leads id := by
  have inRange := arcs_inRange valid.distinct
  rw [idsAt, List.mem_filterMap]
  constructor
  · rintro ⟨i, mem, found⟩
    refine ⟨List.mem_of_getElem? found, (orderable_follows_iff valid found).mp ?_⟩
    exact ((Sorting.mem_finished_iff_orderable inRange i).mp mem).2
  · rintro ⟨mem, orderable⟩
    obtain ⟨i, found⟩ := List.getElem?_of_mem mem
    refine ⟨i, (Sorting.mem_finished_iff_orderable inRange i).mpr ⟨?_, ?_⟩, found⟩
    · exact d.ids_length ▸ (List.getElem?_eq_some_iff.mp found).1
    · exact (orderable_follows_iff valid found).mpr orderable

theorem idsAt_sorted_nodup : (d.idsAt d.sorting.sorted).Nodup := by
  exact (Sorting.finished_nodup (arcs_inRange valid.distinct)).filterMap fun _ _ _ here there =>
    index_eq_of_nodup valid.distinct here there

theorem idsAt_sorted_length : (d.idsAt d.sorting.sorted).length = d.sorting.sorted.length := by
  refine List.filterMap_length_eq_length.mpr fun i mem => ?_
  have bound := (sorting_invariant valid).lt_of_mem (List.mem_append_right _ mem)
  rw [← d.ids_length] at bound
  rw [List.getElem?_eq_getElem bound]
  rfl

/-- As many nodes are sorted as can be ordered. -/
theorem sorting_length_eq :
    d.sorting.sorted.length = {id | id ∈ d.ids ∧ Orderable d.Leads id}.ncard := by
  have same : {id | id ∈ d.ids ∧ Orderable d.Leads id} =
      ↑(d.idsAt d.sorting.sorted).toFinset := by
    ext id
    rw [Set.mem_ofPred_eq, ← mem_idsAt_sorted_iff valid, Finset.mem_coe, List.mem_toFinset]
  rw [same, Set.ncard_coe_finset, List.toFinset_card_of_nodup (idsAt_sorted_nodup valid),
    idsAt_sorted_length valid]

end Valid

/--
A definition that passes the checks and has a cycle is refused with the count
of its nodes that are on no cycle and not reached from one, and of all its
nodes.
-/
theorem cycle_counts_orderable {d : Definition} (passed : d.validate = .ok ()) {id : String}
    (back : Relation.TransGen d.Leads id id) :
    d.compile =
      .error (.cycle {id | id ∈ d.ids ∧ Orderable d.Leads id}.ncard d.nodes.length) := by
  have valid := (validate_eq_ok_iff d).mp passed
  have short : d.sorting.sorted.length < d.nodes.length := by
    refine (sorting_length_le valid).lt_of_ne fun all => ?_
    exact (sorting_length_iff valid).mp all id back
  rw [compile_eq valid, if_pos short, sorting_length_eq valid]

def knotted : Definition :=
  ⟨"knotted", "1", none,
    [.plain "after" "echo", .plain "there" "echo", .plain "first" "echo", .plain "back" "echo",
      .plain "aside" "echo"],
    [.plain "first" "there", .plain "there" "back", .plain "back" "there", .plain "back" "after",
      .plain "first" "aside", .plain "first" "aside"]⟩

theorem cycle_counts_of_knotted :
    knotted.validate = .ok () ∧ Relation.TransGen knotted.Leads "there" "there" ∧
      knotted.compile = .error (.cycle 2 5) ∧
      knotted.compile = .error
        (.cycle {id | id ∈ knotted.ids ∧ Orderable knotted.Leads id}.ncard 5) := by
  have passed : knotted.validate = .ok () := by decide +kernel
  have back : Relation.TransGen knotted.Leads "there" "there" :=
    .tail (.single ⟨.plain "there" "back", by decide, rfl, rfl⟩)
      ⟨.plain "back" "there", by decide, rfl, rfl⟩
  exact ⟨passed, back, by decide +kernel, cycle_counts_orderable passed back⟩

end ActionGraph.Graph.Definition
