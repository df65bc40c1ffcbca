import ActionGraph.Proofs.Graph.Sorting
import ActionGraph.Proofs.Graph.Validity

/-!
# Accepted graphs

A definition is accepted exactly if it is valid and its edges make no cycle,
and its order then has every node after all of its sources.  Nodes stand for
their index while they are sorted; `mem_arcs_iff` leads from the arcs between
indices back to the edges between identifiers.
-/

namespace ActionGraph.Graph

namespace Definition

/-- There is an edge from one node to another. -/
def Leads (d : Definition) (a b : String) : Prop :=
  ∃ edge ∈ d.edges, edge.source.node = a ∧ edge.target.node = b

def withoutIncoming (d : Definition) : List String :=
  d.ids.filter fun id => d.edges.all fun edge => edge.target.node ≠ id

def withoutOutgoing (d : Definition) : List String :=
  d.ids.filter fun id => d.edges.all fun edge => edge.source.node ≠ id

end Definition

/-- The order of a definition: sources come first, and the two ends are those of the edges. -/
structure Topology.Orders (t : Topology) (d : Definition) : Prop where
  sorted : t.sorted.Perm d.ids
  sources_first : ∀ edge ∈ d.edges,
    t.sorted.idxOf edge.source.node < t.sorted.idxOf edge.target.node
  inputs : t.inputs = d.withoutIncoming
  outputs : t.outputs = d.withoutOutgoing

namespace Definition

theorem ids_length (d : Definition) : d.ids.length = d.nodes.length :=
  List.length_map _

/-! ## Identifiers and their indices -/

theorem idxOf?_eq_some_iff_of_nodup {ids : List String} (distinct : ids.Nodup) (id : String)
    (i : Nat) : ids.idxOf? id = some i ↔ ids[i]? = some id := by
  rw [List.idxOf?_eq_some_iff]
  constructor
  · rintro ⟨bound, same, _⟩
    rw [List.getElem?_eq_getElem bound, same]
  · intro found
    obtain ⟨bound, same⟩ := List.getElem?_eq_some_iff.mp found
    refine ⟨bound, same, fun j less again => ?_⟩
    have equal := (List.Nodup.getElem_inj_iff distinct).mp (again.trans same.symm)
    omega

/-- Different indices have different identifiers. -/
theorem index_eq_of_nodup {ids : List String} (distinct : ids.Nodup) {id : String} {i j : Nat}
    (here : ids[i]? = some id) (there : ids[j]? = some id) : i = j := by
  have first := (idxOf?_eq_some_iff_of_nodup distinct id i).mpr here
  have second := (idxOf?_eq_some_iff_of_nodup distinct id j).mpr there
  exact Option.some.inj (first.symm.trans second)

/-- An arc between indices is an edge between the identifiers there. -/
theorem mem_arcs_iff {d : Definition} (distinct : d.ids.Nodup) (i j : Nat) :
    (i, j) ∈ d.arcs ↔ ∃ edge ∈ d.edges,
      d.ids[i]? = some edge.source.node ∧ d.ids[j]? = some edge.target.node := by
  simp only [arcs, List.mem_filterMap]
  refine exists_congr fun edge => and_congr_right fun _ => ?_
  rw [← idxOf?_eq_some_iff_of_nodup distinct, ← idxOf?_eq_some_iff_of_nodup distinct]
  cases d.ids.idxOf? edge.source.node with
  | none => simp
  | some source =>
      cases d.ids.idxOf? edge.target.node with
      | none => simp
      | some target => simp

theorem arcs_inRange {d : Definition} (distinct : d.ids.Nodup) :
    InRange d.nodes.length d.arcs := by
  rintro ⟨i, j⟩ mem
  obtain ⟨edge, _, source, target⟩ := (mem_arcs_iff distinct i j).mp mem
  rw [← d.ids_length]
  exact ⟨(List.getElem?_eq_some_iff.mp source).1, (List.getElem?_eq_some_iff.mp target).1⟩

section Places

variable {d : Definition} (valid : d.Valid)
include valid

theorem idxOf?_of_mem {id : String} (mem : id ∈ d.ids) :
    d.ids.idxOf? id = some (d.ids.idxOf id) :=
  (idxOf?_eq_some_iff_of_nodup valid.distinct id _).mpr (List.getElem?_idxOf mem)

theorem idxOf_eq_iff {i : Nat} {id other : String} (found : d.ids[i]? = some id)
    (mem : other ∈ d.ids) : d.ids.idxOf other = i ↔ other = id := by
  constructor
  · rintro rfl
    exact Option.some.inj ((List.getElem?_idxOf mem).symm.trans found)
  · rintro rfl
    exact index_eq_of_nodup valid.distinct (List.getElem?_idxOf mem) found

/-- Every edge of a valid definition has its arc. -/
theorem arcs_eq_map :
    d.arcs = d.edges.map fun edge =>
      (d.ids.idxOf edge.source.node, d.ids.idxOf edge.target.node) := by
  rw [← List.filterMap_eq_map]
  refine List.filterMap_congr fun edge mem => ?_
  obtain ⟨source, target⟩ := valid.ends edge mem
  rw [idxOf?_of_mem valid source, idxOf?_of_mem valid target]
  rfl

end Places

/-- Where arcs make a path, edges do. -/
theorem transGen_leads_of_follows {d : Definition} (distinct : d.ids.Nodup) {i j : Nat}
    (path : Relation.TransGen (Follows d.arcs) i j) :
    Relation.TransGen d.Leads (d.ids.getD i "") (d.ids.getD j "") := by
  refine Relation.TransGen.lift (p := d.Leads) (fun i => d.ids.getD i "") ?_ _ _ path
  intro a b arc
  obtain ⟨edge, mem, source, target⟩ := (mem_arcs_iff distinct a b).mp arc
  exact ⟨edge, mem, by simp [List.getD_eq_getElem?_getD, source],
    by simp [List.getD_eq_getElem?_getD, target]⟩

/-- Where edges make a path, arcs do. -/
theorem transGen_follows_of_leads {d : Definition} (valid : d.Valid) {a b : String}
    (path : Relation.TransGen d.Leads a b) :
    Relation.TransGen (Follows d.arcs) (d.ids.idxOf a) (d.ids.idxOf b) := by
  refine Relation.TransGen.lift d.ids.idxOf ?_ _ _ path
  rintro a b ⟨edge, mem, rfl, rfl⟩
  obtain ⟨source, target⟩ := valid.ends edge mem
  exact (mem_arcs_iff valid.distinct _ _).mpr
    ⟨edge, mem, List.getElem?_idxOf source, List.getElem?_idxOf target⟩

/-- Arcs make a cycle exactly if edges do. -/
theorem acyclic_arcs_iff {d : Definition} (valid : d.Valid) :
    Acyclic (Follows d.arcs) ↔ Acyclic d.Leads :=
  ⟨fun acyclic _ back => acyclic _ (transGen_follows_of_leads valid back),
    fun acyclic _ back => acyclic _ (transGen_leads_of_follows valid.distinct back)⟩

/-! ## Nodes given by their index -/

theorem filterMap_getElem?_range {α : Type} (xs : List α) (p : Nat → Bool) (q : α → Bool)
    (same : ∀ i x, xs[i]? = some x → p i = q x) :
    ((List.range xs.length).filter p).filterMap (fun i => xs[i]?) = xs.filter q := by
  induction xs generalizing p with
  | nil => rfl
  | cons x rest ih =>
      have tail := ih (fun i => p (i + 1)) fun i y found => same (i + 1) y (by simpa using found)
      have head := same 0 x rfl
      rw [List.length_cons, List.range_succ_eq_map, List.filter_cons, List.filter_map, head]
      by_cases chosen : q x = true
      · simp only [chosen, if_true, List.filterMap_cons, List.getElem?_cons_zero,
          List.filterMap_map, List.filter_cons_of_pos]
        exact congrArg (x :: ·) tail
      · simp only [chosen, if_false, List.filterMap_map, Bool.false_eq_true, not_false_eq_true,
          List.filter_cons_of_neg]
        exact tail

theorem idsAt_filter_range (d : Definition) (p : Nat → Bool) (q : String → Bool)
    (same : ∀ i id, d.ids[i]? = some id → p i = q id) :
    d.idsAt ((List.range d.nodes.length).filter p) = d.ids.filter q := by
  rw [← d.ids_length]
  exact filterMap_getElem?_range d.ids p q same

/-- Indices in whatever order give the identifiers in that order. -/
theorem idsAt_perm {d : Definition} {order : List Nat}
    (perm : order.Perm (List.range d.nodes.length)) : (d.idsAt order).Perm d.ids := by
  have all := d.idsAt_filter_range (fun _ => true) (fun _ => true) fun _ _ _ => rfl
  simp only [List.filter_true] at all
  rw [← all]
  exact perm.filterMap _

theorem idsAt_append_cons {d : Definition} {i : Nat} {id : String} (found : d.ids[i]? = some id)
    (first rest : List Nat) :
    d.idsAt (first ++ i :: rest) = d.idsAt first ++ id :: d.idsAt rest := by
  simp [idsAt, found]

theorem idxOf_lt_of_append {xs first rest : List String} {a b : String} (distinct : xs.Nodup)
    (split : xs = first ++ b :: rest) (mem : a ∈ first) : xs.idxOf a < xs.idxOf b := by
  subst split
  have apart : b ∉ first := fun again =>
    (List.nodup_cons.mp (List.nodup_middle.mp distinct)).1 (List.mem_append_left _ again)
  rw [List.idxOf_append_of_mem mem, List.idxOf_append_of_notMem apart]
  exact Nat.lt_of_lt_of_le (List.idxOf_lt_length_of_mem mem) (Nat.le_add_right _ _)

/-! ## The order of a valid definition -/

theorem indegree_eq_zero_iff (arcs : List Arc) (j : Nat) :
    indegree arcs j = 0 ↔ ∀ i, (i, j) ∉ arcs := by
  rw [← unsortedInto_nil, unsortedInto_eq_zero_iff]
  simp [Follows]

theorem successors_isEmpty_iff (arcs : List Arc) (i : Nat) :
    (successors arcs i).isEmpty = true ↔ ∀ j, (i, j) ∉ arcs := by
  simp only [successors, List.isEmpty_iff, List.map_eq_nil_iff, List.filter_eq_nil_iff,
    decide_eq_true_eq]
  constructor
  · intro none j mem
    exact none (i, j) mem rfl
  · rintro none ⟨_, j⟩ mem rfl
    exact none j mem

section Valid

variable {d : Definition} (valid : d.Valid)
include valid

theorem idsAt_inputs :
    d.idsAt ((List.range d.nodes.length).filter fun i => indegree d.arcs i = 0) =
      d.withoutIncoming := by
  apply idsAt_filter_range
  intro j id found
  rw [Bool.eq_iff_iff, decide_eq_true_eq, indegree_eq_zero_iff, List.all_eq_true]
  simp only [decide_eq_true_eq]
  constructor
  · rintro none edge mem rfl
    obtain ⟨i, source⟩ := List.getElem?_of_mem (valid.ends edge mem).1
    exact none i ((mem_arcs_iff valid.distinct i j).mpr ⟨edge, mem, source, found⟩)
  · intro none i arc
    obtain ⟨edge, mem, _, target⟩ := (mem_arcs_iff valid.distinct i j).mp arc
    exact none edge mem (Option.some.inj (target.symm.trans found))

theorem idsAt_outputs :
    d.idsAt ((List.range d.nodes.length).filter fun i => (successors d.arcs i).isEmpty) =
      d.withoutOutgoing := by
  apply idsAt_filter_range
  intro i id found
  rw [Bool.eq_iff_iff, successors_isEmpty_iff, List.all_eq_true]
  simp only [decide_eq_true_eq]
  constructor
  · rintro none edge mem rfl
    obtain ⟨j, target⟩ := List.getElem?_of_mem (valid.ends edge mem).2
    exact none j ((mem_arcs_iff valid.distinct i j).mpr ⟨edge, mem, found, target⟩)
  · intro none j arc
    obtain ⟨edge, mem, source, _⟩ := (mem_arcs_iff valid.distinct i j).mp arc
    exact none edge mem (Option.some.inj (source.symm.trans found))

theorem sorting_length_iff :
    d.sorting.sorted.length = d.nodes.length ↔ Acyclic d.Leads := by
  rw [← acyclic_arcs_iff valid]
  exact Sorting.finished_length_iff (arcs_inRange valid.distinct)

theorem sorting_invariant : Sorting.Invariant d.nodes.length d.arcs d.sorting :=
  Sorting.finished_invariant (arcs_inRange valid.distinct)

theorem sorting_length_le : d.sorting.sorted.length ≤ d.nodes.length := by
  have bound := (sorting_invariant valid).length_le
  rw [List.length_append] at bound
  omega

/-- A sorting of every node is a permutation of their indices. -/
theorem sorting_perm (all : d.sorting.sorted.length = d.nodes.length) :
    d.sorting.sorted.reverse.Perm (List.range d.nodes.length) := by
  have distinct : d.sorting.sorted.Nodup := Sorting.finished_nodup (arcs_inRange valid.distinct)
  have within : ∀ i ∈ d.sorting.sorted, i < d.nodes.length := fun _ mem =>
    (sorting_invariant valid).lt_of_mem (List.mem_append_right _ mem)
  exact (List.reverse_perm _).trans ((perm_range_iff_length distinct within).mpr all)

theorem idsAt_sources_first (all : d.sorting.sorted.length = d.nodes.length) :
    ∀ edge ∈ d.edges,
      (d.idsAt d.sorting.sorted.reverse).idxOf edge.source.node <
        (d.idsAt d.sorting.sorted.reverse).idxOf edge.target.node := by
  intro edge mem
  obtain ⟨i, source⟩ := List.getElem?_of_mem (valid.ends edge mem).1
  obtain ⟨j, target⟩ := List.getElem?_of_mem (valid.ends edge mem).2
  have arc : Follows d.arcs i j := (mem_arcs_iff valid.distinct i j).mpr ⟨edge, mem, source, target⟩
  have perm := sorting_perm valid all
  have reached : j ∈ d.sorting.sorted := by
    rw [← List.mem_reverse, perm.mem_iff, List.mem_range]
    exact (arcs_inRange valid.distinct _ arc).2
  obtain ⟨later, earlier, split⟩ := List.append_of_mem reached
  have before : i ∈ earlier := by
    have takenUp := (sorting_invariant valid).takenUp
    rw [split] at takenUp
    exact takenUp.mem_of_append arc
  have parts : d.idsAt d.sorting.sorted.reverse =
      d.idsAt earlier.reverse ++ edge.target.node :: d.idsAt later.reverse := by
    rw [split, List.reverse_append, List.reverse_cons, List.append_assoc, List.singleton_append]
    exact idsAt_append_cons target _ _
  apply idxOf_lt_of_append ((idsAt_perm perm).nodup_iff.mpr valid.distinct) parts
  exact List.mem_filterMap.mpr ⟨i, List.mem_reverse.mpr before, source⟩

end Valid

/-! ## Compilation -/

theorem compile_of_not_valid {d : Definition} (invalid : ¬ d.Valid) :
    ∃ failure, d.compile = .error failure := by
  cases checked : d.validate with
  | ok _ => exact absurd ((validate_eq_ok_iff d).mp checked) invalid
  | error failure => exact ⟨failure, by rw [compile, checked]; rfl⟩

/-- A valid definition is refused only for a cycle. -/
theorem compile_eq {d : Definition} (valid : d.Valid) :
    d.compile =
      if d.sorting.sorted.length < d.nodes.length then
        .error (.cycle d.sorting.sorted.length d.nodes.length)
      else
        .ok
          { sorted := d.idsAt d.sorting.sorted.reverse
            levels := Dict.ofList (d.sorting.sorted.reverse.filterMap fun i =>
              (d.ids[i]?).map fun id => (id, d.sorting.levels.getD i 0))
            inputs :=
              d.idsAt ((List.range d.nodes.length).filter fun i => indegree d.arcs i = 0)
            outputs :=
              d.idsAt ((List.range d.nodes.length).filter fun i =>
                (successors d.arcs i).isEmpty) } := by
  rw [compile, (validate_eq_ok_iff d).mpr valid]
  rfl

theorem compile_of_full {d : Definition} (valid : d.Valid)
    (all : d.sorting.sorted.length = d.nodes.length) :
    ∃ t, d.compile = .ok t ∧ t.Orders d := by
  have accepted := compile_eq valid
  rw [if_neg (by omega)] at accepted
  exact ⟨_, accepted, idsAt_perm (sorting_perm valid all), idsAt_sources_first valid all,
    idsAt_inputs valid, idsAt_outputs valid⟩

/-- An accepted definition is valid, has no cycle, and its order is one of it. -/
theorem orders_of_compile {d : Definition} {t : Topology} (accepted : d.compile = .ok t) :
    d.Valid ∧ Acyclic d.Leads ∧ t.Orders d := by
  by_cases valid : d.Valid
  · rcases (sorting_length_le valid).lt_or_eq with short | all
    · rw [compile_eq valid, if_pos short] at accepted
      cases accepted
    · obtain ⟨order, same, orders⟩ := compile_of_full valid all
      rw [same] at accepted
      cases accepted
      exact ⟨valid, (sorting_length_iff valid).mp all, orders⟩
  · obtain ⟨failure, refused⟩ := compile_of_not_valid valid
    rw [refused] at accepted
    cases accepted

/--
Exactly the valid definitions without a cycle are accepted, and the order of
an accepted one is a permutation of its nodes with every source before its
targets.
-/
theorem compile_accepts_exactly (d : Definition) :
    match d.compile with
    | .ok t => d.Valid ∧ Acyclic d.Leads ∧ t.Orders d
    | .error _ => ¬ (d.Valid ∧ Acyclic d.Leads) := by
  cases compiled : d.compile with
  | ok t => exact orders_of_compile compiled
  | error failure =>
      rintro ⟨valid, acyclic⟩
      obtain ⟨t, accepted, _⟩ := compile_of_full valid ((sorting_length_iff valid).mpr acyclic)
      rw [accepted] at compiled
      cases compiled

end Definition

end ActionGraph.Graph
