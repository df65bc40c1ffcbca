import Mathlib.Data.Fintype.EquivFin
import Mathlib.Logic.Relation
import ActionGraph.Graph.Topology
import ActionGraph.Proofs.Places

/-!
# Sorting by dependency

The sorting keeps for each node the count of arcs into it whose source is not
sorted, and a node is queued or sorted exactly when that count is zero.  Hence
each node is taken up at most once, and only after all of its sources.  A
sorting that ends before every node is sorted leaves nodes each of which waits
for another of them, and so a cycle.
-/

namespace ActionGraph.Graph

def Follows (arcs : List Arc) (a b : Nat) : Prop :=
  (a, b) ∈ arcs

def Acyclic {α : Type} (r : α → α → Prop) : Prop :=
  ∀ a, ¬ Relation.TransGen r a a

/-- Neither on a cycle nor reached from one. -/
structure Orderable {α : Type} (r : α → α → Prop) (a : α) : Prop where
  not_on_cycle : ¬ Relation.TransGen r a a
  not_reached : ∀ c, Relation.TransGen r c c → ¬ Relation.TransGen r c a

/-- What leads to something that can be ordered can itself be ordered. -/
theorem Orderable.of_before {α : Type} {r : α → α → Prop} {a b : α} (orderable : Orderable r b)
    (next : r a b) : Orderable r a where
  not_on_cycle back := orderable.not_reached a back (.single next)
  not_reached c back path := orderable.not_reached c back (path.tail next)

def InRange (count : Nat) (arcs : List Arc) : Prop :=
  ∀ arc ∈ arcs, arc.1 < count ∧ arc.2 < count

/-- The count of arcs into a node whose source is not sorted. -/
def unsortedInto (arcs : List Arc) (sorted : List Nat) (i : Nat) : Nat :=
  arcs.countP fun arc => decide (arc.2 = i ∧ arc.1 ∉ sorted)

theorem unsortedInto_nil (arcs : List Arc) (i : Nat) :
    unsortedInto arcs [] i = indegree arcs i := by
  simp [unsortedInto, indegree, List.countP_eq_length_filter]

theorem unsortedInto_eq_zero_iff (arcs : List Arc) (sorted : List Nat) (i : Nat) :
    unsortedInto arcs sorted i = 0 ↔ ∀ a, Follows arcs a i → a ∈ sorted := by
  simp only [unsortedInto, List.countP_eq_zero, decide_eq_true_eq, not_and, not_not, Follows]
  constructor
  · intro all a mem
    exact all (a, i) mem rfl
  · rintro all ⟨a, _⟩ mem rfl
    exact all a mem

theorem count_successors (arcs : List Arc) (i j : Nat) :
    (successors arcs i).count j = arcs.countP fun arc => decide (arc.2 = j ∧ arc.1 = i) := by
  rw [successors, List.count, List.countP_map, List.countP_filter]
  congr 1
  funext arc
  simp [beq_eq_decide]

/-- Sorting a node counts off each of its arcs. -/
theorem unsortedInto_cons (arcs : List Arc) {sorted : List Nat} {i : Nat} (new : i ∉ sorted)
    (j : Nat) :
    unsortedInto arcs sorted j =
      unsortedInto arcs (i :: sorted) j + (successors arcs i).count j := by
  rw [count_successors]
  simp only [unsortedInto]
  induction arcs with
  | nil => rfl
  | cons arc rest ih =>
      rw [List.countP_cons, List.countP_cons, List.countP_cons, ih]
      -- an arc out of `i` is counted on the left and at the end, any other on both sides alike
      by_cases out : arc.1 = i
      · simp [out, new]
        omega
      · simp [out]
        omega

namespace Sorting

/-- A sorting in which so many arcs into each node are still to be counted off. -/
structure Balanced (count : Nat) (left : Nat → Nat) (s : Sorting) : Prop where
  size : s.waiting.length = count
  waiting : ∀ j, j < count → s.waiting.getD j 0 = left j
  /-- A node is queued or sorted exactly when it waits for no source. -/
  ready : ∀ j, (j ∈ s.queue ∨ j ∈ s.sorted) ↔ j < count ∧ left j = 0
  /-- No node is queued twice, or queued and sorted. -/
  distinct : (s.queue ++ s.sorted).Nodup

theorem release_sorted (level : Nat) (s : Sorting) (next : Nat) :
    (release level s next).sorted = s.sorted :=
  rfl

theorem foldl_release_sorted (level : Nat) (targets : List Nat) (s : Sorting) :
    (targets.foldl (release level) s).sorted = s.sorted := by
  induction targets generalizing s with
  | nil => rfl
  | cons next rest ih => rw [List.foldl_cons, ih, release_sorted]

/-- Releasing a node counts off one arc into it. -/
theorem Balanced.release {count : Nat} {left : Nat → Nat} {s : Sorting} {next : Nat}
    (balanced : Balanced count (fun j => left j + [next].count j) s) (inRange : next < count)
    (level : Nat) : Balanced count left (s.release level next) := by
  have waited : s.waiting.getD next 0 = left next + 1 := by
    simpa using balanced.waiting next inRange
  have others : ∀ j, j ≠ next → [next].count j = 0 := by
    intro j ne
    simp [Ne.symm ne]
  have outside : ¬ (next ∈ s.queue ∨ next ∈ s.sorted) := by
    intro ready
    simpa using ((balanced.ready next).mp ready).2
  refine ⟨by simpa [Sorting.release] using balanced.size, ?_, ?_, ?_⟩
  · intro j bound
    by_cases same : j = next
    · subst same
      simp [Sorting.release, List.getD_eq_getElem?_getD, balanced.size, inRange] at waited ⊢
      omega
    · have kept := balanced.waiting j bound
      rw [others j same, Nat.add_zero] at kept
      simpa [Sorting.release, List.getD_eq_getElem?_getD, List.getElem?_set_ne (Ne.symm same)]
        using kept
  · intro j
    have known := balanced.ready j
    simp only [Sorting.release, waited, Nat.add_sub_cancel]
    by_cases same : j = next
    · subst same
      by_cases last : left j = 0
      · simp [last, inRange]
      · simpa [last] using outside
    · rw [others j same, Nat.add_zero] at known
      by_cases last : left next = 0
      · simpa [last, same] using known
      · simpa [last] using known
  · simp only [Sorting.release, waited, Nat.add_sub_cancel]
    by_cases last : left next = 0
    · have apart : next ∉ s.queue ++ s.sorted := by simpa using outside
      simp only [last, if_true, List.append_assoc, List.singleton_append]
      exact (List.nodup_middle).mpr (List.nodup_cons.mpr ⟨apart, balanced.distinct⟩)
    · simpa [last] using balanced.distinct

/-- Releasing nodes one after another counts off an arc into each of them. -/
theorem Balanced.foldl_release {count : Nat} {left : Nat → Nat} {targets : List Nat}
    {s : Sorting} (balanced : Balanced count (fun j => left j + targets.count j) s)
    (inRange : ∀ target ∈ targets, target < count) (level : Nat) :
    Balanced count left (targets.foldl (Sorting.release level) s) := by
  induction targets generalizing s with
  | nil => simpa using balanced
  | cons next rest ih =>
      rw [List.foldl_cons]
      apply ih _ (fun target mem => inRange target (List.mem_cons_of_mem _ mem))
      apply Balanced.release _ (inRange next List.mem_cons_self)
      have split : ∀ j, (next :: rest).count j = rest.count j + [next].count j := by
        intro j
        simp [List.count_cons]
      simpa only [split, Nat.add_assoc] using balanced

/-- Every node of a list comes, last first, after all of its sources. -/
def TakenUp (arcs : List Arc) : List Nat → Prop
  | [] => True
  | i :: rest => (∀ a, Follows arcs a i → a ∈ rest) ∧ TakenUp arcs rest

/-- What the sorting keeps: its counts are right, and nodes are sorted after their sources. -/
structure Invariant (count : Nat) (arcs : List Arc) (s : Sorting) : Prop where
  balanced : Balanced count (unsortedInto arcs s.sorted) s
  takenUp : TakenUp arcs s.sorted

theorem Invariant.initial (count : Nat) (arcs : List Arc) :
    Invariant count arcs (.initial count arcs) := by
  refine ⟨⟨by simp [Sorting.initial], ?_, ?_, ?_⟩, trivial⟩
  · intro j bound
    simp [Sorting.initial, unsortedInto_nil, List.getD_eq_getElem?_getD, bound]
  · intro j
    simp [Sorting.initial, unsortedInto_nil]
  · simpa [Sorting.initial] using List.Nodup.filter _ List.nodup_range

theorem successors_lt {count : Nat} {arcs : List Arc} (inRange : InRange count arcs) (i : Nat) :
    ∀ target ∈ successors arcs i, target < count := by
  intro target mem
  obtain ⟨arc, found, rfl⟩ := List.mem_map.mp mem
  exact (inRange arc (List.mem_filter.mp found).1).2

theorem step_of_queue {arcs : List Arc} {s : Sorting} {i : Nat} {rest : List Nat}
    (queue : s.queue = i :: rest) :
    s.step arcs =
      (successors arcs i).foldl (release (s.levels.getD i 0))
        { s with queue := rest, sorted := i :: s.sorted } := by
  simp [step, queue]

theorem step_sorted_of_queue {arcs : List Arc} {s : Sorting} {i : Nat} {rest : List Nat}
    (queue : s.queue = i :: rest) : (s.step arcs).sorted = i :: s.sorted := by
  rw [step_of_queue queue, foldl_release_sorted]

theorem step_of_queue_nil {arcs : List Arc} {s : Sorting} (queue : s.queue = []) :
    s.step arcs = s := by
  simp [step, queue]

/-- The first of the queue is taken, and the arcs out of it are still to be counted off. -/
theorem Invariant.take {count : Nat} {arcs : List Arc} {s : Sorting}
    (invariant : Invariant count arcs s) {i : Nat} {rest : List Nat} (queue : s.queue = i :: rest) :
    Balanced count (fun j => unsortedInto arcs (i :: s.sorted) j + (successors arcs i).count j)
      { s with queue := rest, sorted := i :: s.sorted } := by
  have balanced := invariant.balanced
  have distinct := balanced.distinct
  rw [queue, List.cons_append] at distinct
  have new : i ∉ s.sorted := fun mem =>
    (List.nodup_cons.mp distinct).1 (List.mem_append_right _ mem)
  refine ⟨balanced.size, ?_, ?_, ?_⟩
  · intro j bound
    rw [← unsortedInto_cons arcs new]
    exact balanced.waiting j bound
  · intro j
    rw [← unsortedInto_cons arcs new, ← balanced.ready j, queue]
    simp only [List.mem_cons]
    tauto
  · exact List.nodup_middle.mpr distinct

theorem Invariant.step {count : Nat} {arcs : List Arc} {s : Sorting}
    (invariant : Invariant count arcs s) (inRange : InRange count arcs) :
    Invariant count arcs (s.step arcs) := by
  cases queue : s.queue with
  | nil => rwa [step_of_queue_nil queue]
  | cons i rest =>
      have ready := (invariant.balanced.ready i).mp (.inl (by simp [queue]))
      refine ⟨?_, ?_⟩
      · rw [step_sorted_of_queue queue, step_of_queue queue]
        exact (invariant.take queue).foldl_release (successors_lt inRange i) _
      · rw [step_sorted_of_queue queue]
        exact ⟨(unsortedInto_eq_zero_iff _ _ _).mp ready.2, invariant.takenUp⟩

theorem Invariant.run {count : Nat} {arcs : List Arc} {s : Sorting}
    (invariant : Invariant count arcs s) (inRange : InRange count arcs) (turns : Nat) :
    Invariant count arcs (run arcs turns s) := by
  induction turns generalizing s with
  | zero => exact invariant
  | succ turns ih => exact ih (invariant.step inRange)

/-! ## The end of the sorting -/

theorem run_of_queue_nil {arcs : List Arc} {s : Sorting} (queue : s.queue = []) (turns : Nat) :
    run arcs turns s = s := by
  induction turns with
  | zero => rfl
  | succ turns ih => rw [run, step_of_queue_nil queue, ih]

/-- Each turn sorts one more node, unless none is queued. -/
theorem run_sorted_length (arcs : List Arc) (turns : Nat) (s : Sorting) :
    (run arcs turns s).queue = [] ∨
      (run arcs turns s).sorted.length = s.sorted.length + turns := by
  induction turns generalizing s with
  | zero => exact .inr rfl
  | succ turns ih =>
      rw [run]
      cases queue : s.queue with
      | nil =>
          rw [step_of_queue_nil queue, run_of_queue_nil queue]
          exact .inl queue
      | cons i rest =>
          rcases ih (s.step arcs) with empty | grown
          · exact .inl empty
          · right
            rw [grown, step_sorted_of_queue queue, List.length_cons]
            omega

theorem Invariant.lt_of_mem {count : Nat} {arcs : List Arc} {s : Sorting}
    (invariant : Invariant count arcs s) {i : Nat} (mem : i ∈ s.queue ++ s.sorted) :
    i < count :=
  ((invariant.balanced.ready i).mp (List.mem_append.mp mem)).1

theorem Invariant.length_le {count : Nat} {arcs : List Arc} {s : Sorting}
    (invariant : Invariant count arcs s) : (s.queue ++ s.sorted).length ≤ count :=
  length_le_of_apart invariant.balanced.distinct fun _ => invariant.lt_of_mem

/-- The sources of a node are among those that were taken up before it. -/
theorem TakenUp.mem_of_append {arcs : List Arc} {later earlier : List Nat} {a i : Nat}
    (takenUp : TakenUp arcs (later ++ i :: earlier)) (arc : Follows arcs a i) : a ∈ earlier := by
  induction later with
  | nil => exact takenUp.1 a arc
  | cons _ rest ih => exact ih takenUp.2

/-- An arc leads from a node to one that was taken up later. -/
theorem TakenUp.idxOf_lt {arcs : List Arc} {sorted : List Nat} (takenUp : TakenUp arcs sorted)
    (distinct : sorted.Nodup) {a b : Nat} (arc : Follows arcs a b) (mem : b ∈ sorted) :
    a ∈ sorted ∧ sorted.idxOf b < sorted.idxOf a := by
  induction sorted with
  | nil => cases mem
  | cons i rest ih =>
      have new := (List.nodup_cons.mp distinct).1
      by_cases first : b = i
      · subst first
        have later := takenUp.1 a arc
        have ne : b ≠ a := fun same => new (same ▸ later)
        exact ⟨List.mem_cons_of_mem _ later, by simp [List.idxOf_cons_ne _ ne]⟩
      · have inRest : b ∈ rest := (List.mem_cons.mp mem).resolve_left first
        obtain ⟨found, less⟩ := ih takenUp.2 (List.nodup_cons.mp distinct).2 inRest
        have ne : i ≠ a := fun same => new (same ▸ found)
        refine ⟨List.mem_cons_of_mem _ found, ?_⟩
        rw [List.idxOf_cons_ne _ (Ne.symm first), List.idxOf_cons_ne _ ne]
        exact Nat.succ_lt_succ less

/-- A path leads from a node to one that was taken up later. -/
theorem Invariant.descends {count : Nat} {arcs : List Arc} {s : Sorting}
    (invariant : Invariant count arcs s) {a b : Nat} (path : Relation.TransGen (Follows arcs) a b)
    (mem : b ∈ s.sorted) : a ∈ s.sorted ∧ s.sorted.idxOf b < s.sorted.idxOf a := by
  have distinct : s.sorted.Nodup :=
    invariant.balanced.distinct.sublist (List.sublist_append_right _ _)
  induction path with
  | single arc => exact invariant.takenUp.idxOf_lt distinct arc mem
  | tail _ arc ih =>
      obtain ⟨inner, first⟩ := invariant.takenUp.idxOf_lt distinct arc mem
      obtain ⟨found, second⟩ := ih inner
      exact ⟨found, first.trans second⟩

/-- No node that was taken up is on a cycle or reached from one. -/
theorem Invariant.orderable {count : Nat} {arcs : List Arc} {s : Sorting}
    (invariant : Invariant count arcs s) {i : Nat} (mem : i ∈ s.sorted) :
    Orderable (Follows arcs) i := by
  have onNone : ∀ c ∈ s.sorted, ¬ Relation.TransGen (Follows arcs) c c := fun c mem back =>
    Nat.lt_irrefl _ (invariant.descends back mem).2
  exact ⟨onNone i mem, fun c back path => onNone c (invariant.descends path mem).1 back⟩

/-- Finitely many nodes can be taken up one by one along what makes no cycle. -/
theorem wf_of_acyclic {count : Nat} {r : Nat → Nat → Prop} (below : ∀ a b, r a b → a < count)
    (acyclic : Acyclic r) : WellFounded r := by
  let within : Fin count → Fin count → Prop := fun a b => r a b
  have irreflexive : Std.Irrefl (Relation.TransGen within) :=
    ⟨fun a back => acyclic a (Relation.TransGen.lift Fin.val (fun _ _ arc => arc) a a back)⟩
  have transitive : IsTrans (Fin count) (Relation.TransGen within) := ⟨fun _ _ _ => .trans⟩
  have wf := Finite.wellFounded_of_trans_of_irrefl (Relation.TransGen within)
  have reached : ∀ i : Fin count, Acc r i := by
    intro i
    induction i using wf.induction with
    | _ i ih => exact ⟨_, fun a arc => ih ⟨a, below a i arc⟩ (.single arc)⟩
  exact ⟨fun _ => ⟨_, fun a arc => reached ⟨a, below a _ arc⟩⟩⟩

def finished (count : Nat) (arcs : List Arc) : Sorting :=
  run arcs count (.initial count arcs)

section Finished

variable {count : Nat} {arcs : List Arc} (inRange : InRange count arcs)
include inRange

theorem finished_invariant : Invariant count arcs (finished count arcs) :=
  (Invariant.initial count arcs).run inRange count

theorem finished_queue : (finished count arcs).queue = [] := by
  rcases run_sorted_length arcs count (.initial count arcs) with empty | grown
  · exact empty
  · have bound := (finished_invariant inRange).length_le
    have all : (finished count arcs).sorted.length = count := by
      simpa [finished, Sorting.initial] using grown
    rw [List.length_append, all] at bound
    exact List.eq_nil_of_length_eq_zero (by omega)

/-- In the end the nodes that are sorted are those whose sources are. -/
theorem mem_finished_iff (i : Nat) :
    i ∈ (finished count arcs).sorted ↔
      i < count ∧ ∀ a, Follows arcs a i → a ∈ (finished count arcs).sorted := by
  have ready := (finished_invariant inRange).balanced.ready i
  rw [finished_queue inRange, unsortedInto_eq_zero_iff] at ready
  simpa using ready

theorem finished_nodup : (finished count arcs).sorted.Nodup :=
  (finished_invariant inRange).balanced.distinct.sublist (List.sublist_append_right _ _)

/-- A node that no cycle leads to is taken up. -/
theorem mem_finished_of_orderable {i : Nat} (bound : i < count)
    (orderable : Orderable (Follows arcs) i) : i ∈ (finished count arcs).sorted := by
  let tame : Nat → Nat → Prop := fun a b => Follows arcs a b ∧ Orderable (Follows arcs) b
  have acyclic : Acyclic tame := by
    intro a back
    obtain ⟨_, _, _, orderable⟩ := Relation.TransGen.tail'_iff.mp back
    exact orderable.not_on_cycle (Relation.TransGen.mono (fun _ _ both => both.1) _ _ back)
  induction i using (wf_of_acyclic (fun _ _ both => (inRange _ both.1).1) acyclic).induction with
  | _ i ih =>
      refine (mem_finished_iff inRange i).mpr ⟨bound, fun a arc => ?_⟩
      exact ih a ⟨arc, orderable⟩ (inRange _ arc).1 (orderable.of_before arc)

/-- In the end exactly the nodes are sorted that no cycle leads to. -/
theorem mem_finished_iff_orderable (i : Nat) :
    i ∈ (finished count arcs).sorted ↔ i < count ∧ Orderable (Follows arcs) i := by
  constructor
  · exact fun mem =>
      ⟨((mem_finished_iff inRange i).mp mem).1, (finished_invariant inRange).orderable mem⟩
  · exact fun both => mem_finished_of_orderable inRange both.1 both.2

/-- The sorting reaches every node exactly when there is no cycle. -/
theorem finished_length_iff :
    (finished count arcs).sorted.length = count ↔ Acyclic (Follows arcs) := by
  have within : ∀ i ∈ (finished count arcs).sorted, i < count := fun i mem =>
    ((mem_finished_iff inRange i).mp mem).1
  rw [length_eq_iff_covers (finished_nodup inRange) within]
  constructor
  · intro covered a back
    obtain ⟨_, _, arc⟩ := Relation.TransGen.tail'_iff.mp back
    have mem := covered a (inRange _ arc).2
    exact ((mem_finished_iff_orderable inRange a).mp mem).2.not_on_cycle back
  · intro acyclic i bound
    exact mem_finished_of_orderable inRange bound
      ⟨acyclic i, fun c back => absurd back (acyclic c)⟩

end Finished

end Sorting

end ActionGraph.Graph
