import Mathlib.Data.List.Dedup
import ActionGraph.Proofs.Graph.Levels
import ActionGraph.Proofs.Occurrences

/-!
# Nodes on one level

A node is queued when the last of the edges into it is followed.  Where edges
are followed in the order in which their sources are taken up, and those out of
one source in the order of their declaration, this settles the whole order:
first come the nodes without incoming edges as they are declared, and then the
targets of the edges, each where it is reached for the last time.  So nodes on
one level above the ground need not be in the order of their declaration.
-/

namespace ActionGraph.Graph

/-! ## Where an element occurs for the last time -/

section Lists

variable {α : Type}

/-- The second element occurs once more after all occurrences of the first one. -/
def OutlivedBy (l : List α) (a b : α) : Prop :=
  ∃ before after, l = before ++ b :: after ∧ a ∉ b :: after

theorem outlivedBy_cons_of_mem {x a b : α} {l : List α} (mem : a ∈ l) :
    OutlivedBy (x :: l) a b ↔ OutlivedBy l a b := by
  constructor
  · rintro ⟨_ | ⟨_, before⟩, after, split, apart⟩
    · rw [List.nil_append, List.cons.injEq] at split
      exact absurd (List.mem_cons_of_mem _ (split.2 ▸ mem)) apart
    · rw [List.cons_append, List.cons.injEq] at split
      exact ⟨before, after, split.2, apart⟩
  · rintro ⟨before, after, rfl, apart⟩
    exact ⟨x :: before, after, rfl, apart⟩

variable [DecidableEq α]

/-- One more element comes last, and no longer where it was. -/
theorem dedup_concat (l : List α) (a : α) :
    (l ++ [a]).dedup = l.dedup.filter (fun x => x ≠ a) ++ [a] := by
  induction l with
  | nil => rfl
  | cons x rest ih =>
      rw [List.cons_append]
      by_cases again : x ∈ rest
      · rw [List.dedup_cons_of_mem (List.mem_append_left _ again), List.dedup_cons_of_mem again, ih]
      · rw [List.dedup_cons_of_notMem again, List.filter_cons]
        by_cases same : x = a
        · subst same
          rw [List.dedup_cons_of_mem (List.mem_append_right _ List.mem_cons_self), ih]
          simp
        · have new : x ∉ rest ++ [a] := by simp [again, same]
          rw [List.dedup_cons_of_notMem new, ih]
          simp [same]

/-- What becomes of the elements does not matter if different ones stay different. -/
theorem dedup_filterMap {β : Type} [DecidableEq β] {f : α → Option β} {l : List α}
    (known : ∀ a ∈ l, (f a).isSome)
    (apart : ∀ a ∈ l, ∀ b ∈ l, f a = f b → a = b) :
    (l.filterMap f).dedup = l.dedup.filterMap f := by
  induction l with
  | nil => rfl
  | cons x rest ih =>
      obtain ⟨here, later⟩ := List.forall_mem_cons.mp known
      obtain ⟨y, found⟩ := Option.isSome_iff_exists.mp here
      have tail := ih later fun a memA b memB =>
        apart a (List.mem_cons_of_mem _ memA) b (List.mem_cons_of_mem _ memB)
      rw [List.filterMap_cons_some found]
      by_cases again : x ∈ rest
      · rw [List.dedup_cons_of_mem again, ← tail]
        exact List.dedup_cons_of_mem (List.mem_filterMap.mpr ⟨x, again, found⟩)
      · have new : y ∉ rest.filterMap f := by
          intro mem
          obtain ⟨z, there, same⟩ := List.mem_filterMap.mp mem
          have equal := apart x List.mem_cons_self z (List.mem_cons_of_mem _ there)
            (found.trans same.symm)
          exact again (equal ▸ there)
        rw [List.dedup_cons_of_notMem again, List.filterMap_cons_some found,
          List.dedup_cons_of_notMem new, tail]

/-- Elements are in the order of their last occurrences. -/
theorem idxOf_dedup_lt_iff {a b : α} {l : List α} (first : a ∈ l) (second : b ∈ l) :
    l.dedup.idxOf a < l.dedup.idxOf b ↔ OutlivedBy l a b := by
  induction l with
  | nil => cases first
  | cons x rest ih =>
      by_cases again : x ∈ rest
      · have inRest : ∀ c, c ∈ x :: rest → c ∈ rest := fun c mem =>
          (List.mem_cons.mp mem).elim (fun same => same ▸ again) id
        rw [List.dedup_cons_of_mem again, outlivedBy_cons_of_mem (inRest a first),
          ih (inRest a first) (inRest b second)]
      · rw [List.dedup_cons_of_notMem again]
        by_cases here : a = x
        · subst here
          rw [List.idxOf_cons_self]
          constructor
          · intro behind
            have ne : a ≠ b := by
              rintro rfl
              rw [List.idxOf_cons_self] at behind
              exact Nat.lt_irrefl 0 behind
            have later : b ∈ rest := (List.mem_cons.mp second).resolve_left (Ne.symm ne)
            obtain ⟨before, after, split⟩ := List.append_of_mem later
            refine ⟨a :: before, after, congrArg (a :: ·) split, fun mem => again ?_⟩
            exact split ▸ List.mem_append_right _ mem
          · rintro ⟨before, after, split, apart⟩
            have ne : a ≠ b := fun same => apart (same ▸ List.mem_cons_self)
            rw [List.idxOf_cons_ne _ ne]
            exact Nat.succ_pos _
        · have later : a ∈ rest := (List.mem_cons.mp first).resolve_left here
          rw [outlivedBy_cons_of_mem later, List.idxOf_cons_ne _ (Ne.symm here)]
          by_cases there : b = x
          · subst there
            rw [List.idxOf_cons_self]
            refine iff_of_false (Nat.not_lt_zero _) ?_
            rintro ⟨before, after, rfl, _⟩
            exact again (List.mem_append_right _ List.mem_cons_self)
          · rw [List.idxOf_cons_ne _ (Ne.symm there), Nat.succ_lt_succ_iff]
            exact ih later ((List.mem_cons.mp second).resolve_left there)

end Lists

namespace Sorting

/-! ## When nodes are queued -/

def reached (arcs : List Arc) (s : Sorting) : List Nat :=
  s.sorted.reverse.flatMap (successors arcs)

/--
Behind the nodes that wait for nothing come those that were reached by the last
of the arcs into them, in the order in which this happened.
-/
def Lined (ground reached : List Nat) (left : Nat → Nat) (s : Sorting) : Prop :=
  s.line = ground ++ reached.dedup.filter fun j => left j = 0

theorem line_release {count : Nat} {left : Nat → Nat} {s : Sorting} {next : Nat}
    (balanced : Balanced count (fun j => left j + [next].count j) s) (inRange : next < count)
    (height : Nat) :
    (s.release height next).line = s.line ++ if left next = 0 then [next] else [] := by
  have waited : s.waiting.getD next 0 = left next + 1 := by
    simpa using balanced.waiting next inRange
  simp only [line, release, waited, Nat.add_sub_cancel]
  split
  · exact (List.append_assoc _ _ _).symm
  · exact (List.append_nil _).symm

theorem Lined.release {count : Nat} {ground reached : List Nat} {left : Nat → Nat} {s : Sorting}
    {next : Nat} (lined : Lined ground reached (fun j => left j + [next].count j) s)
    (balanced : Balanced count (fun j => left j + [next].count j) s) (inRange : next < count)
    (height : Nat) : Lined ground (reached ++ [next]) left (s.release height next) := by
  -- whatever else is reached waits for as many arcs as before
  have others : reached.dedup.filter (fun j => left j + [next].count j = 0) =
      (reached.dedup.filter fun j => j ≠ next).filter fun j => left j = 0 := by
    rw [List.filter_filter]
    refine List.filter_congr fun j _ => ?_
    by_cases same : j = next <;> simp [same, Ne.symm]
  rw [Lined] at lined ⊢
  rw [line_release balanced inRange height, lined, dedup_concat, List.filter_append, others,
    List.append_assoc]
  by_cases last : left next = 0 <;> simp [last]

theorem Lined.foldl_release {count : Nat} {ground reached : List Nat} {left : Nat → Nat}
    {targets : List Nat} {s : Sorting}
    (lined : Lined ground reached (fun j => left j + targets.count j) s)
    (balanced : Balanced count (fun j => left j + targets.count j) s)
    (inRange : ∀ target ∈ targets, target < count) (height : Nat) :
    Lined ground (reached ++ targets) left (targets.foldl (Sorting.release height) s) := by
  induction targets generalizing reached s with
  | nil => simpa using lined
  | cons next rest ih =>
      obtain ⟨here, later⟩ := List.forall_mem_cons.mp inRange
      have split : (fun j => left j + (next :: rest).count j) =
          fun j => left j + rest.count j + [next].count j := by
        funext j
        simp only [List.count_cons, List.count_nil]
        omega
      rw [split] at lined balanced
      rw [List.foldl_cons, List.append_cons]
      exact ih (lined.release balanced here height) (balanced.release here height) later

/-- Taking up a node follows the arcs out of it. -/
theorem Lined.step {count : Nat} {arcs : List Arc} {ground : List Nat} {s : Sorting}
    (lined : Lined ground (s.reached arcs) (unsortedInto arcs s.sorted) s)
    (invariant : Invariant count arcs s) (inRange : InRange count arcs) :
    Lined ground ((s.step arcs).reached arcs) (unsortedInto arcs (s.step arcs).sorted)
      (s.step arcs) := by
  cases queue : s.queue with
  | nil => rwa [step_of_queue_nil queue]
  | cons i rest =>
      have follows : (s.step arcs).reached arcs = s.reached arcs ++ successors arcs i := by
        simp [reached, step_sorted_of_queue queue]
      have taken : Lined ground (s.reached arcs)
          (fun j => unsortedInto arcs (i :: s.sorted) j + (successors arcs i).count j)
          { s with queue := rest, sorted := i :: s.sorted } := by
        have same : unsortedInto arcs s.sorted =
            fun j => unsortedInto arcs (i :: s.sorted) j + (successors arcs i).count j :=
          funext (unsortedInto_cons arcs (invariant.first_notMem queue))
        rw [Lined, same, line, queue] at lined
        rw [Lined, ← lined, line, List.reverse_cons, List.append_assoc]
        rfl
      rw [follows, step_sorted_of_queue queue, step_of_queue queue]
      exact taken.foldl_release (invariant.take queue) (successors_lt inRange i) _

theorem Lined.run {count : Nat} {arcs : List Arc} {ground : List Nat} {s : Sorting}
    (lined : Lined ground (s.reached arcs) (unsortedInto arcs s.sorted) s)
    (invariant : Invariant count arcs s) (inRange : InRange count arcs) (turns : Nat) :
    Lined ground ((run arcs turns s).reached arcs) (unsortedInto arcs (run arcs turns s).sorted)
      (run arcs turns s) := by
  induction turns generalizing s with
  | zero => exact lined
  | succ turns ih => exact ih (lined.step invariant inRange) (invariant.step inRange)

/-- If every node is sorted, the order is that of the last arcs into the nodes. -/
theorem sorted_finished {count : Nat} {arcs : List Arc} (inRange : InRange count arcs)
    (all : ∀ i < count, i ∈ (finished count arcs).sorted) :
    (finished count arcs).sorted.reverse =
      ((List.range count).filter fun i => indegree arcs i = 0) ++
        ((finished count arcs).reached arcs).dedup := by
  have lined : Lined ((List.range count).filter fun i => indegree arcs i = 0)
      ((finished count arcs).reached arcs) (unsortedInto arcs (finished count arcs).sorted)
      (finished count arcs) := by
    refine Lined.run ?_ (Invariant.initial count arcs) inRange count
    simp [Lined, line, reached, Sorting.initial]
  rw [Lined, line, finished_queue inRange, List.append_nil] at lined
  rw [lined]
  refine congrArg (_ ++ ·) (List.filter_eq_self.mpr fun j _ => ?_)
  rw [decide_eq_true_eq, unsortedInto_eq_zero_iff]
  exact fun a arc => all a (inRange _ arc).1

end Sorting

/-! ## The order of the identifiers -/

namespace Topology

def reached (t : Topology) (d : Definition) : List String :=
  t.sorted.flatMap fun id => (d.outgoing id).map (·.target.node)

/-- Of two nodes on one level the one that is declared first comes first. -/
def KeepsDeclared (t : Topology) (d : Definition) : Prop :=
  ∀ a ∈ d.ids, ∀ b ∈ d.ids, t.level a = t.level b → d.ids.idxOf a < d.ids.idxOf b →
    t.sorted.idxOf a < t.sorted.idxOf b

structure Settled (t : Topology) (d : Definition) : Prop where
  /-- Nodes that edges enter come in the order in which they are reached for the last time. -/
  order : t.sorted = t.inputs ++ (t.reached d).dedup
  /-- On the ground the order is that of the declaration. -/
  ground : ∀ a ∈ t.inputs, ∀ b ∈ t.inputs, d.ids.idxOf a < d.ids.idxOf b →
    t.sorted.idxOf a < t.sorted.idxOf b
  /-- Above it, of two nodes that one comes first into which the last edge is followed first. -/
  above : ∀ a ∈ d.ids, ∀ b ∈ d.ids, 0 < t.level a → 0 < t.level b →
    (t.sorted.idxOf a < t.sorted.idxOf b ↔ OutlivedBy (t.reached d) a b)
  /-- Nodes on one level are not reached from each other. -/
  independent : ∀ a ∈ d.ids, ∀ b ∈ d.ids, t.level a = t.level b →
    ¬ Relation.TransGen d.Leads a b

end Topology

namespace Definition

theorem idsAt_append (d : Definition) (first rest : List Nat) :
    d.idsAt (first ++ rest) = d.idsAt first ++ d.idsAt rest :=
  List.filterMap_append

section Valid

variable {d : Definition} (valid : d.Valid)
include valid

/-- The arcs out of a node lead where its edges do, in the order of the edges. -/
theorem idsAt_successors {i : Nat} {id : String} (found : d.ids[i]? = some id) :
    d.idsAt (successors d.arcs i) = (d.outgoing id).map (·.target.node) := by
  have leaving : ∀ edge ∈ d.edges,
      decide (d.ids.idxOf edge.source.node = i) = decide (edge.source.node = id) := by
    intro edge mem
    simp only [idxOf_eq_iff valid found (valid.ends edge mem).1]
  rw [idsAt, successors, arcs_eq_map valid, List.filter_map, List.map_map, List.filterMap_map,
    outgoing, ← List.filterMap_eq_map]
  refine (congrArg (List.filterMap _) (List.filter_congr leaving)).trans ?_
  refine List.filterMap_congr fun edge mem => ?_
  exact List.getElem?_idxOf (valid.ends edge (List.mem_filter.mp mem).1).2

theorem idsAt_flatMap_successors {indices : List Nat}
    (inRange : ∀ i ∈ indices, i < d.ids.length) :
    d.idsAt (indices.flatMap (successors d.arcs)) =
      (d.idsAt indices).flatMap fun id => (d.outgoing id).map (·.target.node) := by
  induction indices with
  | nil => rfl
  | cons i rest ih =>
      obtain ⟨here, later⟩ := List.forall_mem_cons.mp inRange
      have found : d.ids[i]? = some d.ids[i] := List.getElem?_eq_getElem here
      have first : d.idsAt (i :: rest) = d.ids[i] :: d.idsAt rest :=
        List.filterMap_cons_some found
      rw [List.flatMap_cons, idsAt_append, ih later, idsAt_successors valid found, first,
        List.flatMap_cons]

theorem idsAt_dedup {indices : List Nat} (inRange : ∀ i ∈ indices, i < d.ids.length) :
    d.idsAt indices.dedup = (d.idsAt indices).dedup := by
  refine (dedup_filterMap (fun i mem => ?_) fun i memI j memJ same => ?_).symm
  · rw [List.getElem?_eq_getElem (inRange i mem)]
    rfl
  · have here := List.getElem?_eq_getElem (inRange i memI)
    exact index_eq_of_nodup valid.distinct here (same.symm.trans here)

end Valid

section Accepted

variable {d : Definition} {t : Topology} (accepted : d.compile = .ok t)
include accepted

theorem sorted_of_compile : t.sorted = t.inputs ++ (t.reached d).dedup := by
  obtain ⟨valid, acyclic, _⟩ := orders_of_compile accepted
  obtain ⟨sorted, _, inputs⟩ := parts_of_compile accepted
  have all := (sorting_length_iff valid).mpr acyclic
  have inRange := arcs_inRange valid.distinct
  have order := Sorting.sorted_finished inRange fun i => mem_sorting valid all
  have targets : ∀ j ∈ d.sorting.reached d.arcs, j < d.ids.length := by
    intro j mem
    obtain ⟨i, _, follows⟩ := List.mem_flatMap.mp mem
    exact d.ids_length ▸ Sorting.successors_lt inRange i j follows
  have sources : ∀ i ∈ d.sorting.sorted.reverse, i < d.ids.length := by
    intro i mem
    exact d.ids_length ▸ List.mem_range.mp ((sorting_perm valid all).mem_iff.mp mem)
  have reached : t.reached d = d.idsAt (d.sorting.reached d.arcs) := by
    rw [Topology.reached, sorted, ← idsAt_flatMap_successors valid sources]
    rfl
  rw [reached, ← idsAt_dedup valid targets, inputs, ← idsAt_append, sorted]
  exact congrArg d.idsAt order

/-- On the ground the declaration settles the order. -/
theorem sorted_lt_of_inputs {a b : String} (first : a ∈ t.inputs) (second : b ∈ t.inputs)
    (declared : d.ids.idxOf a < d.ids.idxOf b) : t.sorted.idxOf a < t.sorted.idxOf b := by
  have inputs := (orders_of_compile accepted).2.2.inputs
  rw [sorted_of_compile accepted, List.idxOf_append_of_mem first, List.idxOf_append_of_mem second]
  rw [inputs, withoutIncoming] at first second ⊢
  refine (idxOf_filter_lt_iff ?_ ?_).mpr declared
  · exact (List.mem_filter.mp first).2
  · exact (List.mem_filter.mp second).2

theorem mem_reached_of_level {id : String} (mem : id ∈ d.ids) (above : 0 < t.level id) :
    id ∉ t.inputs ∧ id ∈ t.reached d := by
  have notInput : id ∉ t.inputs := fun ground =>
    Nat.ne_of_gt above ((mem_inputs_iff_level accepted mem).mp ground)
  have sorted := (orders_of_compile accepted).2.2.sorted.mem_iff.mpr mem
  rw [sorted_of_compile accepted, List.mem_append, List.mem_dedup] at sorted
  exact ⟨notInput, sorted.resolve_left notInput⟩

/-- Above the ground the last edges into two nodes settle the order. -/
theorem sorted_lt_iff_outlivedBy {a b : String} (first : a ∈ d.ids) (second : b ∈ d.ids)
    (aboveA : 0 < t.level a) (aboveB : 0 < t.level b) :
    t.sorted.idxOf a < t.sorted.idxOf b ↔ OutlivedBy (t.reached d) a b := by
  obtain ⟨apartA, reachedA⟩ := mem_reached_of_level accepted first aboveA
  obtain ⟨apartB, reachedB⟩ := mem_reached_of_level accepted second aboveB
  rw [← idxOf_dedup_lt_iff reachedA reachedB, sorted_of_compile accepted,
    List.idxOf_append_of_notMem apartA, List.idxOf_append_of_notMem apartB]
  exact Nat.add_lt_add_iff_left

theorem level_lt_of_leads {a b : String} (next : d.Leads a b) : t.level a < t.level b := by
  obtain ⟨edge, declared, rfl, rfl⟩ := next
  obtain ⟨source, target⟩ := (orders_of_compile accepted).1.ends edge declared
  have longest : PathTo d.Leads (t.level edge.source.node) edge.source.node :=
    (isGreatest_level accepted source).1
  exact (isGreatest_level accepted target).2 (longest.step ⟨edge, declared, rfl, rfl⟩)

/-- A path leads to a higher level. -/
theorem level_lt_of_transGen {a b : String} (path : Relation.TransGen d.Leads a b) :
    t.level a < t.level b := by
  induction path with
  | single next => exact level_lt_of_leads accepted next
  | tail _ next ih => exact ih.trans (level_lt_of_leads accepted next)

theorem settled_of_compile : t.Settled d where
  order := sorted_of_compile accepted
  ground _ first _ second := sorted_lt_of_inputs accepted first second
  above _ first _ second := sorted_lt_iff_outlivedBy accepted first second
  independent _ _ _ _ same path := Nat.ne_of_lt (level_lt_of_transGen accepted path) same

end Accepted

/--
The nodes of an accepted definition that no edge enters come first, in the
order of their declaration, and every other node comes where it is reached for
the last time, as the edges are followed source by source.  So nodes on one
level are in the order of their declaration exactly if, above the ground, the
last edges into them are followed in that order.
-/
theorem keepsDeclared_iff {d : Definition} {t : Topology} (accepted : d.compile = .ok t) :
    t.Settled d ∧
      (t.KeepsDeclared d ↔
        ∀ a ∈ d.ids, ∀ b ∈ d.ids, t.level a = t.level b → 0 < t.level a →
          d.ids.idxOf a < d.ids.idxOf b → OutlivedBy (t.reached d) a b) := by
  have settled := settled_of_compile accepted
  refine ⟨settled, ?_, ?_⟩
  · intro keeps a memA b memB same above declared
    exact (settled.above a memA b memB above (same ▸ above)).mp (keeps a memA b memB same declared)
  · intro outlived a memA b memB same declared
    rcases Nat.eq_zero_or_pos (t.level a) with onGround | above
    · exact settled.ground a ((mem_inputs_iff_level accepted memA).mpr onGround)
        b ((mem_inputs_iff_level accepted memB).mpr (same ▸ onGround)) declared
    · exact (settled.above a memA b memB above (same ▸ above)).mpr
        (outlived a memA b memB same above declared)

/-- Two nodes behind one source, of which the second one that is declared has the first edge. -/
def fork : Definition :=
  ⟨"fork", "1", none, [.plain "root" "echo", .plain "left" "echo", .plain "right" "echo"],
    [.plain "root" "right", .plain "root" "left"]⟩

def forkOrder : Topology :=
  { sorted := ["root", "right", "left"]
    levels := Dict.ofList [("root", 0), ("right", 1), ("left", 1)]
    inputs := ["root"]
    outputs := ["left", "right"] }

theorem fork_breaks_declared : fork.compile = .ok forkOrder ∧ ¬ forkOrder.KeepsDeclared fork := by
  refine ⟨by decide +kernel, fun keeps => ?_⟩
  have swapped := keeps "left" (by decide) "right" (by decide) (by decide) (by decide)
  exact absurd swapped (by decide)

theorem keepsDeclared_iff_of_fork :
    fork.compile = .ok forkOrder ∧ forkOrder.Settled fork ∧
      (forkOrder.KeepsDeclared fork ↔
        ∀ a ∈ fork.ids, ∀ b ∈ fork.ids, forkOrder.level a = forkOrder.level b →
          0 < forkOrder.level a → fork.ids.idxOf a < fork.ids.idxOf b →
            OutlivedBy (forkOrder.reached fork) a b) := by
  have accepted : fork.compile = .ok forkOrder := by decide +kernel
  exact ⟨accepted, keepsDeclared_iff accepted⟩

end Definition

end ActionGraph.Graph
