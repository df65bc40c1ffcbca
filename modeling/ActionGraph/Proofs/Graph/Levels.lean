import Mathlib.Order.Bounds.Basic
import ActionGraph.Proofs.Dictionaries
import ActionGraph.Proofs.Graph.Compilation

/-!
# Levels

The level of a node is the length of a longest path that ends in it.  Nodes
are taken up in the order in which they were queued, and so level by level:
the source that a node waits for last is one of the highest of its sources,
and the node is queued one level above it.
-/

namespace ActionGraph.Graph

/-- A path of so many steps ends here. -/
inductive PathTo {α : Type} (r : α → α → Prop) : Nat → α → Prop where
  | start (a : α) : PathTo r 0 a
  | step {n : Nat} {a b : α} (path : PathTo r n a) (next : r a b) : PathTo r (n + 1) b

namespace Sorting

def level (s : Sorting) (i : Nat) : Nat :=
  s.levels.getD i 0

def line (s : Sorting) : List Nat :=
  s.sorted.reverse ++ s.queue

theorem mem_line_iff {s : Sorting} {i : Nat} : i ∈ s.line ↔ i ∈ s.queue ∨ i ∈ s.sorted := by
  rw [line, List.mem_append, List.mem_reverse, or_comm]

/-! ## Releasing nodes -/

section Release

variable (height : Nat) (s : Sorting)

theorem levels_length_release (next : Nat) :
    (s.release height next).levels.length = s.levels.length :=
  List.length_set

theorem level_release {next : Nat} (inRange : next < s.levels.length) (j : Nat) :
    (s.release height next).level j =
      if j = next then max (s.level j) (height + 1) else s.level j := by
  simp only [level, release, List.getD_eq_getElem?_getD, List.getElem?_set]
  by_cases same : j = next
  · subst same
    simp [inRange]
  · simp [same, Ne.symm same]

theorem levels_length_foldl_release (targets : List Nat) :
    (targets.foldl (release height) s).levels.length = s.levels.length := by
  induction targets generalizing s with
  | nil => rfl
  | cons next rest ih => rw [List.foldl_cons, ih, levels_length_release]

/-- Exactly the nodes that are released rise. -/
theorem level_foldl_release {targets : List Nat}
    (inRange : ∀ target ∈ targets, target < s.levels.length) (j : Nat) :
    (targets.foldl (release height) s).level j =
      if j ∈ targets then max (s.level j) (height + 1) else s.level j := by
  induction targets generalizing s with
  | nil => rfl
  | cons next rest ih =>
      obtain ⟨here, later⟩ := List.forall_mem_cons.mp inRange
      rw [List.foldl_cons, ih (s.release height next) fun target mem => by
        rw [levels_length_release]
        exact later target mem, level_release height s here]
      by_cases same : j = next
      · simp [same]
      · simp [same]

/-- Nodes that are queued are among those that are released, and are queued last. -/
theorem queue_foldl_release (targets : List Nat) :
    ∃ more, (targets.foldl (release height) s).queue = s.queue ++ more ∧ more ⊆ targets := by
  induction targets generalizing s with
  | nil => exact ⟨[], (List.append_nil _).symm, List.Subset.refl _⟩
  | cons next rest ih =>
      obtain ⟨more, queued, released⟩ := ih (s.release height next)
      rw [List.foldl_cons, queued]
      by_cases last : s.waiting.getD next 0 - 1 = 0
      · refine ⟨next :: more, ?_, List.cons_subset_cons next released⟩
        simp only [release, if_pos last, List.append_assoc, List.singleton_append]
      · refine ⟨more, ?_, List.subset_cons_of_subset next released⟩
        simp only [release, if_neg last]

end Release

/-! ## Taking up nodes level by level -/

/-- What the sorting keeps of the levels. -/
structure Levelled (count : Nat) (arcs : List Arc) (s : Sorting) : Prop where
  size : s.levels.length = count
  /-- A node is above each of its sources that are sorted. -/
  above : ∀ a ∈ s.sorted, ∀ j, Follows arcs a j → s.level a < s.level j
  /-- A node that is not on the ground is one level above some source that is sorted. -/
  reached : ∀ j, s.level j = 0 ∨ ∃ a ∈ s.sorted, Follows arcs a j ∧ s.level j = s.level a + 1
  /-- Nodes are queued level by level. -/
  rising : s.line.Pairwise fun a b => s.level a ≤ s.level b
  /-- Those in the queue are of two levels at most. -/
  near : ∀ a ∈ s.queue, ∀ b ∈ s.queue, s.level b ≤ s.level a + 1

theorem level_initial (count : Nat) (arcs : List Arc) (i : Nat) :
    (initial count arcs).level i = 0 := by
  simp only [level, initial, List.getD_eq_getElem?_getD, List.getElem?_replicate]
  split
  · rfl
  · rfl

theorem Levelled.initial (count : Nat) (arcs : List Arc) :
    Levelled count arcs (.initial count arcs) where
  size := List.length_replicate
  above := List.forall_mem_nil _
  reached j := .inl (level_initial count arcs j)
  rising := List.pairwise_of_forall fun a b => by rw [level_initial, level_initial]
  near a _ b _ := by simp [level_initial]

theorem mem_successors_iff {arcs : List Arc} {i j : Nat} :
    j ∈ successors arcs i ↔ Follows arcs i j := by
  simp only [successors, List.mem_map, List.mem_filter, decide_eq_true_eq, Follows]
  constructor
  · rintro ⟨⟨_, _⟩, ⟨mem, rfl⟩, rfl⟩
    exact mem
  · exact fun mem => ⟨(i, j), ⟨mem, rfl⟩, rfl⟩

/-- All sources of a node that is queued or sorted are sorted. -/
theorem Invariant.source_mem {count : Nat} {arcs : List Arc} {s : Sorting}
    (invariant : Invariant count arcs s) {a j : Nat} (mem : j ∈ s.line) (arc : Follows arcs a j) :
    a ∈ s.sorted :=
  (unsortedInto_eq_zero_iff arcs s.sorted j).mp
    ((invariant.balanced.ready j).mp (mem_line_iff.mp mem)).2 a arc

theorem Invariant.first_notMem {count : Nat} {arcs : List Arc} {s : Sorting}
    (invariant : Invariant count arcs s) {i : Nat} {rest : List Nat} (queue : s.queue = i :: rest) :
    i ∉ s.sorted := by
  have distinct := invariant.balanced.distinct
  rw [queue, List.cons_append, List.nodup_cons] at distinct
  exact fun mem => distinct.1 (List.mem_append_right _ mem)

/-- Taking up a node moves it to those that are sorted and queues some of its successors. -/
theorem exists_line_step (arcs : List Arc) {s : Sorting} {i : Nat} {rest : List Nat}
    (queue : s.queue = i :: rest) :
    ∃ more, (s.step arcs).line = s.line ++ more ∧ (s.step arcs).queue = rest ++ more ∧
      more ⊆ successors arcs i := by
  obtain ⟨more, queued, released⟩ := queue_foldl_release (s.levels.getD i 0)
    { s with queue := rest, sorted := i :: s.sorted } (successors arcs i)
  rw [← step_of_queue queue] at queued
  refine ⟨more, ?_, queued, released⟩
  rw [line, line, step_sorted_of_queue queue, queued, queue]
  simp

theorem line_prefix_step (arcs : List Arc) (s : Sorting) : s.line <+: (s.step arcs).line := by
  cases queue : s.queue with
  | nil => rw [step_of_queue_nil queue]
  | cons i rest =>
      obtain ⟨more, whole, _⟩ := exists_line_step arcs queue
      exact ⟨more, whole.symm⟩

/-- What is queued stays in its place. -/
theorem line_prefix_run (arcs : List Arc) (turns : Nat) (s : Sorting) :
    s.line <+: (run arcs turns s).line := by
  induction turns generalizing s with
  | zero => exact List.prefix_rfl
  | succ turns ih => exact (line_prefix_step arcs s).trans (ih (s.step arcs))

section Step

variable {count : Nat} {arcs : List Arc} {s : Sorting} (levelled : Levelled count arcs s)
include levelled

section First

variable {i : Nat} {rest : List Nat} (queue : s.queue = i :: rest)
include queue

/-- What is sorted is not above the first node of the queue. -/
theorem Levelled.le_first {a : Nat} (mem : a ∈ s.sorted) : s.level a ≤ s.level i := by
  have rising := levelled.rising
  rw [line, List.pairwise_append] at rising
  exact rising.2.2 a (List.mem_reverse.mpr mem) i (queue ▸ List.mem_cons_self)

theorem Levelled.first_le {b : Nat} (mem : b ∈ s.queue) : s.level i ≤ s.level b := by
  have rising := levelled.rising
  rw [line, queue, List.pairwise_append, List.pairwise_cons] at rising
  rw [queue] at mem
  rcases List.mem_cons.mp mem with rfl | later
  · exact Nat.le_refl _
  · exact rising.2.1.1 b later

theorem Levelled.le_first_succ {b : Nat} (mem : b ∈ s.line) : s.level b ≤ s.level i + 1 := by
  rcases mem_line_iff.mp mem with waiting | done
  · exact levelled.near i (queue ▸ List.mem_cons_self) b waiting
  · exact Nat.le_succ_of_le (levelled.le_first queue done)

omit levelled in
theorem level_step (size : s.levels.length = count) (inRange : InRange count arcs) (j : Nat) :
    (s.step arcs).level j =
      if j ∈ successors arcs i then max (s.level j) (s.level i + 1) else s.level j := by
  rw [step_of_queue queue]
  exact level_foldl_release _ { s with queue := rest, sorted := i :: s.sorted }
    (fun target mem => size ▸ successors_lt inRange i target mem) j

/-- What follows the node that is taken up comes to lie one level above it. -/
theorem Levelled.level_step_of_follows (inRange : InRange count arcs) {j : Nat}
    (arc : Follows arcs i j) : (s.step arcs).level j = s.level i + 1 := by
  rw [level_step queue levelled.size inRange, if_pos (mem_successors_iff.mpr arc)]
  refine max_eq_right ?_
  -- so far the node is at most one level above some source that was taken up before
  rcases levelled.reached j with ground | ⟨a, mem, _, same⟩
  · omega
  · have below := levelled.le_first queue mem
    omega

theorem Levelled.level_step_of_not_follows (inRange : InRange count arcs) {j : Nat}
    (apart : ¬ Follows arcs i j) : (s.step arcs).level j = s.level j := by
  rw [level_step queue levelled.size inRange, if_neg (apart ∘ mem_successors_iff.mp)]

/-- What is added to the queue lies one level above the node that is taken up. -/
theorem Levelled.exists_added (inRange : InRange count arcs) :
    ∃ more, (s.step arcs).line = s.line ++ more ∧ (s.step arcs).queue = rest ++ more ∧
      ∀ j ∈ more, (s.step arcs).level j = s.level i + 1 := by
  obtain ⟨more, whole, queued, released⟩ := exists_line_step arcs queue
  exact ⟨more, whole, queued, fun j mem =>
    levelled.level_step_of_follows queue inRange (mem_successors_iff.mp (released mem))⟩

section Fields

variable (invariant : Invariant count arcs s) (inRange : InRange count arcs)
include invariant inRange

/-- What is queued or sorted keeps its level, since it does not wait for what is taken up. -/
theorem Levelled.level_step_of_line {j : Nat} (mem : j ∈ s.line) :
    (s.step arcs).level j = s.level j :=
  levelled.level_step_of_not_follows queue inRange fun arc =>
    invariant.first_notMem queue (invariant.source_mem mem arc)

theorem Levelled.above_step :
    ∀ a ∈ (s.step arcs).sorted, ∀ j, Follows arcs a j →
      (s.step arcs).level a < (s.step arcs).level j := by
  have kept := fun j => levelled.level_step_of_line queue invariant inRange (j := j)
  rw [step_sorted_of_queue queue, List.forall_mem_cons]
  refine ⟨fun j arc => ?_, fun a mem j arc => ?_⟩
  · rw [levelled.level_step_of_follows queue inRange arc,
      kept i (mem_line_iff.mpr (.inl (queue ▸ List.mem_cons_self)))]
    exact Nat.lt_succ_self _
  · rw [kept a (mem_line_iff.mpr (.inr mem))]
    by_cases next : Follows arcs i j
    · rw [levelled.level_step_of_follows queue inRange next]
      exact Nat.lt_succ_of_le (levelled.le_first queue mem)
    · rw [levelled.level_step_of_not_follows queue inRange next]
      exact levelled.above a mem j arc

theorem Levelled.reached_step (j : Nat) :
    (s.step arcs).level j = 0 ∨ ∃ a ∈ (s.step arcs).sorted, Follows arcs a j ∧
      (s.step arcs).level j = (s.step arcs).level a + 1 := by
  have kept := fun j => levelled.level_step_of_line queue invariant inRange (j := j)
  rw [step_sorted_of_queue queue]
  by_cases next : Follows arcs i j
  · refine .inr ⟨i, List.mem_cons_self, next, ?_⟩
    rw [levelled.level_step_of_follows queue inRange next,
      kept i (mem_line_iff.mpr (.inl (queue ▸ List.mem_cons_self)))]
  · rw [levelled.level_step_of_not_follows queue inRange next]
    refine (levelled.reached j).imp_right fun ⟨a, mem, arc, same⟩ => ?_
    exact ⟨a, List.mem_cons_of_mem _ mem, arc, by rw [kept a (mem_line_iff.mpr (.inr mem)), same]⟩

theorem Levelled.rising_step :
    (s.step arcs).line.Pairwise fun a b => (s.step arcs).level a ≤ (s.step arcs).level b := by
  have kept := fun j => levelled.level_step_of_line queue invariant inRange (j := j)
  obtain ⟨more, whole, _, added⟩ := levelled.exists_added queue inRange
  rw [whole, List.pairwise_append]
  refine ⟨?_, ?_, ?_⟩
  · exact levelled.rising.imp_of_mem fun a b below => by rwa [kept _ a, kept _ b]
  · exact List.pairwise_of_forall_mem_list fun a memA b memB => by
      rw [added a memA, added b memB]
  · intro a memA b memB
    rw [kept a memA, added b memB]
    exact levelled.le_first_succ queue memA

/-- All that is queued lies on the level of the node that is taken up, or on the next one. -/
theorem Levelled.queue_step {a : Nat} (mem : a ∈ (s.step arcs).queue) :
    s.level i ≤ (s.step arcs).level a ∧ (s.step arcs).level a ≤ s.level i + 1 := by
  obtain ⟨more, _, queued, added⟩ := levelled.exists_added queue inRange
  rw [queued, List.mem_append] at mem
  rcases mem with waits | new
  · have old : a ∈ s.queue := queue ▸ List.mem_cons_of_mem _ waits
    have inLine : a ∈ s.line := mem_line_iff.mpr (.inl old)
    rw [levelled.level_step_of_line queue invariant inRange inLine]
    exact ⟨levelled.first_le queue old, levelled.le_first_succ queue inLine⟩
  · rw [added a new]
    exact ⟨Nat.le_succ _, Nat.le_refl _⟩

end Fields

end First

/-- Each node is on the level at which it was queued, and levels only rise along the queue. -/
theorem Levelled.step (invariant : Invariant count arcs s) (inRange : InRange count arcs) :
    Levelled count arcs (s.step arcs) := by
  cases queue : s.queue with
  | nil => rwa [step_of_queue_nil queue]
  | cons i rest =>
      have near := fun a => levelled.queue_step queue invariant inRange (a := a)
      exact
        { size := by
            rw [step_of_queue queue, levels_length_foldl_release]
            exact levelled.size
          above := levelled.above_step queue invariant inRange
          reached := levelled.reached_step queue invariant inRange
          rising := levelled.rising_step queue invariant inRange
          near := fun a memA b memB =>
            (near b memB).2.trans (Nat.succ_le_succ (near a memA).1) }

end Step

theorem Levelled.run {count : Nat} {arcs : List Arc} {s : Sorting}
    (levelled : Levelled count arcs s) (invariant : Invariant count arcs s)
    (inRange : InRange count arcs) (turns : Nat) : Levelled count arcs (run arcs turns s) := by
  induction turns generalizing s with
  | zero => exact levelled
  | succ turns ih => exact ih (levelled.step invariant inRange) (invariant.step inRange)

/-! ## Longest paths -/

/-- There is a path to each node that is as long as the node is high. -/
theorem Levelled.pathTo {count : Nat} {arcs : List Arc} {s : Sorting}
    (levelled : Levelled count arcs s) (j : Nat) : PathTo (Follows arcs) (s.level j) j := by
  generalize height : s.level j = n
  induction n generalizing j with
  | zero => exact .start j
  | succ n ih =>
      rcases levelled.reached j with ground | ⟨a, _, arc, same⟩
      · rw [ground] at height
        cases height
      · exact .step (ih a (Nat.succ.inj (same.symm.trans height))) arc

/-- No path is longer than the node at its end is high, if every node is sorted. -/
theorem Levelled.le_level {count : Nat} {arcs : List Arc} {s : Sorting}
    (levelled : Levelled count arcs s) (inRange : InRange count arcs)
    (all : ∀ i < count, i ∈ s.sorted) {n j : Nat} (path : PathTo (Follows arcs) n j) :
    n ≤ s.level j := by
  induction path with
  | start j => exact Nat.zero_le _
  | step _ arc ih => exact Nat.lt_of_le_of_lt ih (levelled.above _ (all _ (inRange _ arc).1) _ arc)

section Finished

variable {count : Nat} {arcs : List Arc} (inRange : InRange count arcs)
include inRange

theorem finished_levelled : Levelled count arcs (finished count arcs) :=
  (Levelled.initial count arcs).run (Invariant.initial count arcs) inRange count

/-- The nodes that wait for nothing are taken up first. -/
theorem inputs_prefix_finished :
    ((List.range count).filter fun i => indegree arcs i = 0) <+:
      (finished count arcs).sorted.reverse := by
  have grown := line_prefix_run arcs count (.initial count arcs)
  change _ <+: (finished count arcs).line at grown
  rw [line, line, finished_queue inRange, List.append_nil] at grown
  exact grown

theorem rising_finished : (finished count arcs).sorted.reverse.Pairwise fun a b =>
    (finished count arcs).level a ≤ (finished count arcs).level b := by
  have rising := (finished_levelled inRange).rising
  rwa [line, finished_queue inRange, List.append_nil] at rising

end Finished

end Sorting

def Topology.level (t : Topology) (id : String) : Nat :=
  (t.levels.get? id).getD 0

/-- Levels are lengths of longest paths, and the order goes up level by level. -/
structure Topology.Levelled (t : Topology) (d : Definition) : Prop where
  keys : ∀ id, id ∈ t.levels.keys ↔ id ∈ d.ids
  longest : ∀ id ∈ d.ids, IsGreatest {n | PathTo d.Leads n id} (t.level id)
  rising : t.sorted.Pairwise fun a b => t.level a ≤ t.level b
  /-- The nodes on the ground come first. -/
  inputs_prefix : t.inputs <+: t.sorted
  mem_inputs_iff : ∀ id ∈ t.sorted, id ∈ t.inputs ↔ t.level id = 0

namespace Definition

def levelEntries (d : Definition) : List (String × Nat) :=
  d.sorting.sorted.reverse.filterMap fun i =>
    (d.ids[i]?).map fun id => (id, d.sorting.levels.getD i 0)

theorem levelEntries_keys (d : Definition) :
    d.levelEntries.map (·.1) = d.idsAt d.sorting.sorted.reverse := by
  rw [levelEntries, idsAt, List.map_filterMap]
  refine List.filterMap_congr fun i _ => ?_
  rw [Option.map_map]
  exact Option.map_id'

section Valid

variable {d : Definition} (valid : d.Valid)
include valid

/-- A path along edges is one along arcs. -/
theorem pathTo_follows_iff {n i : Nat} {id : String} (found : d.ids[i]? = some id) :
    PathTo (Follows d.arcs) n i ↔ PathTo d.Leads n id := by
  constructor
  · intro path
    induction path generalizing id with
    | start i => exact .start id
    | step _ arc ih =>
        obtain ⟨edge, mem, source, target⟩ := (mem_arcs_iff valid.distinct _ _).mp arc
        exact .step (ih source) ⟨edge, mem, rfl, Option.some.inj (target.symm.trans found)⟩
  · intro path
    induction path generalizing i with
    | start _ => exact .start i
    | step _ next ih =>
        obtain ⟨edge, mem, rfl, rfl⟩ := next
        obtain ⟨j, source⟩ := List.getElem?_of_mem (valid.ends edge mem).1
        exact .step (ih source) ((mem_arcs_iff valid.distinct j i).mpr ⟨edge, mem, source, found⟩)

variable (all : d.sorting.sorted.length = d.nodes.length)
include all

theorem mem_sorting {i : Nat} (bound : i < d.nodes.length) : i ∈ d.sorting.sorted := by
  rw [← List.mem_reverse, (sorting_perm valid all).mem_iff, List.mem_range]
  exact bound

theorem get?_levelEntries {i : Nat} {id : String} (found : d.ids[i]? = some id) :
    (Dict.ofList d.levelEntries).get? id = some (d.sorting.level i) := by
  refine Dict.get?_ofList_of_mem ?_ ?_
  · rw [levelEntries_keys]
    exact (idsAt_perm (sorting_perm valid all)).nodup_iff.mpr valid.distinct
  · have bound : i < d.nodes.length := d.ids_length ▸ (List.getElem?_eq_some_iff.mp found).1
    refine List.mem_filterMap.mpr ⟨i, List.mem_reverse.mpr (mem_sorting valid all bound), ?_⟩
    rw [found]
    rfl

end Valid

/-- What is accepted is in the order of the sorting, with the levels it gives. -/
theorem parts_of_compile {d : Definition} {t : Topology} (accepted : d.compile = .ok t) :
    t.sorted = d.idsAt d.sorting.sorted.reverse ∧ t.levels = Dict.ofList d.levelEntries ∧
      t.inputs = d.idsAt ((List.range d.nodes.length).filter fun i => indegree d.arcs i = 0) := by
  obtain ⟨valid, acyclic, _⟩ := orders_of_compile accepted
  have all := (sorting_length_iff valid).mpr acyclic
  rw [compile_eq valid, if_neg (by omega)] at accepted
  cases accepted
  exact ⟨rfl, rfl, rfl⟩

section Accepted

variable {d : Definition} {t : Topology} (accepted : d.compile = .ok t)
include accepted

theorem level_of_compile {i : Nat} {id : String} (found : d.ids[i]? = some id) :
    t.levels.get? id = some (d.sorting.level i) := by
  obtain ⟨valid, acyclic, _⟩ := orders_of_compile accepted
  rw [(parts_of_compile accepted).2.1]
  exact get?_levelEntries valid ((sorting_length_iff valid).mpr acyclic) found

theorem mem_levels_iff (id : String) : id ∈ t.levels.keys ↔ id ∈ d.ids := by
  rw [Dict.mem_keys_iff]
  constructor
  · intro known
    obtain ⟨height, found⟩ := Option.isSome_iff_exists.mp known
    rw [(parts_of_compile accepted).2.1] at found
    have named := List.mem_map_of_mem (f := (·.1)) (Dict.mem_of_get?_ofList found)
    rw [levelEntries_keys, ← (parts_of_compile accepted).1] at named
    exact (orders_of_compile accepted).2.2.sorted.mem_iff.mp named
  · intro mem
    obtain ⟨i, found⟩ := List.getElem?_of_mem mem
    rw [level_of_compile accepted found]
    rfl

theorem isGreatest_level {id : String} (mem : id ∈ d.ids) :
    IsGreatest {n | PathTo d.Leads n id} (t.level id) := by
  obtain ⟨valid, acyclic, _⟩ := orders_of_compile accepted
  have all := (sorting_length_iff valid).mpr acyclic
  have inRange := arcs_inRange valid.distinct
  have levelled : Sorting.Levelled d.nodes.length d.arcs d.sorting :=
    Sorting.finished_levelled inRange
  obtain ⟨i, found⟩ := List.getElem?_of_mem mem
  rw [Topology.level, level_of_compile accepted found, Option.getD_some]
  constructor
  · exact (pathTo_follows_iff valid found).mp (levelled.pathTo i)
  · intro n path
    exact levelled.le_level inRange (fun _ => mem_sorting valid all)
      ((pathTo_follows_iff valid found).mpr path)

theorem rising_of_compile : t.sorted.Pairwise fun a b => t.level a ≤ t.level b := by
  have inRange := arcs_inRange (orders_of_compile accepted).1.distinct
  rw [(parts_of_compile accepted).1]
  refine List.Pairwise.filterMap _ (fun i j below a foundA b foundB => ?_)
    (Sorting.rising_finished inRange)
  rw [Topology.level, Topology.level, level_of_compile accepted foundA,
    level_of_compile accepted foundB]
  exact below

theorem inputs_prefix_of_compile : t.inputs <+: t.sorted := by
  have inRange := arcs_inRange (orders_of_compile accepted).1.distinct
  obtain ⟨sorted, _, inputs⟩ := parts_of_compile accepted
  rw [sorted, inputs]
  exact (Sorting.inputs_prefix_finished inRange).filterMap _

/-- The nodes on the ground are those that no edge enters. -/
theorem mem_inputs_iff_level {id : String} (mem : id ∈ d.ids) :
    id ∈ t.inputs ↔ t.level id = 0 := by
  have greatest := isGreatest_level accepted mem
  rw [(orders_of_compile accepted).2.2.inputs, withoutIncoming, List.mem_filter, and_iff_right mem,
    List.all_eq_true]
  simp only [decide_eq_true_eq]
  constructor
  · intro free
    generalize t.level id = height at greatest
    cases greatest.1 with
    | start => rfl
    | step _ next =>
        obtain ⟨edge, declared, _, target⟩ := next
        exact absurd target (free edge declared)
  · rintro ground edge declared rfl
    have path : PathTo d.Leads 1 edge.target.node :=
      .step (.start edge.source.node) ⟨edge, declared, rfl, rfl⟩
    have bound := greatest.2 path
    omega

end Accepted

/--
The level of every node of an accepted definition is the length of a longest
path that ends there, nodes are ordered by their levels, and the inputs are
the nodes of level zero, at the front.
-/
theorem levels_are_longest_paths {d : Definition} {t : Topology} (accepted : d.compile = .ok t) :
    t.Levelled d where
  keys := mem_levels_iff accepted
  longest _ mem := isGreatest_level accepted mem
  rising := rising_of_compile accepted
  inputs_prefix := inputs_prefix_of_compile accepted
  mem_inputs_iff _ mem := mem_inputs_iff_level accepted
    ((orders_of_compile accepted).2.2.sorted.mem_iff.mp mem)

/-- A node with a short way and a long way to it. -/
def detour : Definition :=
  ⟨"detour", "1", none,
    [.plain "goal" "echo", .plain "alone" "echo", .plain "home" "echo", .plain "stop" "echo"],
    [.plain "home" "goal", .plain "home" "stop", .plain "stop" "goal"]⟩

def detourOrder : Topology :=
  { sorted := ["alone", "home", "stop", "goal"]
    levels := Dict.ofList [("alone", 0), ("home", 0), ("stop", 1), ("goal", 2)]
    inputs := ["alone", "home"]
    outputs := ["goal", "alone"] }

theorem levels_of_detour : detour.compile = .ok detourOrder ∧ detourOrder.Levelled detour := by
  have accepted : detour.compile = .ok detourOrder := by decide +kernel
  exact ⟨accepted, levels_are_longest_paths accepted⟩

end Definition

end ActionGraph.Graph
