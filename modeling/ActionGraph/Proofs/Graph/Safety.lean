import Mathlib.Data.Nat.Find
import ActionGraph.Proofs.Graph.Levels

/-!
# Safety of the sorting

Nothing goes wrong while a valid definition is sorted.  Both ends of an edge
are found by their identifiers, a node that is released waits for an arc that
can be counted off, no node is queued twice, and the queue is empty after as
many turns as there are nodes at the latest.  The count that a node waits for
is that of the edges into it, parallel ones and loops included, whose source is
not sorted.
-/

namespace ActionGraph.Graph

namespace Sorting

/-! ## Amid a turn -/

/-- A node is taken from the front of the queue, and these of its successors are released. -/
def amid (s : Sorting) (i : Nat) (rest released : List Nat) : Sorting :=
  released.foldl (release (s.levels.getD i 0)) { s with queue := rest, sorted := i :: s.sorted }

/-- A turn is over once all successors are released. -/
theorem step_eq_amid {arcs : List Arc} {s : Sorting} {i : Nat} {rest : List Nat}
    (queue : s.queue = i :: rest) : s.step arcs = s.amid i rest (successors arcs i) :=
  step_of_queue queue

section Amid

variable {count : Nat} {arcs : List Arc} {s : Sorting} (invariant : Invariant count arcs s)
  (inRange : InRange count arcs) {i : Nat} {rest : List Nat} (queue : s.queue = i :: rest)
  {released more : List Nat} (split : successors arcs i = released ++ more)
include invariant inRange queue split

/-- Amid a turn the arcs that are left are still to be counted off. -/
theorem Invariant.amid :
    Balanced count (fun j => unsortedInto arcs (i :: s.sorted) j + more.count j)
      (s.amid i rest released) := by
  have taken := invariant.take queue
  -- arcs to successors that are still to be released are counted apart
  have parts : (fun j => unsortedInto arcs (i :: s.sorted) j + (successors arcs i).count j) =
      fun j => unsortedInto arcs (i :: s.sorted) j + more.count j + released.count j := by
    funext j
    rw [split, List.count_append]
    omega
  rw [parts] at taken
  refine taken.foldl_release (fun target mem => ?_) _
  exact successors_lt inRange i target (split ▸ List.mem_append_left _ mem)

end Amid

/-- A node that is next to be released waits for an arc at least. -/
theorem Invariant.exists_waiting {count : Nat} {arcs : List Arc} {s : Sorting}
    (invariant : Invariant count arcs s) (inRange : InRange count arcs) {i : Nat}
    {rest released later : List Nat} {next : Nat} (queue : s.queue = i :: rest)
    (split : successors arcs i = released ++ next :: later) :
    ∃ left, (s.amid i rest released).waiting[next]? = some (left + 1) := by
  have balanced := invariant.amid inRange queue split
  have bound : next < count :=
    successors_lt inRange i next (split ▸ List.mem_append_right _ List.mem_cons_self)
  have waits := balanced.waiting next bound
  rw [List.count_cons_self, ← Nat.add_assoc, List.getD_eq_getElem?_getD] at waits
  have there : next < (s.amid i rest released).waiting.length := by rwa [balanced.size]
  rw [List.getElem?_eq_getElem there] at waits ⊢
  exact ⟨_, congrArg some waits⟩

/-! ## What enters the queue -/

/-- The nodes that enter the queue in a turn: those behind what the turn leaves of it. -/
def queuedIn (arcs : List Arc) (s : Sorting) : List Nat :=
  (s.step arcs).queue.drop (s.queue.length - 1)

def queuedWithin (arcs : List Arc) : Nat → Sorting → List Nat
  | 0, _ => []
  | turns + 1, s => s.queuedIn arcs ++ queuedWithin arcs turns (s.step arcs)

theorem queue_step {arcs : List Arc} {s : Sorting} {i : Nat} {rest : List Nat}
    (queue : s.queue = i :: rest) : (s.step arcs).queue = rest ++ s.queuedIn arcs := by
  obtain ⟨more, _, queued, _⟩ := exists_line_step arcs queue
  rw [queuedIn, queued, queue, List.length_cons, Nat.add_sub_cancel, List.drop_left]

/-- The line grows by what enters the queue. -/
theorem line_step (arcs : List Arc) (s : Sorting) :
    (s.step arcs).line = s.line ++ s.queuedIn arcs := by
  cases queue : s.queue with
  | nil => rw [queuedIn, step_of_queue_nil queue, queue, List.drop_nil, List.append_nil]
  | cons i rest =>
      rw [line, line, step_sorted_of_queue queue, queue_step queue, queue]
      simp

theorem line_run (arcs : List Arc) (turns : Nat) (s : Sorting) :
    (run arcs turns s).line = s.line ++ queuedWithin arcs turns s := by
  induction turns generalizing s with
  | zero => exact (List.append_nil _).symm
  | succ turns ih => rw [run, ih, line_step, queuedWithin, List.append_assoc]

theorem Invariant.line_nodup {count : Nat} {arcs : List Arc} {s : Sorting}
    (invariant : Invariant count arcs s) : s.line.Nodup := by
  have perm : s.line.Perm (s.queue ++ s.sorted) :=
    List.perm_append_comm.trans ((List.reverse_perm _).append_left _)
  exact perm.nodup_iff.mpr invariant.balanced.distinct

/-- No node enters the queue twice. -/
theorem queued_nodup {count : Nat} {arcs : List Arc} (inRange : InRange count arcs) (turns : Nat) :
    ((initial count arcs).queue ++ queuedWithin arcs turns (initial count arcs)).Nodup := by
  have all := line_run arcs turns (initial count arcs)
  have distinct := ((Invariant.initial count arcs).run inRange turns).line_nodup
  rw [all] at distinct
  exact distinct

/-! ## When the queue is empty -/

theorem run_add (arcs : List Arc) (first more : Nat) (s : Sorting) :
    run arcs (first + more) s = run arcs more (run arcs first s) := by
  induction first generalizing s with
  | zero => rw [Nat.zero_add, run]
  | succ first ih => rw [Nat.succ_add, run, run, ih]

theorem run_of_le {arcs : List Arc} {s : Sorting} {turns more : Nat}
    (empty : (run arcs turns s).queue = []) (le : turns ≤ more) :
    run arcs more s = run arcs turns s := by
  obtain ⟨rest, rfl⟩ := Nat.exists_eq_add_of_le le
  rw [run_add, run_of_queue_nil empty]

/-- From some turn on the queue is empty, at the latest when each node had its turn. -/
theorem exists_last_turn {count : Nat} {arcs : List Arc} (inRange : InRange count arcs) :
    ∃ turns ≤ count,
      (∀ more, (run arcs more (initial count arcs)).queue = [] ↔ turns ≤ more) ∧
        finished count arcs = run arcs turns (initial count arcs) := by
  have ends : ∃ turns, (run arcs turns (initial count arcs)).queue = [] :=
    ⟨count, finished_queue inRange⟩
  have inTime : Nat.find ends ≤ count := Nat.find_min' ends (finished_queue inRange)
  have empty := Nat.find_spec ends
  refine ⟨Nat.find ends, inTime, fun more => ⟨Nat.find_min' ends, fun le => ?_⟩, ?_⟩
  · rw [run_of_le empty le]
    exact empty
  · exact run_of_le empty inTime

end Sorting

namespace Definition

/-! ## Edges and arcs -/

section Valid

variable {d : Definition} (valid : d.Valid)
include valid

/-- A node waits for the edges into it whose source is not sorted. -/
theorem unsortedInto_arcs (sorted : List Nat) {i : Nat} {id : String}
    (found : d.ids[i]? = some id) :
    unsortedInto d.arcs sorted i = d.edges.countP fun edge =>
      edge.target.node = id ∧ edge.source.node ∉ d.idsAt sorted := by
  rw [unsortedInto, arcs_eq_map valid, List.countP_map]
  refine List.countP_congr fun edge mem => ?_
  obtain ⟨source, target⟩ := valid.ends edge mem
  have taken : d.ids.idxOf edge.source.node ∈ sorted ↔ edge.source.node ∈ d.idsAt sorted := by
    rw [idsAt, List.mem_filterMap]
    constructor
    · exact fun mem => ⟨_, mem, List.getElem?_idxOf source⟩
    · rintro ⟨j, mem, there⟩
      rwa [(idxOf_eq_iff valid there source).mpr rfl]
  simp only [Function.comp_apply, decide_eq_true_eq, idxOf_eq_iff valid found target, taken]

end Valid

def sortingAfter (d : Definition) (turns : Nat) : Sorting :=
  Sorting.run d.arcs turns (.initial d.nodes.length d.arcs)

/-- The sorting of a definition meets with no mishap, and comes to its end. -/
structure SortsSafely (d : Definition) : Prop where
  /-- Both ends of an edge are found by their identifiers. -/
  found : ∀ edge ∈ d.edges, ∃ i j,
    d.ids.idxOf? edge.source.node = some i ∧ d.ids.idxOf? edge.target.node = some j
  /-- So every edge has its arc. -/
  arcs : d.arcs.length = d.edges.length
  /-- What is queued or sorted is a node. -/
  inRange : ∀ turns, ∀ i ∈ (d.sortingAfter turns).queue ++ (d.sortingAfter turns).sorted,
    i < d.nodes.length
  /-- Before every turn a node waits for the edges into it whose source is not sorted. -/
  waits : ∀ (turns i : Nat) (id : String), d.ids[i]? = some id →
    (d.sortingAfter turns).waiting[i]? = some (d.edges.countP fun edge =>
      edge.target.node = id ∧ edge.source.node ∉ d.idsAt (d.sortingAfter turns).sorted)
  /-- A turn takes a node from the queue and releases its successors. -/
  turn : ∀ turns i rest, (d.sortingAfter turns).queue = i :: rest →
    d.sortingAfter (turns + 1) = (d.sortingAfter turns).amid i rest (successors d.arcs i)
  /-- In every turn a node that is next to be released waits for an edge at least. -/
  counts : ∀ turns i rest, (d.sortingAfter turns).queue = i :: rest →
    ∀ released next later, successors d.arcs i = released ++ next :: later →
      ∃ left, ((d.sortingAfter turns).amid i rest released).waiting[next]? = some (left + 1)
  /-- No node enters the queue twice. -/
  once : ∀ turns, ((d.sortingAfter 0).queue ++
    Sorting.queuedWithin d.arcs turns (d.sortingAfter 0)).Nodup
  /-- The turns end when the queue is empty, and there are no more of them than nodes. -/
  ends : ∃ turns ≤ d.nodes.length,
    (∀ more, (d.sortingAfter more).queue = [] ↔ turns ≤ more) ∧ d.sorting = d.sortingAfter turns

/--
The sorting of a definition that passes the checks meets with no mishap, and
comes to its end.
-/
theorem sorts_safely {d : Definition} (passed : d.validate = .ok ()) : d.SortsSafely := by
  have valid := (validate_eq_ok_iff d).mp passed
  have inRange := arcs_inRange valid.distinct
  have invariant : ∀ turns, Sorting.Invariant d.nodes.length d.arcs (d.sortingAfter turns) :=
    fun turns => (Sorting.Invariant.initial _ _).run inRange turns
  constructor
  case found =>
    intro edge mem
    obtain ⟨source, target⟩ := valid.ends edge mem
    exact ⟨_, _, idxOf?_of_mem valid source, idxOf?_of_mem valid target⟩
  case arcs => rw [arcs_eq_map valid, List.length_map]
  case inRange => exact fun turns i mem => (invariant turns).lt_of_mem mem
  case waits =>
    intro turns i id found
    have bound : i < d.nodes.length := d.ids_length ▸ (List.getElem?_eq_some_iff.mp found).1
    have balanced := (invariant turns).balanced
    have there : i < (d.sortingAfter turns).waiting.length := by rwa [balanced.size]
    have same := balanced.waiting i bound
    rw [List.getD_eq_getElem?_getD, unsortedInto_arcs valid _ found] at same
    rw [List.getElem?_eq_getElem there] at same ⊢
    exact congrArg some same
  case turn =>
    intro turns i rest queue
    rw [sortingAfter, Sorting.run_add, Sorting.run, Sorting.run]
    exact Sorting.step_eq_amid queue
  case counts =>
    intro turns i rest queue released next later split
    exact (invariant turns).exists_waiting inRange queue split
  case once => exact fun turns => Sorting.queued_nodup inRange turns
  case ends => exact Sorting.exists_last_turn inRange

/-- A node behind two parallel edges, which has an edge to itself, and one behind it. -/
def looped : Definition :=
  ⟨"looped", "1", none, [.plain "behind" "echo", .plain "loop" "echo", .plain "first" "echo",
      .plain "between" "echo"],
    [.plain "loop" "loop", .plain "first" "between", .plain "first" "between",
      .plain "between" "loop", .plain "loop" "behind"]⟩

theorem sorts_safely_looped : looped.validate = .ok () ∧ looped.SortsSafely :=
  have passed : looped.validate = .ok () := by decide +kernel
  ⟨passed, sorts_safely passed⟩

end Definition

end ActionGraph.Graph
