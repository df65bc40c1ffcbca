import ActionGraph.Proofs.Execution.Course
import ActionGraph.Proofs.Execution.Effects

/-!
# What an unload removes, cancels and reports

An unload takes all executions of its graph out of the table, and cancels those
that have not ended.  What it reports as cancelled is what it took out, so that
it is right exactly if none of these had ended.
-/

namespace ActionGraph

open Execution (Change)

namespace Execution

def belongs (graph : String) (e : Execution) : Bool :=
  e.listed && decide (e.graph = graph)

/-- What an execution is once its graph is unloaded; one that had ended is only taken out. -/
def unloaded (now : Nat) (e : Execution) : Execution :=
  if e.state.isTerminal then { e with listed := false }
  else { e.setState .cancelled with ended := some now, touched := now, listed := false }

theorem stop_id (e : Execution) (now : Nat) : (e.stop now).1.id = e.id := by
  unfold stop
  split <;> rfl

theorem stop_unlisted (e : Execution) (now : Nat) :
    ({ e with listed := false }.stop now).1 = e.unloaded now := by
  unfold stop unloaded
  split <;> rfl

theorem listed_unloaded (e : Execution) (now : Nat) : (e.unloaded now).listed = false := by
  unfold unloaded
  split <;> rfl

theorem belongs_iff {graph : String} {e : Execution} :
    e.belongs graph = true ↔ e.listed = true ∧ e.graph = graph := by
  rw [belongs, Bool.and_eq_true, decide_eq_true_eq]

/-- Those of the graph leave the table, and no other does. -/
theorem filter_listed_unloaded (executions : List Execution) (now : Nat) (graph : String) :
    (executions.map fun e => if e.belongs graph then e.unloaded now else e).filter (·.listed) =
      (executions.filter (·.listed)).filter (·.graph ≠ graph) := by
  have stays : ∀ e : Execution,
      (if e.belongs graph then e.unloaded now else e).listed =
        (decide (e.graph ≠ graph) && e.listed) := by
    intro e
    split
    · rename_i mine
      rw [listed_unloaded, (belongs_iff.mp mine).2, decide_eq_false (not_not.mpr rfl),
        Bool.false_and]
    · rename_i other
      cases listed : e.listed with
      | false => exact (Bool.and_false _).symm
      | true => simpa [belongs, listed] using other
  rw [List.filter_map, List.filter_filter]
  simp only [Function.comp_def, stays]
  refine (List.map_congr_left fun e mem => if_neg fun mine => ?_).trans (List.map_id' _)
  obtain ⟨_, kept⟩ := List.mem_filter.mp mem
  have apart := (Bool.and_eq_true_iff.mp kept).1
  exact of_decide_eq_true apart (belongs_iff.mp mine).2

/-- Executions that had ended are not told once more. -/
theorem flatMap_stop (doomed : List Execution) (now : Nat) :
    doomed.flatMap (fun e => (e.stop now).2) =
      (doomed.filter fun e => !e.state.isTerminal).map fun e => .executionCancelled e.id := by
  induction doomed with
  | nil => rfl
  | cons e rest ih =>
      rw [List.flatMap_cons, ih, List.filter_cons, stop]
      cases e.state.isTerminal with
      | true => rfl
      | false => rfl

end Execution

namespace Engine

def executionsOf (engine : Engine) (graph : String) : List Execution :=
  engine.executions.filter (Execution.belongs graph)

/-! ## Cancelling -/

section Cancel

variable {engine : Engine} (apart : (engine.executions.map (·.id)).Nodup)
include apart

theorem executions_cancel (now : Nat) (id : String) :
    (engine.cancel now id).executions =
      engine.executions.map fun e => if e.id = id then (e.stop now).1 else e := by
  unfold cancel
  cases held : engine.held? id with
  | none =>
      refine (List.map_id' _).symm.trans (List.map_congr_left fun e mem => ?_)
      have other : e.id ≠ id := by simpa using List.find?_eq_none.mp held e mem
      rw [if_neg other]
  | some e =>
      have there := List.mem_of_find?_eq_some held
      refine List.map_congr_left fun other mem => ?_
      rw [Execution.stop_id, held?_id held]
      split
      · rename_i same
        rw [List.inj_on_of_nodup_map apart mem there (same.trans (held?_id held).symm)]
      · rfl

theorem history_cancel {e : Execution} (mem : e ∈ engine.executions) (now : Nat) :
    (engine.cancel now e.id).history = engine.history ++ (e.stop now).2 := by
  have held : engine.held? e.id = some e := find?_of_mem apart mem
  rw [cancel, held, history_enter]

/-- Executions that are cancelled one after the other are told in turn, each on its own. -/
theorem foldl_cancel {doomed : List Execution} (inTable : doomed ⊆ engine.executions)
    (distinct : (doomed.map (·.id)).Nodup) (now : Nat) :
    ((doomed.map (·.id)).foldl (fun engine id => engine.cancel now id) engine).executions =
        engine.executions.map (fun e => if e.id ∈ doomed.map (·.id) then (e.stop now).1 else e) ∧
      ((doomed.map (·.id)).foldl (fun engine id => engine.cancel now id) engine).history =
        engine.history ++ doomed.flatMap fun e => (e.stop now).2 := by
  induction doomed generalizing engine with
  | nil => simp
  | cons d rest ih =>
      obtain ⟨here, later⟩ := List.cons_subset.mp inTable
      obtain ⟨fresh, distinct⟩ := List.nodup_cons.mp distinct
      have step := executions_cancel apart now d.id
      have kept : rest ⊆ (engine.cancel now d.id).executions := by
        intro e mem
        have other : e.id ≠ d.id := fun same => fresh (List.mem_map.mpr ⟨e, mem, same⟩)
        rw [step]
        exact List.mem_map.mpr ⟨e, later mem, if_neg other⟩
      have named : ((engine.cancel now d.id).executions.map (·.id)).Nodup := by
        rwa [ids_cancel]
      obtain ⟨executions, history⟩ := ih named kept distinct
      refine ⟨?_, ?_⟩
      · rw [List.map_cons, List.foldl_cons, executions, step, List.map_map]
        refine List.map_congr_left fun e _ => ?_
        simp only [Function.comp_apply, List.mem_cons]
        by_cases first : e.id = d.id
        · rw [if_pos first, Execution.stop_id, first, if_neg fresh, if_pos (.inl rfl)]
        · rw [if_neg first]
          simp only [first, false_or]
      · rw [List.map_cons, List.foldl_cons, history, history_cancel apart here,
          List.flatMap_cons, List.append_assoc]

/-! ## Unloading -/

/-- Those of a graph are told from all others by their identifiers. -/
theorem id_mem_iff {e : Execution} (mem : e ∈ engine.executions) (graph : String) :
    e.id ∈ (engine.executionsOf graph).map (·.id) ↔ e.belongs graph = true := by
  constructor
  · intro named
    obtain ⟨other, there, same⟩ := List.mem_map.mp named
    obtain ⟨there, belongs⟩ := List.mem_filter.mp there
    rwa [← List.inj_on_of_nodup_map apart there mem same]
  · exact fun belongs => List.mem_map_of_mem (List.mem_filter.mpr ⟨mem, belongs⟩)

/-- An unload of a graph that is loaded, given what there is in the table. -/
theorem unload_eq_ok {graph : String} {g : Graph.Loaded} (loaded : engine.graph? graph = .ok g)
    (now : Nat) :
    ∃ after, engine.unload now graph = .ok (after, (engine.executionsOf graph).length) ∧
      after.executions =
        engine.executions.map (fun e => if e.belongs graph then e.unloaded now else e) ∧
      after.history = engine.history ++
        ((engine.executionsOf graph).filter fun e => !e.state.isTerminal).map
          (fun e => .executionCancelled e.id) ++
        [.graphUnloaded graph (engine.executionsOf graph).length] := by
  let doomed := (engine.executionsOf graph).map fun e => { e with listed := false }
  let cancelled := (doomed.map (·.id)).foldl (fun engine id => engine.cancel now id)
    (engine.withdraw graph).1
  have ids : doomed.map (·.id) = (engine.executionsOf graph).map (·.id) := List.map_map ..
  have taken : (engine.withdraw graph).1.executions =
      engine.executions.map fun e => if e.belongs graph then { e with listed := false } else e :=
    rfl
  have named : ((engine.withdraw graph).1.executions.map (·.id)).Nodup := by
    rwa [ids_withdraw]
  have inTable : doomed ⊆ (engine.withdraw graph).1.executions := by
    intro e mem
    obtain ⟨e, there, rfl⟩ := List.mem_map.mp mem
    obtain ⟨there, belongs⟩ := List.mem_filter.mp there
    rw [taken]
    exact List.mem_map.mpr ⟨e, there, if_pos belongs⟩
  have distinct : (doomed.map (·.id)).Nodup := by
    rw [ids]
    exact apart.sublist (List.filter_sublist.map _)
  have unloads : engine.unload now graph =
      .ok (cancelled.discard graph (engine.executionsOf graph).length,
        (engine.executionsOf graph).length) := by
    have counted : (engine.withdraw graph).2.length = (engine.executionsOf graph).length :=
      List.length_map _
    rw [← counted, unload, loaded, show cancelled = _ from congrArg (List.foldl _ _) ids]
    rfl
  obtain ⟨executions, history⟩ := foldl_cancel named inTable distinct now
  refine ⟨_, unloads, ?_, ?_⟩
  · refine executions.trans ?_
    rw [taken, List.map_map]
    refine List.map_congr_left fun e mem => ?_
    have known := id_mem_iff apart mem graph
    simp only [Function.comp_apply, ids]
    by_cases belongs : e.belongs graph = true
    · rw [if_pos belongs, if_pos (known.mpr belongs), if_pos belongs, Execution.stop_unlisted]
    · rw [if_neg belongs, if_neg fun there => belongs (known.mp there), if_neg belongs]
  · rw [discard, history_publish]
    refine congrArg (· ++ _) (history.trans (congrArg (engine.history ++ ·) ?_))
    rw [Execution.flatMap_stop, List.filter_map, List.map_map]
    rfl

end Cancel

end Engine

namespace System

variable {σ : Type} (registry : Action.Registry σ) (settings : Settings) (world : Action.World σ)

/-- What an unload does to the executions, and what it tells of them, in any order. -/
structure Unloads (engine after : Engine) (now : Nat) (graph : String) (told : List Event) :
    Prop where
  listed : after.listed = engine.listed.filter (·.graph ≠ graph)
  executions : after.executions =
    engine.executions.map fun e => if e.belongs graph then e.unloaded now else e
  cancelled : told.Perm (((engine.executionsOf graph).filter fun e => !e.state.isTerminal).map
    fun e => .executionCancelled e.id)
  history : after.history = engine.history ++ told ++
    [.graphUnloaded graph (engine.executionsOf graph).length]

/--
An unload answers and reports how many executions it took out of the table.
So many were cancelled by it exactly if none of them had ended.
-/
theorem unload_count_iff_none_ended (acts : List Act) {graph : String} {g : Graph.Loaded}
    (loaded : ((initial settings world).performAll registry acts).engine.graph? graph = .ok g) :
    let s := (initial settings world).performAll registry acts
    let mine := s.engine.executionsOf graph
    ∃ after told, s.engine.unload s.now graph = .ok (after, mine.length) ∧
      Unloads s.engine after s.now graph told ∧
      (mine.length = told.length ↔ ∀ e ∈ mine, e.state.isTerminal = false) := by
  intro s mine
  have numbered : s.Numbered := (numbered_initial settings world).performAll acts
  obtain ⟨after, unloads, executions, history⟩ :=
    Engine.unload_eq_ok (Engine.Numbered.executions_apart numbered) loaded s.now
  refine ⟨after, _, unloads, ⟨?_, executions, .refl _, history⟩, ?_⟩
  · rw [Engine.listed, executions, Execution.filter_listed_unloaded]
    rfl
  · rw [List.length_map, eq_comm, List.length_filter_eq_length_iff]
    simp only [Bool.not_eq_true']
    rfl

/-- One execution has completed, one is paused and one is running. -/
def mixedRun : List Act :=
  [.load loneNode, .start "g1" default, .take "e1"] ++ List.replicate 11 (.go "e1")
    ++ [.start "g1" default, .start "g1" default, .request "e2" .pause]

theorem unload_count_iff_of_mixedRun :
    let s := (initial default quiet).performAll answering mixedRun
    ∃ after told, s.engine.unload s.now "g1" = .ok (after, 3) ∧
      Unloads s.engine after s.now "g1" told ∧
      (3 = told.length ↔ ∀ e ∈ s.engine.executionsOf "g1", e.state.isTerminal = false) := by
  have loaded : ((((initial default quiet).performAll answering mixedRun).engine.graph? "g1").map
      fun g => g.id) = .ok "g1" := by
    rfl
  obtain ⟨g, found, _⟩ := map_eq_ok_iff.mp loaded
  exact unload_count_iff_none_ended answering default quiet mixedRun found

/-- An unload reports three executions, but tells of two only that they are cancelled. -/
theorem mixedRun_overcounts :
    let engine := ((initial default quiet).performAll answering mixedRun).engine
    (engine.unload 0 "g1").map
        (fun (after, removed) => (removed, after.history.drop engine.history.length)) =
      .ok (3, [.executionCancelled "e2", .executionCancelled "e3", .graphUnloaded "g1" 3]) := by
  rfl

end System

end ActionGraph
