import ActionGraph.Proofs.Execution.System

/-!
# Operations as acts

An operation of an engine finds a graph or an execution in its table; an act
finds it among all that there ever were.  Since both are numbered as they are
made, what is found is the same, and an operation that is accepted comes to
the acts of its sections, one after the other.
-/

namespace ActionGraph

open Execution (Run)

namespace Engine

/-! ## Numbers -/

theorem label_injective {letter : String} {i j : Nat}
    (same : letter ++ toString (i + 1) = letter ++ toString (j + 1)) : i = j := by
  have digits : Nat.toDigits 10 (i + 1) = Nat.toDigits 10 (j + 1) := by
    have texts : (i + 1).repr = (j + 1).repr := (String.append_right_inj letter).mp same
    rw [← Nat.toList_repr, ← Nat.toList_repr, texts]
  have numbers := congrArg (fun l => Nat.ofDigitChars 10 l 0) digits
  simp only [Nat.ofDigitChars_ten_toDigits] at numbers
  exact Nat.succ.inj numbers

theorem graphId_injective : Function.Injective graphId :=
  fun _ _ same => label_injective same

theorem executionId_injective : Function.Injective executionId :=
  fun _ _ same => label_injective same

/-- Of things that are named apart, each is found under its name. -/
theorem find?_of_mem {α : Type} {name : α → String} {l : List α} (apart : (l.map name).Nodup)
    {a : α} (mem : a ∈ l) : l.find? (fun b => name b = name a) = some a := by
  induction l with
  | nil => cases mem
  | cons b l ih =>
      rw [List.map_cons, List.nodup_cons] at apart
      rcases List.mem_cons.mp mem with rfl | later
      · exact List.find?_cons_of_pos (decide_eq_true rfl)
      · have elsewhere : name b ≠ name a := fun same =>
          apart.1 (same ▸ List.mem_map_of_mem later)
        rw [List.find?_cons_of_neg (by rwa [decide_eq_true_eq]), ih apart.2 later]

/-- Graphs and executions are numbered as they are made; graphs that were loaded may be gone. -/
structure Numbered (engine : Engine) (loaded : List Graph.Loaded) : Prop where
  ids : loaded.map (·.id) = (List.range engine.graphsMade).map graphId
  graphs : engine.graphs.Sublist loaded
  executions : engine.executions.map (·.id) =
    (List.range engine.executions.length).map executionId

section Numbered

variable {engine : Engine} {loaded : List Graph.Loaded}

theorem Numbered.loaded_apart (numbered : engine.Numbered loaded) :
    (loaded.map (·.id)).Nodup := by
  rw [numbered.ids]
  exact List.nodup_range.map graphId_injective

theorem Numbered.executions_apart (numbered : engine.Numbered loaded) :
    (engine.executions.map (·.id)).Nodup := by
  rw [numbered.executions]
  exact List.nodup_range.map executionId_injective

/-- A graph of the table is found among all that were loaded. -/
theorem Numbered.graph? (numbered : engine.Numbered loaded) {id : String} {g : Graph.Loaded}
    (found : engine.graph? id = .ok g) : loaded.find? (fun g => g.id = id) = some g := by
  unfold Engine.graph? at found
  split at found
  · rename_i g' inTable
    cases found
    have chosen := List.find?_some inTable
    obtain rfl : g.id = id := of_decide_eq_true chosen
    exact find?_of_mem numbered.loaded_apart
      (numbered.graphs.subset (List.mem_of_find?_eq_some inTable))
  · cases found

/-- An execution of the table is held. -/
theorem Numbered.execution? (numbered : engine.Numbered loaded) {id : String} {e : Execution}
    (found : engine.execution? id = .ok e) : engine.held? id = some e := by
  unfold Engine.execution? at found
  split at found
  · rename_i e' inTable
    cases found
    have chosen := List.find?_some inTable
    rw [Bool.and_eq_true, decide_eq_true_eq] at chosen
    obtain ⟨_, rfl⟩ := chosen
    exact find?_of_mem numbered.executions_apart (List.mem_of_find?_eq_some inTable)
  · cases found

/-- Nothing is numbered anew where graphs and the identifiers of executions stay. -/
theorem Numbered.of_same {after : Engine} (numbered : engine.Numbered loaded)
    (made : after.graphsMade = engine.graphsMade) (graphs : after.graphs.Sublist engine.graphs)
    (executions : after.executions.map (·.id) = engine.executions.map (·.id)) :
    after.Numbered loaded where
  ids := by rw [made, numbered.ids]
  graphs := graphs.trans numbered.graphs
  executions := by
    have lengths := congrArg List.length executions
    rw [List.length_map, List.length_map] at lengths
    rw [executions, lengths, numbered.executions]

theorem ids_enter (engine : Engine) (change : Execution.Change) :
    (engine.enter change).executions.map (·.id) = engine.executions.map (·.id) := by
  simp only [enter, List.map_map]
  congr 1
  funext e
  simp only [Function.comp_apply]
  split
  · rename_i same
    exact same.symm
  · rfl

theorem ids_withdraw (engine : Engine) (graph : String) :
    (engine.withdraw graph).1.executions.map (·.id) = engine.executions.map (·.id) := by
  simp only [Engine.withdraw, List.map_map]
  congr 1
  funext e
  simp only [Function.comp_apply]
  split <;> rfl

theorem ids_cancel (engine : Engine) (now : Nat) (id : String) :
    (engine.cancel now id).executions.map (·.id) = engine.executions.map (·.id) := by
  unfold cancel
  split
  · rfl
  · exact ids_enter _ _

theorem Numbered.enter (numbered : engine.Numbered loaded) (change : Execution.Change) :
    (engine.enter change).Numbered loaded :=
  numbered.of_same rfl (List.Sublist.refl _) (ids_enter engine change)

theorem Numbered.withdraw (numbered : engine.Numbered loaded) (graph : String) :
    (engine.withdraw graph).1.Numbered loaded :=
  numbered.of_same rfl (List.Sublist.refl _) (ids_withdraw engine graph)

theorem Numbered.discard (numbered : engine.Numbered loaded) (graph : String) (removed : Nat) :
    (engine.discard graph removed).Numbered loaded :=
  numbered.of_same rfl List.filter_sublist rfl

theorem Numbered.enroll {after : Engine} (numbered : engine.Numbered loaded) {now : Nat}
    {g : Graph.Loaded} {context : Context} {id : String}
    (enrolled : engine.enroll now g context = .ok (after, id)) : after.Numbered loaded := by
  obtain ⟨_, rfl, rfl⟩ := enroll_eq_ok enrolled
  refine ⟨numbered.ids, numbered.graphs, ?_⟩
  simp only [publish, List.map_append, List.length_append, List.map_cons, List.map_nil,
    List.length_cons, List.length_nil, Nat.zero_add, List.range_succ, numbered.executions]
  rfl

theorem Numbered.load {after : Engine} (numbered : engine.Numbered loaded) {now : Nat}
    {d : Graph.Definition} {id : String} (made : engine.load now d = .ok (after, id)) :
    after.Numbered (loaded ++ after.graphs.getLast?.toList) := by
  obtain ⟨g, accepted, same⟩ := bind_eq_ok_iff.mp made
  cases same
  have named := (Graph.Loaded.accepted_of_ofDefinition accepted).2
  simp only [publish, List.getLast?_concat, Option.toList_some]
  refine ⟨?_, numbered.graphs.append (List.Sublist.refl _), numbered.executions⟩
  simp only [List.map_append, List.range_succ, numbered.ids, List.map_cons, List.map_nil, named]

theorem Numbered.step {σ : Type} {registry : Action.Registry σ} {run after : Run σ}
    {w v : Workplace σ} (numbered : w.engine.Numbered loaded)
    (stepped : run.step registry w = some (after, v)) : v.engine.Numbered loaded := by
  unfold Run.step at stepped
  split at stepped
  · cases stepped
  · split at stepped
    · rename_i phase engine found
      cases stepped
      rcases Run.advances_of_stepEngine found with ⟨_, bus, rfl⟩ | ⟨change, _, rfl⟩
      · exact numbered.of_same rfl (List.Sublist.refl _) rfl
      · exact numbered.enter change
    · split at stepped
      · cases stepped
        exact numbered
      · cases stepped

end Numbered

end Engine

namespace System

variable {σ : Type} {registry : Action.Registry σ}

def Numbered (s : System σ) : Prop :=
  s.engine.Numbered s.loaded

theorem numbered_initial (settings : Settings) (world : Action.World σ) :
    (initial settings world).Numbered :=
  ⟨rfl, List.Sublist.refl _, rfl⟩

theorem Numbered.attempt {s s' : System σ} (numbered : s.Numbered) {act : Act}
    (done : s.attempt registry act = some s') : s'.Numbered := by
  cases act with
  | load d =>
      obtain ⟨engine, made, loaded, rfl⟩ := attempt_load_iff.mp done
      exact Engine.Numbered.load numbered loaded
  | start graph context =>
      obtain ⟨g, found, engine, made, enrolled, rfl⟩ := attempt_start_iff.mp done
      exact Engine.Numbered.enroll numbered enrolled
  | withdraw graph =>
      cases done
      exact Engine.Numbered.withdraw numbered graph
  | discard graph removed =>
      cases done
      exact Engine.Numbered.discard numbered graph removed
  | request execution request =>
      obtain ⟨e, held, change, applied, rfl⟩ := attempt_request_iff.mp done
      exact Engine.Numbered.enter numbered change
  | take execution =>
      obtain ⟨e, held, g, found, after, driven, rfl⟩ := attempt_take_iff.mp done
      exact Engine.Numbered.enter numbered (after, [])
  | go execution =>
      obtain ⟨run, found, next, place, stepped, rfl⟩ := attempt_go_iff.mp done
      exact Engine.Numbered.step numbered stepped
  | pass milliseconds =>
      cases done
      exact numbered

theorem Numbered.perform {s : System σ} (numbered : s.Numbered) (act : Act) :
    (s.perform registry act).Numbered := by
  cases done : s.attempt registry act with
  | none => rwa [perform_of_none done]
  | some s' =>
      rw [perform_of_some done]
      exact numbered.attempt done

theorem Numbered.performAll {s : System σ} (numbered : s.Numbered) (acts : List Act) :
    (s.performAll registry acts).Numbered := by
  induction acts generalizing s with
  | nil => exact numbered
  | cons act rest ih => exact ih (numbered.perform act)

end System

/-! ## Operations -/

inductive Operation where
  | load (d : Graph.Definition)
  | unload (graph : String)
  | start (graph : String) (context : Context)
  | request (execution : String) (request : Request)

namespace Operation

def apply (now : Nat) (engine : Engine) : Operation → Except Failure Engine
  | .load d => (engine.load now d).map Prod.fst
  | .unload graph => (engine.unload now graph).map Prod.fst
  | .start graph context => (engine.start now graph context).map Prod.fst
  | .request id (.inject node port value) => engine.inject now id node port value
  | .request id .pause => engine.pause now id
  | .request id .resume => engine.resume now id
  | .request id .stop => (engine.stop now id).map Prod.fst
  | .request id .remove => engine.remove id

def acts (engine : Engine) : Operation → List Act
  | .load d => [.load d]
  | .unload graph =>
      let removed := (engine.withdraw graph).2
      [.withdraw graph] ++ removed.map (.request · .stop) ++ [.discard graph removed.length]
  | .start graph context => [.start graph context]
  | .request id asked => [.request id asked]

/-- A request is a section on an execution of the table. -/
theorem apply_request (now : Nat) (engine : Engine) (id : String) (request : Request) :
    apply now engine (.request id request) = engine.control id (request.apply now) := by
  cases request with
  | stop =>
      simp only [apply, Engine.stop, Engine.control]
      cases engine.execution? id with
      | error failure => rfl
      | ok e => rfl
  | _ => rfl

end Operation

namespace System

variable {σ : Type} {registry : Action.Registry σ} {s : System σ} {engine : Engine}

theorem perform_stop (registry : Action.Registry σ) (s : System σ) (id : String) :
    s.perform registry (.request id .stop) = s.withEngine (s.engine.cancel s.now id) := by
  cases held : s.held? id with
  | none =>
      have kept : s.engine.cancel s.now id = s.engine := by
        rw [Engine.cancel, show s.engine.held? id = none from held]
      rw [perform_of_none (by rw [attempt, held]; rfl), kept]
      rfl
  | some e =>
      have entered : s.engine.cancel s.now id = s.engine.enter (e.stop s.now) := by
        rw [Engine.cancel, show s.engine.held? id = some e from held]
      rw [entered]
      exact perform_of_some (attempt_request_iff.mpr ⟨e, held, _, rfl, rfl⟩)

/-- Executions are cancelled one after the other. -/
theorem performAll_stop (registry : Action.Registry σ) (s : System σ) (ids : List String) :
    s.performAll registry (ids.map (.request · .stop)) =
      s.withEngine (ids.foldl (fun engine id => engine.cancel s.now id) s.engine) := by
  induction ids generalizing s with
  | nil => rfl
  | cons id rest ih =>
      have first := perform_stop registry s id
      rw [List.map_cons, performAll, List.foldl_cons, first]
      exact ih (s.withEngine (s.engine.cancel s.now id))

/-- An operation that is accepted comes to the acts of its sections. -/
theorem Numbered.operate (numbered : s.Numbered) (registry : Action.Registry σ)
    {operation : Operation} (accepted : operation.apply s.now s.engine = .ok engine) :
    (s.performAll registry (operation.acts s.engine)).place = { s.place with engine } ∧
      (s.performAll registry (operation.acts s.engine)).runs = s.runs := by
  have single : ∀ {act : Act} {s' : System σ}, s.attempt registry act = some s' →
      s'.place = { s.place with engine } ∧ s'.runs = s.runs →
      (s.performAll registry [act]).place = { s.place with engine } ∧
        (s.performAll registry [act]).runs = s.runs := by
    intro act s' done reached
    rwa [System.performAll, List.foldl_cons, perform_of_some done]
  cases operation with
  | load d =>
      obtain ⟨made, loaded⟩ := map_fst_eq_ok accepted
      exact single (attempt_load_iff.mpr ⟨engine, made, loaded, rfl⟩) ⟨rfl, rfl⟩
  | start graph context =>
      obtain ⟨made, started⟩ := map_fst_eq_ok accepted
      obtain ⟨g, found, enrolled⟩ := bind_eq_ok_iff.mp started
      exact single (attempt_start_iff.mpr
        ⟨g, Engine.Numbered.graph? numbered found, engine, made, enrolled, rfl⟩) ⟨rfl, rfl⟩
  | request id request =>
      rw [Operation.apply_request] at accepted
      obtain ⟨e, found, changed⟩ := bind_eq_ok_iff.mp accepted
      obtain ⟨change, applied, same⟩ := bind_eq_ok_iff.mp changed
      cases same
      exact single (attempt_request_iff.mpr
        ⟨e, Engine.Numbered.execution? numbered found, change, applied, rfl⟩) ⟨rfl, rfl⟩
  | unload graph =>
      obtain ⟨removed, unloaded⟩ := map_fst_eq_ok accepted
      obtain ⟨g, _, same⟩ := bind_eq_ok_iff.mp unloaded
      cases same
      have withdrawn : s.performAll registry [.withdraw graph] =
          s.withEngine (s.engine.withdraw graph).1 := rfl
      rw [Operation.acts, performAll_snoc, performAll_append, withdrawn, performAll_stop]
      exact ⟨rfl, rfl⟩

/-- What a run takes up, a run of the system takes up. -/
theorem Numbered.take (numbered : s.Numbered) (registry : Action.Registry σ) {id : String}
    {turns : List Graph.Turn} (taken : Run.take s.engine id = .ok (engine, turns)) :
    s.attempt registry (.take id) =
      some { s.withEngine engine with runs := s.runs ++ [⟨id, s.now, .before turns⟩] } := by
  obtain ⟨e, found, rest⟩ := bind_eq_ok_iff.mp taken
  obtain ⟨g, loaded, rest⟩ := bind_eq_ok_iff.mp rest
  obtain ⟨after, driven, same⟩ := bind_eq_ok_iff.mp rest
  cases same
  exact attempt_take_iff.mpr ⟨e, Engine.Numbered.execution? numbered found, g,
    Engine.Numbered.graph? numbered loaded, after, driven, rfl⟩

end System

end ActionGraph
