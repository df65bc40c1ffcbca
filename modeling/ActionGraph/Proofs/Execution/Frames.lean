import ActionGraph.Proofs.Execution.Operations
import ActionGraph.Proofs.Execution.Orders

/-!
# Frames

What is done about one execution leaves all others as they are, and a graph
that is unloaded takes along only executions of its own.
-/

namespace ActionGraph

variable {σ : Type}

def Act.addressee? : Act → Option String
  | .request id _ => some id
  | .take id => some id
  | .go id => some id
  | _ => none

namespace System

variable {s s' : System σ} {act : Act} {id graph : String} {e : Execution}

/-! ## What is done about one execution -/

/-- An execution and the run of it are as they were. -/
structure Untouched (id : String) (s s' : System σ) : Prop where
  held : s'.held? id = s.held? id
  run : s'.run? id = s.run? id

theorem Untouched.of_same (held : s'.held? id = s.held? id) (runs : s'.runs = s.runs) :
    Untouched id s s' :=
  ⟨held, by rw [run?, run?, runs]⟩

theorem untouched_of_addressed (sound : s.Sound) (registry : Action.Registry σ) {other : String}
    (addressed : act.addressee? = some other) (apart : id ≠ other) :
    Untouched id s (s.perform registry act) := by
  cases done : s.attempt registry act with
  | none =>
      rw [perform_of_none done]
      exact ⟨rfl, rfl⟩
  | some s' =>
      rw [perform_of_some done]
      cases act with
      | request other request =>
          cases addressed
          obtain ⟨runs, _, _, _, _, _, heldAfter⟩ := attempt_request done
          exact .of_same (by rw [heldAfter, if_neg apart]) runs
      | take other =>
          cases addressed
          obtain ⟨_, _, _, _, _, _, _, _, heldAfter, runAfter⟩ := attempt_take done
          refine ⟨by rw [heldAfter, if_neg apart], ?_⟩
          rw [runAfter, if_neg (Ne.symm apart), Option.or_none]
      | go other =>
          cases addressed
          obtain ⟨run, running, _⟩ := attempt_go_iff.mp done
          obtain ⟨_, there, _⟩ := sound.driven other run running
          obtain ⟨_, _, _, _, _, _, heldAfter, runAfter⟩ := attempt_go there done
          exact ⟨by rw [heldAfter, if_neg apart], by rw [runAfter, if_neg apart]⟩
      | _ => cases addressed

/-- An execution is there for good, and of its graph. -/
theorem held?_performAll (sound : s.Sound) (held : s.held? id = some e)
    (registry : Action.Registry σ) (acts : List Act) :
    ∃ e', (s.performAll registry acts).held? id = some e' ∧ e'.graph = e.graph := by
  induction acts generalizing s e with
  | nil => exact ⟨e, held, rfl⟩
  | cons act rest ih =>
      obtain ⟨g, found⟩ := sound.graphs id e held
      obtain ⟨t, tracked, moves⟩ : ∃ t, (s.perform registry act).track? id = some t ∧
          Track.Moves registry g act ⟨e, (s.run? id).map (·.phase)⟩ t :=
        moves_of_perform sound (track?_of_held held) found
      obtain ⟨e', there, same⟩ := ih (sound.perform registry act) (track?_eq_some_iff.mp tracked).1
      exact ⟨e', there, same.trans moves.frame.2⟩

theorem held?_eq_none_of_performAll (sound : s.Sound) {registry : Action.Registry σ}
    {acts : List Act} (absent : (s.performAll registry acts).held? id = none) :
    s.held? id = none := by
  cases held : s.held? id with
  | none => rfl
  | some e =>
      obtain ⟨e', later, _⟩ := held?_performAll sound held registry acts
      cases absent.symm.trans later

theorem held?_eq_none_of_perform (sound : s.Sound) {registry : Action.Registry σ}
    (absent : (s.perform registry act).held? id = none) : s.held? id = none :=
  held?_eq_none_of_performAll sound (show (s.performAll registry [act]).held? id = none from absent)

/-! ## What is done about one graph -/

theorem graph_of_removed (numbered : s.Numbered) {other : String}
    (removed : other ∈ (s.engine.withdraw graph).2) :
    ∃ e, s.held? other = some e ∧ e.graph = graph := by
  obtain ⟨e, mem, rfl⟩ := List.mem_map.mp removed
  obtain ⟨there, mine⟩ := List.mem_filter.mp mem
  rw [Bool.and_eq_true, decide_eq_true_eq] at mine
  exact ⟨e, Engine.find?_of_mem (Engine.Numbered.executions_apart numbered) there, mine.2⟩

theorem held?_withdraw_of_ne (held : s.held? id = some e) (other : e.graph ≠ graph) :
    (s.withEngine (s.engine.withdraw graph).1).held? id = some e := by
  refine (Engine.held?_withdraw s.engine graph id).trans ?_
  rw [show s.engine.held? id = some e from held, Option.map_some]
  simp [other]

/-- The sections of unloading a graph leave the executions of others alone, whenever they come. -/
theorem untouched_of_unload (sound : s.Sound) (numbered : s.Numbered)
    (mem : act ∈ (Operation.unload graph).acts s.engine) (held : s.held? id = some e)
    (other : e.graph ≠ graph) (registry : Action.Registry σ) (more : List Act) :
    Untouched id (s.performAll registry more)
      ((s.performAll registry more).perform registry act) := by
  obtain ⟨e', later, same⟩ := held?_performAll sound held registry more
  simp only [Operation.acts, List.mem_append, List.mem_singleton, List.mem_map] at mem
  rcases mem with (rfl | ⟨stopped, removed, rfl⟩) | rfl
  · exact .of_same ((held?_withdraw_of_ne later (same ▸ other)).trans later.symm) rfl
  · refine untouched_of_addressed (sound.performAll registry more) registry rfl ?_
    rintro rfl
    obtain ⟨e'', there, mine⟩ := graph_of_removed numbered removed
    obtain rfl := Option.some.inj (there.symm.trans held)
    exact other mine
  · exact ⟨rfl, rfl⟩

theorem held?_of_sections (sound : s.Sound) (numbered : s.Numbered) (held : s.held? id = some e)
    (other : e.graph ≠ graph) {acts : List Act}
    (sections : ∀ act ∈ acts, act ∈ (Operation.unload graph).acts s.engine)
    (registry : Action.Registry σ) (more : List Act) :
    ((s.performAll registry more).performAll registry acts).held? id =
      (s.performAll registry more).held? id := by
  induction acts generalizing more with
  | nil => rfl
  | cons act rest ih =>
      rw [List.forall_mem_cons] at sections
      have untouched := untouched_of_unload sound numbered sections.1 held other registry more
      have next := ih sections.2 (more ++ [act])
      rw [performAll_snoc] at next
      exact next.trans untouched.held

/-- Operations on one execution or one graph leave others alone, in one step or in sections. -/
structure Isolated (registry : Action.Registry σ) (s : System σ) : Prop where
  /-- Requests about an execution, and the steps of its run, change no other and no other run. -/
  acts : ∀ act other, act.addressee? = some other → ∀ id, id ≠ other →
    Untouched id s (s.perform registry act)
  requests : ∀ other request engine,
    (Operation.request other request).apply s.now s.engine = .ok engine →
      ∀ id, id ≠ other → engine.held? id = s.held? id
  /-- Unloading a graph changes and removes only executions of the graph. -/
  unload : ∀ graph engine, (Operation.unload graph).apply s.now s.engine = .ok engine →
    ∀ id e, s.held? id = some e → e.graph ≠ graph → engine.held? id = some e
  /-- So it is with its sections, whatever happens before each of them. -/
  sections : ∀ graph, ∀ act ∈ (Operation.unload graph).acts s.engine,
    ∀ id e, s.held? id = some e → e.graph ≠ graph →
      ∀ more, Untouched id (s.performAll registry more)
        ((s.performAll registry more).perform registry act)

theorem Sound.isolated (sound : s.Sound) (numbered : s.Numbered)
    (registry : Action.Registry σ) : s.Isolated registry where
  acts _ _ addressed _ apart := untouched_of_addressed sound registry addressed apart
  requests other request engine accepted id apart := by
    have place := (numbered.operate registry accepted).1
    have addressed : (Act.request other request).addressee? = some other := rfl
    have untouched := untouched_of_addressed sound registry addressed apart
    have reached : (s.performAll registry [.request other request]).held? id = engine.held? id :=
      congrArg (fun w => w.engine.held? id) place
    exact reached.symm.trans untouched.held
  unload graph engine accepted id e held other := by
    have place := (numbered.operate registry accepted).1
    have kept := held?_of_sections sound numbered held other (fun _ mem => mem) registry []
    have reached : (s.performAll registry ((Operation.unload graph).acts s.engine)).held? id =
        engine.held? id := congrArg (fun w => w.engine.held? id) place
    exact reached.symm.trans (kept.trans held)
  sections _ _ mem _ _ held other more :=
    untouched_of_unload sound numbered mem held other registry more

end System

end ActionGraph
