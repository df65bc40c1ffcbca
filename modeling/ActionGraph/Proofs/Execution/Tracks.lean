import ActionGraph.Proofs.Execution.System

/-!
# Tracks

What an act can do to one execution and to the run of it is said once, by
`Track.Moves`.
-/

namespace ActionGraph

open Execution (Run Phase Report)

/-- An execution and, once it was taken up, where the run of it is. -/
structure Track (σ : Type) where
  execution : Execution
  phase : Option (Phase σ)

namespace Track

variable {σ : Type}

inductive Moves (registry : Action.Registry σ) (g : Graph.Loaded) :
    Act → Track σ → Track σ → Prop where
  /-- A run makes no step only if it waits. -/
  | stay {act : Act} {t : Track σ}
      (waits : ∀ phase, act = .go t.execution.id → t.phase = some phase →
        phase.Waits t.execution) :
      Moves registry g act t t
  | request {e : Execution} {phase : Option (Phase σ)} {request : Request} {now : Nat}
      {change : Execution.Change} (accepted : request.apply now e = .ok change) :
      Moves registry g (.request e.id request) ⟨e, phase⟩ ⟨change.1, phase⟩
  | withdraw {e : Execution} {phase : Option (Phase σ)} :
      Moves registry g (.withdraw e.graph) ⟨e, phase⟩ ⟨{ e with listed := false }, phase⟩
  | take {e after : Execution} (accepted : e.drive = .ok after) :
      Moves registry g (.take e.id) ⟨e, none⟩ ⟨after, some (.before g.turns)⟩
  | go {e after : Execution} {phase phase' : Phase σ}
      (advances : Run.Advances registry e phase after phase') :
      Moves registry g (.go e.id) ⟨e, some phase⟩ ⟨after, some phase'⟩

variable {registry : Action.Registry σ} {g : Graph.Loaded} {act : Act} {t t' : Track σ}

theorem Moves.frame (moves : t.Moves registry g act t') :
    t'.execution.id = t.execution.id ∧ t'.execution.graph = t.execution.graph := by
  cases moves with
  | stay waits => exact ⟨rfl, rfl⟩
  | request accepted => exact ⟨(Request.steered accepted).id, (Request.steered accepted).graph⟩
  | withdraw => exact ⟨rfl, rfl⟩
  | take accepted =>
      have same := (Execution.standing_drive accepted).2.2
      exact ⟨congrArg Execution.Standing.id same, congrArg Execution.Standing.graph same⟩
  | go advances => exact ⟨advances.frame.1, advances.frame.2.1⟩

/-- An execution with a run is being driven. -/
theorem Moves.driven (moves : t.Moves registry g act t')
    (before : t.phase.isSome → t.execution.driven = true) :
    t'.phase.isSome → t'.execution.driven = true := by
  intro runs
  cases moves with
  | stay waits => exact before runs
  | request accepted => exact (Request.steered accepted).driven.trans (before runs)
  | withdraw => exact before runs
  | take accepted =>
      exact congrArg Execution.Standing.driven (Execution.standing_drive accepted).2.2
  | go advances => exact advances.frame.2.2.trans (before rfl)

end Track

namespace System

variable {σ : Type} {registry : Action.Registry σ}

def track? (s : System σ) (id : String) : Option (Track σ) :=
  (s.held? id).map fun e => ⟨e, (s.run? id).map (·.phase)⟩

/-- Graphs are accepted, executions have a graph, and runs drive an execution. -/
structure Sound (s : System σ) : Prop where
  accepted : ∀ g ∈ s.loaded, g.Accepted
  graphs : ∀ id e, s.held? id = some e → ∃ g, s.graph? e.graph = some g
  driven : ∀ id run, s.run? id = some run → ∃ e, s.held? id = some e ∧ e.driven = true

theorem graph?_accepted {s : System σ} (sound : s.Sound) {id : String} {g : Graph.Loaded}
    (found : s.graph? id = some g) : g.Accepted :=
  sound.accepted g (List.mem_of_find?_eq_some found)

theorem track?_of_held {s : System σ} {id : String} {e : Execution}
    (held : s.held? id = some e) :
    s.track? id = some ⟨e, (s.run? id).map (·.phase)⟩ := by
  rw [track?, held]
  rfl

theorem track?_eq_some_iff {s : System σ} {id : String} {t : Track σ} :
    s.track? id = some t ↔
      s.held? id = some t.execution ∧ t.phase = (s.run? id).map (·.phase) := by
  cases held : s.held? id with
  | none => simp [track?, held]
  | some e =>
      obtain ⟨execution, phase⟩ := t
      simp [track?, held, eq_comm]

theorem track?_id {s : System σ} {id : String} {t : Track σ} (tracked : s.track? id = some t) :
    t.execution.id = id :=
  Engine.held?_id (track?_eq_some_iff.mp tracked).1

theorem track?_congr {s s' : System σ} {id : String} (held : s'.held? id = s.held? id)
    (run : s'.run? id = s.run? id) : s'.track? id = s.track? id := by
  rw [track?, track?, held, run]

section Perform

variable {s : System σ} {act : Act} {id : String}

/-- The run of a sound system drives an execution that is held. -/
theorem Sound.run?_of_not_held (sound : s.Sound) (absent : s.held? id = none) :
    s.run? id = none := by
  cases found : s.run? id with
  | none => rfl
  | some run =>
      obtain ⟨e, held, _⟩ := sound.driven id run found
      rw [absent] at held
      cases held

/-- An execution that is not driven has no run. -/
theorem Sound.run?_of_free (sound : s.Sound) {e : Execution} (held : s.held? id = some e)
    (free : e.driven = false) : s.run? id = none := by
  cases running : s.run? id with
  | none => rfl
  | some run =>
      obtain ⟨other, heldOther, drives⟩ := sound.driven id run running
      obtain rfl : other = e := Option.some.inj (heldOther.symm.trans held)
      rw [free] at drives
      cases drives

section Moves

variable {s' : System σ} {e : Execution} {g : Graph.Loaded} (held : s.held? id = some e)
include held

/-- An act that is about another execution leaves the track as it is. -/
theorem moves_elsewhere (sameHeld : s'.held? id = s.held? id) (sameRun : s'.run? id = s.run? id)
    (notGo : act ≠ .go id) :
    ∃ t', s'.track? id = some t' ∧
      Track.Moves registry g act ⟨e, (s.run? id).map (·.phase)⟩ t' := by
  refine ⟨_, (track?_congr sameHeld sameRun).trans (track?_of_held held), .stay ?_⟩
  rintro _ rfl
  exact absurd (congrArg Act.go (Engine.held?_id held)) notGo

theorem moves_withdraw (graph : String) :
    ∃ t', (s.withEngine (s.engine.withdraw graph).1).track? id = some t' ∧
      Track.Moves registry g (.withdraw graph) ⟨e, (s.run? id).map (·.phase)⟩ t' := by
  have after : (s.withEngine (s.engine.withdraw graph).1).held? id = _ :=
    (Engine.held?_withdraw s.engine graph id).trans (congrArg (Option.map _) held)
  rw [Option.map_some] at after
  by_cases mine : (e.listed && decide (e.graph = graph)) = true
  · rw [if_pos mine] at after
    rw [Bool.and_eq_true, decide_eq_true_eq] at mine
    obtain ⟨_, rfl⟩ := mine
    exact ⟨_, track?_of_held after, .withdraw⟩
  · rw [if_neg mine] at after
    exact moves_elsewhere held (after.trans held.symm) rfl (by simp)

theorem moves_request {execution : String} {request : Request}
    (done : s.attempt registry (.request execution request) = some s') :
    ∃ t', s'.track? id = some t' ∧
      Track.Moves registry g (.request execution request) ⟨e, (s.run? id).map (·.phase)⟩ t' := by
  obtain ⟨sameRuns, _, e', change, heldThere, applied, heldAfter⟩ := attempt_request done
  have sameRun : s'.run? id = s.run? id := by rw [run?, run?, sameRuns]
  by_cases here : id = execution
  · subst here
    obtain rfl : e' = e := Option.some.inj (heldThere.symm.trans held)
    have heldHere := heldAfter id
    rw [if_pos rfl] at heldHere
    have move : Track.Moves registry g (.request e'.id request)
        ⟨e', (s.run? id).map (·.phase)⟩ ⟨change.1, (s.run? id).map (·.phase)⟩ := .request applied
    rw [Engine.held?_id held] at move
    exact ⟨_, (track?_of_held heldHere).trans (by rw [sameRun]), move⟩
  · refine moves_elsewhere held ?_ sameRun (by simp)
    rw [heldAfter, if_neg here]

theorem moves_take (sound : s.Sound) {execution : String} (found : s.graph? e.graph = some g)
    (done : s.attempt registry (.take execution) = some s') :
    ∃ t', s'.track? id = some t' ∧
      Track.Moves registry g (.take execution) ⟨e, (s.run? id).map (·.phase)⟩ t' := by
  obtain ⟨_, e', g', after, heldThere, foundThere, driven, _, heldAfter, runAfter⟩ :=
    attempt_take done
  by_cases here : id = execution
  · subst here
    obtain rfl : e' = e := Option.some.inj (heldThere.symm.trans held)
    obtain rfl : g' = g := Option.some.inj (foundThere.symm.trans found)
    have notRun := sound.run?_of_free held (Execution.standing_drive driven).2.1
    have heldHere := heldAfter id
    have runHere := runAfter id
    rw [if_pos rfl] at heldHere
    rw [if_pos rfl, notRun, Option.none_or] at runHere
    have move : Track.Moves registry g' (.take e'.id) ⟨e', none⟩ ⟨after, some (.before g'.turns)⟩ :=
      .take driven
    rw [Engine.held?_id held] at move
    rw [notRun]
    exact ⟨_, (track?_of_held heldHere).trans (by rw [runHere]; rfl), move⟩
  · refine moves_elsewhere held ?_ ?_ (by simp)
    · rw [heldAfter, if_neg here]
    · rw [runAfter, if_neg (Ne.symm here), Option.or_none]

theorem moves_go (sound : s.Sound) {execution : String}
    (done : s.attempt registry (.go execution) = some s') :
    ∃ t', s'.track? id = some t' ∧
      Track.Moves registry g (.go execution) ⟨e, (s.run? id).map (·.phase)⟩ t' := by
  obtain ⟨run, running, _⟩ := attempt_go_iff.mp done
  obtain ⟨e', heldThere, _⟩ := sound.driven execution run running
  obtain ⟨_, run', next, after, running', advances, heldAfter, runAfter⟩ :=
    attempt_go heldThere done
  by_cases here : id = execution
  · subst here
    obtain rfl : e' = e := Option.some.inj (heldThere.symm.trans held)
    have heldHere := heldAfter id
    have runHere := runAfter id
    rw [if_pos rfl] at heldHere runHere
    have move : Track.Moves registry g (.go e'.id) ⟨e', some run'.phase⟩
        ⟨after, some next.phase⟩ := .go advances
    rw [Engine.held?_id held] at move
    rw [running']
    exact ⟨_, (track?_of_held heldHere).trans (by rw [runHere]; rfl), move⟩
  · refine moves_elsewhere held ?_ ?_ ?_
    · rw [heldAfter, if_neg here]
    · rw [runAfter, if_neg here]
    · rintro ⟨⟩
      exact here rfl

end Moves

/-- What an act does to the track of an execution that is there. -/
theorem moves_of_perform (sound : s.Sound) {t : Track σ} {g : Graph.Loaded}
    (tracked : s.track? id = some t) (found : s.graph? t.execution.graph = some g) :
    ∃ t', (s.perform registry act).track? id = some t' ∧ t.Moves registry g act t' := by
  obtain ⟨e, phase⟩ := t
  obtain ⟨held, rfl : phase = _⟩ := track?_eq_some_iff.mp tracked
  cases done : s.attempt registry act with
  | none =>
      rw [perform_of_none done]
      refine ⟨_, tracked, .stay ?_⟩
      rintro phase rfl there
      obtain ⟨run, running, rfl⟩ := Option.map_eq_some_iff.mp there
      rw [track?_id tracked] at done
      exact waits_of_attempt_none held running done
  | some s' =>
      rw [perform_of_some done]
      cases act with
      | load d =>
          obtain ⟨sameHeld, sameRuns, _⟩ := attempt_load done
          refine moves_elsewhere held (congrFun sameHeld id) ?_ (by simp)
          rw [run?, run?, sameRuns]
      | start graph context =>
          obtain ⟨sameRuns, _, _, _, _, _, heldAfter⟩ := attempt_start done
          refine moves_elsewhere held ?_ ?_ (by simp)
          · rw [heldAfter, held]
            rfl
          · rw [run?, run?, sameRuns]
      | withdraw graph =>
          cases done
          exact moves_withdraw held graph
      | discard graph removed =>
          cases done
          exact moves_elsewhere held rfl rfl (by simp)
      | request execution request => exact moves_request held done
      | take execution => exact moves_take held sound found done
      | go execution => exact moves_go held sound done
      | pass milliseconds =>
          cases done
          exact moves_elsewhere held rfl rfl (by simp)

section Absent

variable (sound : s.Sound) (absent : s.held? id = none)
include absent

theorem ne_of_held {execution : String} {e : Execution} (held : s.held? execution = some e) :
    id ≠ execution := by
  rintro rfl
  rw [absent] at held
  cases held

include sound

/-- Only an execution that is there is taken up. -/
theorem run?_perform_of_absent : (s.perform registry act).run? id = none := by
  have notRun := sound.run?_of_not_held absent
  cases done : s.attempt registry act with
  | none => rw [perform_of_none done, notRun]
  | some s' =>
      rw [perform_of_some done]
      cases act with
      | load d => rw [run?, (attempt_load done).2.1, ← run?, notRun]
      | start graph context => rw [run?, (attempt_start done).1, ← run?, notRun]
      | request execution request => rw [run?, (attempt_request done).1, ← run?, notRun]
      | take execution =>
          obtain ⟨_, _, _, _, there, _, _, _, _, runAfter⟩ := attempt_take done
          rw [runAfter, notRun, if_neg (ne_of_held absent there).symm, Option.none_or]
      | go execution =>
          obtain ⟨run, running, _⟩ := attempt_go_iff.mp done
          obtain ⟨_, there, _⟩ := sound.driven execution run running
          obtain ⟨_, _, _, _, _, _, _, runAfter⟩ := attempt_go there done
          rw [runAfter, if_neg (ne_of_held absent there), notRun]
      | withdraw graph =>
          cases done
          exact notRun
      | discard graph removed =>
          cases done
          exact notRun
      | pass milliseconds =>
          cases done
          exact notRun

/-- An execution that was not there before was started in the act. -/
theorem fresh_of_perform {e : Execution} (held : (s.perform registry act).held? id = some e) :
    ∃ g context, act = .start g.id context ∧ s.graph? g.id = some g ∧
      ∃ capacity now, e = .start id g.id g.nodes capacity context now := by
  cases done : s.attempt registry act with
  | none =>
      rw [perform_of_none done, absent] at held
      cases held
  | some s' =>
      rw [perform_of_some done] at held
      cases act with
      | load d =>
          rw [(attempt_load done).1, absent] at held
          cases held
      | start graph context =>
          obtain ⟨_, _, g, made, capacity, found, heldAfter⟩ := attempt_start done
          rw [heldAfter, absent, Option.none_or] at held
          split at held
          · rename_i named
            subst named
            cases held
            obtain rfl := graph?_id found
            exact ⟨g, context, rfl, found, capacity, s.now, rfl⟩
          · cases held
      | withdraw graph =>
          cases done
          have after := Engine.held?_withdraw s.engine graph id
          rw [show s.engine.held? id = none from absent, Option.map_none] at after
          exact absurd (after.symm.trans held) nofun
      | request execution request =>
          obtain ⟨_, _, _, _, there, _, heldAfter⟩ := attempt_request done
          rw [heldAfter, if_neg (ne_of_held absent there), absent] at held
          cases held
      | take execution =>
          obtain ⟨_, _, _, _, there, _, _, _, heldAfter, _⟩ := attempt_take done
          rw [heldAfter, if_neg (ne_of_held absent there), absent] at held
          cases held
      | go execution =>
          obtain ⟨run, running, _⟩ := attempt_go_iff.mp done
          obtain ⟨_, there, _⟩ := sound.driven execution run running
          obtain ⟨_, _, _, _, _, _, heldAfter, _⟩ := attempt_go there done
          rw [heldAfter, if_neg (ne_of_held absent there), absent] at held
          cases held
      | discard graph removed =>
          cases done
          exact absurd (absent.symm.trans held) nofun
      | pass milliseconds =>
          cases done
          exact absurd (absent.symm.trans held) nofun

end Absent

theorem Sound.perform (sound : s.Sound) (registry : Action.Registry σ) (act : Act) :
    (s.perform registry act).Sound := by
  refine ⟨?_, ?_, ?_⟩
  · intro g mem
    obtain ⟨more, accepted, same⟩ := perform_loaded registry s act
    rw [same, List.mem_append] at mem
    exact mem.elim (sound.accepted g) (accepted g)
  · intro id e held
    cases before : s.held? id with
    | none =>
        obtain ⟨g, context, _, found, capacity, now, rfl⟩ := fresh_of_perform sound before held
        exact ⟨g, graph?_perform found⟩
    | some e₀ =>
        obtain ⟨g, found⟩ := sound.graphs id e₀ before
        obtain ⟨t', after, moves⟩ := moves_of_perform sound (track?_of_held before) found
        rw [track?_of_held held] at after
        cases after
        have same : e.graph = e₀.graph := moves.frame.2
        exact ⟨g, graph?_perform (same ▸ found)⟩
  · intro id run running
    cases before : s.held? id with
    | none =>
        rw [run?_perform_of_absent sound before] at running
        cases running
    | some e₀ =>
        obtain ⟨g, found⟩ := sound.graphs id e₀ before
        obtain ⟨t', after, moves⟩ := moves_of_perform sound (track?_of_held before) found
        obtain ⟨held, phase⟩ := track?_eq_some_iff.mp after
        refine ⟨t'.execution, held, moves.driven ?_ (by rw [phase, running]; rfl)⟩
        intro runs
        obtain ⟨r, there⟩ := Option.isSome_iff_exists.mp (Option.isSome_map ▸ runs)
        obtain ⟨e, heldBefore, drives⟩ := sound.driven id r there
        rw [before] at heldBefore
        cases heldBefore
        exact drives

end Perform

end System

end ActionGraph
