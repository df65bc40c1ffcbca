import ActionGraph.Proofs.Execution.Frames
import ActionGraph.Proofs.Execution.Twins

/-!
# Separation

Executions meet in the world of actions alone.  They are apart if the nodes of
each keep to a share of it: an act then leaves the shares of others as they
are, and the node at work in a run goes on in the same way in another world
that is the same to its share.
-/

namespace ActionGraph

open ActionGraph.Action (Shares World)
open Execution (Phase Run)
open ActionGraph.Graph (Loaded)

variable {σ V : Type} {registry : Action.Registry σ} {shares : Shares σ V}

/-- Only a step of its run moves a run, once it has begun. -/
theorem Track.Moves.phase {g : Loaded} {act : Act} {t t' : Track σ}
    (moves : t.Moves registry g act t') (still : act ≠ .go t.execution.id) :
    t'.phase = t.phase ∨ t'.phase = some (.before g.turns) := by
  cases moves with
  | take accepted => exact .inr rfl
  | go advances => exact absurd rfl still
  | _ => exact .inl rfl

namespace System

variable {s : System σ} {act : Act} {id : String} {e : Execution}

/-- What the nodes of each execution dispatch keeps to the share that belongs to it. -/
def Separated (registry : Action.Registry σ) (shares : Shares σ V) (owner : String → Nat)
    (s : System σ) : Prop :=
  ∀ id e g, s.held? id = some e → s.graph? e.graph = some g →
    g.KeepsTo registry shares (owner id)

/-- Each run is its own twin, so that its node at work keeps to the share. -/
def Steady (shares : Shares σ V) (owner : String → Nat) (s : System σ) : Prop :=
  ∀ id e run, s.held? id = some e → s.run? id = some run →
    ∃ r, Fits r s.place.world.alarms s.place.world.alarms ∧
      run.phase.Alike shares (owner id) ⟨id, e.graph⟩ r run.phase

variable {owner : String → Nat} {settings : Settings} {world : World σ} {past : List Act}

theorem Separated.of_performAll (sound : s.Sound) {acts : List Act}
    (separated : (s.performAll registry acts).Separated registry shares owner) :
    s.Separated registry shares owner := by
  intro id e g held found
  obtain ⟨e', later, same⟩ := held?_performAll sound held registry acts
  refine separated id e' g later ?_
  rw [same]
  exact graph?_performAll found acts

/-! ### What acts do to the world -/

section Reached

variable (reached : (initial settings world).performAll registry past = s)
include reached

theorem sound_of_reached : s.Sound :=
  reached ▸ (sound_initial settings world).performAll registry past

theorem numbered_of_reached : s.Numbered :=
  reached ▸ (numbered_initial settings world).performAll past

/-- The run of an execution is on its course. -/
theorem course_of_reached {run : Run σ} (held : s.held? id = some e)
    (running : s.run? id = some run) :
    ∃ g, s.graph? e.graph = some g ∧ g.Accepted ∧
      ∃ lost late, Track.Course lost late g ⟨e, some run.phase⟩ := by
  have tracked := track?_of_held held
  rw [running] at tracked
  subst reached
  obtain ⟨g, found, accepted, course⟩ := course tracked
  exact ⟨g, found, accepted, _, _, course⟩

variable (steady : s.Steady shares owner) (separated : s.Separated registry shares owner)
include steady separated

/-- A step of a run keeps to the share of its execution. -/
theorem keeps_of_step {run after : Run σ} {place : Workplace σ} (held : s.held? id = some e)
    (running : s.run? id = some run)
    (stepped : run.step registry s.place = some (after, place)) :
    (∃ count, World.Tame shares (owner id) count s.place.world place.world) ∧
      ∀ e', place.engine.held? id = some e' →
        ∃ r, Fits r place.world.alarms place.world.alarms ∧
          after.phase.Alike shares (owner id) ⟨id, e'.graph⟩ r after.phase := by
  have named := run?_execution running
  obtain ⟨g, found, accepted, lost, late, course⟩ := course_of_reached reached held running
  obtain ⟨r, fits, alike⟩ := steady id e run held running
  have self : e.named ⟨id, e.graph⟩ = e := by rw [← Engine.held?_id held]; rfl
  have twin : Run.Twin shares (owner id) ⟨id, e.graph⟩ (run, s.place) (run, s.place) := by
    refine ⟨⟨rfl, ?_⟩, named, rfl, r, ⟨rfl, rfl, fits⟩, alike⟩
    rw [named, show s.place.engine.held? id = some e from held, Option.map_some, self]
  have keeps := separated id e g held found
  rw [← named] at held
  have matched := twin.step held accepted course keeps
  rw [stepped] at matched
  cases matched with
  | some likewise =>
      obtain ⟨twin, same, tame⟩ := likewise
      refine ⟨tame, fun e' there => ?_⟩
      obtain ⟨r, matched, alike⟩ := twin.abreast
      have held := twin.engine.held
      rw [same, named, there, Option.map_some] at held
      have same : e'.graph = (e'.named ⟨id, e.graph⟩).graph :=
        congrArg Execution.graph (Option.some.inj held)
      exact ⟨r, matched.alarms, same ▸ alike⟩

/-- An act other than the passing of time keeps to the share of the execution whose run goes. -/
theorem tame_perform (j : Nat) (own : ∀ other, act = .go other → j = owner other)
    (still : ∀ milliseconds, act ≠ .pass milliseconds) :
    ∃ count, World.Tame shares j count s.place.world (s.perform registry act).place.world := by
  have kept : (s.perform registry act).place.world = s.place.world →
      ∃ count, World.Tame shares j count s.place.world (s.perform registry act).place.world :=
    fun same => ⟨0, by rw [same], by rw [same]; rfl, fun _ _ => by rw [same]⟩
  cases done : s.attempt registry act with
  | none => exact kept (by rw [perform_of_none done])
  | some s' =>
      rw [perform_of_some done] at kept ⊢
      cases act with
      | load d =>
          obtain ⟨_, _, _, rfl⟩ := attempt_load_iff.mp done
          exact kept rfl
      | start graph context =>
          obtain ⟨_, _, _, _, _, rfl⟩ := attempt_start_iff.mp done
          exact kept rfl
      | withdraw graph =>
          cases done
          exact kept rfl
      | discard graph removed =>
          cases done
          exact kept rfl
      | request other request =>
          obtain ⟨_, _, _, _, rfl⟩ := attempt_request_iff.mp done
          exact kept rfl
      | take other =>
          obtain ⟨_, _, _, _, _, _, rfl⟩ := attempt_take_iff.mp done
          exact kept rfl
      | go other =>
          obtain ⟨run, running, after, place, stepped, rfl⟩ := attempt_go_iff.mp done
          obtain ⟨e, held, _⟩ := (sound_of_reached reached).driven other run running
          rw [own other rfl]
          exact (keeps_of_step reached steady separated held running stepped).1
      | pass milliseconds => exact absurd rfl (still milliseconds)

theorem alarms_le_perform (act : Act) :
    s.place.world.alarms ≤ (s.perform registry act).place.world.alarms := by
  have counted : ∀ {j : Nat}, (∃ count, World.Tame shares j count s.place.world
      (s.perform registry act).place.world) →
      s.place.world.alarms ≤ (s.perform registry act).place.world.alarms := by
    rintro j ⟨count, tame⟩
    rw [tame.alarms]
    exact Nat.le_add_right _ _
  cases act with
  | pass milliseconds => exact Nat.le_refl _
  | go other =>
      refine counted (tame_perform reached steady separated (owner other) ?_ nofun)
      rintro _ ⟨⟩
      rfl
  | _ => exact counted (tame_perform reached steady separated 0 nofun nofun)

/-- Whatever happens, each run is its own twin. -/
theorem steady_perform (act : Act) : (s.perform registry act).Steady shares owner := by
  intro id e run held running
  have sound := sound_of_reached reached
  cases before : s.held? id with
  | none =>
      rw [run?_perform_of_absent sound before] at running
      cases running
  | some e₀ =>
      by_cases here : act = .go id
      · subst here
        cases done : s.attempt registry (.go id) with
        | none =>
            rw [perform_of_none done] at held running ⊢
            exact steady id e run held running
        | some s' =>
            rw [perform_of_some done] at held running ⊢
            obtain ⟨run₀, found, after, place, stepped, rfl⟩ := attempt_go_iff.mp done
            have same := (Run.execution_of_step stepped).trans (run?_execution found)
            have replaced := run?_replace found same id
            rw [if_pos rfl] at replaced
            obtain rfl : after = run := Option.some.inj (replaced.symm.trans running)
            exact (keeps_of_step reached steady separated before found stepped).2 e held
      · obtain ⟨g, found⟩ := sound.graphs id e₀ before
        obtain ⟨t, tracked, moves⟩ : ∃ t, (s.perform registry act).track? id = some t ∧
            Track.Moves registry g act ⟨e₀, (s.run? id).map (·.phase)⟩ t :=
          moves_of_perform sound (track?_of_held before) found
        obtain ⟨there, phase⟩ := track?_eq_some_iff.mp tracked
        obtain rfl : t.execution = e := Option.some.inj (there.symm.trans held)
        rw [running, Option.map_some] at phase
        have same : t.execution.graph = e₀.graph := moves.frame.2
        rw [same]
        rcases moves.phase (fun goes => here (Engine.held?_id before ▸ goes)) with kept | began
        · obtain ⟨run₀, ran, at'⟩ := Option.map_eq_some_iff.mp (kept.symm.trans phase)
          obtain ⟨r, fits, alike⟩ := steady id e₀ run₀ before ran
          have alarms := alarms_le_perform reached steady separated act
          exact ⟨r, fits.later alarms alarms, at' ▸ alike⟩
        · rw [Option.some.inj (phase.symm.trans began)]
          exact ⟨_, fits_none _ _, Phase.alike_before _⟩

end Reached

theorem steady_performAll {acts : List Act}
    (separated :
      ((initial settings world).performAll registry acts).Separated registry shares owner) :
    ((initial settings world).performAll registry acts).Steady shares owner := by
  induction acts using List.reverseRecOn with
  | nil => exact fun id e run held => nomatch held
  | append_singleton acts act ih =>
      have sound := (sound_initial settings world).performAll registry acts
      rw [performAll_append] at separated
      have before := separated.of_performAll sound
      rw [performAll_snoc]
      exact steady_perform rfl (ih before) before act

end System

end ActionGraph
