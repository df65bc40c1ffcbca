import ActionGraph.Proofs.Execution.Serving
import ActionGraph.Proofs.Toml.Integers

/-!
# Settings that can be honoured

Settings that are accepted let executions start and messages wait.  They do
not say whether there can be a bus of the capacity that is set: a capacity of
zero is accepted, and no bus has it.
-/

namespace ActionGraph.Settings

open ActionGraph.Toml

/-- What is accepted lets an execution start, and a message wait at each port. -/
theorem limits_of_validate {settings : Settings} (valid : settings.validate = .ok ()) :
    0 < settings.executor.maxConcurrent ∧ 0 < settings.executor.maxQueueDepth := by
  unfold validate at valid
  split at valid
  · cases valid
  · split at valid
    · cases valid
    · rename_i slots
      split at valid
      · cases valid
      · rename_i room
        exact ⟨Nat.pos_of_ne_zero slots, Nat.pos_of_ne_zero room⟩

/--
There is an engine with these settings, on which executions start, and take at
each port as many messages as are set, one at least.
-/
def Honoured (settings : Settings) : Prop :=
  0 < settings.executor.maxQueueDepth ∧ ∃ engine, Engine.ofSettings? settings = some engine ∧
    engine.Serves settings.executor.maxQueueDepth

/-! ## Capacities of loaded settings -/

theorem eventCapacity_lt_of_decodeEvents {node : Wire.Node} (fitting : Fitting node)
    {capacity : Nat} (decoded : decodeEvents node = .ok capacity) : capacity < Nat.pow 2 63 := by
  obtain ⟨⟨_, _⟩, read, same⟩ := bind_eq_ok_iff.mp decoded
  cases same
  obtain ⟨drawn, _⟩ := Wire.Fields.drawn_of_record (by decide) fitting.each read
  rcases drawn.of_default with given | ⟨part, good, counted⟩
  · dsimp only at given ⊢
    rw [given]
    decide
  · exact good.lt_of_natBelow counted

theorem eventCapacity_lt_of_decode {node : Wire.Node} (fitting : Fitting node)
    {settings : Settings} (decoded : decode node = .ok settings) :
    settings.eventCapacity < Nat.pow 2 63 := by
  obtain ⟨⟨_, _, _, _, _, _, _⟩, read, same⟩ := bind_eq_ok_iff.mp decoded
  cases same
  obtain ⟨_, _, _, events, _⟩ := Wire.Fields.drawn_of_record (by decide) fitting.each read
  rcases events.of_default with given | ⟨part, good, counted⟩
  · dsimp only at given ⊢
    rw [given]
    decide
  · exact eventCapacity_lt_of_decodeEvents good counted

/-- Settings that are loaded are valid, and their capacity is not too great for a bus. -/
theorem of_ofFile {known : Variables} {path : String} {file : FileText} {settings : Settings}
    (loaded : ofFile known path file = .ok settings) :
    settings.validate = .ok () ∧ settings.eventCapacity ≤ Bus.maxCapacity := by
  unfold ofFile at loaded
  split at loaded
  · cases loaded
  · obtain ⟨read, accepted, loaded⟩ := bind_eq_ok_iff.mp loaded
    obtain ⟨⟨⟩, valid, same⟩ := bind_eq_ok_iff.mp loaded
    cases same
    obtain ⟨node, fitting, decoded⟩ := fitting_of_accept (mapError_eq_ok_iff.mp accepted)
    have below := eventCapacity_lt_of_decode fitting decoded
    refine ⟨valid, ?_⟩
    have bound : Bus.maxCapacity = Nat.pow 2 63 - 1 := by decide
    omega

/-! ## Engines of accepted settings -/

theorem exists_engine_iff (settings : Settings) :
    (∃ engine, Engine.ofSettings? settings = some engine) ↔
      0 < settings.eventCapacity ∧ settings.eventCapacity ≤ Bus.maxCapacity := by
  unfold Engine.ofSettings? Bus.ofCapacity?
  split
  · rename_i range
    exact iff_of_true ⟨_, rfl⟩ range
  · rename_i beyond
    exact iff_of_false nofun beyond

/-- With accepted settings, all that can be missing for an engine to serve is a bus. -/
theorem honoured_of_engine {settings : Settings} (valid : settings.validate = .ok ())
    {engine : Engine} (made : Engine.ofSettings? settings = some engine) :
    settings.Honoured := by
  obtain ⟨slots, room⟩ := limits_of_validate valid
  obtain ⟨bus, -, rfl⟩ := Option.map_eq_some_iff.mp made
  have numbered : Engine.Numbered { Engine.ofSettings settings with bus } [] :=
    ⟨rfl, List.Sublist.slnil, rfl⟩
  refine ⟨room, _, made, ?_⟩
  rw [← Nat.max_eq_left (Nat.succ_le_of_lt room)]
  exact Engine.serves_of_free numbered slots

/--
Accepted settings can be honoured exactly if there can be a bus of their
capacity.  If they were loaded, only a capacity of zero stands against it.
-/
theorem honoured_iff {settings : Settings} (valid : settings.validate = .ok ()) :
    (settings.Honoured ↔
      0 < settings.eventCapacity ∧ settings.eventCapacity ≤ Bus.maxCapacity) ∧
    ∀ known path file, ofFile known path file = .ok settings →
      (settings.Honoured ↔ settings.eventCapacity ≠ 0) := by
  have general : settings.Honoured ↔
      0 < settings.eventCapacity ∧ settings.eventCapacity ≤ Bus.maxCapacity := by
    rw [← exists_engine_iff]
    constructor
    · rintro ⟨-, engine, made, -⟩
      exact ⟨engine, made⟩
    · rintro ⟨engine, made⟩
      exact honoured_of_engine valid made
  refine ⟨general, fun known path file loaded => ?_⟩
  rw [general, and_iff_left (of_ofFile loaded).2, Nat.pos_iff_ne_zero]

def narrowBus : Settings :=
  { defaults with eventCapacity := 1 }

theorem honoured_iff_of_narrowBus :
    narrowBus.validate = .ok () ∧
      ofFile (fun _ => none) "settings.toml" (.ok "[events]\ncapacity = 1\n") = .ok narrowBus ∧
      narrowBus.Honoured :=
  have valid : narrowBus.validate = .ok () := by decide +kernel
  have loaded : ofFile (fun _ => none) "settings.toml" (.ok "[events]\ncapacity = 1\n") =
      .ok narrowBus := by decide +kernel
  ⟨valid, loaded, ((honoured_iff valid).2 _ _ _ loaded).mpr (by decide)⟩

def silentBus : Settings :=
  { defaults with eventCapacity := 0 }

/-- A capacity of zero is accepted, and then no graph is ever run. -/
theorem silentBus_not_honoured :
    ofFile (fun _ => none) "settings.toml" (.ok "[events]\ncapacity = 0\n") = .ok silentBus ∧
      silentBus.validate = .ok () ∧ ¬ silentBus.Honoured ∧
      ∀ (σ : Type) (registry : Action.Registry σ) (d : Graph.Definition) (context : Context)
        (injections : List CommandLine.Injection) (w : Action.World σ),
        CommandLine.runGraph registry silentBus d context injections w =
          .refused (.noBus 0) 0 w.outside :=
  have silent : ¬ silentBus.Honoured := by
    rintro ⟨-, engine, made, -⟩
    cases made
  ⟨by decide +kernel, by decide +kernel, silent, fun _ _ _ _ _ _ => rfl⟩

end ActionGraph.Settings
