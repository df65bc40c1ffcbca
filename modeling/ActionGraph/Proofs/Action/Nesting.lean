import ActionGraph.Proofs.Action.Envelope
import ActionGraph.Proofs.Action.Watching

/-!
# How deep actions are nested

Actions are trees of branching actions, of parallel actions and of leaves.  A
dispatch of such a tree is watched: every action that is dispatched is noted
with the number of actions around it, together with the level that its handler
is told, or with what became of it without a handler.
-/

namespace ActionGraph.Action

variable {σ S : Type}

/-- What trees of actions are made of; a leaf knows how deep it is nested. -/
inductive Part (σ : Type) where
  | branch
  | parallel (limit : Nat)
  | leaf (type description : String) (run : Nat → Json → Context → Task σ Handled)

namespace Part

def handler : Part σ → Handler σ
  | .branch => Branch.handler
  | .parallel limit => Parallel.handler limit
  | .leaf type description run => ⟨type, description, fun d => run d.level⟩

def besides : Part σ → Part (σ × List S)
  | .branch => .branch
  | .parallel limit => .parallel limit
  | .leaf type description run =>
      .leaf type description fun level params context => (run level params context).besides

end Part

/-- Parts by their type, and how deep actions may nest. -/
structure Repertoire (σ : Type) where
  parts : Dict (Part σ)
  maxDepth : Nat

/-- An action that is dispatched, and the number of actions around it. -/
structure Visit where
  nesting : Nat
  spec : Spec
  context : Context

inductive Sighting where
  /-- Its handler was run, and was told a level. -/
  | entered (visit : Visit) (level : Nat)
  /-- No handler was run, and the dispatch ended with this. -/
  | declined (visit : Visit) (dispatched : Dispatched)

def Sighting.nesting : Sighting → Nat
  | .entered visit _ => visit.nesting
  | .declined visit _ => visit.nesting

namespace Repertoire

def registry (c : Repertoire σ) : Registry σ :=
  ⟨c.parts.map Part.handler, c.maxDepth⟩

def bounded (c : Repertoire σ) (bound : Nat) : Repertoire σ :=
  { c with maxDepth := bound }

def decline (visit : Visit) (failure : Failure) : Task (σ × List Sighting) Dispatched :=
  let dispatched : Dispatched := (.ok (.notRun visit.spec failure), visit.context)
  (Task.note (.declined visit dispatched)).bind fun _ => .done dispatched

/-- Watch the dispatch of an action with so many levels left, inside so many others. -/
def watchWithin (c : Repertoire σ) :
    Nat → Nat → Spec → Context → Task (σ × List Sighting) Dispatched
  | 0, nesting, spec, context => decline ⟨nesting, spec, context⟩ (.tooDeep c.maxDepth)
  | left + 1, nesting, spec, context =>
      match c.parts.get? spec.type with
      | none => decline ⟨nesting, spec, context⟩ (.unknownAction spec.type)
      | some part =>
          let dispatcher : Dispatcher (σ × List Sighting) :=
            ⟨c.maxDepth - left, c.watchWithin left (nesting + 1)⟩
          (Task.note (.entered ⟨nesting, spec, context⟩ dispatcher.level)).bind fun _ =>
            Process.now.bind fun start =>
              (part.besides.handler.run dispatcher spec.params context).bind fun handled =>
                Process.now.bind fun stop =>
                  .done (Report.ofHandled spec (stop - start) handled.1, handled.2)

/-- The run of a dispatch that is watched from the top level on. -/
def watch (c : Repertoire σ) (spec : Spec) (context : Context) (w : World σ) :
    World (σ × List Sighting) × Dispatched :=
  (c.watchWithin (c.maxDepth + 1) 0 spec context).complete w.watched

end Repertoire

/-! ## What is noted of nested actions -/

theorem notes_part {fine : S → Prop} {d : Dispatcher (σ × List S)}
    (notes : ∀ spec context, Task.Notes fine (d.dispatch spec context)) (part : Part σ)
    (params : Json) (context : Context) :
    Task.Notes fine (part.besides.handler.run d params context) := by
  cases part with
  | branch =>
      exact Task.Notes.composable.branch d d (fun _ _ _ spec _ => notes spec) context
  | parallel limit =>
      exact Task.Notes.composable.parallel d d (fun _ _ spec _ => notes spec) context
  | leaf type description run => exact Task.notes_besides _

def Visit.refusal (maxDepth : Nat) (visit : Visit) : Failure :=
  if maxDepth < visit.nesting then .tooDeep maxDepth else .unknownAction visit.spec.type

/--
Under a bound it is right that handlers are told how deep they are nested, no
deeper than the bound, and that an action that is not run leaves its context.
-/
def Sighting.Right (maxDepth : Nat) : Sighting → Prop
  | .entered visit level => level = visit.nesting ∧ visit.nesting ≤ maxDepth
  | .declined visit dispatched =>
      dispatched = (.ok (.notRun visit.spec (visit.refusal maxDepth)), visit.context)

namespace Repertoire

theorem notes_decline {maxDepth : Nat} {visit : Visit} {failure : Failure}
    (right : visit.refusal maxDepth = failure) :
    Task.Notes (Sighting.Right maxDepth) (decline visit failure : Task (σ × List Sighting) _) := by
  have noted : Sighting.Right maxDepth
      (.declined visit (.ok (.notRun visit.spec failure), visit.context)) := by
    rw [← right]
    rfl
  exact (Task.notes_note noted).bind fun _ => trivial

theorem notes_watchWithin (c : Repertoire σ) {left nesting : Nat}
    (levels : nesting + left = c.maxDepth + 1) (spec : Spec) (context : Context) :
    Task.Notes (Sighting.Right c.maxDepth) (c.watchWithin left nesting spec context) := by
  induction left generalizing nesting spec context with
  | zero =>
      have deep : c.maxDepth < nesting := by omega
      exact notes_decline (if_pos deep)
  | succ left ih =>
      have shallow : nesting ≤ c.maxDepth := by omega
      unfold watchWithin
      split
      · exact notes_decline (if_neg (Nat.not_lt.mpr shallow))
      · have told : c.maxDepth - left = nesting := by omega
        have right : Sighting.Right c.maxDepth
            (.entered ⟨nesting, spec, context⟩ (c.maxDepth - left)) := ⟨told, shallow⟩
        have nested (spec : Spec) (context : Context) :
            Task.Notes (Sighting.Right c.maxDepth) (c.watchWithin left (nesting + 1) spec context) :=
          ih (by omega) spec context
        refine (Task.notes_note right).bind fun _ => ?_
        refine Task.notes_now.bind fun start => ?_
        refine (notes_part nested _ _ _).bind fun handled => ?_
        exact Task.notes_now.bind fun stop => trivial

end Repertoire

/-! ## What is shown of nested actions -/

theorem shows_part {off : S → Prop} {watched : Dispatcher (σ × List S)} {d : Dispatcher σ}
    (shows : ∀ spec context,
      Task.Shows off (watched.dispatch spec context) (d.dispatch spec context))
    (levels : watched.level = d.level) (part : Part σ) (params : Json) (context : Context) :
    Task.Shows off (part.besides.handler.run watched params context)
      (part.handler.run d params context) := by
  cases part with
  | branch => exact Task.Shows.composable.branch watched d (fun _ _ _ spec _ => shows spec) context
  | parallel limit =>
      exact Task.Shows.composable.parallel watched d (fun _ _ spec _ => shows spec) context
  | leaf type description run =>
      change Task.Shows off (run watched.level params context).besides (run d.level params context)
      rw [levels]
      exact Task.Shows.besides _

namespace Repertoire

/-- Whether actions nested so deep are off the way of a dispatch under a smaller bound. -/
def Strays (c : Repertoire σ) (bound : Nat) (sighting : Sighting) : Prop :=
  bound < c.maxDepth ∧ bound < sighting.nesting

/-- A watched dispatch shows the dispatch under the bound and under every smaller one. -/
theorem shows_watchWithin (c : Repertoire σ) {bound : Nat} (le : bound ≤ c.maxDepth)
    {left nesting : Nat} (levels : nesting + left = c.maxDepth + 1) (shallow : nesting ≤ bound + 1)
    (spec : Spec) (context : Context) :
    Task.Shows (c.Strays bound) (c.watchWithin left nesting spec context)
      ((c.bounded bound).registry.dispatchWithin (bound + 1 - nesting) spec context) := by
  induction left generalizing nesting spec context with
  | zero =>
      -- the smaller bound would have been reached before
      obtain rfl : bound = c.maxDepth := by omega
      obtain rfl : nesting = c.maxDepth + 1 := by omega
      rw [Nat.sub_self]
      exact Task.Shows.note _ (.done _)
  | succ left ih =>
      rcases Nat.lt_or_eq_of_le shallow with within | rfl
      · obtain ⟨more, levelsToo⟩ : ∃ more, nesting + (more + 1) = bound + 1 :=
          ⟨bound - nesting, by omega⟩
        have left' : bound + 1 - nesting = more + 1 := by omega
        rw [left']
        unfold watchWithin Registry.dispatchWithin
        have get : (c.bounded bound).registry.get? spec.type =
            (c.parts.get? spec.type).map Part.handler :=
          Dict.get?_map Part.handler c.parts spec.type
        rw [get]
        cases c.parts.get? spec.type with
        | none => exact Task.Shows.note _ (.done _)
        | some part =>
            have told : c.maxDepth - left = bound - more := by omega
            have rest : bound + 1 - (nesting + 1) = more := by omega
            have nested (spec : Spec) (context : Context) :
                Task.Shows (c.Strays bound) (c.watchWithin left (nesting + 1) spec context)
                  ((c.bounded bound).registry.dispatchWithin more spec context) :=
              rest ▸ ih (by omega) (by omega) spec context
            refine Task.Shows.note _ (Task.Shows.now.bind fun start => ?_)
            refine (shows_part nested told part spec.params context).bind fun handled => ?_
            exact Task.Shows.now.bind fun stop => .done _
      -- under the bound the action is not run; whatever is noted of it here strays
      · have off (sighting : Sighting) (here : sighting.nesting = bound + 1) :
            c.Strays bound sighting :=
          ⟨by omega, by omega⟩
        unfold watchWithin
        split
        · exact Task.Shows.note_off (off _ rfl) _ _
        · exact Task.Shows.note_off (off _ rfl) _ _

/-- Watching a dispatch changes nothing but the journal. -/
theorem complete_watch (c : Repertoire σ) (spec : Spec) (context : Context) (w : World σ) :
    (c.registry.dispatch spec context).complete w =
      ((c.watch spec context w).1.unwatched, (c.watch spec context w).2) := by
  have levels : 0 + (c.maxDepth + 1) = c.maxDepth + 1 := Nat.zero_add _
  refine (c.shows_watchWithin (Nat.le_refl _) levels (Nat.zero_le _) spec context).complete
    (c.notes_watchWithin levels spec context) w.watched fun sighting _ strays => ?_
  exact Nat.lt_irrefl _ strays.1

/-- All that is noted of a dispatch is right. -/
theorem right_of_mem_journal {c : Repertoire σ} {spec : Spec} {context : Context} {w : World σ}
    {sighting : Sighting} (mem : sighting ∈ (c.watch spec context w).1.journal) :
    sighting.Right c.maxDepth := by
  have levels : 0 + (c.maxDepth + 1) = c.maxDepth + 1 := Nat.zero_add _
  obtain ⟨more, added, right⟩ := (c.notes_watchWithin levels spec context).complete w.watched
  have journal : (c.watch spec context w).1.journal = more := added.trans (List.nil_append more)
  exact right sighting (journal ▸ mem)

/-- A dispatch that comes no deeper than a smaller bound goes the same way under it. -/
theorem complete_bounded {c : Repertoire σ} {bound : Nat} (le : bound ≤ c.maxDepth) {spec : Spec}
    {context : Context} {w : World σ}
    (shallow : ∀ sighting ∈ (c.watch spec context w).1.journal, sighting.nesting ≤ bound) :
    ((c.bounded bound).registry.dispatch spec context).complete w =
      (c.registry.dispatch spec context).complete w := by
  have levels : 0 + (c.maxDepth + 1) = c.maxDepth + 1 := Nat.zero_add _
  rw [c.complete_watch spec context w]
  refine (c.shows_watchWithin le levels (Nat.zero_le _) spec context).complete
    (c.notes_watchWithin levels spec context) w.watched fun sighting mem strays => ?_
  exact Nat.not_lt.mpr (shallow sighting mem) strays.2

/--
The bound on nesting is exact.  Watching a dispatch does not change it, and
shows that every handler that runs is told how deep it is nested, no deeper
than the bound; that an action nested deeper leaves the context it was given
and fails for its depth, without a handler; and that any smaller bound that
the dispatch stays within makes no difference to it.
-/
theorem bound_exact (c : Repertoire σ) (spec : Spec) (context : Context) (w : World σ) :
    (c.registry.dispatch spec context).complete w =
        ((c.watch spec context w).1.unwatched, (c.watch spec context w).2) ∧
      (∀ visit level, .entered visit level ∈ (c.watch spec context w).1.journal →
        level = visit.nesting ∧ visit.nesting ≤ c.maxDepth) ∧
      (∀ sighting ∈ (c.watch spec context w).1.journal, c.maxDepth < sighting.nesting →
        ∃ visit report, sighting = .declined visit (.ok report, visit.context) ∧
          report.success = false ∧ report.error =
            some ("Maximum action nesting depth (" ++ toString c.maxDepth ++ ") exceeded")) ∧
      ∀ bound ≤ c.maxDepth,
        (∀ sighting ∈ (c.watch spec context w).1.journal, sighting.nesting ≤ bound) →
          ((c.bounded bound).registry.dispatch spec context).complete w =
            (c.registry.dispatch spec context).complete w := by
  refine ⟨c.complete_watch spec context w, fun _ _ mem => right_of_mem_journal mem, ?_,
    fun bound le => complete_bounded le⟩
  intro sighting mem deep
  have right := right_of_mem_journal mem
  cases sighting with
  | entered visit level => exact absurd deep (Nat.not_lt.mpr right.2)
  | declined visit dispatched =>
      have refused : visit.refusal c.maxDepth = .tooDeep c.maxDepth := if_pos deep
      obtain rfl : dispatched = _ := right
      rw [refused]
      exact ⟨visit, _, rfl, rfl, rfl⟩

def levels : Repertoire Unit :=
  ⟨.ofList [("condition", .branch),
    ("level", .leaf "level" "" fun level _ context =>
      .done (.ok (.ok (.ofFields [("level", .ofNat level)])), context))], 5⟩

def innermost : Spec :=
  let branching (action : Spec) : Spec :=
    ⟨"condition", none,
      .ofFields [("if", .emptyObject), ("then", .arr [action.toJson])]⟩
  branching (branching ⟨"level", none, .emptyObject⟩)

def outset : World Unit :=
  ⟨0, 0, .empty 0, ()⟩

theorem bound_exact_of_innermost :
    (levels.watch innermost default outset).1.journal.map Sighting.nesting = [0, 1, 2] ∧
      ((levels.bounded 2).registry.dispatch innermost default).complete outset =
        (levels.registry.dispatch innermost default).complete outset ∧
      ∃ visit report, Sighting.declined visit (.ok report, visit.context) ∈
          ((levels.bounded 1).watch innermost default outset).1.journal ∧
        report.error = some "Maximum action nesting depth (1) exceeded" := by
  have nestings : (levels.watch innermost default outset).1.journal.map Sighting.nesting =
      [0, 1, 2] := by
    decide +kernel
  have shallow : ∀ sighting ∈ (levels.watch innermost default outset).1.journal,
      sighting.nesting ≤ 2 := by
    rw [← List.forall_mem_map (f := Sighting.nesting) (P := fun nesting => nesting ≤ 2), nestings]
    decide
  have tooDeep : 2 ∈ ((levels.bounded 1).watch innermost default outset).1.journal.map
      Sighting.nesting := by
    decide +kernel
  refine ⟨nestings, (bound_exact levels innermost default outset).2.2.2 2 (by decide) shallow, ?_⟩
  obtain ⟨sighting, mem, deep⟩ := List.mem_map.mp tooDeep
  obtain ⟨visit, report, rfl, _, error⟩ :=
    (bound_exact (levels.bounded 1) innermost default outset).2.2.1 sighting mem
      (deep ▸ Nat.one_lt_two)
  exact ⟨visit, report, mem, error⟩

end Repertoire

/-! ## The handlers there are -/

/-- A handler that asks its dispatcher for nothing but its level. -/
def Handler.Plain (handler : Handler σ) : Prop :=
  ∀ d d', d.level = d'.level → handler.run d = handler.run d'

theorem Handler.Plain.exists_part {handler : Handler σ} (plain : handler.Plain) :
    ∃ part : Part σ, part.handler = handler := by
  refine ⟨.leaf handler.type handler.description fun level =>
    handler.run ⟨level, Rehearsal.noDispatch.dispatch⟩, ?_⟩
  obtain ⟨type, description, run⟩ := handler
  exact congrArg (Handler.mk type description) (funext fun d => plain _ d rfl)

theorem Builtin.exists_part (settings : Settings) (collaborators : Collaborators σ)
    (builtin : Builtin) :
    ∃ part : Part σ, part.handler = builtin.handler settings collaborators := by
  cases builtin with
  | condition => exact ⟨.branch, rfl⟩
  | parallel => exact ⟨.parallel settings.actions.parallelTimeout, rfl⟩
  | _ => exact Handler.Plain.exists_part fun _ _ _ => rfl

theorem rehearsal_exists_part {handler : Handler σ} (mem : handler ∈ Rehearsal.handlers) :
    ∃ part : Part σ, part.handler = handler := by
  refine Handler.Plain.exists_part fun d d' same => ?_
  simp only [Rehearsal.handlers, List.mem_cons, List.not_mem_nil, or_false] at mem
  rcases mem with rfl | rfl | rfl | rfl | rfl | rfl | rfl | rfl
  case inr.inr.inr.inr.inr.inr.inl =>
    simp only [Rehearsal.depth, same]
  all_goals rfl

/-- Handlers that are parts are those of a repertoire. -/
theorem Registry.exists_repertoire {r : Registry σ}
    (parts : ∀ type handler, r.get? type = some handler → ∃ part : Part σ, part.handler = handler) :
    ∃ c : Repertoire σ, c.registry = r := by
  classical
  let chosen (handler : Handler σ) : Part σ :=
    if there : ∃ part : Part σ, part.handler = handler then there.choose else .branch
  refine ⟨⟨r.handlers.map chosen, r.maxDepth⟩, ?_⟩
  refine congrArg (Registry.mk · r.maxDepth) (Dict.ext_get? fun type => ?_)
  rw [Dict.get?_map, Dict.get?_map]
  cases found : r.handlers.get? type with
  | none => rfl
  | some handler =>
      have there := parts type handler found
      refine congrArg some ?_
      exact (congrArg Part.handler (dif_pos there)).trans there.choose_spec

/-- What is said of repertoires holds of the built-in actions and of those for rehearsals. -/
theorem Registry.Stocked.exists_repertoire {r : Registry σ} (stocked : r.Stocked) :
    ∃ c : Repertoire σ, c.registry = r := by
  refine Registry.exists_repertoire fun type handler found => ?_
  obtain ⟨_, ⟨settings, collaborators, builtin, rfl⟩ | mem⟩ := stocked type handler found
  · exact builtin.exists_part settings collaborators
  · exact rehearsal_exists_part mem

end ActionGraph.Action
