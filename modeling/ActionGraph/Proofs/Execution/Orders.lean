import Mathlib.Data.List.Induction
import ActionGraph.Proofs.Execution.Tracks

/-!
# All orders of acts

`System.follow` is the induction over all orders of acts: what one move of a
track preserves holds after any acts.  `System.follow_on` is the one from an
execution that is there already.  `System.Seen` says that a track was met with
some property on the way.
-/

namespace ActionGraph

namespace System

variable {σ : Type} {registry : Action.Registry σ}

theorem Sound.performAll {s : System σ} (sound : s.Sound) (registry : Action.Registry σ)
    (acts : List Act) : (s.performAll registry acts).Sound := by
  induction acts generalizing s with
  | nil => exact sound
  | cons act rest ih => exact ih (sound.perform registry act)

theorem sound_initial (settings : Settings) (world : Action.World σ) :
    (initial settings world).Sound := by
  have notHeld : ∀ id, (initial settings world).held? id = none := fun _ => rfl
  have notRun : ∀ id, (initial settings world).run? id = none := fun _ => rfl
  refine ⟨fun g mem => absurd mem List.not_mem_nil, ?_, ?_⟩
  · intro id e held
    rw [notHeld] at held
    cases held
  · intro id run running
    rw [notRun] at running
    cases running

/-- An execution is there for good. -/
theorem track?_performAll {s : System σ} (sound : s.Sound) {id : String} {t : Track σ}
    (tracked : s.track? id = some t) (acts : List Act) :
    ∃ t', (s.performAll registry acts).track? id = some t' := by
  induction acts generalizing s t with
  | nil => exact ⟨t, tracked⟩
  | cons act rest ih =>
      obtain ⟨g, found⟩ := sound.graphs id t.execution (track?_eq_some_iff.mp tracked).1
      obtain ⟨t', after, _⟩ : ∃ t', (s.perform registry act).track? id = some t' ∧
          t.Moves registry g act t' := moves_of_perform sound tracked found
      exact ih (sound.perform registry act) after

/-- At some act of those that follow, the track of the execution is as the property says. -/
def Seen (registry : Action.Registry σ) (id : String) (P : Track σ → Act → Prop) :
    System σ → List Act → Prop
  | _, [] => False
  | s, act :: rest =>
      (∃ t, s.track? id = some t ∧ P t act) ∨ Seen registry id P (s.perform registry act) rest

section Seen

variable {id : String} {P : Track σ → Act → Prop} {s : System σ}

instance decidableTracked {α : Type} (p : α → Prop) [DecidablePred p] :
    ∀ found : Option α, Decidable (∃ a, found = some a ∧ p a)
  | none => .isFalse fun ⟨_, there, _⟩ => by cases there
  | some a => decidable_of_iff (p a) (by simp only [Option.some.injEq, exists_eq_left'])

/-- Whether it is seen can be found out by performing the acts. -/
instance decidableSeen [∀ t act, Decidable (P t act)] :
    ∀ s acts, Decidable (Seen registry id P s acts)
  | _, [] => .isFalse not_false
  | s, act :: rest =>
      have _ := decidableSeen (s.perform registry act) rest
      inferInstanceAs (Decidable ((∃ t, s.track? id = some t ∧ P t act) ∨ _))

theorem seen_append (first rest : List Act) :
    Seen registry id P s (first ++ rest) ↔
      Seen registry id P s first ∨ Seen registry id P (s.performAll registry first) rest := by
  induction first generalizing s with
  | nil => exact ⟨.inr, fun seen => seen.resolve_left not_false⟩
  | cons act later ih =>
      rw [List.cons_append, Seen, Seen, ih, or_assoc]
      rfl

theorem seen_snoc (acts : List Act) (act : Act) :
    Seen registry id P s (acts ++ [act]) ↔
      Seen registry id P s acts ∨
        ∃ t, (s.performAll registry acts).track? id = some t ∧ P t act := by
  rw [seen_append]
  exact or_congr_right (or_iff_left not_false)

theorem seen_snoc_of_tracked {acts : List Act} {t : Track σ}
    (tracked : (s.performAll registry acts).track? id = some t) (act : Act) :
    Seen registry id P s (acts ++ [act]) ↔ Seen registry id P s acts ∨ P t act := by
  rw [seen_snoc, tracked]
  simp only [Option.some.injEq, exists_eq_left']

/-- Nothing was seen of an execution that is not there. -/
theorem not_seen_of_absent (sound : s.Sound) {acts : List Act}
    (absent : (s.performAll registry acts).held? id = none) : ¬ Seen registry id P s acts := by
  induction acts generalizing s with
  | nil => exact not_false
  | cons act rest ih =>
      rintro (⟨t, tracked, _⟩ | later)
      · obtain ⟨t', after⟩ := track?_performAll sound tracked (act :: rest)
        rw [track?, absent] at after
        cases after
      · exact ih (sound.perform registry act) absent later

theorem not_seen_snoc_of_absent (sound : s.Sound) {acts : List Act} {act : Act}
    (absent : (s.performAll registry acts).held? id = none) :
    ¬ Seen registry id P s (acts ++ [act]) := by
  rw [seen_snoc]
  rintro (seen | ⟨t, there, _⟩)
  · exact not_seen_of_absent sound absent seen
  · rw [track?, absent] at there
    cases there

end Seen

/--
What holds of an execution when it is started, and is preserved by whatever an
act can do to the track of it, holds after any acts in any order.  Of each act
it is known which track it led to.
-/
theorem follow_through {settings : Settings} {world : Action.World σ} {id : String}
    {P : List Act → Graph.Loaded → Track σ → Prop}
    (fresh : ∀ acts act g capacity context now,
      ((initial settings world).performAll registry acts).held? id = none → g.Accepted →
      P (acts ++ [act]) g ⟨.start id g.id g.nodes capacity context now, none⟩)
    (move : ∀ acts act g t t',
      ((initial settings world).performAll registry acts).track? id = some t →
      ((initial settings world).performAll registry (acts ++ [act])).track? id = some t' →
      ((initial settings world).performAll registry acts).graph? t.execution.graph = some g →
      g.Accepted → P acts g t → t.Moves registry g act t' → P (acts ++ [act]) g t')
    {acts : List Act} {t : Track σ}
    (tracked : ((initial settings world).performAll registry acts).track? id = some t) :
    ∃ g, ((initial settings world).performAll registry acts).graph? t.execution.graph = some g ∧
      g.Accepted ∧ P acts g t := by
  induction acts using List.reverseRecOn generalizing t with
  | nil => cases tracked
  | append_singleton acts act ih =>
      have sound := (sound_initial settings world).performAll registry acts
      have reached := tracked
      rw [performAll_snoc] at tracked ⊢
      cases before : ((initial settings world).performAll registry acts).track? id with
      | none =>
          have absent := Option.map_eq_none_iff.mp before
          obtain ⟨e, phase⟩ := t
          obtain ⟨held, rfl : phase = _⟩ := track?_eq_some_iff.mp tracked
          obtain ⟨g, context, _, found, capacity, now, rfl⟩ := fresh_of_perform sound absent held
          have accepted := graph?_accepted sound found
          rw [run?_perform_of_absent sound absent]
          exact ⟨g, graph?_perform found, accepted, fresh acts act g _ _ _ absent accepted⟩
      | some t₀ =>
          obtain ⟨g, found, accepted, holds⟩ := ih before
          obtain ⟨t', after, moves⟩ := moves_of_perform sound before found
          rw [tracked] at after
          cases after
          refine ⟨g, ?_, accepted, move acts act g t₀ t before reached found accepted holds moves⟩
          rw [moves.frame.2]
          exact graph?_perform found

/-- It is enough to know of each act what it can do to the track. -/
theorem follow {settings : Settings} {world : Action.World σ} {id : String}
    {P : List Act → Graph.Loaded → Track σ → Prop}
    (fresh : ∀ acts act g capacity context now,
      ((initial settings world).performAll registry acts).held? id = none → g.Accepted →
      P (acts ++ [act]) g ⟨.start id g.id g.nodes capacity context now, none⟩)
    (move : ∀ acts act g t t',
      ((initial settings world).performAll registry acts).track? id = some t →
      ((initial settings world).performAll registry acts).graph? t.execution.graph = some g →
      g.Accepted → P acts g t → t.Moves registry g act t' → P (acts ++ [act]) g t')
    {acts : List Act} {t : Track σ}
    (tracked : ((initial settings world).performAll registry acts).track? id = some t) :
    ∃ g, ((initial settings world).performAll registry acts).graph? t.execution.graph = some g ∧
      g.Accepted ∧ P acts g t :=
  follow_through fresh (fun acts act g t t' there _ => move acts act g t t' there) tracked

/--
What holds of an execution that is there, and is preserved by whatever an act
can do to the track of it, holds after any further acts in any order.
-/
theorem follow_on {settings : Settings} {world : Action.World σ} {id : String}
    {g : Graph.Loaded} {P : Track σ → Prop}
    (move : ∀ acts act t t',
      ((initial settings world).performAll registry acts).track? id = some t →
      ((initial settings world).performAll registry acts).graph? t.execution.graph = some g →
      P t → t.Moves registry g act t' → P t')
    {acts : List Act} {t : Track σ}
    (tracked : ((initial settings world).performAll registry acts).track? id = some t)
    (found : ((initial settings world).performAll registry acts).graph? t.execution.graph = some g)
    (holds : P t) (more : List Act) :
    ∃ t', ((initial settings world).performAll registry (acts ++ more)).track? id = some t' ∧
      P t' := by
  induction more generalizing acts t with
  | nil =>
      rw [List.append_nil]
      exact ⟨t, tracked, holds⟩
  | cons act rest ih =>
      have sound := (sound_initial settings world).performAll registry acts
      obtain ⟨t', after, moves⟩ : ∃ t',
          (((initial settings world).performAll registry acts).perform registry act).track? id =
            some t' ∧ t.Moves registry g act t' := moves_of_perform sound tracked found
      rw [← performAll_snoc] at after
      have foundAfter : ((initial settings world).performAll registry (acts ++ [act])).graph?
          t'.execution.graph = some g := by
        rw [moves.frame.2, performAll_snoc]
        exact graph?_perform found
      rw [List.append_cons]
      exact ih after foundAfter (move acts act t t' tracked found holds moves)

end System

end ActionGraph
