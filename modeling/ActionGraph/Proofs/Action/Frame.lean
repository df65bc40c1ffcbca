import ActionGraph.Proofs.Action.Keeping

/-!
# What a dispatch changes of the context

Built-in actions and those for rehearsals change nothing but the bag, however
they are nested and whether they succeed, fail or break down.  A wait and a
transition of the conversation leave even the bag as it is.
-/

namespace ActionGraph.Action

variable {σ : Type}

/-- Contexts in which nothing but the bag may differ from the one that is given. -/
def besideBag (given : Context) : Keeping where
  value _ := True
  rest context := context = { given with bag := context.bag }
  rebagged context bag same := by rw [same]
  params _ _ _ := trivial
  branching _ _ _ := trivial
  joining _ _ _ _ := trivial

section BesideBag

variable {given context : Context}

theorem ofContext_besideBag (given : Context) : (besideBag given).OfContext given :=
  ⟨rfl, fun _ _ _ => trivial⟩

theorem ofHandled_besideBag (holds : (besideBag given).OfContext context)
    (result : Except Halt Outcome) (bag : Bag) :
    (besideBag given).OfHandled (result, { context with bag }) :=
  ⟨holds.rebag fun _ _ _ => trivial, fun _ _ => trivial⟩

theorem ofHandled_of_unchanged (holds : (besideBag given).OfContext context) {handled : Handled}
    (same : handled.2 = context) : (besideBag given).OfHandled handled :=
  ⟨same ▸ holds, fun _ _ => trivial⟩

end BesideBag

/-! ## Handlers that change nothing -/

section Unchanged

variable (d : Dispatcher σ) (params : Json) (context : Context)

theorem wait_ends (ceiling : Nat) :
    (Wait.run ceiling d params context).Ends fun handled => handled.2 = context := by
  unfold Wait.run
  cases Wait.Plan.ofParams params with
  | error failure => exact rfl
  | ok plan => exact Process.ends_bind_of_forall _ fun _ => rfl

theorem transition_ends :
    (Transition.run d params context).Ends fun handled => handled.2 = context :=
  Process.ends_bind_of_forall _ fun _ => rfl

end Unchanged

/-! ## Handlers that change the bag -/

section BagOnly

variable {given context : Context} (holds : (besideBag given).OfContext context)
include holds

theorem update_besideBag (params : Json) :
    (besideBag given).OfHandled (Update.handle params context) := by
  unfold Update.handle
  cases Update.Change.ofParams params with
  | error failure => exact Keeping.ofHandled_failed holds failure
  | ok change => exact ofHandled_besideBag holds _ _

theorem route_besideBag (collaborators : Collaborators σ) (settings : RoutingSettings)
    (d : Dispatcher σ) (params : Json) :
    (Route.run collaborators settings d params context).Ends (besideBag given).OfHandled := by
  unfold Route.run
  cases Route.prepare collaborators settings params context with
  | error failure => exact Keeping.ofHandled_failed holds failure
  | ok ready =>
      refine Process.ends_bind_of_forall _ fun answer => ?_
      cases answer with
      | error failure => exact Keeping.ofHandled_failed holds failure
      | ok vectors =>
          unfold Route.deliver
          cases ready.plan.outputKey with
          | none => exact ofHandled_besideBag holds _ context.bag
          | some key => exact ofHandled_besideBag holds _ _

theorem generate_besideBag (collaborators : Collaborators σ) (defaults : Option ModelSettings)
    (d : Dispatcher σ) (params : Json) :
    (Generate.run collaborators defaults d params context).Ends (besideBag given).OfHandled := by
  unfold Generate.run
  cases Generate.prepare collaborators defaults params context with
  | error failure => exact Keeping.ofHandled_failed holds failure
  | ok ready =>
      refine Process.ends_bind_of_forall _ fun answer => ?_
      cases answer with
      | error failure => exact Keeping.ofHandled_failed holds failure
      | ok reply =>
          unfold Generate.deliver
          cases ready.outputKey with
          | none => exact ofHandled_besideBag holds _ context.bag
          | some key => exact ofHandled_besideBag holds _ _

theorem applySet_besideBag (params : Json) (result : Except Halt Outcome) :
    (besideBag given).OfHandled (result, Rehearsal.applySet params context) := by
  unfold Rehearsal.applySet
  split
  · exact ofHandled_besideBag holds result _
  · exact ofHandled_besideBag holds result context.bag

end BagOnly

theorem Builtin.byHandler_besideBag (given : Context) (settings : Settings)
    (collaborators : Collaborators σ) (builtin : Builtin) :
    (besideBag given).ByHandler (builtin.handler settings collaborators) := by
  cases builtin with
  | condition => exact Keeping.byHandler_branch
  | parallel => exact Keeping.byHandler_parallel _
  | wait =>
      exact fun d params context _ _ holds =>
        (wait_ends d params context _).mono fun _ => ofHandled_of_unchanged holds
  | stateTransition =>
      exact fun d params context _ _ holds =>
        (transition_ends d params context).mono fun _ => ofHandled_of_unchanged holds
  | contextUpdate => exact fun _ params _ _ _ holds => update_besideBag holds params
  | semanticRoute => exact fun d params _ _ _ holds => route_besideBag holds _ _ d params
  | llmGenerate => exact fun d params _ _ _ holds => generate_besideBag holds _ _ d params

theorem rehearsal_byHandler_besideBag (given : Context) {handler : Handler σ}
    (mem : handler ∈ Rehearsal.handlers) : (besideBag given).ByHandler handler := by
  intro d params context _ _ holds
  have unchanged (result : Except Halt Outcome) : (besideBag given).OfHandled (result, context) :=
    ofHandled_besideBag holds result context.bag
  simp only [Rehearsal.handlers, List.mem_cons, List.not_mem_nil, or_false] at mem
  rcases mem with rfl | rfl | rfl | rfl | rfl | rfl | rfl | rfl
  case inl => exact applySet_besideBag holds params _
  case inr.inl => exact applySet_besideBag holds params _
  case inr.inr.inr.inr.inr.inr.inr =>
    exact Process.ends_bind_of_forall _ fun _ => applySet_besideBag holds params _
  all_goals exact unchanged _

/-! ## Dispatches -/

/-- Nothing but the bag differs, and not even that after a wait or a transition. -/
def Frames (spec : Spec) (context : Context) (dispatched : Dispatched) : Prop :=
  dispatched.2 = { context with bag := dispatched.2.bag } ∧
    (spec.type = "wait" ∨ spec.type = "state_transition" → dispatched.2.bag = context.bag)

namespace Registry

theorem Stocked.byHandler_besideBag {r : Registry σ} (stocked : r.Stocked) (given : Context)
    (type : String) (handler : Handler σ) (found : r.get? type = some handler) :
    (besideBag given).ByHandler handler := by
  obtain ⟨_, ⟨settings, collaborators, builtin, rfl⟩ | mem⟩ := stocked type handler found
  · exact builtin.byHandler_besideBag given settings collaborators
  · exact rehearsal_byHandler_besideBag given mem

/-- The handlers of waits and of transitions are the built-in ones. -/
theorem Stocked.handler_unchanged {r : Registry σ} (stocked : r.Stocked) {spec : Spec}
    (plain : spec.type = "wait" ∨ spec.type = "state_transition") {handler : Handler σ}
    (found : r.get? spec.type = some handler) (d : Dispatcher σ) (params : Json)
    (context : Context) :
    (handler.run d params context).Ends fun handled => handled.2 = context := by
  obtain ⟨type, ⟨settings, collaborators, builtin, rfl⟩ | mem⟩ := stocked spec.type handler found
  · rw [Builtin.handler_type] at type
    rw [← type] at plain
    cases builtin with
    | wait => exact wait_ends d params context _
    | stateTransition => exact transition_ends d params context
    | _ => exact absurd plain (by decide)
  · have others : ∀ type ∈ ["echo", "fail", "auth_fail", "panic", "panic_text", "panic_other",
        "depth", "sleep"], ¬ (type = "wait" ∨ type = "state_transition") := by
      decide
    exact absurd plain (type ▸ others handler.type (type_mem_of_rehearsal mem))

theorem Stocked.dispatchWithin_unchanged {r : Registry σ} (stocked : r.Stocked) (left : Nat)
    {spec : Spec} (plain : spec.type = "wait" ∨ spec.type = "state_transition")
    (context : Context) :
    (r.dispatchWithin left spec context).Ends fun dispatched => dispatched.2 = context := by
  cases left with
  | zero => exact rfl
  | succ left =>
      unfold dispatchWithin
      cases found : r.get? spec.type with
      | none => exact rfl
      | some handler =>
          refine Process.ends_bind_of_forall _ fun start => ?_
          refine (stocked.handler_unchanged plain found _ _ context).bind fun handled same => ?_
          exact Process.ends_bind_of_forall _ fun stop => same

theorem Stocked.dispatchWithin_frames {r : Registry σ} (stocked : r.Stocked) (left : Nat)
    (spec : Spec) (context : Context) :
    (r.dispatchWithin left spec context).Ends (Frames spec context) := by
  have beside : (r.dispatchWithin left spec context).Ends (besideBag context).OfDispatched :=
    Keeping.dispatchWithin_ends (stocked.byHandler_besideBag context) left trivial
      (ofContext_besideBag context)
  refine (beside.mono fun dispatched kept => kept.1.1).and ?_
  by_cases plain : spec.type = "wait" ∨ spec.type = "state_transition"
  · exact (stocked.dispatchWithin_unchanged left plain context).mono fun _ same _ =>
      congrArg Context.bag same
  · exact (Process.ends_true _).mono fun _ _ held => absurd held plain

/--
Only the bag of the context is changed by a dispatch, whatever the world does
at each of its steps and whatever it ends with; at every depth, so that a wait
or a transition leaves its context as it is wherever it stands.
-/
theorem only_bag_changes {r : Registry σ} (stocked : r.Stocked) (spec : Spec) (context : Context) :
    (∀ left, (r.dispatchWithin left spec context).Ends (Frames spec context)) ∧
      ∀ world, Frames spec context ((r.dispatch spec context).complete world).2 :=
  ⟨fun left => stocked.dispatchWithin_frames left spec context,
    fun world => (stocked.dispatchWithin_frames _ spec context).complete world⟩

def setAndFail : Spec :=
  ⟨"condition", none, .ofFields
    [("if", .emptyObject), ("then", .arr
      [.ofFields [("type", .str "wait"), ("params", .ofFields [("duration", .ofNat 5)])],
       .ofFields [("type", .str "fail"), ("params", .ofFields
         [("set", .ofFields [("seen", .bool true)])])]])]⟩

theorem only_bag_changes_of_setAndFail :
    rehearsed.Stocked ∧
      ((rehearsed.dispatch setAndFail default).complete ⟨0, 0, .empty 0, ()⟩).2.2.bag.entries =
        [("seen", .bool true)] ∧
      (∀ left, (rehearsed.dispatchWithin left setAndFail default).Ends
        (Frames setAndFail default)) ∧
        ∀ world, Frames setAndFail default
          ((rehearsed.dispatch setAndFail default).complete world).2 :=
  ⟨stocked_rehearsed, by decide +kernel, only_bag_changes stocked_rehearsed _ _⟩

end Registry

end ActionGraph.Action
