import ActionGraph.Action.Builtin
import ActionGraph.Proofs.Process.Endings
import ActionGraph.Proofs.Wire.Values

/-!
# Actions that change the context or fail

The built-in actions without further actions in them are programs that work on
the context in place: a program that fails leaves the context as it then is.
Yet each of them does all that may fail before it writes for the first time,
and therefore leaves the context as it was if it fails.
-/

namespace ActionGraph

/-- The fields of two bags merge as the bags do. -/
theorem Bag.entries_merge (bag patch : Bag) :
    (bag.merge patch).entries = Json.mergeFields bag.entries patch.entries := by
  unfold merge
  generalize patch.entries = entries
  induction entries generalizing bag with
  | nil => rw [Json.mergeFields]; rfl
  | cons entry rest ih =>
      obtain ⟨key, value⟩ := entry
      rw [Json.mergeFields]
      exact ih _

theorem Json.merge_ofDict (bag patch : Bag) :
    (Json.ofDict bag).merge (.ofDict patch) = .ofDict (bag.merge patch) := by
  rw [ofDict, ofDict, merge, ofDict, Bag.entries_merge]

namespace Action

variable {σ α β : Type}

/-- A program that works on a context in place and may fail. -/
abbrev InPlace (σ : Type) :=
  ExceptT Failure (StateT Context (Process (World σ)))

namespace InPlace

def settle (result : Except Failure α) : InPlace σ α :=
  ExceptT.mk (pure result)

def ask (task : Task σ (Except Failure α)) : InPlace σ α :=
  ExceptT.mk (StateT.lift task)

def keep (key : Option String) (value : Json) : InPlace σ PUnit :=
  match key with
  | some key => modify fun context => context.set key value
  | none => pure ⟨⟩

def start (program : InPlace σ α) (context : Context) : Task σ (Except Failure α × Context) :=
  (ExceptT.run program).run context

/-- What a program comes to as the handler of an action. -/
def handled (program : InPlace σ Outcome) (context : Context) : Task σ Handled :=
  (program.start context).bind fun ended => .done (ended.1.mapError Halt.failed, ended.2)

section Steps

variable (context : Context)

@[simp] theorem start_settle (result : Except Failure α) :
    start (settle result : InPlace σ α) context = .done (result, context) :=
  rfl

@[simp] theorem start_ask (task : Task σ (Except Failure α)) :
    start (ask task) context = task.bind fun answer => .done (answer, context) :=
  rfl

@[simp] theorem start_get :
    start (get : InPlace σ Context) context = .done (.ok context, context) :=
  rfl

@[simp] theorem start_modify (change : Context → Context) :
    start (modify change : InPlace σ PUnit) context = .done (.ok ⟨⟩, change context) :=
  rfl

@[simp] theorem start_bind (program : InPlace σ α) (f : α → InPlace σ β) :
    start (program >>= f) context = (program.start context).bind fun ended =>
      match ended.1 with
      | .error failure => .done (.error failure, ended.2)
      | .ok a => (f a).start ended.2 := by
  refine congrArg (Process.bind (program.start context)) (funext fun ⟨result, after⟩ => ?_)
  cases result <;> rfl

/-! A program comes to its steps, one after another. -/

theorem handled_pure (outcome : Outcome) :
    handled (pure outcome : InPlace σ Outcome) context = .done (.ok outcome, context) :=
  rfl

theorem handled_bind (program : InPlace σ α) (f : α → InPlace σ Outcome) :
    handled (program >>= f) context = (program.start context).bind fun ended =>
      match ended.1 with
      | .error failure => .done (.failed ended.2 failure)
      | .ok a => (f a).handled ended.2 := by
  rw [handled, start_bind, Process.bind_assoc]
  refine congrArg (Process.bind (program.start context)) (funext fun ⟨result, after⟩ => ?_)
  cases result <;> rfl

theorem handled_settle_bind (result : Except Failure α) (f : α → InPlace σ Outcome) :
    handled (settle result >>= f) context =
      match result with
      | .error failure => .done (.failed context failure)
      | .ok a => (f a).handled context :=
  handled_bind context (settle result) f

theorem handled_ask_bind (task : Task σ (Except Failure α)) (f : α → InPlace σ Outcome) :
    handled (ask task >>= f) context = task.bind fun answer =>
      match answer with
      | .error failure => .done (.failed context failure)
      | .ok a => (f a).handled context := by
  rw [handled_bind, start_ask, Process.bind_assoc]
  rfl

theorem handled_get_bind (f : Context → InPlace σ Outcome) :
    handled (get >>= f) context = (f context).handled context :=
  handled_bind context get f

end Steps

/-! ## Reading, writing and failing -/

def Reads (program : InPlace σ α) : Prop :=
  ∀ context, (program.start context).Ends fun ended => ended.2 = context

def Succeeds (program : InPlace σ α) : Prop :=
  ∀ context, (program.start context).Ends fun ended => ∀ failure, ended.1 ≠ .error failure

/-- If the program fails it leaves the context as it was. -/
def Atomic (program : InPlace σ α) : Prop :=
  ∀ context, (program.start context).Ends fun ended =>
    ∀ failure, ended.1 = .error failure → ended.2 = context

section Rules

variable {program : InPlace σ α} {f : α → InPlace σ β}

theorem reads_settle (result : Except Failure α) : Reads (settle result : InPlace σ α) :=
  fun _ => rfl

theorem reads_ask (task : Task σ (Except Failure α)) : Reads (ask task) := by
  intro context
  rw [start_ask]
  exact Process.ends_bind_of_forall _ fun _ => rfl

theorem reads_get : Reads (get : InPlace σ Context) :=
  fun _ => rfl

theorem succeeds_pure (a : α) : Succeeds (pure a : InPlace σ α) :=
  fun _ => nofun

theorem succeeds_get : Succeeds (get : InPlace σ Context) :=
  fun _ => nofun

theorem succeeds_modify (change : Context → Context) :
    Succeeds (modify change : InPlace σ PUnit) :=
  fun _ => nofun

theorem Succeeds.bind (succeeds : Succeeds program) (next : ∀ a, Succeeds (f a)) :
    Succeeds (program >>= f) := by
  intro context
  rw [start_bind]
  refine (succeeds context).bind ?_
  rintro ⟨result, after⟩ never
  cases result with
  | error failure => exact absurd rfl (never failure)
  | ok a => exact next a after

theorem succeeds_keep (key : Option String) (value : Json) :
    Succeeds (keep key value : InPlace σ PUnit) := by
  cases key with
  | none => exact succeeds_pure _
  | some key => exact succeeds_modify _

theorem succeeds_forM (keys : List β) {step : β → InPlace σ PUnit}
    (each : ∀ key, Succeeds (step key)) : Succeeds (keys.forM step) := by
  induction keys with
  | nil => exact succeeds_pure _
  | cons key rest ih => exact (each key).bind fun _ => ih

/-- What only reads may come before what is atomic. -/
theorem Reads.atomic_bind (reads : Reads program) (next : ∀ a, Atomic (f a)) :
    Atomic (program >>= f) := by
  intro context
  rw [start_bind]
  refine (reads context).bind ?_
  rintro ⟨result, _⟩ rfl
  cases result with
  | error failure => exact fun _ _ => rfl
  | ok a => exact next a _

/-- What does not fail may come after what is atomic. -/
theorem Atomic.bind_succeeds (atomic : Atomic program) (next : ∀ a, Succeeds (f a)) :
    Atomic (program >>= f) := by
  intro context
  rw [start_bind]
  refine (atomic context).bind ?_
  rintro ⟨result, after⟩ here
  cases result with
  | error failure =>
      rintro _ ⟨⟩
      exact here failure rfl
  | ok a => exact (next a after).mono fun _ never failure fails => absurd fails (never failure)

theorem Succeeds.atomic (succeeds : Succeeds program) : Atomic program :=
  fun context => (succeeds context).mono fun _ never failure fails => absurd fails (never failure)

/-- What an atomic program comes to as a handler. -/
theorem Atomic.handled {program : InPlace σ Outcome} (atomic : Atomic program)
    (context : Context) : (program.handled context).Ends fun handled =>
      ∀ halt, handled.1 = .error halt → handled.2 = context := by
  refine (atomic context).bind ?_
  rintro ⟨result, after⟩ same
  cases result with
  | error failure => exact fun _ _ => same failure rfl
  | ok outcome => exact nofun

end Rules

end InPlace

open InPlace

/-! ## Programs of the actions -/

namespace Wait

def inPlace (ceiling : Nat) (params : Json) : InPlace σ Outcome := do
  let plan ← settle (Plan.ofParams params)
  ask ((Process.sleep (min plan.requested ceiling)).map .ok)
  return outcome ceiling plan

theorem handled_inPlace (ceiling : Nat) (d : Dispatcher σ) (params : Json) (context : Context) :
    (inPlace ceiling params).handled context = run ceiling d params context := by
  unfold inPlace run
  rw [handled_settle_bind]
  cases Plan.ofParams params with
  | error failure => rfl
  | ok plan =>
      dsimp only
      rw [handled_ask_bind, Process.map, Process.bind_assoc]
      rfl

theorem atomic_inPlace (ceiling : Nat) (params : Json) :
    Atomic (inPlace ceiling params : InPlace σ Outcome) :=
  (reads_settle _).atomic_bind fun _ => (reads_ask _).atomic_bind fun _ =>
    (succeeds_pure _).atomic

end Wait

namespace Transition

def inPlace (params : Json) : InPlace σ Outcome := do
  let time ← ask (Process.now.map .ok)
  let current := (← get).state
  let target ← settle (target params current)
  return outcome current target time

theorem handled_inPlace (d : Dispatcher σ) (params : Json) (context : Context) :
    (inPlace params).handled context = run d params context := by
  unfold inPlace run
  rw [handled_ask_bind, Process.map, Process.bind_assoc]
  refine congrArg (Process.bind Process.now) (funext fun time => ?_)
  dsimp only [Process.bind]
  rw [handled_get_bind, handled_settle_bind]
  cases target params context.state <;> rfl

theorem atomic_inPlace (params : Json) : Atomic (inPlace params : InPlace σ Outcome) :=
  (reads_ask _).atomic_bind fun _ => reads_get.atomic_bind fun _ =>
    (reads_settle _).atomic_bind fun _ => (succeeds_pure _).atomic

end Transition

namespace Update

/-- Do the operation to the bag; to merge, the bag is taken out and its fields put back. -/
def write (operation : Operation) (params : Json) (updates : Option Bag) (key : Option String) :
    InPlace σ PUnit := do
  match operation with
  | .set =>
      let entries ← settle (given params updates key)
      modify fun context => { context with bag := entries }
  | .merge =>
      let entries ← settle (given params updates key)
      let taken := (← get).bag
      modify fun context => { context with bag := .empty }
      match (Json.ofDict taken).merge (.ofDict entries) with
      | .obj fields => modify fun context => { context with bag := .ofList fields }
      | _ => return ⟨⟩
  | .delete =>
      let keys ← settle (keys params updates key)
      keys.forM fun key => modify fun context => context.remove key

def inPlace (params : Json) : InPlace σ Outcome := do
  let operation ← settle (Params.optional params "operation" Operation.decode)
  let updates ← settle (Params.optional params "updates" (Wire.Decode.dict Wire.Decode.json))
  let key ← settle (Params.optional params "key" Wire.Decode.string)
  let operation := operation.getD .merge
  let before := (← get).bag
  write operation params updates key
  let after := (← get).bag
  return outcome operation before after

theorem start_forM_remove (keys : List String) (context : Context) :
    start (keys.forM fun key => modify fun context => context.remove key : InPlace σ PUnit)
      context = .done (.ok ⟨⟩, { context with bag := keys.foldl Dict.erase context.bag }) := by
  induction keys generalizing context with
  | nil => rfl
  | cons key rest ih => exact ih (context.remove key)

def described (operation : Operation) (params : Json) (updates : Option Bag)
    (key : Option String) : Except Failure Change :=
  match operation with
  | .set => (given params updates key).map .replace
  | .merge => (given params updates key).map .patch
  | .delete => (keys params updates key).map .drop

theorem operation_of_described {operation : Operation} {params : Json} {updates : Option Bag}
    {key : Option String} {change : Change}
    (found : described operation params updates key = .ok change) :
    change.operation = operation := by
  cases operation with
  | set => obtain ⟨_, _, rfl⟩ := map_eq_ok_iff.mp found; rfl
  | merge => obtain ⟨_, _, rfl⟩ := map_eq_ok_iff.mp found; rfl
  | delete => obtain ⟨_, _, rfl⟩ := map_eq_ok_iff.mp found; rfl

theorem start_write (operation : Operation) (params : Json) (updates : Option Bag)
    (key : Option String) (context : Context) :
    start (write operation params updates key : InPlace σ PUnit) context =
      match described operation params updates key with
      | .error failure => .done (.error failure, context)
      | .ok change => .done (.ok ⟨⟩, { context with bag := change.apply context.bag }) := by
  cases operation with
  | set =>
      dsimp only [write, described]
      rw [start_bind, start_settle]
      cases given params updates key <;> rfl
  | merge =>
      dsimp only [write, described]
      rw [start_bind, start_settle]
      cases given params updates key with
      | error failure => rfl
      | ok entries =>
          have back := Dict.ofList_entries (context.bag.merge entries)
          simp only [Process.bind, start_bind, start_get, start_modify, Json.merge_ofDict]
          dsimp only [Json.ofDict]
          rw [start_modify, back]
          rfl
  | delete =>
      dsimp only [write, described]
      rw [start_bind, start_settle]
      cases keys params updates key with
      | error failure => rfl
      | ok keys => exact start_forM_remove keys context

theorem ofParams_eq_described {params : Json} {operation : Option Operation}
    {updates : Option Bag} {key : Option String}
    (readOperation : Params.optional params "operation" Operation.decode = .ok operation)
    (readUpdates :
      Params.optional params "updates" (Wire.Decode.dict Wire.Decode.json) = .ok updates)
    (readKey : Params.optional params "key" Wire.Decode.string = .ok key) :
    Change.ofParams params = described (operation.getD .merge) params updates key := by
  unfold Change.ofParams
  rw [readOperation, readUpdates, readKey]
  dsimp only [bind, Except.bind]
  cases operation.getD .merge with
  | set =>
      rw [described]
      cases given params updates key <;> rfl
  | merge =>
      rw [described]
      cases given params updates key <;> rfl
  | delete =>
      rw [described]
      cases keys params updates key <;> rfl

theorem handled_inPlace (d : Dispatcher σ) (params : Json) (context : Context) :
    (inPlace params).handled context = run d params context := by
  unfold inPlace run handle
  rw [handled_settle_bind]
  cases readOperation : Params.optional params "operation" Operation.decode with
  | error failure => rw [Change.ofParams, readOperation]; rfl
  | ok operation =>
      dsimp only
      rw [handled_settle_bind]
      cases readUpdates :
        Params.optional params "updates" (Wire.Decode.dict Wire.Decode.json) with
      | error failure => rw [Change.ofParams, readOperation, readUpdates]; rfl
      | ok updates =>
          dsimp only
          rw [handled_settle_bind]
          cases readKey : Params.optional params "key" Wire.Decode.string with
          | error failure => rw [Change.ofParams, readOperation, readUpdates, readKey]; rfl
          | ok key =>
              dsimp only
              rw [ofParams_eq_described readOperation readUpdates readKey, handled_get_bind,
                handled_bind, start_write]
              cases found : described (operation.getD .merge) params updates key with
              | error failure => rfl
              | ok change =>
                  dsimp only [Process.bind]
                  rw [handled_get_bind, handled_pure, operation_of_described found]

theorem atomic_write (operation : Operation) (params : Json) (updates : Option Bag)
    (key : Option String) : Atomic (write operation params updates key : InPlace σ PUnit) := by
  cases operation with
  | set => exact (reads_settle _).atomic_bind fun _ => (succeeds_modify _).atomic
  | merge =>
      refine (reads_settle _).atomic_bind fun entries => reads_get.atomic_bind fun context => ?_
      -- from where the bag is taken out nothing can fail any more
      refine ((succeeds_modify _).bind fun _ => ?_).atomic
      split
      · exact succeeds_modify _
      · exact succeeds_pure _
  | delete =>
      refine (reads_settle _).atomic_bind fun keys => ?_
      exact (succeeds_forM keys fun _ => succeeds_modify _).atomic

theorem atomic_inPlace (params : Json) : Atomic (inPlace params : InPlace σ Outcome) := by
  refine (reads_settle _).atomic_bind fun operation => (reads_settle _).atomic_bind fun updates =>
    (reads_settle _).atomic_bind fun key => reads_get.atomic_bind fun before => ?_
  exact (atomic_write _ params updates key).bind_succeeds fun _ =>
    succeeds_get.bind fun _ => succeeds_pure _

end Update

namespace Route

def inPlace (collaborators : Collaborators σ) (settings : RoutingSettings) (params : Json) :
    InPlace σ Outcome := do
  let ready ← settle (prepare collaborators settings params (← get))
  let texts := ready.query :: ready.routes.all.flatMap Routing.Route.texts
  let vectors ← ask (Routing.vectors ready.embedder settings.dimensions ready.plan.model texts)
  let output := choose ready.plan ready.routes vectors
  keep ready.plan.outputKey output
  return .ok output

theorem handled_inPlace (collaborators : Collaborators σ) (settings : RoutingSettings)
    (d : Dispatcher σ) (params : Json) (context : Context) :
    (inPlace collaborators settings params).handled context =
      run collaborators settings d params context := by
  unfold inPlace run
  rw [handled_get_bind, handled_settle_bind]
  cases prepare collaborators settings params context with
  | error failure => rfl
  | ok ready =>
      dsimp only
      rw [handled_ask_bind]
      refine congrArg (Process.bind _) (funext fun answer => ?_)
      cases answer with
      | error failure => rfl
      | ok vectors =>
          dsimp only [deliver]
          cases ready.plan.outputKey <;> rfl

theorem atomic_inPlace (collaborators : Collaborators σ) (settings : RoutingSettings)
    (params : Json) : Atomic (inPlace collaborators settings params) := by
  refine reads_get.atomic_bind fun _ => (reads_settle _).atomic_bind fun ready =>
    (reads_ask _).atomic_bind fun vectors => ?_
  exact ((succeeds_keep _ _).bind fun _ => succeeds_pure _).atomic

end Route

namespace Generate

def inPlace (collaborators : Collaborators σ) (defaults : Option ModelSettings) (params : Json) :
    InPlace σ Outcome := do
  let ready ← settle (prepare collaborators defaults params (← get))
  let reply ← ask (ready.model ready.request)
  keep ready.outputKey (.str reply.content)
  return .ok reply.toJson

theorem handled_inPlace (collaborators : Collaborators σ) (defaults : Option ModelSettings)
    (d : Dispatcher σ) (params : Json) (context : Context) :
    (inPlace collaborators defaults params).handled context =
      run collaborators defaults d params context := by
  unfold inPlace run
  rw [handled_get_bind, handled_settle_bind]
  cases prepare collaborators defaults params context with
  | error failure => rfl
  | ok ready =>
      dsimp only
      rw [handled_ask_bind]
      refine congrArg (Process.bind _) (funext fun answer => ?_)
      cases answer with
      | error failure => rfl
      | ok reply =>
          dsimp only [deliver]
          cases ready.outputKey <;> rfl

theorem atomic_inPlace (collaborators : Collaborators σ) (defaults : Option ModelSettings)
    (params : Json) : Atomic (inPlace collaborators defaults params) := by
  refine reads_get.atomic_bind fun _ => (reads_settle _).atomic_bind fun ready =>
    (reads_ask _).atomic_bind fun reply => ?_
  exact ((succeeds_keep _ _).bind fun _ => succeeds_pure _).atomic

end Generate

namespace Builtin

/-- The program of a built-in type, unless its actions dispatch further ones. -/
def inPlace? (settings : Settings) (collaborators : Collaborators σ) (params : Json) :
    Builtin → Option (InPlace σ Outcome)
  | .condition | .parallel => none
  | .wait => some (Wait.inPlace settings.actions.waitCeiling params)
  | .stateTransition => some (Transition.inPlace params)
  | .contextUpdate => some (Update.inPlace params)
  | .semanticRoute => some (Route.inPlace collaborators settings.routing params)
  | .llmGenerate => some (Generate.inPlace collaborators settings.model params)

theorem performs_of_inPlace? {settings : Settings} {collaborators : Collaborators σ}
    {params : Json} {builtin : Builtin} {program : InPlace σ Outcome}
    (found : builtin.inPlace? settings collaborators params = some program) :
    Atomic program ∧ ∀ d context,
      program.handled context = (builtin.handler settings collaborators).run d params context := by
  cases builtin with
  | condition => cases found
  | parallel => cases found
  | wait =>
      cases found
      exact ⟨Wait.atomic_inPlace _ params, fun d => Wait.handled_inPlace _ d params⟩
  | stateTransition =>
      cases found
      exact ⟨Transition.atomic_inPlace params, fun d => Transition.handled_inPlace d params⟩
  | contextUpdate =>
      cases found
      exact ⟨Update.atomic_inPlace params, fun d => Update.handled_inPlace d params⟩
  | semanticRoute =>
      cases found
      exact ⟨Route.atomic_inPlace _ _ params, fun d => Route.handled_inPlace _ _ d params⟩
  | llmGenerate =>
      cases found
      exact ⟨Generate.atomic_inPlace _ _ params, fun d => Generate.handled_inPlace _ _ d params⟩

/--
A built-in action without further actions in it is a program on the context,
and if it fails the context is as it was: whatever its parameters are, and
whatever the collaborators do.
-/
theorem unchanged_of_failure (settings : Settings) (collaborators : Collaborators σ)
    (builtin : Builtin) (d : Dispatcher σ) (params : Json) (context : Context) :
    match builtin.inPlace? settings collaborators params with
    | none => builtin = .condition ∨ builtin = .parallel
    | some program =>
        (builtin.handler settings collaborators).run d params context = program.handled context ∧
        ((builtin.handler settings collaborators).run d params context).Ends fun handled =>
          ∀ halt, handled.1 = .error halt → handled.2 = context := by
  cases found : builtin.inPlace? settings collaborators params with
  | none =>
      cases builtin with
      | condition => exact .inl rfl
      | parallel => exact .inr rfl
      | wait | stateTransition | contextUpdate | semanticRoute | llmGenerate => cases found
  | some program =>
      obtain ⟨atomic, same⟩ := performs_of_inPlace? found
      exact ⟨(same d context).symm, same d context ▸ atomic.handled context⟩

end Builtin

end Action

end ActionGraph
