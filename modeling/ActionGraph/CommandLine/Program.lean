import ActionGraph.Action.Builtin
import ActionGraph.CommandLine.Command
import ActionGraph.CommandLine.Complaint
import ActionGraph.Completion.Remote
import ActionGraph.Embedding.Remote
import ActionGraph.Execution.Call
import ActionGraph.Execution.Crew
import ActionGraph.Graph.Load
import ActionGraph.Json.Print
import ActionGraph.Settings.Load
import ActionGraph.Settings.Print
import ActionGraph.Template.Render

/-!
# The program

The program reads its arguments and then the files that they name: first the
settings, then the graph or the action, and the context last.  What is read
makes a job, which needs nothing else from outside but a clock and a way to
reach remote services.
-/

namespace ActionGraph.CommandLine

open ActionGraph.Action

/-- What a program finds around it. -/
structure Surroundings (m : Type → Type) where
  /-- Read the file at a path. -/
  read : String → m FileText
  /-- Look up a variable of the environment. -/
  lookup : String → m (Option String)

inductive Job where
  | validate (definition : Graph.Definition)
  | dispatch (spec : Spec) (context : Context)
  | run (definition : Graph.Definition) (context : Context) (injections : List Injection)
  | listActions
  | showSettings

/-! ## Reading what is to be done -/

section Reading

variable {m : Type → Type} [Monad m]

def orComplain {α ε : Type} (complain : ε → Complaint) (result : Except ε α) :
    ExceptT Complaint m α :=
  ExceptT.mk (pure (result.mapError complain))

def variablesOf (around : Surroundings m) (text : String) : m Variables := do
  let known ← (Variables.names text).mapM fun name => do return (name, ← around.lookup name)
  return fun name => (known.lookup name).join

/-- Load the settings at a path; if nothing is there, take the defaults. -/
def loadSettings (around : Surroundings m) (path : String) : ExceptT Complaint m Settings := do
  match ← around.read path with
  | .ok text =>
      let known ← (variablesOf around text : m Variables)
      orComplain .failed (Settings.ofFile known path (.ok text))
  | .error fault =>
      if fault.exists? then
        orComplain .failed (Settings.ofFile (fun _ => none) path (.error fault))
      else return Settings.defaults

def loadGraph (around : Surroundings m) (path : String) :
    ExceptT Complaint m Graph.Definition := do
  let file ← around.read path
  orComplain (.noGraph path) (Graph.Definition.ofFile path file)

def acceptDocument {α : Type} (kind : DocumentKind) (decoder : Wire.Decoder α) (text : String) :
    ExceptT Complaint m α :=
  orComplain (.unaccepted kind) ((Wire.Document.ofText text).decode decoder)

def loadDocument {α : Type} (around : Surroundings m) (kind : DocumentKind)
    (decoder : Wire.Decoder α) (path : String) : ExceptT Complaint m α := do
  let text ← orComplain (.unread kind path) (← around.read path)
  acceptDocument kind decoder text

/-- Whether an argument is the text of an action itself, not the path of its file. -/
def isInline (argument : String) : Bool :=
  (argument.toList.dropWhile Text.isBlank).head? == some '{'

def loadAction (around : Surroundings m) (argument : String) : ExceptT Complaint m Spec :=
  if isInline argument then acceptDocument .action Spec.decode argument
  else loadDocument around .action Spec.decode argument

/-- The organization of a context that is not given. -/
def localOrganization : String :=
  "local"

def loadContext (around : Surroundings m) (subject : Subject) : ExceptT Complaint m Context := do
  let context ← match subject.context with
    | some path => loadDocument around .context Context.decode path
    | none => pure (Context.ofOrganization localOrganization)
  match subject.message with
  | some content => return { context with message := some (Message.ofContent content) }
  | none => return context

def prepare (around : Surroundings m) : Command → ExceptT Complaint m Job
  | .validate graph => do return .validate (← loadGraph around graph)
  | .dispatch action subject => do
      let spec ← loadAction around action
      return .dispatch spec (← loadContext around subject)
  | .run graph subject injections => do
      let definition ← loadGraph around graph
      return .run definition (← loadContext around subject) injections
  | .actions => return .listActions
  | .config => return .showSettings

end Reading

/-! ## Doing it -/

structure Outcome (σ : Type) where
  output : String
  complaint : Option Complaint
  /-- How long it took. -/
  elapsed : Nat
  outside : σ

namespace Outcome

variable {σ : Type}

def code (outcome : Outcome σ) : Nat :=
  match outcome.complaint with
  | some complaint => complaint.code
  | none => 0

def complaintText (outcome : Outcome σ) : String :=
  match outcome.complaint with
  | some complaint => complaint.text
  | none => ""

def printed (output : String) (elapsed : Nat) (outside : σ) : Outcome σ :=
  ⟨output, none, elapsed, outside⟩

def refused (complaint : Complaint) (elapsed : Nat) (outside : σ) : Outcome σ :=
  ⟨"", some complaint, elapsed, outside⟩

end Outcome

section Doing

variable {σ : Type}

/-- The built-in actions, with the remote services that are set. -/
def registryOf (transport : Http.Transport σ) (settings : Settings) : Registry σ :=
  Registry.builtins settings
    ⟨settings.model.map fun s => Completion.Remote.model transport s.baseUrl s.apiKey,
      settings.embedding.map fun s => Embedding.Remote.embedder transport s.baseUrl s.apiKey,
      Template.render false⟩

def paragraph (value : Json) : String :=
  value.pretty ++ "\n"

def describe (type description : String) : String :=
  type ++ String.ofList (List.replicate (18 - type.length) ' ') ++ " " ++ description ++ "\n"

def dispatchedJson (report : Report) (context : Context) : Json :=
  Json.ofFields
    [("result", report.toJson), ("context", .ofDict context.bag),
     ("conversationState", context.state.toJson)]

/-- Queue injections in order, unless one is refused. -/
def injectAll (now : Nat) (id : String) : List Injection → Call Unit
  | [] => return ()
  | injection :: rest => do
      Call.inject now id injection.node injection.port injection.value
      injectAll now id rest

/-- Load a graph, start an execution of it, and queue messages for it. -/
def enlist (now : Nat) (definition : Graph.Definition) (context : Context)
    (injections : List Injection) : Call String := do
  let graph ← Call.load now definition
  let id ← Call.start now graph context
  injectAll now id injections
  return id

def runGraph (registry : Registry σ) (settings : Settings) (definition : Graph.Definition)
    (context : Context) (injections : List Injection) (w : World σ) : Outcome σ :=
  match Engine.ofSettings? settings with
  | none => .refused (.noBus settings.eventCapacity) 0 w.outside
  | some engine =>
      match (enlist w.now definition context injections).on engine with
      | (.error failure, _) => .refused (.failed failure) 0 w.outside
      | (.ok id, engine) =>
          let (crew, result) :=
            (Execution.Crew.mk [] ⟨engine, w⟩).complete registry id none
          let elapsed := crew.place.now - w.now
          let outside := crew.place.world.outside
          match result with
          | none => .printed "" elapsed outside
          | some (.error failure) => .refused (.failed failure) elapsed outside
          | some (.ok report) =>
              ⟨paragraph report.toJson, report.execution.error.map .execution, elapsed, outside⟩

def perform (registry : Registry σ) (settings : Settings) (job : Job) (w : World σ) : Outcome σ :=
  match job with
  | .validate definition =>
      match definition.compile with
      | .error failure => .refused (.failed failure) 0 w.outside
      | .ok topology => .printed (paragraph topology.toJson) 0 w.outside
  | .dispatch spec context =>
      let (after, result, context) := (registry.dispatch spec context).complete w
      let elapsed := after.now - w.now
      match result with
      | .error failure => .refused (.failed failure) elapsed after.outside
      | .ok report => .printed (paragraph (dispatchedJson report context)) elapsed after.outside
  | .run definition context injections => runGraph registry settings definition context injections w
  | .listActions =>
      let lines := registry.descriptions.map fun (type, description) => describe type description
      .printed (String.join lines) 0 w.outside
  | .showSettings => .printed (settings.toText ++ "\n") 0 w.outside

end Doing

/-! ## The whole program -/

def Halt.outcome {σ : Type} (outside : σ) : CommandLine.Halt → Outcome σ
  | .fault found => .refused (.arguments found) 0 outside
  | .help form => .printed form.help 0 outside
  | .version => .printed versionText 0 outside

def run {m : Type → Type} [Monad m] {σ : Type} (around : Surroundings m)
    (transport : Http.Transport σ) (outside : σ) (now : Nat) (arguments : List String) :
    m (Outcome σ) := do
  let named ← around.lookup settingsVariable
  match Arguments.ofList named arguments with
  | .error halt => return halt.outcome outside
  | .ok arguments =>
      let ready ← ExceptT.run do
        let settings ← loadSettings around arguments.settings
        return (settings, ← prepare around arguments.command)
      match ready with
      | .error complaint => return .refused complaint 0 outside
      | .ok (settings, job) =>
          let w : World σ := ⟨now, 0, cacheOf settings, outside⟩
          return perform (registryOf transport settings) settings job w

end ActionGraph.CommandLine
