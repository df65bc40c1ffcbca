import ActionGraph.CommandLine.Reading

/-!
# Commands

A graph can be validated or run, an action dispatched, and the types of
actions and the settings shown.  The file of settings is given before the
command; without an option it is named by the environment, and else has a
fixed name.
-/

namespace ActionGraph.CommandLine

namespace Parameters

def settings : Parameter :=
  .option "config" (some 'c') "CONFIG" .path

def graph : Parameter :=
  .operand "GRAPH" .path

def action : Parameter :=
  .operand "ACTION" .text

def context : Parameter :=
  .option "context" none "CONTEXT" .path

def message : Parameter :=
  .option "message" (some 'm') "MESSAGE" .text

def inject : Parameter :=
  { Parameter.option "inject" none "INJECT" .injection with repeats := true }

end Parameters

def programName : String :=
  "switchyard"

def versionText : String :=
  programName ++ " 0.3.0\n"

/-- The variable of the environment that names the file of settings. -/
def settingsVariable : String :=
  "SWITCHYARD_CONFIG"

def defaultSettingsPath : String :=
  "switchyard.toml"

namespace Forms

def leaf (name about : String) (parameters : List Parameter) : Form :=
  ⟨[programName, name], about, parameters, []⟩

def validate : Form :=
  leaf "validate" "Validate a graph definition and print its topology" [Parameters.graph]

def dispatch : Form :=
  leaf "dispatch" "Dispatch a single action and print the result"
    [Parameters.action, Parameters.context, Parameters.message]

def run : Form :=
  leaf "run" "Load a graph and run one execution to the end"
    [Parameters.graph, Parameters.context, Parameters.message, Parameters.inject]

def actions : Form :=
  leaf "actions" "List registered action types" []

def config : Form :=
  leaf "config" "Show current configuration" []

def all : List (String × Form) :=
  [("validate", validate), ("dispatch", dispatch), ("run", run), ("actions", actions),
   ("config", config)]

def root : Form :=
  ⟨[programName], "Rule-driven action orchestration for conversational agents",
    [Parameters.settings],
    (all.map fun (name, form) => (name, form.about)) ++ [("help", "Print help")]⟩

end Forms

/-- What a command works on besides the settings. -/
structure Subject where
  /-- The file of the context. -/
  context : Option String
  /-- The content of the message that takes the place of the context's message. -/
  message : Option String
deriving DecidableEq, Repr

inductive Command where
  | validate (graph : String)
  | dispatch (action : String) (subject : Subject)
  | run (graph : String) (subject : Subject) (injections : List Injection)
  | actions
  | config
deriving DecidableEq

namespace Given

/-- The text of an operand; there is always one. -/
def operand (given : Given) (p : Parameter) : String :=
  (given.text? p).getD ""

def subject (given : Given) : Subject :=
  ⟨given.text? Parameters.context, given.text? Parameters.message⟩

end Given

def Command.ofArguments (name : String) (arguments : List String) : Except Halt Command :=
  match name with
  | "validate" => do
      let given ← Forms.validate.read arguments
      return .validate (given.operand Parameters.graph)
  | "dispatch" => do
      let given ← Forms.dispatch.read arguments
      return .dispatch (given.operand Parameters.action) given.subject
  | "run" => do
      let given ← Forms.run.read arguments
      return .run (given.operand Parameters.graph) given.subject
        (given.injections Parameters.inject)
  | "actions" => do
      let _ ← Forms.actions.read arguments
      return .actions
  | "config" => do
      let _ ← Forms.config.read arguments
      return .config
  | _ =>
      let form := (Forms.all.find? fun entry => some entry.1 = arguments.head?).map (·.2)
      .error (.help (form.getD Forms.root))

structure Arguments where
  settings : String
  command : Command
deriving DecidableEq

namespace Arguments

/-- The file of settings that is named, by an option or else by the environment. -/
def settingsPath? (variable_ : Option String) (reading : Reading) :
    Except Halt (Option String) := do
  let reading ← reading.settle Forms.root
  match reading.given.text? Parameters.settings, variable_ with
  | some path, _ => return some path
  | none, some path =>
      let reading ← reading.take Forms.root Parameters.settings path
      return reading.given.text? Parameters.settings
  | none, none => return none

def ofList (variable_ : Option String) (arguments : List String) : Except Halt Arguments := do
  match ← (Reading.start Forms.root).walk Forms.root arguments with
  | (reading, some (name, rest)) =>
      let command ← Command.ofArguments name rest
      let path ← settingsPath? variable_ reading
      return ⟨path.getD defaultSettingsPath, command⟩
  | (reading, none) =>
      match ← settingsPath? variable_ reading with
      | some _ => throw (.fault (.noCommand Forms.root))
      | none => throw (.fault (.noArguments Forms.root))

end Arguments

end ActionGraph.CommandLine
