import ActionGraph.CommandLine.Form

/-!
# Reading arguments

Arguments are read from left to right by a form.  The value of a parameter is
looked at when the next parameter is met, or at the end, so that of several
faults the first is told, but an argument without a place takes precedence
over the value before it.  A double dash makes operands of all that follows.
-/

namespace ActionGraph.CommandLine

inductive Halt where
  | fault (fault : ArgumentFault)
  /-- Somebody asks about a command. -/
  | help (form : Form)
  | version
deriving DecidableEq, Repr

abbrev Given :=
  List (Parameter × Value)

namespace Given

def all (given : Given) (p : Parameter) : List Value :=
  (given.filter fun entry => entry.1 = p).map (·.2)

def text? (given : Given) (p : Parameter) : Option String :=
  (given.all p).findSome? fun value =>
    match value with
    | .text text => some text
    | .injection _ => none

def injections (given : Given) (p : Parameter) : List Injection :=
  (given.all p).filterMap fun value =>
    match value with
    | .text _ => none
    | .injection injection => some injection

end Given

/-- What was read so far. -/
structure Reading where
  given : Given
  /-- The latest parameter; its value is not looked at yet, or still to come. -/
  latest : Option (Parameter × Option String)
  /-- The operands still to come. -/
  operands : List Parameter
  /-- Whether all that follows are operands. -/
  plain : Bool
deriving DecidableEq

namespace Reading

variable (form : Form)

def start : Reading :=
  ⟨[], none, form.operands, false⟩

/-- Whether the next argument is the value of the latest parameter. -/
def awaits (reading : Reading) : Bool :=
  !reading.plain && reading.latest.any fun (_, value) => value.isNone

def take (reading : Reading) (p : Parameter) (value : String) : Except Halt Reading :=
  if !p.repeats && !(reading.given.all p).isEmpty then .error (.fault (.repeated form p))
  else
    match p.accept value with
    | .ok accepted => .ok { reading with given := reading.given ++ [(p, accepted)] }
    | .error fault => .error (.fault fault)

def settle (reading : Reading) : Except Halt Reading :=
  match reading.latest with
  | none => .ok reading
  | some (p, none) => .error (.fault (.noValue p))
  | some (p, some value) => take form { reading with latest := none } p value

def meet (reading : Reading) (p : Parameter) (value : Option String) : Except Halt Reading := do
  let reading ← reading.settle form
  return { reading with latest := some (p, value) }

/-- A parameter is met together with its value, which is looked at at once. -/
def attach (reading : Reading) (p : Parameter) (value : String) : Except Halt Reading := do
  let reading ← reading.settle form
  reading.take form p value

/-- The tip for an argument that looks like an option. -/
def asOperand (argument : String) : Option String :=
  if form.operands.isEmpty then none
  else some ("to pass '" ++ argument ++ "' as a value, use '-- " ++ argument ++ "'")

def operand (reading : Reading) (argument : String) : Except Halt Reading :=
  match reading.operands with
  | p :: rest => do
      let reading ← reading.meet form p (some argument)
      return { reading with operands := rest }
  | [] =>
      if form.commands.isEmpty then .error (.fault (.unexpected form argument none))
      else if reading.plain && form.hasCommand argument then
        let tip := "subcommand '" ++ argument ++ "' exists; to use it, remove the '--' before it"
        .error (.fault (.unexpected form argument (some tip)))
      else .error (.fault (.unknownCommand form argument))

def long (reading : Reading) (argument : List Char) : Except Halt Reading :=
  let (name, value) :=
    match Text.splitFirst? '=' argument with
    | some (name, value) => (String.ofList name, some (String.ofList value))
    | none => (String.ofList argument, none)
  match form.options.find? fun p => p.hasLong name, value with
  | some p, some value => reading.attach form p value
  | some p, none => reading.meet form p none
  | none, _ =>
      if name = "help" then do
        let _ ← reading.settle form
        throw (.help form)
      else if name = "version" ∧ !form.commands.isEmpty then do
        let _ ← reading.settle form
        throw .version
      else .error (.fault (.unexpected form ("--" ++ name) (asOperand form ("--" ++ name))))

def short (reading : Reading) (c : Char) (rest : List Char) : Except Halt Reading :=
  match form.options.find? fun p => p.hasShort c, rest with
  | some p, [] => reading.meet form p none
  | some p, '=' :: value => reading.attach form p (String.ofList value)
  | some p, value => reading.attach form p (String.ofList value)
  | none, _ =>
      if c = 'h' then do
        let _ ← reading.settle form
        throw (.help form)
      else if c = 'V' ∧ !form.commands.isEmpty then do
        let _ ← reading.settle form
        throw .version
      else
        let argument := String.ofList ['-', c]
        .error (.fault (.unexpected form argument (asOperand form argument)))

def step (reading : Reading) (argument : String) : Except Halt Reading :=
  if reading.plain then reading.operand form argument
  else
    match argument.toList with
    | ['-', '-'] => .ok { reading with plain := true }
    | '-' :: '-' :: name => reading.long form name
    | '-' :: c :: rest => reading.short form c rest
    | _ =>
        match reading.latest with
        | some (p, none) => .ok { reading with latest := some (p, some argument) }
        | _ => reading.operand form argument

/-- Read arguments up to the name of a command; it is answered with what follows. -/
def walk (reading : Reading) : List String → Except Halt (Reading × Option (String × List String))
  | [] => .ok (reading, none)
  | argument :: rest =>
      if !reading.plain && !reading.awaits && form.hasCommand argument then
        .ok (reading, some (argument, rest))
      else do walk (← reading.step form argument) rest

def finish (reading : Reading) : Except Halt Given := do
  let reading ← reading.settle form
  if reading.operands.isEmpty then return reading.given
  else throw (.fault (.missing form (reading.given.map (·.1)) reading.operands))

end Reading

def Form.read (form : Form) (arguments : List String) : Except Halt Given := do
  let (reading, _) ← (Reading.start form).walk form arguments
  reading.finish form

end ActionGraph.CommandLine
