import ActionGraph.CommandLine.Injection

/-!
# Forms of commands

A form says what a command can be given: operands, which are told apart by
their places and have to be there, and options, which have names.  The faults
of arguments are told in terms of the form.
-/

namespace ActionGraph.CommandLine

inductive Value where
  | text (text : String)
  | injection (injection : Injection)
deriving DecidableEq

inductive ValueKind where
  | text
  /-- A path is not empty. -/
  | path
  | injection
deriving DecidableEq, Repr

structure OptionName where
  long : String
  short : Option Char
deriving DecidableEq, Repr

/-- Something that a command can be given; an operand has no name. -/
structure Parameter where
  /-- What the value is called. -/
  label : String
  kind : ValueKind
  name : Option OptionName
  /-- Whether it can be given more than once. -/
  repeats : Bool
deriving DecidableEq, Repr

namespace Parameter

def operand (label : String) (kind : ValueKind) : Parameter :=
  ⟨label, kind, none, false⟩

def option (long : String) (short : Option Char) (label : String) (kind : ValueKind) : Parameter :=
  ⟨label, kind, some ⟨long, short⟩, false⟩

def isOperand (p : Parameter) : Bool :=
  p.name.isNone

def shown (p : Parameter) : String :=
  match p.name with
  | some name => "--" ++ name.long ++ " <" ++ p.label ++ ">"
  | none => "<" ++ p.label ++ ">"

def hasLong (name : String) (p : Parameter) : Bool :=
  p.name.any fun names => names.long == name

def hasShort (c : Char) (p : Parameter) : Bool :=
  p.name.any fun names => names.short == some c

end Parameter

/-- What a command can be given, and the commands below it. -/
structure Form where
  /-- The words that lead to the command. -/
  words : List String
  /-- What the command does. -/
  about : String
  parameters : List Parameter
  commands : List (String × String)
deriving DecidableEq, Repr

namespace Form

def operands (form : Form) : List Parameter :=
  form.parameters.filter Parameter.isOperand

def options (form : Form) : List Parameter :=
  form.parameters.filter fun p => !p.isOperand

def hasCommand (form : Form) (name : String) : Bool :=
  form.commands.any fun command => command.1 == name

def usageOf (parts : List String) : String :=
  "Usage: " ++ " ".intercalate parts

def usage (form : Form) : String :=
  usageOf <|
    form.words
      ++ (if form.options.isEmpty then [] else ["[OPTIONS]"])
      ++ form.operands.map Parameter.shown
      ++ (if form.commands.isEmpty then [] else ["<COMMAND>"])

def usageWith (form : Form) (used : List Parameter) : String :=
  usageOf <|
    form.words
      ++ (used.filter fun p => !p.isOperand).eraseDups.map Parameter.shown
      ++ form.operands.map Parameter.shown

def help (form : Form) : String :=
  let commands :=
    if form.commands.isEmpty then ""
    else "\nCommands:\n" ++ String.join (form.commands.map fun (name, about) =>
      "  " ++ name ++ String.ofList (List.replicate (10 - name.length) ' ') ++ about ++ "\n")
  form.about ++ "\n\n" ++ form.usage ++ "\n" ++ commands

end Form

inductive ArgumentFault where
  /-- There is no place for an argument; a tip may say what to do about it. -/
  | unexpected (form : Form) (argument : String) (tip : Option String)
  | unknownCommand (form : Form) (name : String)
  | noCommand (form : Form)
  | noArguments (form : Form)
  | noValue (parameter : Parameter)
  | badValue (parameter : Parameter) (value text : String)
  | repeated (form : Form) (parameter : Parameter)
  /-- Some operands are missing. -/
  | missing (form : Form) (used operands : List Parameter)
deriving DecidableEq, Repr

namespace ArgumentFault

def report (paragraphs : List String) : String :=
  "error: " ++ "\n\n".intercalate (paragraphs ++ ["For more information, try '--help'.\n"])

def message : ArgumentFault → String
  | .unexpected form argument tip =>
      report <|
        ["unexpected argument '" ++ argument ++ "' found"]
          ++ tip.toList.map (fun tip => "  tip: " ++ tip) ++ [form.usage]
  | .unknownCommand form name =>
      report ["unrecognized subcommand '" ++ name ++ "'", form.usage]
  | .noCommand form =>
      report
        ["'" ++ " ".intercalate form.words ++ "' requires a subcommand but one was not provided\n"
            ++ "  [subcommands: " ++ ", ".intercalate (form.commands.map (·.1)) ++ "]",
          form.usage]
  | .noArguments form => form.help
  | .noValue parameter =>
      report ["a value is required for '" ++ parameter.shown ++ "' but none was supplied"]
  | .badValue parameter value text =>
      report ["invalid value '" ++ value ++ "' for '" ++ parameter.shown ++ "': " ++ text]
  | .repeated form parameter =>
      report
        ["the argument '" ++ parameter.shown ++ "' cannot be used multiple times", form.usage]
  | .missing form used operands =>
      report
        ["the following required arguments were not provided:"
            ++ String.join (operands.map fun p => "\n  " ++ p.shown),
          form.usageWith used]

end ArgumentFault

def Parameter.accept (p : Parameter) (value : String) : Except ArgumentFault Value :=
  match p.kind with
  | .text => .ok (.text value)
  | .path => if value.isEmpty then .error (.noValue p) else .ok (.text value)
  | .injection =>
      match Injection.ofText value with
      | .ok injection => .ok (.injection injection)
      | .error fault => .error (.badValue p value fault.message)

end ActionGraph.CommandLine
