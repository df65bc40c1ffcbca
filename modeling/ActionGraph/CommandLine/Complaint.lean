import ActionGraph.CommandLine.Form
import ActionGraph.Failure
import ActionGraph.Files

/-!
# Complaints

A program that fails complains: it says what went wrong, then what was the
cause of that, and so on, and ends with a code.
-/

namespace ActionGraph.CommandLine

/-- A document that is read for a command, apart from graphs. -/
inductive DocumentKind where
  | action
  | context
deriving DecidableEq, Repr

namespace DocumentKind

def reading : DocumentKind → String
  | .action => "reading action file "
  | .context => "reading context file "

def accepting : DocumentKind → String
  | .action => "parsing action config"
  | .context => "parsing execution context"

end DocumentKind

inductive Complaint where
  | arguments (fault : ArgumentFault)
  | failed (failure : Failure)
  /-- There is no graph in a file. -/
  | noGraph (path : String) (failure : Failure)
  /-- A file cannot be read. -/
  | unread (kind : DocumentKind) (path : String) (fault : FileFault)
  /-- A text is no document of its kind. -/
  | unaccepted (kind : DocumentKind) (fault : Wire.Fault)
  /-- An execution failed. -/
  | execution (text : String)
  /-- There cannot be an event bus of some capacity. -/
  | noBus (capacity : Nat)
deriving DecidableEq

namespace Complaint

def chainOf (failure : Failure) : List String :=
  failure.message ::
    match failure with
    | .file text => [text]
    | .json fault => [fault.message]
    | _ => []

/-- What went wrong, and what was the cause, from the outermost to the innermost. -/
def chain : Complaint → List String
  | .arguments fault => [fault.message]
  | .failed failure => chainOf failure
  | .noGraph path failure => ("reading " ++ path) :: chainOf failure
  | .unread kind path fault => [kind.reading ++ path, fault.message]
  | .unaccepted kind fault => [kind.accepting, fault.message]
  | .execution text => [text]
  | .noBus capacity => ["there is no event bus of capacity " ++ toString capacity]

/-- A text with all lines but the first set in by some blanks. -/
def setIn (width : Nat) (text : String) : String :=
  let blanks := List.replicate width ' '
  String.ofList (text.toList.flatMap fun c => if c = '\n' then '\n' :: blanks else [c])

def numbered (i : Nat) : List String → String
  | [] => ""
  | cause :: rest => "\n    " ++ toString i ++ ": " ++ setIn 7 cause ++ numbered (i + 1) rest

/-- The paragraph about causes; a single cause has no number. -/
def causes : List String → String
  | [] => ""
  | [cause] => "\n\nCaused by:\n    " ++ setIn 4 cause
  | several => "\n\nCaused by:" ++ numbered 0 several

def text (complaint : Complaint) : String :=
  match complaint with
  | .arguments fault => fault.message
  | _ =>
      match complaint.chain with
      | [] => "Error: \n"
      | head :: rest => "Error: " ++ head ++ causes rest ++ "\n"

def code : Complaint → Nat
  | .arguments _ => 2
  | .noBus _ => 101
  | _ => 1

end Complaint

end ActionGraph.CommandLine
