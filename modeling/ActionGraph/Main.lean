import ActionGraph.CommandLine.Program
import Std.Time.DateTime.Timestamp

/-!
# The executable

The program on the files, the environment and the clock of the machine.  There
is no connection to any network, so that a remote service is never reached.
-/

namespace ActionGraph.Machine

open CommandLine

def faultOf : IO.Error → FileFault
  | .noFileOrDirectory _ _ _ => .missing
  | .inappropriateType _ 21 _ => .directory
  | .inappropriateType _ _ _ => .astray
  | .invalidArgument _ _ _ => .tooLong
  | .permissionDenied _ _ _ => .other "Permission denied (os error 13)"
  | other => .other (toString other)

def read (path : String) : IO FileText := do
  try
    let bytes ← IO.FS.readBinFile path
    match String.fromUTF8? bytes with
    | some text => return .ok text
    | none => return .error .encoding
  catch fault => return .error (faultOf fault)

def surroundings : Surroundings IO :=
  ⟨read, fun name => IO.getEnv name⟩

/-- A transport that reaches nobody. -/
def unconnected : Http.Transport Unit := fun _ =>
  .done none

/-- Milliseconds since the beginning of 1970. -/
def clock : IO Nat := do
  return (← Std.Time.Timestamp.now).toMillisecondsSinceUnixEpoch.val.toNat

/-- Run the program, and take the time that it takes. -/
def run (arguments : List String) : IO UInt32 := do
  let outcome ← CommandLine.run surroundings unconnected () (← clock) arguments
  IO.sleep outcome.elapsed.toUInt32
  IO.print outcome.output
  IO.eprint outcome.complaintText
  return outcome.code.toUInt32

end ActionGraph.Machine

def main (arguments : List String) : IO UInt32 :=
  ActionGraph.Machine.run arguments
