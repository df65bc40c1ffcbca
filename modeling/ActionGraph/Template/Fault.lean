/-!
# Faults of templates

A template is not well formed, or an expression in it has no value.  A fault
is reported with the line of the template where it was noticed.
-/

namespace ActionGraph.Template

/-- Why a template cannot be rendered. -/
inductive Trouble where
  | malformed (detail : String)
  | badEscape
  | undefined
  | invalidOperation (detail : String)
  /-- An operation that has no further explanation. -/
  | noOperation
  | unknownFilter (name : String)
  | unknownTest (name : String)
  | unknownFunction (name : String)
  | unknownMethod (kind name : String)
  | tooManyArguments
  | missingArgument
  | cannotUnpack (detail : String)
deriving DecidableEq, Repr

namespace Trouble

def message : Trouble → String
  | .malformed detail => "syntax error: " ++ detail
  | .badEscape => "bad string escape"
  | .undefined => "undefined value"
  | .invalidOperation detail => "invalid operation: " ++ detail
  | .noOperation => "invalid operation"
  | .unknownFilter name => "unknown filter: filter " ++ name ++ " is unknown"
  | .unknownTest name => "unknown test: test " ++ name ++ " is unknown"
  | .unknownFunction name => "unknown function: " ++ name ++ " is unknown"
  | .unknownMethod kind name => "unknown method: " ++ kind ++ " has no method named " ++ name
  | .tooManyArguments => "too many arguments"
  | .missingArgument => "missing argument"
  | .cannotUnpack detail => "cannot unpack: " ++ detail

def unexpected (met expected : String) : Trouble :=
  .malformed ("unexpected " ++ met ++ ", expected " ++ expected)

end Trouble

structure Fault where
  trouble : Trouble
  line : Nat
deriving DecidableEq, Repr

def Fault.message (fault : Fault) : String :=
  fault.trouble.message ++ " (in <string>:" ++ toString fault.line ++ ")"

end ActionGraph.Template
