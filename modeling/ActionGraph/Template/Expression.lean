import ActionGraph.Template.Value

/-!
# Expressions and statements of templates

The tree of a template.  Leaves know the line on which they stand; a trouble
with a larger expression is reported with the line of its last leaf.
-/

namespace ActionGraph.Template

inductive Unary where
  | not
  | negative
deriving DecidableEq, Repr

inductive Binary where
  | or
  | and
  | equal
  | unequal
  | less
  | atMost
  | greater
  | atLeast
  | within
  | add
  | subtract
  | concat
  | multiply
  | divide
  | divideWhole
  | modulo
  | power
deriving DecidableEq, Repr

inductive Expression where
  | const (line : Nat) (value : Value)
  | variable (line : Nat) (name : String)
  | list (line : Nat) (items : List Expression)
  | map (line : Nat) (entries : List (Expression × Expression))
  | attribute (base : Expression) (name : String)
  | item (base index : Expression)
  | slice (base : Expression) (start stop step : Option Expression)
  | call (callee : Expression) (arguments : List (Option String × Expression))
  | filter (base : Expression) (name : String) (arguments : List (Option String × Expression))
  | test (base : Expression) (name : String) (arguments : List (Option String × Expression))
  | unary (op : Unary) (operand : Expression)
  | binary (op : Binary) (left right : Expression)
  | choice (condition yes : Expression) (no : Option Expression)

abbrev Argument :=
  Option String × Expression

namespace Expression

mutual

/-- The line that a trouble with an expression is reported with. -/
def line : Expression → Nat
  | .const n _ => n
  | .variable n _ => n
  | .list n items => lineOfItems n items
  | .map n entries => lineOfEntries n entries
  | .attribute base _ => base.line
  | .item _ index => index.line
  | .slice base _ _ _ => base.line
  | .call callee arguments => lineOfArguments callee.line arguments
  | .filter base _ arguments => lineOfArguments base.line arguments
  | .test base _ arguments => lineOfArguments base.line arguments
  | .unary _ operand => operand.line
  | .binary _ _ right => right.line
  | .choice _ yes no => lineOfOption yes.line no

def lineOfOption (default : Nat) : Option Expression → Nat
  | some e => e.line
  | none => default

def lineOfItems (default : Nat) : List Expression → Nat
  | [] => default
  | e :: rest => lineOfItems e.line rest

def lineOfEntries (default : Nat) : List (Expression × Expression) → Nat
  | [] => default
  | (_, e) :: rest => lineOfEntries e.line rest

def lineOfArguments (default : Nat) : List (Option String × Expression) → Nat
  | [] => default
  | (_, e) :: rest => lineOfArguments e.line rest

end

end Expression

/-- What a value is assigned to: a name, or as many targets as it has items. -/
inductive Target where
  | variable (name : String)
  | several (targets : List Target)

inductive Statement where
  | verbatim (content : List Char)
  | emit (value : Expression)
  | branch (condition : Expression) (yes no : List Statement)
  | loop (target : Target) (source : Expression) (filter : Option Expression)
      (body : List Statement) (otherwise : List Statement)
  | assign (target : Target) (value : Expression)
  | capture (name : String) (body : List Statement)
  | block (bindings : List (Target × Expression)) (body : List Statement)

end ActionGraph.Template
