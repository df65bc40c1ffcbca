import ActionGraph.Context.Basic

/-!
# Writes to a bag

The difference between two bags: which keys were set to which values, and
which were removed.  Values are compared as JSON values.
-/

namespace ActionGraph

/-- Keys to set and keys to remove. -/
structure Writes where
  set : List (String × Json)
  removed : List String
deriving DecidableEq

namespace Writes

def none : Writes :=
  ⟨[], []⟩

def isEmpty (writes : Writes) : Bool :=
  writes.set.isEmpty && writes.removed.isEmpty

def holds (bag : Bag) (key : String) (value : Json) : Bool :=
  match bag.get? key with
  | some old => old.eqv value
  | .none => false

/-- What leads from one bag to another. -/
def between (base bag : Bag) : Writes :=
  { set := bag.entries.filter fun entry => !holds base entry.1 entry.2
    removed := base.keys.filter fun key => !bag.contains key }

/-- Remove, then set. -/
def apply (writes : Writes) (bag : Bag) : Bag :=
  (writes.removed.foldl Dict.erase bag).insertAll writes.set

def toJson (writes : Writes) : Json :=
  Json.ofFields
    [("set", .arr (writes.set.map fun entry => .arr [.str entry.1, entry.2])),
     ("removed", .ofStrings writes.removed),
     ("empty", .bool writes.isEmpty)]

end Writes

namespace Context

/-- What was written to the bag since it was `base`. -/
def writesSince (context : Context) (base : Bag) : Writes :=
  Writes.between base context.bag

def applyWrites (context : Context) (writes : Writes) : Context :=
  { context with bag := writes.apply context.bag }

end Context

end ActionGraph
