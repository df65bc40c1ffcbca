import ActionGraph.Rule.Basic
import ActionGraph.Wire.Fields

/-!
# Rules as JSON

A condition is an object with a field, an operator and a value; a group is an
object with its logic and its rules.  What stands in a group is read as a
condition first, because every field of a group has a default and a condition
would pass for an empty group.
-/

namespace ActionGraph

namespace Operator

/-- The names of the operators; the first of several is the one written. -/
def names : List (String × Operator) :=
  [("eq", .eq), ("equals", .eq), ("neq", .neq), ("not_equals", .neq), ("gt", .gt),
   ("gte", .gte), ("lt", .lt), ("lte", .lte), ("contains", .contains),
   ("not_contains", .notContains), ("starts_with", .startsWith), ("ends_with", .endsWith),
   ("matches", .matches), ("not_matches", .notMatches), ("in", .isIn), ("not_in", .notIn),
   ("exists", .exists), ("not_exists", .notExists), ("length_gte", .lengthGte),
   ("length_lte", .lengthLte), ("length_eq", .lengthEq), ("unknown", .unknown)]

def name : Operator → String
  | .eq => "eq"
  | .neq => "neq"
  | .gt => "gt"
  | .gte => "gte"
  | .lt => "lt"
  | .lte => "lte"
  | .contains => "contains"
  | .notContains => "not_contains"
  | .startsWith => "starts_with"
  | .endsWith => "ends_with"
  | .matches => "matches"
  | .notMatches => "not_matches"
  | .isIn => "in"
  | .notIn => "not_in"
  | .exists => "exists"
  | .notExists => "not_exists"
  | .lengthGte => "length_gte"
  | .lengthLte => "length_lte"
  | .lengthEq => "length_eq"
  | .unknown => "unknown"

def toJson (op : Operator) : Json :=
  .str op.name

def decode : Wire.Decoder Operator :=
  Wire.Decode.variant names (some .unknown)

end Operator

namespace Condition

def toJson (condition : Condition) : Json :=
  Json.ofFields
    [("field", .str condition.field), ("operator", condition.operator.toJson),
     ("value", condition.value)]

def fields : Wire.Fields (String × Operator × Json × Unit) :=
  .cons (.required "field" Wire.Decode.string) <|
  .cons (.required "operator" Operator.decode) <|
  .cons (.default "value" Wire.Decode.json .null) .nil

def decode : Wire.Decoder Condition := fun node => do
  let (field, operator, value, _) ← Wire.Fields.record "struct Condition" fields node
  return ⟨field, operator, value⟩

end Condition

namespace Logic

def toJson : Logic → Json
  | .all => .str "AND"
  | .any => .str "OR"

def decode : Wire.Decoder Logic :=
  Wire.Decode.variant [("AND", .all), ("and", .all), ("OR", .any), ("or", .any)] none

end Logic

namespace Rule

mutual

def toJson : Rule → Json
  | .leaf condition => condition.toJson
  | .group logic rules =>
      Json.ofFields [("logic", logic.toJson), ("conditions", .arr (rulesToJson rules))]

def rulesToJson : List Rule → List Json
  | [] => []
  | rule :: rest => toJson rule :: rulesToJson rest

end

end Rule

namespace RuleGroup

def toJson (g : RuleGroup) : Json :=
  g.toRule.toJson

def fields (rule : Wire.Decoder Rule) : Wire.Fields (Logic × List Rule × Unit) :=
  .cons (.default "logic" Logic.decode .all) <|
  .cons (.default "conditions" (Wire.Decode.list rule) []) .nil

def decodeWith (rule : Wire.Decoder Rule) : Wire.Decoder RuleGroup := fun node => do
  let (logic, rules, _) ← Wire.Fields.record "struct ConditionGroup" (fields rule) node
  return ⟨logic, rules⟩

end RuleGroup

namespace Rule

def neither : Wire.Fault :=
  ⟨.noVariant "ConditionNode", none⟩

/--
Read a rule that nests at most so deep.  The value has to be readable as a
whole before it is tried as a condition and then as a group.
-/
def decodeWithin : Nat → Wire.Decoder Rule
  | depth, node => do
      let _ ← node.toJson
      match Condition.decode node with
      | .ok condition => return .leaf condition
      | .error _ =>
          match depth with
          | 0 => .error neither
          | depth + 1 =>
              match RuleGroup.decodeWith (decodeWithin depth) node with
              | .ok g => return g.toRule
              | .error _ => .error neither

end Rule

namespace Wire.Node

mutual

/-- How deep sequences and maps nest. -/
def depth : Node → Nat
  | .seq _ items _ => itemsDepth items + 1
  | .map _ entries _ => entriesDepth entries + 1
  | .deep _ inner => depth inner
  | _ => 0

def itemsDepth : List (ItemFrame × Node) → Nat
  | [] => 0
  | (_, node) :: rest => max (depth node) (itemsDepth rest)

def entriesDepth : List (MapKey × Node) → Nat
  | [] => 0
  | (_, node) :: rest => max (depth node) (entriesDepth rest)

end

end Wire.Node

namespace Rule

def decode : Wire.Decoder Rule := fun node =>
  decodeWithin node.depth node

end Rule

namespace RuleGroup

def decode : Wire.Decoder RuleGroup := fun node =>
  decodeWith (Rule.decodeWithin node.depth) node

end RuleGroup

end ActionGraph
