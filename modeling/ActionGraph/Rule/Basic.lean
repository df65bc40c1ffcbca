import ActionGraph.Json.Basic

/-!
# Rules

A rule is a tree of conditions on a view: a leaf compares the value at a path
with a given value, a group asks that all or any of its rules hold.
-/

namespace ActionGraph

/-- How a leaf compares. -/
inductive Operator where
  | eq
  | neq
  | gt
  | gte
  | lt
  | lte
  | contains
  | notContains
  | startsWith
  | endsWith
  | matches
  | notMatches
  | isIn
  | notIn
  | exists
  | notExists
  | lengthGte
  | lengthLte
  | lengthEq
  /-- Any name that is not known; it never holds. -/
  | unknown
deriving DecidableEq, Repr

namespace Operator

/-- Operators that hold where the comparison does not apply to the values. -/
def isNegated : Operator → Bool
  | .neq | .notContains | .notMatches | .notIn | .notExists => true
  | _ => false

/-- The operator that holds exactly where this one does not, if there is one. -/
def partner? : Operator → Option Operator
  | .eq => some .neq
  | .neq => some .eq
  | .contains => some .notContains
  | .notContains => some .contains
  | .matches => some .notMatches
  | .notMatches => some .matches
  | .isIn => some .notIn
  | .notIn => some .isIn
  | .exists => some .notExists
  | .notExists => some .exists
  | _ => none

/-- A partner is negated exactly where the operator is not. -/
theorem isNegated_partner {op other : Operator} (h : op.partner? = some other) :
    other.isNegated = !op.isNegated := by
  cases op <;> simp [partner?] at h <;> subst h <;> rfl

end Operator

structure Condition where
  field : String
  operator : Operator
  value : Json
deriving DecidableEq

/-- Whether a group asks for all of its rules or for any of them. -/
inductive Logic where
  | all
  | any
deriving DecidableEq, Repr

inductive Rule where
  | leaf (condition : Condition)
  | group (logic : Logic) (rules : List Rule)

structure RuleGroup where
  logic : Logic
  rules : List Rule

namespace RuleGroup

/-- The group that asks for nothing. -/
def empty : RuleGroup :=
  ⟨.all, []⟩

instance : Inhabited RuleGroup :=
  ⟨empty⟩

def toRule (g : RuleGroup) : Rule :=
  .group g.logic g.rules

end RuleGroup

instance : Inhabited Rule :=
  ⟨.group .all []⟩

end ActionGraph
