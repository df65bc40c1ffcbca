import ActionGraph.Rule.Evaluate

/-!
# Negation of rules

The dual of a rule asks for all of its rules where the rule asks for any, for
any where it asks for all, and compares with the partner of each operator.
Where no group is empty and every operator has a partner, the dual holds
exactly where the rule does not.  A group without rules holds, and so does
its dual, which is why such groups are left out.
-/

namespace ActionGraph

def Logic.dual : Logic → Logic
  | .all => .any
  | .any => .all

namespace Operator

def dual (op : Operator) : Operator :=
  op.partner?.getD op

/-- A negated operator holds also where the comparison makes no sense. -/
theorem elim_not (answer : Option Bool) : answer.elim true (!·) = !answer.getD false := by
  cases answer <;> rfl

/-- An operator and its partner disagree on every pair of values. -/
theorem apply_partner {op other : Operator} (h : op.partner? = some other)
    (actual : Option Json) (expected : Json) :
    other.apply actual expected = !op.apply actual expected := by
  cases op <;> simp [partner?] at h <;> subst h <;> simp [apply, elim_not]

end Operator

namespace Condition

def dual (condition : Condition) : Condition :=
  { condition with operator := condition.operator.dual }

/--
A condition with the partner of an operator holds exactly where the one with
the operator does not.  On the message body with mentions the operator that is
negated asks for both bodies and the other one for either of them.
-/
theorem holds_partner {op other : Operator} (h : op.partner? = some other)
    (field : String) (value view : Json) :
    holds ⟨field, other, value⟩ view = !holds ⟨field, op, value⟩ view := by
  simp only [holds, Operator.apply_partner h, Operator.isNegated_partner h]
  split
  · cases op.isNegated <;> simp
  · rfl

theorem holds_dual {condition : Condition} (paired : condition.operator.partner?.isSome)
    (view : Json) : condition.dual.holds view = !condition.holds view := by
  obtain ⟨other, h⟩ := Option.isSome_iff_exists.mp paired
  have operator : condition.operator.dual = other := by simp [Operator.dual, h]
  rw [dual, operator]
  exact holds_partner h condition.field condition.value view

end Condition

namespace Rule

mutual

/-- The rule that is to hold exactly where this one does not. -/
def dual : Rule → Rule
  | .leaf condition => .leaf condition.dual
  | .group logic rules => .group logic.dual (duals rules)

def duals : List Rule → List Rule
  | [] => []
  | rule :: rest => dual rule :: duals rest

end

mutual

/-- No group is empty, and every operator has a partner. -/
def paired : Rule → Bool
  | .leaf condition => condition.operator.partner?.isSome
  | .group _ rules => !rules.isEmpty && allPaired rules

def allPaired : List Rule → Bool
  | [] => true
  | rule :: rest => paired rule && allPaired rest

end

theorem holds_all {rules : List Rule} (filled : rules ≠ []) (view : Json) :
    holds view (.group .all rules) = allHold view rules := by
  cases rules with
  | nil => exact absurd rfl filled
  | cons rule rest => simp [holds]

theorem holds_any {rules : List Rule} (filled : rules ≠ []) (view : Json) :
    holds view (.group .any rules) = anyHolds view rules := by
  cases rules with
  | nil => exact absurd rfl filled
  | cons rule rest => simp [holds]

theorem duals_ne_nil {rules : List Rule} (filled : rules ≠ []) : duals rules ≠ [] := by
  cases rules with
  | nil => exact absurd rfl filled
  | cons rule rest => simp [duals]

mutual

theorem holds_dual (view : Json) (rule : Rule) (h : rule.paired) :
    holds view rule.dual = !holds view rule := by
  cases rule with
  | leaf condition =>
      simp only [dual, holds]
      exact Condition.holds_dual h view
  | group logic rules =>
      simp only [paired, Bool.and_eq_true, Bool.not_eq_true', List.isEmpty_eq_false_iff] at h
      have filled := duals_ne_nil h.1
      cases logic with
      | all =>
          rw [dual, Logic.dual, holds_any filled, holds_all h.1]
          exact anyHolds_duals view rules h.2
      | any =>
          rw [dual, Logic.dual, holds_all filled, holds_any h.1]
          exact allHold_duals view rules h.2

theorem anyHolds_duals (view : Json) (rules : List Rule) (h : allPaired rules) :
    anyHolds view (duals rules) = !allHold view rules := by
  cases rules with
  | nil => rfl
  | cons rule rest =>
      simp only [allPaired, Bool.and_eq_true] at h
      simp only [duals, anyHolds, allHold, holds_dual view rule h.1, anyHolds_duals view rest h.2,
        Bool.not_and]

theorem allHold_duals (view : Json) (rules : List Rule) (h : allPaired rules) :
    allHold view (duals rules) = !anyHolds view rules := by
  cases rules with
  | nil => rfl
  | cons rule rest =>
      simp only [allPaired, Bool.and_eq_true] at h
      simp only [duals, anyHolds, allHold, holds_dual view rule h.1, allHold_duals view rest h.2,
        Bool.not_or]

end

end Rule

namespace RuleGroup

def dual (g : RuleGroup) : RuleGroup :=
  ⟨g.logic.dual, Rule.duals g.rules⟩

theorem toRule_dual (g : RuleGroup) : g.dual.toRule = g.toRule.dual := by
  simp [dual, toRule, Rule.dual]

/--
The dual of a group negates it on every view, and on every field and value an
operator and its partner are each other's complement.
-/
theorem dual_negates (g : RuleGroup) (h : g.toRule.paired) (view : Json) :
    g.dual.holdsOn view = !g.holdsOn view ∧
      ∀ op other : Operator, op.partner? = some other → ∀ (field : String) (value : Json),
        Condition.holds ⟨field, other, value⟩ view = !Condition.holds ⟨field, op, value⟩ view := by
  constructor
  · rw [holdsOn, toRule_dual]
    exact Rule.holds_dual view g.toRule h
  · intro op other partner field value
    exact Condition.holds_partner partner field value view

/-- Either somebody is mentioned, or a known pattern fails on the body and a tag is missing. -/
def mentionOrMissingTag : RuleGroup :=
  ⟨.any,
    [.leaf ⟨bodyPath, .contains, .str "@support"⟩,
     .group .all
      [.leaf ⟨bodyPath, .notMatches, .str "refu+nd"⟩,
       .leaf ⟨"user.tag", .notIn, .ofStrings ["vip", "beta"]⟩,
       .leaf ⟨"trigger", .notExists, .null⟩]]⟩

def mentioningView : Json :=
  Json.ofFields
    [("message", Json.ofFields
      [("content", .str "Refund"), ("originalContent", .str "@Support Refund")]),
     ("user", Json.ofFields [("tag", .str "vip")])]

theorem dual_negates_of_mentionOrMissingTag :
    mentionOrMissingTag.toRule.paired ∧ mentionOrMissingTag.holdsOn mentioningView = true ∧
      mentionOrMissingTag.dual.holdsOn mentioningView =
        !mentionOrMissingTag.holdsOn mentioningView ∧
      ∀ op other : Operator, op.partner? = some other → ∀ (field : String) (value : Json),
        Condition.holds ⟨field, other, value⟩ mentioningView =
          !Condition.holds ⟨field, op, value⟩ mentioningView :=
  ⟨by decide, by decide +kernel, dual_negates mentionOrMissingTag (by decide) mentioningView⟩

end RuleGroup

end ActionGraph
