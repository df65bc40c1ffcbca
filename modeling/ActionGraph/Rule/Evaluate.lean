import ActionGraph.Rule.Basic
import ActionGraph.Context.Basic
import ActionGraph.Regex.Parse

/-!
# Evaluating rules

A group without rules holds.  A condition on the message body whose value
mentions somebody is tried on the body with mentions too: one of the two is
enough, unless the operator is negated, when both are needed.
-/

namespace ActionGraph

/-- The path of the message body without mentions. -/
def bodyPath : String :=
  "message.content"

/-- The path of the message body with mentions. -/
def mentionedBodyPath : String :=
  "message.originalContent"

namespace Json

/-- Equality of values in which two numbers count by magnitude. -/
def valueEq : Json → Json → Bool
  | .num a, .num b => a.sameMagnitude b
  | a, b => a.eqv b

mutual

/-- Whether a value mentions somebody in one of its texts. -/
def mentions : Json → Bool
  | .str s => s.toList.contains '@'
  | .arr items => anyMentions items
  | _ => false

def anyMentions : List Json → Bool
  | [] => false
  | item :: rest => mentions item || anyMentions rest

end

def lowered (s : String) : List Char :=
  Text.lower s.toList

/-- Equality of an item of a list and a value, texts without regard to case. -/
def itemEq : Json → Json → Bool
  | .str a, .str b => lowered a == lowered b
  | a, b => valueEq a b

/-- Whether a text or a list contains a value; nothing where that makes no sense. -/
def contains? : Option Json → Json → Option Bool
  | some (.str text), .str part => some (Text.occursIn (lowered part) (lowered text))
  | some (.arr items), value => some (items.any fun item => itemEq item value)
  | _, _ => none

def strings? : Option Json → Json → Option (String × String)
  | some (.str a), .str b => some (a, b)
  | _, _ => none

def matches? (actual : Option Json) (expected : Json) : Option Bool :=
  (strings? actual expected).map fun (text, pattern) => Regex.isMatch pattern text

def memberOf? (actual : Option Json) : Json → Option Bool
  | .arr items => some (actual.any fun value => items.any fun item => valueEq value item)
  | _ => none

def length? : Json → Option Nat
  | .str s => some s.toList.length
  | .arr items => some items.length
  | _ => none

/-- Compare two numbers in double precision. -/
def compareNumbers (test : Binary64 → Binary64 → Bool) (actual : Option Json)
    (expected : Json) : Bool :=
  match actual.bind binary64?, expected.binary64? with
  | some a, some b => test a b
  | _, _ => false

/-- Compare a length with a number in double precision. -/
def compareLength (test : Binary64 → Binary64 → Bool) (actual : Option Json)
    (expected : Json) : Bool :=
  match actual.bind length?, expected.binary64? with
  | some n, some b => test (.ofNat n) b
  | _, _ => false

end Json

namespace Operator

/-- Compare what stands at a path, if anything does, with a value. -/
def apply (op : Operator) (actual : Option Json) (expected : Json) : Bool :=
  match op with
  | .eq => Json.valueEq (actual.getD .null) expected
  | .neq => !Json.valueEq (actual.getD .null) expected
  | .gt => Json.compareNumbers (fun a b => b.lt a) actual expected
  | .gte => Json.compareNumbers (fun a b => b.le a) actual expected
  | .lt => Json.compareNumbers Binary64.lt actual expected
  | .lte => Json.compareNumbers Binary64.le actual expected
  | .contains => (Json.contains? actual expected).getD false
  | .notContains => (Json.contains? actual expected).elim true (!·)
  | .startsWith =>
      (Json.strings? actual expected).any fun (text, start) =>
        Text.startsWith (Json.lowered start) (Json.lowered text)
  | .endsWith =>
      (Json.strings? actual expected).any fun (text, ending) =>
        Text.endsWith (Json.lowered ending) (Json.lowered text)
  | .matches => (Json.matches? actual expected).getD false
  | .notMatches => (Json.matches? actual expected).elim true (!·)
  | .isIn => (Json.memberOf? actual expected).getD false
  | .notIn => (Json.memberOf? actual expected).elim true (!·)
  | .exists => actual.isSome
  | .notExists => actual.isNone
  | .lengthGte => Json.compareLength (fun a b => b.le a) actual expected
  | .lengthLte => Json.compareLength Binary64.le actual expected
  | .lengthEq => Json.compareLength Binary64.eqv actual expected
  | .unknown => false

end Operator

namespace Condition

def holds (condition : Condition) (view : Json) : Bool :=
  let op := condition.operator
  let onBody := op.apply (view.resolve? condition.field) condition.value
  if condition.field = bodyPath ∧ condition.value.mentions = true then
    let onMentioned := op.apply (view.resolve? mentionedBodyPath) condition.value
    if op.isNegated then onBody && onMentioned else onBody || onMentioned
  else onBody

end Condition

namespace Rule

mutual

def holds (view : Json) : Rule → Bool
  | .leaf condition => condition.holds view
  | .group _ [] => true
  | .group .all rules => allHold view rules
  | .group .any rules => anyHolds view rules

def allHold (view : Json) : List Rule → Bool
  | [] => true
  | rule :: rest => holds view rule && allHold view rest

def anyHolds (view : Json) : List Rule → Bool
  | [] => false
  | rule :: rest => holds view rule || anyHolds view rest

end

end Rule

namespace RuleGroup

def holdsOn (g : RuleGroup) (view : Json) : Bool :=
  g.toRule.holds view

def holds (g : RuleGroup) (context : Context) : Bool :=
  g.holdsOn context.view

end RuleGroup

end ActionGraph
