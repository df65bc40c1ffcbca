import ActionGraph.Proofs.Number.Rounding
import ActionGraph.Proofs.Wire.Values
import ActionGraph.Rule.Evaluate

/-!
# Comparing integers

Rules compare numbers in double precision.  Two integers are therefore
compared as the integers that they are held as there, which is exact unless
two different ones are held as the same.
-/

namespace ActionGraph

open Binary64 (held)

def Number.InRange (z : Int) : Prop :=
  -0x8000000000000000 ≤ z ∧ z < 0x10000000000000000

instance (z : Int) : Decidable (Number.InRange z) :=
  inferInstanceAs (Decidable (_ ∧ _))

theorem Number.InRange.natAbs_lt {z : Int} (range : InRange z) : z.natAbs < Nat.pow 2 64 := by
  obtain ⟨low, high⟩ := range
  have width : Nat.pow 2 64 = 0x10000000000000000 := rfl
  omega

namespace Binary64

/-- Rounding keeps the order, though it may make two integers the same. -/
theorem held_mono {a b : Int} (le : a ≤ b) : held a ≤ held b := by
  have nearA := (isNearest_held a).closest _ (isNearest_held b).precise
  have nearB := (isNearest_held b).closest _ (isNearest_held a).precise
  rcases Int.lt_or_eq_of_le le with below | rfl
  · omega
  · exact Int.le_refl _

end Binary64

namespace Json

variable {a b : Int} (rangeA : Number.InRange a) (rangeB : Number.InRange b)

include rangeA rangeB

theorem valueEq_ofInt : valueEq (.ofInt a) (.ofInt b) = decide (held a = held b) := by
  rw [ofInt_of_inRange rangeA, ofInt_of_inRange rangeB, valueEq, Number.sameMagnitude]
  exact Binary64.eqv_ofInt rangeA.natAbs_lt rangeB.natAbs_lt

theorem itemEq_ofInt : itemEq (.ofInt a) (.ofInt b) = decide (held a = held b) := by
  rw [← valueEq_ofInt rangeA rangeB, ofInt_of_inRange rangeA, ofInt_of_inRange rangeB]
  rfl

theorem compareNumbers_ofInt (test : Binary64 → Binary64 → Bool) :
    compareNumbers test (some (.ofInt a)) (.ofInt b) = test (.ofInt a) (.ofInt b) := by
  rw [ofInt_of_inRange rangeA, ofInt_of_inRange rangeB]
  rfl

end Json

namespace Operator

def onIntegers? : Operator → Option (Int → Int → Bool)
  | .eq => some fun a b => decide (a = b)
  | .neq => some fun a b => !decide (a = b)
  | .gt => some fun a b => decide (b < a)
  | .gte => some fun a b => decide (b ≤ a)
  | .lt => some fun a b => decide (a < b)
  | .lte => some fun a b => decide (a ≤ b)
  | _ => none

/-- Two integers that are not held as the same compare as what they are held as. -/
theorem onIntegers?_held {a b : Int} (apart : a = b ∨ held a ≠ held b) {op : Operator}
    {test : Int → Int → Bool} (known : op.onIntegers? = some test) :
    test (held a) (held b) = test a b := by
  rcases apart with rfl | apart
  · cases op <;> cases known <;> simp
  · have up : a ≤ b → held a ≤ held b := Binary64.held_mono
    have down : b ≤ a → held b ≤ held a := Binary64.held_mono
    have differ : a ≠ b := fun same => apart (congrArg held same)
    cases op <;> cases known
    case inr.eq.refl => simp [apart, differ]
    case inr.neq.refl => simp [apart, differ]
    all_goals
      refine decide_eq_decide.mpr ?_
      omega

section Integers

variable {a b : Int} (rangeA : Number.InRange a)

include rangeA

/-- Integers are compared as what they are held as. -/
theorem apply_integers (rangeB : Number.InRange b) {op : Operator} {test : Int → Int → Bool}
    (known : op.onIntegers? = some test) :
    op.apply (some (.ofInt a)) (.ofInt b) = test (held a) (held b) := by
  have boundA := rangeA.natAbs_lt
  have boundB := rangeB.natAbs_lt
  have compared := Json.compareNumbers_ofInt rangeA rangeB
  cases op <;> cases known
  case eq => exact Json.valueEq_ofInt rangeA rangeB
  case neq => exact congrArg Bool.not (Json.valueEq_ofInt rangeA rangeB)
  case gt => exact (compared _).trans (Binary64.lt_ofInt boundB boundA)
  case gte => exact (compared _).trans (Binary64.le_ofInt boundB boundA)
  case lt => exact (compared _).trans (Binary64.lt_ofInt boundA boundB)
  case lte => exact (compared _).trans (Binary64.le_ofInt boundA boundB)

section Lists

variable {zs : List Int} (ranges : ∀ z ∈ zs, Number.InRange z)

include ranges

/-- An integer is found in a list that has one which is held as the same. -/
theorem isIn_integers_iff :
    isIn.apply (some (.ofInt a)) (.arr (zs.map .ofInt)) = true ↔ ∃ z ∈ zs, held z = held a := by
  rw [apply, Json.memberOf?, Option.getD_some, Option.any_some, List.any_map, List.any_eq_true]
  refine exists_congr fun z => and_congr_right fun mem => ?_
  rw [Function.comp_apply, Json.valueEq_ofInt rangeA (ranges z mem), decide_eq_true_iff]
  exact eq_comm

/-- A list of integers contains one if it has one which is held as the same. -/
theorem contains_integers_iff :
    contains.apply (some (.arr (zs.map .ofInt))) (.ofInt a) = true ↔ ∃ z ∈ zs, held z = held a := by
  rw [apply, Json.contains?, Option.getD_some, List.any_map, List.any_eq_true]
  refine exists_congr fun z => and_congr_right fun mem => ?_
  rw [Function.comp_apply, Json.itemEq_ofInt (ranges z mem) rangeA, decide_eq_true_iff]

end Lists

end Integers

/-- A list has one that is held as the same exactly if it has the integer itself. -/
theorem held_mem_iff (a : Int) (zs : List Int) :
    ((∃ z ∈ zs, held z = held a) ↔ a ∈ zs) ↔ a ∈ zs ∨ ∀ z ∈ zs, held z ≠ held a := by
  by_cases mem : a ∈ zs
  · exact iff_of_true (iff_of_true ⟨a, mem, rfl⟩ mem) (.inl mem)
  · simp [mem]

/--
The comparisons of two integers are exact, exactly if the integers are the
same or are not held as the same in double precision, where each is held as
the nearest integer of at most 53 significant bits.  An integer is found in a
list of integers exactly where it is, if it is there or none of the list is
held as the same.
-/
theorem integers_exact_iff {a b : Int} (rangeA : Number.InRange a) (rangeB : Number.InRange b) :
    (∀ z, Binary64.IsNearest z (held z)) ∧
    ((∀ op test, onIntegers? op = some test →
        op.apply (some (.ofInt a)) (.ofInt b) = test a b) ↔ a = b ∨ held a ≠ held b) ∧
    ∀ zs : List Int, (∀ z ∈ zs, Number.InRange z) →
      ((isIn.apply (some (.ofInt a)) (.arr (zs.map .ofInt)) = true ↔ a ∈ zs) ↔
        a ∈ zs ∨ ∀ z ∈ zs, held z ≠ held a) ∧
      ((contains.apply (some (.arr (zs.map .ofInt))) (.ofInt a) = true ↔ a ∈ zs) ↔
        a ∈ zs ∨ ∀ z ∈ zs, held z ≠ held a) := by
  refine ⟨Binary64.isNearest_held, ⟨fun exact => ?_, fun apart op test known => ?_⟩,
    fun zs ranges => ⟨?_, ?_⟩⟩
  · have equal := (apply_integers rangeA rangeB rfl).symm.trans (exact .eq _ rfl)
    by_cases same : held a = held b
    · exact .inl ((decide_eq_decide.mp equal).mp same)
    · exact .inr same
  · rw [apply_integers rangeA rangeB known, onIntegers?_held apart known]
  · rw [isIn_integers_iff rangeA ranges]
    exact held_mem_iff a zs
  · rw [contains_integers_iff rangeA ranges]
    exact held_mem_iff a zs

/-- Neither of the two is held as itself, and yet they are told apart. -/
theorem integers_exact_iff_of_roundedApart :
    Number.InRange 9007199254740993 ∧ Number.InRange 9007199254740995 ∧
      held 9007199254740993 = 9007199254740992 ∧ held 9007199254740995 = 9007199254740996 ∧
      (∀ op test, onIntegers? op = some test →
        op.apply (some (.ofInt 9007199254740993)) (.ofInt 9007199254740995) =
          test 9007199254740993 9007199254740995) ∧
      (isIn.apply (some (.ofInt 9007199254740993)) (.arr ([9007199254740995].map .ofInt)) = true ↔
        (9007199254740993 : Int) ∈ [9007199254740995]) := by
  have rangeA : Number.InRange 9007199254740993 := by decide +kernel
  have rangeB : Number.InRange 9007199254740995 := by decide +kernel
  obtain ⟨-, exact, lists⟩ := integers_exact_iff rangeA rangeB
  refine ⟨rangeA, rangeB, by decide +kernel, by decide +kernel, ?_, ?_⟩
  · exact exact.mpr (.inr (by decide +kernel))
  · exact (lists [9007199254740995] (by decide +kernel)).1.mpr (.inr (by decide +kernel))

/-- Two different integers are equal to a rule, and each is found in a list of the other. -/
theorem neighbours_confused :
    Number.InRange 9007199254740993 ∧ Number.InRange 9007199254740992 ∧
      eq.apply (some (.ofInt 9007199254740993)) (.ofInt 9007199254740992) = true ∧
      gt.apply (some (.ofInt 9007199254740993)) (.ofInt 9007199254740992) = false ∧
      isIn.apply (some (.ofInt 9007199254740993)) (.arr [.ofInt 9007199254740992]) = true ∧
      contains.apply (some (.arr [.ofInt 9007199254740993])) (.ofInt 9007199254740992) = true := by
  decide +kernel

end Operator

end ActionGraph
