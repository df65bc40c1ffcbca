import ActionGraph.Proofs.Json.Equality
import ActionGraph.Proofs.Number.Rounding
import ActionGraph.Rule.Evaluate

/-!
# Equality in rules

To a rule two numbers are equal if they have the same magnitude, whatever
their kinds, but inside lists and objects numbers are equal only within their
kind.  Equality is carried from the items of two lists to the lists, and from
the fields of two objects to the objects, exactly where no two numbers that
stand at the same place are of the same magnitude only.
-/

namespace ActionGraph

/-- Equal numbers of a kind have the same magnitude. -/
theorem Number.sameMagnitude_of_eqv {m n : Number} (same : m.eqv n = true) :
    m.sameMagnitude n = true := by
  cases m with
  | int a rangeA =>
      cases n with
      | int b rangeB =>
          obtain rfl : a = b := of_decide_eq_true same
          have number := Binary64.isNaN_ofInt a
          exact Binary64.eqv_iff.mpr ⟨⟨number, number⟩, rfl⟩
      | float b finiteB => cases same
  | float a finiteA =>
      cases n with
      | int b rangeB => cases same
      | float b finiteB => exact same

namespace Json

mutual

/-- Equality of values in which numbers count by magnitude at every depth. -/
def alike : Json → Json → Bool
  | .null, .null => true
  | .bool a, .bool b => a == b
  | .num a, .num b => a.sameMagnitude b
  | .str a, .str b => a == b
  | .arr as, .arr bs => alikeItems as bs
  | .obj as, .obj bs => alikeFields as bs
  | _, _ => false

def alikeItems : List Json → List Json → Bool
  | [], [] => true
  | a :: as, b :: bs => alike a b && alikeItems as bs
  | _, _ => false

def alikeFields : List (String × Json) → List (String × Json) → Bool
  | [], [] => true
  | (k, a) :: as, (l, b) :: bs => k == l && alike a b && alikeFields as bs
  | _, _ => false

end

mutual

/-- The numbers of two values that stand at the same place. -/
def paired : Json → Json → List (Number × Number)
  | .num a, .num b => [(a, b)]
  | .arr as, .arr bs => pairedItems as bs
  | .obj as, .obj bs => pairedFields as bs
  | _, _ => []

def pairedItems : List Json → List Json → List (Number × Number)
  | a :: as, b :: bs => paired a b ++ pairedItems as bs
  | _, _ => []

def pairedFields : List (String × Json) → List (String × Json) → List (Number × Number)
  | (_, a) :: as, (_, b) :: bs => paired a b ++ pairedFields as bs
  | _, _ => []

end

/-- All of these numbers are equal within their kind. -/
def Kindred (pairs : List (Number × Number)) : Prop :=
  ∀ pair ∈ pairs, pair.1.eqv pair.2 = true

theorem kindred_append {one other : List (Number × Number)} :
    Kindred (one ++ other) ↔ Kindred one ∧ Kindred other :=
  List.forall_mem_append

mutual

/-- Values are equal exactly if they are alike and their numbers are equal within their kinds. -/
theorem eqv_iff_alike (a b : Json) :
    a.eqv b = true ↔ a.alike b = true ∧ Kindred (a.paired b) := by
  cases a with
  | null => cases b <;> simp [eqv, alike, paired, Kindred]
  | bool a => cases b <;> simp [eqv, alike, paired, Kindred]
  | num m =>
      cases b with
      | num n =>
          simp only [eqv, alike, paired, Kindred, List.forall_mem_singleton]
          exact (and_iff_right_of_imp Number.sameMagnitude_of_eqv).symm
      | _ => simp [eqv, alike]
  | str a => cases b <;> simp [eqv, alike, paired, Kindred]
  | arr as =>
      cases b with
      | arr bs => exact eqvItems_iff_alike as bs
      | _ => simp [eqv, alike]
  | obj as =>
      cases b with
      | obj bs => exact eqvFields_iff_alike as bs
      | _ => simp [eqv, alike]

theorem eqvItems_iff_alike (as bs : List Json) :
    eqvItems as bs = true ↔ alikeItems as bs = true ∧ Kindred (pairedItems as bs) := by
  cases as with
  | nil => cases bs <;> simp [eqvItems, alikeItems, pairedItems, Kindred]
  | cons a as =>
      cases bs with
      | nil => simp [eqvItems, alikeItems]
      | cons b bs =>
          simp only [eqvItems, alikeItems, pairedItems, Bool.and_eq_true, kindred_append,
            eqv_iff_alike a b, eqvItems_iff_alike as bs]
          exact and_and_and_comm

theorem eqvFields_iff_alike (as bs : List (String × Json)) :
    eqvFields as bs = true ↔ alikeFields as bs = true ∧ Kindred (pairedFields as bs) := by
  cases as with
  | nil => cases bs <;> simp [eqvFields, alikeFields, pairedFields, Kindred]
  | cons a as =>
      obtain ⟨k, a⟩ := a
      cases bs with
      | nil => simp [eqvFields, alikeFields]
      | cons b bs =>
          obtain ⟨l, b⟩ := b
          simp only [eqvFields, alikeFields, pairedFields, Bool.and_eq_true, kindred_append,
            eqv_iff_alike a b, eqvFields_iff_alike as bs]
          exact (and_congr_left' and_assoc.symm).trans and_and_and_comm

end

def inside : Json → Json → List (Number × Number)
  | .num _, .num _ => []
  | a, b => paired a b

/-- To a rule, alike values are equal if the numbers inside are equal within their kinds. -/
theorem valueEq_iff_alike (a b : Json) :
    valueEq a b = true ↔ a.alike b = true ∧ Kindred (a.inside b) := by
  cases a with
  | num m =>
      cases b with
      | num n =>
          rw [valueEq, alike, inside]
          exact (and_iff_left (List.forall_mem_nil _)).symm
      | _ => exact eqv_iff_alike _ _
  | _ => exact eqv_iff_alike _ _

/-- Two values that are equal within their kind if they are numbers. -/
def Akin (a b : Json) : Prop :=
  ∀ m n, a = .num m → b = .num n → m.eqv n = true

/-- Values that are equal to a rule are equal unless they are numbers of the same magnitude only. -/
theorem eqv_iff_valueEq (a b : Json) : a.eqv b = true ↔ valueEq a b = true ∧ a.Akin b := by
  cases a with
  | num m =>
      cases b with
      | num n =>
          constructor
          · intro same
            exact ⟨Number.sameMagnitude_of_eqv same, by rintro _ _ ⟨⟩ ⟨⟩; exact same⟩
          · rintro ⟨-, kindred⟩
            exact kindred m n rfl rfl
      | _ => exact (and_iff_left (fun _ _ _ other => nomatch other)).symm
  | _ => exact (and_iff_left (fun _ _ other => nomatch other)).symm

theorem itemEq_iff (a b : Json) :
    itemEq a b = true ↔
      (∃ s t, a = .str s ∧ b = .str t ∧ lowered s = lowered t) ∨ valueEq a b = true := by
  constructor
  · intro same
    cases a with
    | str s =>
        cases b with
        | str t => exact .inl ⟨s, t, rfl, rfl, eq_of_beq same⟩
        | _ => exact .inr same
    | _ => exact .inr same
  · rintro (⟨s, t, rfl, rfl, same⟩ | same)
    · exact beq_iff_eq.mpr same
    · cases a with
      | str s =>
          cases b with
          | str t => exact beq_iff_eq.mpr (congrArg lowered (eq_of_beq same))
          | _ => exact same
      | _ => exact same

end Json

namespace Operator

open Json (Kindred)

/--
Two values are equal exactly if they are alike, numbers counting by magnitude
at every depth, and the numbers inside are equal within their kinds.  So
equality is carried from the items of two lists to the lists, and from the
fields of two objects to the objects, exactly where items and fields that are
numbers are equal within their kinds, and it is the same with an item that is
looked for in a list.
-/
theorem eq_carried_iff (a b : Json) (as bs : List Json) (fields others : List (String × Json)) :
    (eq.apply (some a) b = true ↔ a.alike b = true ∧ Kindred (a.inside b)) ∧
    (eq.apply (some (.arr as)) (.arr bs) = true ↔
      List.Forall₂ (fun a b => eq.apply (some a) b = true ∧ a.Akin b) as bs) ∧
    (eq.apply (some (.obj fields)) (.obj others) = true ↔
      List.Forall₂ (fun a b => a.1 = b.1 ∧ eq.apply (some a.2) b.2 = true ∧ a.2.Akin b.2)
        fields others) ∧
    (isIn.apply (some a) (.arr bs) = true ↔
      ∃ item ∈ bs, a.alike item = true ∧ Kindred (a.inside item)) ∧
    (contains.apply (some (.arr as)) b = true ↔
      ∃ item ∈ as, (∃ s t, item = .str s ∧ b = .str t ∧ Json.lowered s = Json.lowered t) ∨
        item.alike b = true ∧ Kindred (item.inside b)) := by
  refine ⟨Json.valueEq_iff_alike a b, ?_, ?_, ?_, ?_⟩
  · refine Json.eqvItems_iff.trans ?_
    simp only [Json.eqv_iff_valueEq]
    rfl
  · refine Json.eqvFields_iff.trans ?_
    simp only [Json.eqv_iff_valueEq]
    rfl
  · rw [apply, Json.memberOf?, Option.getD_some, Option.any_some, List.any_eq_true]
    simp only [Json.valueEq_iff_alike]
  · rw [apply, Json.contains?, Option.getD_some, List.any_eq_true]
    simp only [Json.itemEq_iff, Json.valueEq_iff_alike]

/-- One and one as a float are equal, and neither lists nor objects of them are. -/
theorem ones_not_carried :
    eq.apply (some (.ofInt 1)) (.ofBinary64 (.ofNat 1)) = true ∧
      eq.apply (some (.arr [.ofInt 1])) (.arr [.ofBinary64 (.ofNat 1)]) = false ∧
      eq.apply (some (.obj [("n", .ofInt 1)])) (.obj [("n", .ofBinary64 (.ofNat 1))]) = false ∧
      isIn.apply (some (.arr [.ofInt 1])) (.arr [.arr [.ofBinary64 (.ofNat 1)]]) = false ∧
      contains.apply (some (.arr [.arr [.ofInt 1]])) (.arr [.ofBinary64 (.ofNat 1)]) = false := by
  decide +kernel

end Operator

end ActionGraph
