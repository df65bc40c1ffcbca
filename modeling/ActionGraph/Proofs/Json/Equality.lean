import ActionGraph.Json.Basic
import Mathlib.Data.List.Forall2

/-!
# Equality of values

Equality of JSON values, within each kind of numbers, is an equivalence.  Two
lists are equal exactly if their items are, pair by pair, and two objects if
they have the same keys and equal values under each.
-/

namespace ActionGraph

namespace Binary64

theorem eqv_iff {x y : Binary64} :
    x.eqv y = true ↔ (x.isNaN = false ∧ y.isNaN = false) ∧ x.key = y.key := by
  simp [eqv]

theorem isNaN_of_isFinite {x : Binary64} (finite : x.isFinite = true) : x.isNaN = false :=
  decide_eq_false (Nat.not_lt_of_lt (of_decide_eq_true finite))

end Binary64

namespace Number

theorem eqv_refl (n : Number) : n.eqv n = true := by
  cases n with
  | int z range => exact decide_eq_true rfl
  | float x finite =>
      have number := Binary64.isNaN_of_isFinite finite
      exact Binary64.eqv_iff.mpr ⟨⟨number, number⟩, rfl⟩

/-- Equal numbers are equal to the same numbers. -/
theorem eqv_congr {a b : Number} (same : a.eqv b = true) (c : Number) : a.eqv c = b.eqv c := by
  cases a with
  | int a rangeA =>
      cases b with
      | int b rangeB =>
          obtain rfl : a = b := of_decide_eq_true same
          rfl
      | float b finiteB => cases same
  | float a finiteA =>
      cases b with
      | int b rangeB => cases same
      | float b finiteB =>
          obtain ⟨⟨numberA, numberB⟩, key⟩ := Binary64.eqv_iff.mp same
          cases c with
          | int c rangeC => rfl
          | float c finiteC => simp only [eqv, Binary64.eqv, numberA, numberB, key]

end Number

namespace Json

mutual

theorem eqv_refl (a : Json) : a.eqv a = true := by
  cases a with
  | null => rfl
  | bool a => exact beq_self_eq_true a
  | num a => exact a.eqv_refl
  | str a => exact beq_self_eq_true a
  | arr items => exact eqvItems_refl items
  | obj fields => exact eqvFields_refl fields

theorem eqvItems_refl (as : List Json) : eqvItems as as = true := by
  cases as with
  | nil => rfl
  | cons a as => rw [eqvItems, eqv_refl a, eqvItems_refl as, Bool.true_and]

theorem eqvFields_refl (as : List (String × Json)) : eqvFields as as = true := by
  cases as with
  | nil => rfl
  | cons a as =>
      obtain ⟨key, a⟩ := a
      rw [eqvFields, eqv_refl a, eqvFields_refl as, beq_self_eq_true, Bool.true_and, Bool.true_and]

end

mutual

/-- Equal values are equal to the same values. -/
theorem eqv_congr {a b : Json} (same : a.eqv b = true) (c : Json) : a.eqv c = b.eqv c := by
  cases a <;> cases b <;> try cases same
  case null.null => rfl
  case bool.bool a b => rw [eq_of_beq same]
  case num.num a b =>
    cases c with
    | num c => exact Number.eqv_congr same c
    | _ => rfl
  case str.str a b => rw [eq_of_beq same]
  case arr.arr as bs =>
    cases c with
    | arr cs => exact eqvItems_congr same cs
    | _ => rfl
  case obj.obj as bs =>
    cases c with
    | obj cs => exact eqvFields_congr same cs
    | _ => rfl

theorem eqvItems_congr {as bs : List Json} (same : eqvItems as bs = true) (cs : List Json) :
    eqvItems as cs = eqvItems bs cs := by
  cases as with
  | nil =>
      cases bs with
      | nil => rfl
      | cons b bs => cases same
  | cons a as =>
      cases bs with
      | nil => cases same
      | cons b bs =>
          obtain ⟨first, rest⟩ := Bool.and_eq_true_iff.mp same
          cases cs with
          | nil => rfl
          | cons c cs => rw [eqvItems, eqvItems, eqv_congr first c, eqvItems_congr rest cs]

theorem eqvFields_congr {as bs : List (String × Json)} (same : eqvFields as bs = true)
    (cs : List (String × Json)) : eqvFields as cs = eqvFields bs cs := by
  cases as with
  | nil =>
      cases bs with
      | nil => rfl
      | cons b bs => cases same
  | cons a as =>
      obtain ⟨k, a⟩ := a
      cases bs with
      | nil => cases same
      | cons b bs =>
          obtain ⟨l, b⟩ := b
          obtain ⟨both, rest⟩ := Bool.and_eq_true_iff.mp same
          obtain ⟨keys, first⟩ := Bool.and_eq_true_iff.mp both
          obtain rfl : k = l := eq_of_beq keys
          cases cs with
          | nil => rfl
          | cons c cs =>
              obtain ⟨m, c⟩ := c
              rw [eqvFields, eqvFields, eqv_congr first c, eqvFields_congr rest cs]

end

theorem eqv_symm {a b : Json} (same : a.eqv b = true) : b.eqv a = true := by
  rw [← eqv_congr same a]
  exact a.eqv_refl

theorem eqv_trans {a b c : Json} (first : a.eqv b = true) (second : b.eqv c = true) :
    a.eqv c = true := by
  rw [eqv_congr first c]
  exact second

theorem eqvItems_iff {as bs : List Json} :
    eqvItems as bs = true ↔ List.Forall₂ (fun a b => a.eqv b = true) as bs := by
  induction as generalizing bs with
  | nil => cases bs <;> simp [eqvItems]
  | cons a as ih => cases bs <;> simp [eqvItems, ih]

theorem eqvFields_iff {as bs : List (String × Json)} :
    eqvFields as bs = true ↔
      List.Forall₂ (fun a b => a.1 = b.1 ∧ a.2.eqv b.2 = true) as bs := by
  induction as generalizing bs with
  | nil => cases bs <;> simp [eqvFields]
  | cons a as ih => cases bs <;> simp [eqvFields, ih]

end Json

end ActionGraph
