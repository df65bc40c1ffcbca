import ActionGraph.Number
import ActionGraph.Dict

/-!
# JSON values

A JSON value is a tree over numbers, texts, truth values and null.  The
fields of an object stand in key order; `Json.ofFields` builds an object from
fields in any order, of which the last with a key counts.
-/

namespace ActionGraph

inductive Json where
  | null
  | bool (value : Bool)
  | num (value : Number)
  | str (value : String)
  | arr (items : List Json)
  | obj (fields : List (String × Json))

namespace Json

instance : Inhabited Json :=
  ⟨.null⟩

mutual

def same : Json → Json → Bool
  | .null, .null => true
  | .bool a, .bool b => a == b
  | .num a, .num b => decide (a = b)
  | .str a, .str b => a == b
  | .arr as, .arr bs => sameItems as bs
  | .obj as, .obj bs => sameFields as bs
  | _, _ => false

def sameItems : List Json → List Json → Bool
  | [], [] => true
  | a :: as, b :: bs => same a b && sameItems as bs
  | _, _ => false

def sameFields : List (String × Json) → List (String × Json) → Bool
  | [], [] => true
  | (k, a) :: as, (l, b) :: bs => k == l && same a b && sameFields as bs
  | _, _ => false

end

mutual

theorem same_iff (a b : Json) : same a b = true ↔ a = b := by
  cases a with
  | null => cases b <;> simp [same]
  | bool _ => cases b <;> simp [same]
  | num _ => cases b <;> simp [same]
  | str _ => cases b <;> simp [same]
  | arr as => cases b <;> simp [same, sameItems_iff as]
  | obj as => cases b <;> simp [same, sameFields_iff as]

theorem sameItems_iff (as bs : List Json) : sameItems as bs = true ↔ as = bs := by
  cases as with
  | nil => cases bs <;> simp [sameItems]
  | cons a as =>
      cases bs with
      | nil => simp [sameItems]
      | cons b bs => simp [sameItems, same_iff a b, sameItems_iff as bs]

theorem sameFields_iff (as bs : List (String × Json)) : sameFields as bs = true ↔ as = bs := by
  cases as with
  | nil => cases bs <;> simp [sameFields]
  | cons a as =>
      obtain ⟨k, a⟩ := a
      cases bs with
      | nil => simp [sameFields]
      | cons b bs =>
          obtain ⟨l, b⟩ := b
          simp [sameFields, same_iff a b, sameFields_iff as bs, and_assoc]

end

instance : DecidableEq Json := fun a b =>
  decidable_of_iff (same a b = true) (same_iff a b)

mutual

/--
Equality of values.  Numbers are compared within their kind, so the two
float zeros are equal while `1` and `1.0` are not.
-/
def eqv : Json → Json → Bool
  | .null, .null => true
  | .bool a, .bool b => a == b
  | .num a, .num b => a.eqv b
  | .str a, .str b => a == b
  | .arr as, .arr bs => eqvItems as bs
  | .obj as, .obj bs => eqvFields as bs
  | _, _ => false

def eqvItems : List Json → List Json → Bool
  | [], [] => true
  | a :: as, b :: bs => eqv a b && eqvItems as bs
  | _, _ => false

def eqvFields : List (String × Json) → List (String × Json) → Bool
  | [], [] => true
  | (k, a) :: as, (l, b) :: bs => k == l && eqv a b && eqvFields as bs
  | _, _ => false

end

/-- The object of a list of fields, in which a later field counts. -/
def ofFields (fields : List (String × Json)) : Json :=
  .obj (Dict.ofList fields).entries

def ofDict (d : Dict Json) : Json :=
  .obj d.entries

def emptyObject : Json :=
  .obj []

/-- A double-precision number; null if it is not finite. -/
def ofBinary64 (x : Binary64) : Json :=
  match Number.ofBinary64? x with
  | some number => .num number
  | none => .null

/-- An integer; beyond the range of integers, the nearest float. -/
@[irreducible] def ofInt (z : Int) : Json :=
  match Number.ofInt? z with
  | some number => .num number
  | none => ofBinary64 (.ofInt z)

def ofNat (n : Nat) : Json :=
  .ofInt n

def ofBinary32 (x : Binary32) : Json :=
  ofBinary64 x.widen

/-- The number whose digits are those of a single-precision number; null if it is not finite. -/
def ofShortest32 (x : Binary32) : Json :=
  if x.isFinite then
    let d := Decimal.shortest32 x
    ofBinary64 (.ofDecimal x.negative d.digits d.exponent)
  else .null

def ofStrings (texts : List String) : Json :=
  .arr (texts.map .str)

def field? (key : String) : Json → Option Json
  | .obj fields => Entries.find? key fields
  | _ => none

def field (key : String) (value : Json) : Json :=
  (value.field? key).getD .null

def string? : Json → Option String
  | .str s => some s
  | _ => none

def bool? : Json → Option Bool
  | .bool b => some b
  | _ => none

def array? : Json → Option (List Json)
  | .arr items => some items
  | _ => none

def object? : Json → Option (List (String × Json))
  | .obj fields => some fields
  | _ => none

def number? : Json → Option Number
  | .num n => some n
  | _ => none

def nat? : Json → Option Nat
  | .num n => n.toNat?
  | _ => none

def binary64? : Json → Option Binary64
  | .num n => some n.toBinary64
  | _ => none

def isNull : Json → Bool
  | .null => true
  | _ => false

def isObject : Json → Bool
  | .obj _ => true
  | _ => false

end Json

end ActionGraph
