import ActionGraph.Number.Decimal

/-!
# Numbers of a JSON value

A number is an integer between the least signed and the greatest unsigned
64-bit integer, or a finite double-precision number.  The two kinds never
coincide: `1` and `1.0` are different numbers of the same magnitude.
-/

namespace ActionGraph

inductive Number where
  | int (value : Int) (inRange : -0x8000000000000000 ≤ value ∧ value < 0x10000000000000000)
  | float (value : Binary64) (finite : value.isFinite = true)
deriving DecidableEq

namespace Number

instance : Inhabited Number :=
  ⟨.int 0 (by decide)⟩

def ofInt? (z : Int) : Option Number :=
  if h : -0x8000000000000000 ≤ z ∧ z < 0x10000000000000000 then some (.int z h) else none

def ofBinary64? (x : Binary64) : Option Number :=
  if h : x.isFinite = true then some (.float x h) else none

def toBinary64 : Number → Binary64
  | .int z _ => .ofInt z
  | .float x _ => x

/-- Equality of magnitude, after both sides are rounded to double precision. -/
def sameMagnitude (a b : Number) : Bool :=
  a.toBinary64.eqv b.toBinary64

/-- Equality as numbers of the same kind; both zeros of a float are equal. -/
def eqv : Number → Number → Bool
  | .int a _, .int b _ => decide (a = b)
  | .float a _, .float b _ => a.eqv b
  | _, _ => false

def toNat? : Number → Option Nat
  | .int (.ofNat n) _ => some n
  | _ => none

def render : Number → String
  | .int z _ => toString z
  | .float x _ => Decimal.render64 Decimal.json64 x

end Number

end ActionGraph
