/-!
# Binary64 numbers

A double-precision number is its 64-bit pattern.  Order and equality of two
numbers are read off the pattern through a signed integer key, in which the
two zeros coincide, so they are decided by integer comparison.  Integers are
rounded to the nearest pattern with ties to the even significand.
-/

namespace ActionGraph

/-- A double-precision number, held as its bit pattern. -/
structure Binary64 where
  bits : UInt64
deriving DecidableEq, Inhabited, Repr

namespace Binary64

/-- The pattern without its sign bit. -/
def magnitude (x : Binary64) : Nat :=
  x.bits.toNat % Nat.pow 2 63

def negative (x : Binary64) : Bool :=
  decide (Nat.pow 2 63 ≤ x.bits.toNat)

def infinite : Nat :=
  0x7ff0000000000000

def isFinite (x : Binary64) : Bool :=
  decide (x.magnitude < infinite)

def isNaN (x : Binary64) : Bool :=
  decide (infinite < x.magnitude)

def key (x : Binary64) : Int :=
  if x.negative then -(x.magnitude : Int) else x.magnitude

/-- Numeric equality: no NaN is equal to anything. -/
def eqv (x y : Binary64) : Bool :=
  !x.isNaN && !y.isNaN && decide (x.key = y.key)

def lt (x y : Binary64) : Bool :=
  !x.isNaN && !y.isNaN && decide (x.key < y.key)

def le (x y : Binary64) : Bool :=
  !x.isNaN && !y.isNaN && decide (x.key ≤ y.key)

/-- Division by a power of two, to the nearest integer, a tie to the even one. -/
def shiftRounding (n shift : Nat) : Nat :=
  let quotient := n >>> shift
  let rest := n % Nat.pow 2 shift
  let half := Nat.pow 2 shift
  if half < 2 * rest ∨ (2 * rest = half ∧ quotient % 2 = 1) then quotient + 1 else quotient

def magnitudeOfNat (n : Nat) : Nat :=
  if n = 0 then 0 else
    let top := Nat.log2 n
    let significand := if top ≤ 52 then n <<< (52 - top) else shiftRounding n (top - 52)
    min infinite ((top + 1022) * Nat.pow 2 52 + significand)

def ofMagnitude (negative : Bool) (magnitude : Nat) : Binary64 :=
  ⟨UInt64.ofNat (if negative then magnitude + Nat.pow 2 63 else magnitude)⟩

def ofNat (n : Nat) : Binary64 :=
  ofMagnitude false (magnitudeOfNat n)

def ofInt : Int → Binary64
  | .ofNat n => ofNat n
  | .negSucc n => ofMagnitude true (magnitudeOfNat (n + 1))

/-- A quotient to the nearest integer, a tie to the even one. -/
def divRounding (n d : Nat) : Nat :=
  let quotient := n / d
  let rest := n % d
  if d < 2 * rest ∨ (2 * rest = d ∧ quotient % 2 = 1) then quotient + 1 else quotient

/-- The exponent of two of the leading bit of a quotient. -/
def leadingBit (n d : Nat) : Int :=
  let guess : Int := (Nat.log2 n : Int) - Nat.log2 d
  let fits :=
    if 0 ≤ guess then decide (d <<< guess.toNat ≤ n) else decide (d ≤ n <<< (-guess).toNat)
  if fits then guess else guess - 1

def magnitudeOfQuotient (n d : Nat) : Nat :=
  if n = 0 then 0 else
    let unit := max (leadingBit n d - 52) (-1074)
    let significand :=
      if 0 ≤ unit then divRounding n (d <<< unit.toNat)
      else divRounding (n <<< (-unit).toNat) d
    min infinite ((unit + 1074).toNat * Nat.pow 2 52 + significand)

/--
The number nearest to a natural number times a power of ten.  Powers at which
every number of so many digits is too large or too small are cut short.
-/
def ofDecimal (negative : Bool) (digits : Nat) (power : Int) : Binary64 :=
  let magnitude := match power with
    | .ofNat n => magnitudeOfQuotient (digits * Nat.pow 10 (min n 400)) 1
    | .negSucc n => magnitudeOfQuotient digits (Nat.pow 10 (min (n + 1) (Nat.log2 digits + 400)))
  ofMagnitude negative magnitude

def nan : Binary64 :=
  ⟨0x7ff8000000000000⟩

def toFloat (x : Binary64) : Float :=
  Float.ofBits x.bits

def ofFloat (x : Float) : Binary64 :=
  ⟨x.toBits⟩

def parts (x : Binary64) : Nat × Int :=
  let field : Nat := x.magnitude / Nat.pow 2 52
  let fraction : Nat := x.magnitude % Nat.pow 2 52
  if field = 0 then (fraction, -1074) else (fraction + Nat.pow 2 52, (field : Int) - 1075)

/-- The integer part, toward zero, of a finite number without its sign. -/
def floorMagnitude (x : Binary64) : Nat :=
  let (significand, exponent) := x.parts
  if 0 ≤ exponent then significand <<< exponent.toNat else significand >>> (-exponent).toNat

/-- The integer nearest to a finite number without its sign; a half goes up. -/
def roundMagnitude (x : Binary64) : Nat :=
  let (significand, exponent) := x.parts
  if 0 ≤ exponent then significand <<< exponent.toNat
  else
    let shift := (-exponent).toNat
    (significand + Nat.pow 2 (shift - 1)) >>> shift

def isWhole (x : Binary64) : Bool :=
  let (significand, exponent) := x.parts
  decide (0 ≤ exponent) || significand % Nat.pow 2 (-exponent).toNat == 0

end Binary64

end ActionGraph
