import ActionGraph.Number.Binary64

/-!
# Binary32 numbers

A single-precision number is its 32-bit pattern.  Thresholds, temperatures
and embedding vectors are single-precision; they are widened exactly when
they stand in a JSON value.
-/

namespace ActionGraph

/-- A single-precision number, held as its bit pattern. -/
structure Binary32 where
  bits : UInt32
deriving DecidableEq, Inhabited, Repr

namespace Binary32

def magnitude (x : Binary32) : Nat :=
  x.bits.toNat % Nat.pow 2 31

def negative (x : Binary32) : Bool :=
  decide (Nat.pow 2 31 ≤ x.bits.toNat)

/-- The smallest magnitude that is no finite number. -/
def infinite : Nat :=
  0x7f800000

def isFinite (x : Binary32) : Bool :=
  decide (x.magnitude < infinite)

def isNaN (x : Binary32) : Bool :=
  decide (infinite < x.magnitude)

/-- The place of a number in numeric order; both zeros have place zero. -/
def key (x : Binary32) : Int :=
  if x.negative then -(x.magnitude : Int) else x.magnitude

/-- Numeric order: no NaN is below anything. -/
def lt (x y : Binary32) : Bool :=
  !x.isNaN && !y.isNaN && decide (x.key < y.key)

def le (x y : Binary32) : Bool :=
  !x.isNaN && !y.isNaN && decide (x.key ≤ y.key)

def nan : Binary32 :=
  ⟨0x7fc00000⟩

def ofMagnitude (negative : Bool) (magnitude : Nat) : Binary32 :=
  ⟨UInt32.ofNat (if negative then magnitude + Nat.pow 2 31 else magnitude)⟩

/-- The significand and the exponent of two of a finite number without its sign. -/
def parts (x : Binary32) : Nat × Int :=
  let field : Nat := x.magnitude / Nat.pow 2 23
  let fraction : Nat := x.magnitude % Nat.pow 2 23
  if field = 0 then (fraction, -149) else (fraction + Nat.pow 2 23, (field : Int) - 150)

/-! ## Rounding -/

def magnitudeOfQuotient (n d : Nat) : Nat :=
  if n = 0 then 0 else
    let unit := max (Binary64.leadingBit n d - 23) (-149)
    let significand :=
      if 0 ≤ unit then Binary64.divRounding n (d <<< unit.toNat)
      else Binary64.divRounding (n <<< (-unit).toNat) d
    min infinite ((unit + 149).toNat * Nat.pow 2 23 + significand)

/-- The number nearest to a quotient times a power of two, with a sign. -/
def nearest (negative : Bool) (n d : Nat) (power : Int) : Binary32 :=
  ofMagnitude negative (magnitudeOfQuotient (n <<< power.toNat) (d <<< (-power).toNat))

def widen (x : Binary32) : Binary64 :=
  if x.isFinite then
    let (significand, exponent) := x.parts
    .ofMagnitude x.negative <| Binary64.magnitudeOfQuotient
      (significand <<< exponent.toNat) (1 <<< (-exponent).toNat)
  else if x.isNaN then .nan
  else .ofMagnitude x.negative Binary64.infinite

def narrow (x : Binary64) : Binary32 :=
  if x.isFinite then nearest x.negative x.parts.1 1 x.parts.2
  else if x.isNaN then nan
  else ofMagnitude x.negative infinite

def ofInt : Int → Binary32
  | .ofNat n => nearest false n 1 0
  | .negSucc n => nearest true (n + 1) 1 0

/-! ## Arithmetic -/

/-- A finite number as a multiple of a power of two that divides it. -/
def multiple (x : Binary32) (power : Int) : Int :=
  let units := x.parts.1 <<< (x.parts.2 - power).toNat
  if x.negative then -(units : Int) else units

/-- The sum; opposite numbers cancel to a zero without a sign. -/
def add (x y : Binary32) : Binary32 :=
  if x.isNaN || y.isNaN then nan
  else if x.isFinite && y.isFinite then
    let power := min x.parts.2 y.parts.2
    let sum := x.multiple power + y.multiple power
    nearest (decide (sum < 0) || x.negative && y.negative) sum.natAbs 1 power
  else if x.isFinite then y
  else if y.isFinite || x == y then x
  else nan

def mul (x y : Binary32) : Binary32 :=
  let negative := x.negative != y.negative
  if x.isNaN || y.isNaN then nan
  else if x.isFinite && y.isFinite then
    nearest negative (x.parts.1 * y.parts.1) 1 (x.parts.2 + y.parts.2)
  else if x.magnitude = 0 ∨ y.magnitude = 0 then nan
  else ofMagnitude negative infinite

def div (x y : Binary32) : Binary32 :=
  let negative := x.negative != y.negative
  if x.isNaN || y.isNaN then nan
  else if x.isFinite && y.isFinite then
    if y.magnitude ≠ 0 then nearest negative x.parts.1 y.parts.1 (x.parts.2 - y.parts.2)
    else if x.magnitude = 0 then nan
    else ofMagnitude negative infinite
  else if x.isFinite then ofMagnitude negative 0
  else if y.isFinite then ofMagnitude negative infinite
  else nan

instance : Add Binary32 :=
  ⟨add⟩

instance : Mul Binary32 :=
  ⟨mul⟩

instance : Div Binary32 :=
  ⟨div⟩

/-- The integer square root, found bit by bit from a root of the bits above. -/
def rootFrom (n : Nat) : Nat → Nat → Nat
  | 0, root => root
  | bits + 1, root =>
      let next := root + Nat.pow 2 bits
      rootFrom n bits (if next * next ≤ n then next else root)

theorem rootFrom_spec {n bits root : Nat} (below : root * root ≤ n)
    (above : n < (root + Nat.pow 2 bits) * (root + Nat.pow 2 bits)) :
    rootFrom n bits root * rootFrom n bits root ≤ n ∧
      n < (rootFrom n bits root + 1) * (rootFrom n bits root + 1) := by
  induction bits generalizing root with
  | zero => exact ⟨below, above⟩
  | succ bits ih =>
      have twice : root + Nat.pow 2 (bits + 1) = root + Nat.pow 2 bits + Nat.pow 2 bits := by
        rw [Nat.pow_eq, Nat.pow_succ, Nat.mul_two, Nat.add_assoc]
        rfl
      rw [rootFrom]
      split
      · rename_i fits
        exact ih fits (twice ▸ above)
      · rename_i large
        exact ih below (Nat.lt_of_not_le large)

def sqrt (x : Binary32) : Binary32 :=
  if x.magnitude = 0 then x
  else if x.isNaN || x.negative then nan
  else if x.isFinite then
    let (significand, exponent) := x.parts
    -- an even exponent, and more bits in the root than a significand has
    let shift := if exponent % 2 = 0 then 52 else 53
    let root := rootFrom (significand <<< shift) 39 0
    -- one bit more tells whether the root is exact
    let sticky := if root * root = significand <<< shift then 0 else 1
    nearest false (2 * root + sticky) 1 ((exponent - shift) / 2 - 1)
  else x

end Binary32

end ActionGraph
