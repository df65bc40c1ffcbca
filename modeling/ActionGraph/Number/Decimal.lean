import ActionGraph.Number.Binary32

/-!
# Shortest decimal texts

A finite binary number is written with the fewest decimal digits that read
back as the same number; among those, the digits nearest to its value.  The
search works on exact natural numbers: the reals that round to the number
form an interval, and for each count of digits only the two neighbours of
the value on that decimal grid can fall into it.
-/

namespace ActionGraph.Decimal

/-- The digits of a decimal number as one natural number, times a power of ten. -/
structure Digits where
  digits : Nat
  exponent : Int
deriving DecidableEq, Inhabited, Repr

/-- A positive number with the interval of reals that round to it, all over
one denominator. -/
structure Rounded where
  low : Nat
  value : Nat
  high : Nat
  denominator : Nat
  closed : Bool

namespace Rounded

/--
The interval of a significand and an exponent of two.  Below a power of two
the neighbour is half as far away, unless it is the least exponent.
-/
def ofParts (significand : Nat) (exponent : Int) (atPower : Bool) : Rounded :=
  let scale := if 0 ≤ exponent then Nat.pow 2 exponent.toNat else 1
  { low := (4 * significand - (if atPower then 1 else 2)) * scale
    value := 4 * significand * scale
    high := (4 * significand + 2) * scale
    denominator := 4 * (if 0 ≤ exponent then 1 else Nat.pow 2 (-exponent).toNat)
    closed := significand % 2 = 0 }

/-- Whether `n * 10 ^ exponent` reads back as the number. -/
def holds (r : Rounded) (n : Nat) (exponent : Int) : Bool :=
  let up := if 0 ≤ exponent then Nat.pow 10 exponent.toNat else 1
  let down := if 0 ≤ exponent then 1 else Nat.pow 10 (-exponent).toNat
  let point := n * up * r.denominator
  if r.closed then decide (r.low * down ≤ point ∧ point ≤ r.high * down)
  else decide (r.low * down < point ∧ point < r.high * down)

/-- The better of the two neighbours of the value on the grid of one exponent. -/
def onGrid? (r : Rounded) (exponent : Int) : Option Digits :=
  let up := if 0 ≤ exponent then Nat.pow 10 exponent.toNat else 1
  let down := if 0 ≤ exponent then 1 else Nat.pow 10 (-exponent).toNat
  let unit := r.denominator * up
  let total := r.value * down
  let below := total / unit
  let rest := total % unit
  let lower := decide (0 < below) && r.holds below exponent
  let upper := r.holds (below + 1) exponent
  if lower && upper then
    if 2 * rest < unit ∨ (2 * rest = unit ∧ below % 2 = 0) then some ⟨below, exponent⟩
    else some ⟨below + 1, exponent⟩
  else if lower then some ⟨below, exponent⟩
  else if upper then some ⟨below + 1, exponent⟩
  else none

def leading (value denominator : Nat) : Int :=
  if denominator ≤ value then
    ((Nat.toDigits 10 (value / denominator)).length : Int) - 1
  else
    let guess := (Nat.toDigits 10 (denominator / value)).length
    if denominator ≤ value * Nat.pow 10 (guess - 1) then -((guess : Int) - 1) else -(guess : Int)

/-- Grids from coarse to fine. -/
def search (r : Rounded) : Nat → Int → Digits
  | 0, exponent => ⟨r.value / r.denominator, exponent⟩
  | fuel + 1, exponent =>
      match r.onGrid? exponent with
      | some d => d
      | none => search r fuel (exponent - 1)

/-- The fewest digits that read back, without trailing zeros. -/
def shortest (r : Rounded) : Digits :=
  r.search 24 (leading r.value r.denominator + 1)

end Rounded

def Digits.trim : Nat → Digits → Digits
  | 0, d => d
  | fuel + 1, d =>
      if d.digits ≠ 0 ∧ d.digits % 10 = 0 then
        Digits.trim fuel ⟨d.digits / 10, d.exponent + 1⟩
      else d

def shortest64 (x : Binary64) : Digits :=
  if x.magnitude = 0 then ⟨0, 0⟩ else
    let (significand, exponent) := x.parts
    let atPower := significand = Nat.pow 2 52 ∧ exponent ≠ -1074
    (Rounded.ofParts significand exponent atPower).shortest.trim 400

def shortest32 (x : Binary32) : Digits :=
  if x.magnitude = 0 then ⟨0, 0⟩ else
    let (significand, exponent) := x.parts
    let atPower := significand = Nat.pow 2 23 ∧ exponent ≠ -149
    (Rounded.ofParts significand exponent atPower).shortest.trim 60

structure Format where
  /-- Positional notation is used up to this many digits before the point. -/
  integerDigits : Option Nat
  /-- Positional notation is used up to this many zeros after the point. -/
  leadingZeros : Option Nat
  /-- A number without fractional digits gets the fraction zero. -/
  pointZero : Bool
deriving DecidableEq, Repr

def zeros (n : Nat) : String :=
  String.ofList (List.replicate n '0')

def Format.render (format : Format) (d : Digits) : String :=
  let text := toString d.digits
  let count := text.length
  let point : Int := count + d.exponent
  let whole := if format.pointZero then ".0" else ""
  if d.digits = 0 then "0" ++ whole
  else if 0 ≤ d.exponent ∧ (format.integerDigits.all fun n => point ≤ n) then
    text ++ zeros d.exponent.toNat ++ whole
  else if d.exponent < 0 ∧ 0 < point ∧ (format.integerDigits.all fun n => point ≤ n) then
    String.ofList (text.toList.take point.toNat) ++ "."
      ++ String.ofList (text.toList.drop point.toNat)
  else if point ≤ 0 ∧ (format.leadingZeros.all fun n => -point ≤ n) then
    "0." ++ zeros (-point).toNat ++ text
  else
    let head := String.ofList (text.toList.take 1)
    let tail := String.ofList (text.toList.drop 1)
    let power := point - 1
    head ++ (if tail.isEmpty then "" else "." ++ tail) ++ "e" ++ toString power

def signed (negative : Bool) (text : String) : String :=
  if negative then "-" ++ text else text

def json64 : Format := ⟨some 16, some 4, true⟩

def json32 : Format := ⟨some 13, some 5, true⟩

/-- Positional notation throughout. -/
def plain : Format := ⟨none, none, false⟩

def plainPoint : Format := ⟨none, none, true⟩

def render64 (format : Format) (x : Binary64) : String :=
  if x.isNaN then "NaN"
  else if x.isFinite then signed x.negative (format.render (shortest64 x))
  else signed x.negative "inf"

def render32 (format : Format) (x : Binary32) : String :=
  if x.isNaN then "NaN"
  else if x.isFinite then signed x.negative (format.render (shortest32 x))
  else signed x.negative "inf"

end ActionGraph.Decimal
