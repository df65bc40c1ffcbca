import ActionGraph.Template.Value

/-!
# Arithmetic of template expressions

Integers have 128 bits and never wrap.  An operation on two numbers of which
one is a float is one of floats.  Texts and lists can be joined and repeated.
-/

namespace ActionGraph.Template.Value

/-- The bound of the integers that have no more than 128 bits. -/
def intBound : Int :=
  0x80000000000000000000000000000000

def ofInt? (z : Int) : Option Value :=
  if -intBound ≤ z ∧ z < intBound then some (.int z) else Option.none

def impossible (symbol : String) (a b : Value) : Trouble :=
  .invalidOperation <|
    "tried to use " ++ symbol ++ " operator on unsupported types " ++ a.kind ++ " and " ++ b.kind

def incalculable (symbol : String) (a b : Value) : Trouble :=
  .invalidOperation ("unable to calculate " ++ a.text ++ " " ++ symbol ++ " " ++ b.text)

/-- An operation on numbers, of which the one on integers may have no result. -/
def numeric (symbol : String) (onInts : Int → Int → Option Int)
    (onFloats : Float → Float → Float) (a b : Value) : Except Trouble Value :=
  match pair? true a b with
  | some (.ints x y) =>
      match (onInts x y).bind ofInt? with
      | some value => .ok value
      | Option.none => .error (incalculable symbol a b)
  | some (.floats x y) => .ok (.float (.ofFloat (onFloats x.toFloat y.toFloat)))
  | Option.none => .error (impossible symbol a b)

def add (a b : Value) : Except Trouble Value :=
  match a, b with
  | .list items, .list others => .ok (.list (items ++ others))
  | .str s, .str t => .ok (.str (s ++ t))
  | _, _ => numeric "+" (fun x y => some (x + y)) (· + ·) a b

def subtract (a b : Value) : Except Trouble Value :=
  numeric "-" (fun x y => some (x - y)) (· - ·) a b

def times? : Value → Option Nat
  | .int (.ofNat n) => some n
  | .bool b => some (if b then 1 else 0)
  | _ => Option.none

/-- The longest text or list that a repetition makes. -/
def repetitionLimit : Nat :=
  100000

def multiply (a b : Value) : Except Trouble Value :=
  match a, b with
  | .str s, n => repeatText s n
  | n, .str s => repeatText s n
  | .list items, n => repeatItems items n
  | n, .list items => repeatItems items n
  | _, _ => numeric "*" (fun x y => some (x * y)) (· * ·) a b
where
  repeatText (s : String) (n : Value) : Except Trouble Value :=
    match times? n with
    | some n =>
        if repetitionLimit < s.length * n then
          .error (.invalidOperation "repeated string is too long")
        else .ok (.str (String.join (List.replicate n s)))
    | Option.none => .error (.invalidOperation "strings can only be multiplied with integers")
  repeatItems (items : List Value) (n : Value) : Except Trouble Value :=
    match times? n with
    | some n =>
        if repetitionLimit < items.length * n then
          .error (.invalidOperation "repeated sequence is too long")
        else .ok (.list (List.replicate n items).flatten)
    | Option.none =>
        .error (.invalidOperation "sequences and iterables can only be multiplied with integers")

def divide (a b : Value) : Except Trouble Value :=
  match float? true a, float? true b with
  | some x, some y => .ok (.float (.ofFloat (x.toFloat / y.toFloat)))
  | _, _ => .error (impossible "/" a b)

def assemble (negative : Bool) (significand : Nat) (exponent : Int) : Float :=
  let spare := Nat.log2 significand - 52
  let magnitude :=
    (Binary64.ofNat (significand >>> spare)).toFloat.scaleB (exponent + (spare : Int))
  if negative then -magnitude else magnitude

/-- The remainder of floats, with the sign of the dividend; it is exact. -/
def remainder (x y : Float) : Float :=
  let a := Binary64.ofFloat x
  let b := Binary64.ofFloat y
  if !a.isFinite || b.isNaN || b.magnitude = 0 then 0.0 / 0.0
  else if !b.isFinite then x
  else
    let (m, e) := a.parts
    let (n, f) := b.parts
    let low := min e f
    assemble a.negative ((m <<< (e - low).toNat) % (n <<< (f - low).toNat)) low

/-- The quotient of floats for which the remainder is not negative. -/
def wholeQuotient (x y : Float) : Float :=
  let quotient := x / y
  let whole := if quotient < 0 then quotient.ceil else quotient.floor
  if remainder x y < 0 then (if 0 < y then whole - 1 else whole + 1) else whole

def divideWhole (a b : Value) : Except Trouble Value :=
  numeric "//" (fun x y => if y = 0 then Option.none else some (x / y)) wholeQuotient a b

def modulo (a b : Value) : Except Trouble Value :=
  numeric "%" (fun x y => if y = 0 then Option.none else some (x % y)) remainder a b

/-- A power of an integer, if it is not out of all proportion. -/
def intPower? (x : Int) : Int → Option Int
  | .negSucc _ => Option.none
  | .ofNat n =>
      if n ≤ 127 then some (Int.pow x n)
      else if x.natAbs ≤ 1 ∧ n < Nat.pow 2 32 then some (Int.pow x (n % 2 + 2))
      else Option.none

def power (a b : Value) : Except Trouble Value :=
  numeric "**" intPower? Float.pow a b

def negate : Value → Except Trouble Value
  | .int z =>
      match ofInt? (-z) with
      | some value => .ok value
      | Option.none => .error (.invalidOperation "overflow")
  | .float x => .ok (.float (.ofFloat (-x.toFloat)))
  | _ => .error .noOperation

def concat (a b : Value) : Value :=
  .str (a.text ++ b.text)

end ActionGraph.Template.Value
