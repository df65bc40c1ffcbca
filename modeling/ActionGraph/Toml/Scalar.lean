import ActionGraph.Text.Split
import ActionGraph.Time
import ActionGraph.Toml.Basic

/-!
# Texts, numbers and times in TOML

Each reader takes the characters that are left and gives a value with the
characters behind it, or nothing.
-/

namespace ActionGraph.Toml

abbrev Reader (α : Type) :=
  List Char → Option (α × List Char)

/-! ## Blanks -/

def isBlank (c : Char) : Bool :=
  c = ' ' || c = '\t'

def skipBlanks (cs : List Char) : List Char :=
  cs.dropWhile isBlank

/-- Whether a character may stand in a comment. -/
def isPlain (c : Char) : Bool :=
  c = '\t' || (decide (' ' ≤ c) && c ≠ '\x7f')

def lineBreak? : List Char → Option (List Char)
  | '\n' :: rest => some rest
  | '\r' :: '\n' :: rest => some rest
  | _ => none

def skipComment : List Char → List Char
  | '#' :: rest => rest.dropWhile isPlain
  | cs => cs

def lineEnd? (cs : List Char) : Option (List Char) :=
  match skipComment (skipBlanks cs) with
  | [] => some []
  | cs => lineBreak? cs

def skipLines : Nat → List Char → List Char
  | 0, cs => cs
  | fuel + 1, cs =>
      let cs := skipBlanks cs
      match cs with
      | '#' :: _ =>
          match lineBreak? (skipComment cs) with
          | some rest => skipLines fuel rest
          | none => cs
      | _ =>
          match lineBreak? cs with
          | some rest => skipLines fuel rest
          | none => cs

/-! ## Digits -/

def digitValue? (base : Nat) (c : Char) : Option Nat :=
  let value? :=
    match Text.digit? c with
    | some d => some d
    | none =>
        if 'a' ≤ c ∧ c ≤ 'f' then some (c.toNat - 'a'.toNat + 10)
        else if 'A' ≤ c ∧ c ≤ 'F' then some (c.toNat - 'A'.toNat + 10)
        else none
  value?.bind fun d => if d < base then some d else none

/-- Digits, each after the first with at most one underscore before it. -/
def moreDigits (base : Nat) : List Nat → List Char → List Nat × List Char
  | digits, '_' :: c :: rest =>
      match digitValue? base c with
      | some d => moreDigits base (d :: digits) rest
      | none => (digits.reverse, '_' :: c :: rest)
  | digits, c :: rest =>
      match digitValue? base c with
      | some d => moreDigits base (d :: digits) rest
      | none => (digits.reverse, c :: rest)
  | digits, [] => (digits.reverse, [])

def digits? (base : Nat) : Reader (List Nat)
  | [] => none
  | c :: rest => (digitValue? base c).map fun d => moreDigits base [d] rest

def ofDigits (base : Nat) (digits : List Nat) : Nat :=
  digits.foldl (fun n d => n * base + d) 0

/-- Exactly so many decimal digits. -/
def fixed? : Nat → Nat → Reader Nat
  | 0, value, cs => some (value, cs)
  | _ + 1, _, [] => none
  | count + 1, value, c :: rest =>
      (Text.digit? c).bind fun d => fixed? count (value * 10 + d) rest

/-! ## Numbers -/

def sign : List Char → Bool × List Char
  | '-' :: rest => (true, rest)
  | '+' :: rest => (false, rest)
  | cs => (false, cs)

/-- The digits of a whole number; the digit zero stands alone. -/
def whole? : Reader (List Nat)
  | '0' :: rest => some ([0], rest)
  | cs => digits? 10 cs

/-- The integers of TOML have 64 bits. -/
def integerItem? (value : Int) : Option Item :=
  if -0x8000000000000000 ≤ value ∧ value < 0x8000000000000000 then some (.integer value) else none

def based? (base : Nat) (cs : List Char) : Option (Item × List Char) := do
  let (digits, rest) ← digits? base cs
  return (← integerItem? (ofDigits base digits), rest)

def integer? : Reader Item
  | '0' :: 'x' :: rest => based? 16 rest
  | '0' :: 'o' :: rest => based? 8 rest
  | '0' :: 'b' :: rest => based? 2 rest
  | cs => do
      let (negative, cs) := sign cs
      let (digits, rest) ← whole? cs
      let value : Int := ofDigits 10 digits
      return (← integerItem? (if negative then -value else value), rest)

def exponent? : Reader Int
  | c :: rest =>
      if c = 'e' ∨ c = 'E' then do
        let (negative, rest) := sign rest
        let (digits, rest) ← digits? 10 rest
        let value : Int := ofDigits 10 digits
        return (if negative then -value else value, rest)
      else none
  | [] => none

/-- A float with a sign, digits and a power of ten; none beyond the greatest. -/
def floatItem? (negative : Bool) (digits : List Nat) (power : Int) : Option Item :=
  let value := Binary64.ofDecimal negative (ofDigits 10 digits) power
  if !value.isFinite && !value.negative then none else some (.float value)

def decimal? (cs : List Char) : Option (Item × List Char) := do
  let (negative, cs) := sign cs
  let (front, cs) ← whole? cs
  match exponent? cs with
  | some (power, rest) => return (← floatItem? negative front power, rest)
  | none =>
      match cs with
      | '.' :: cs => do
          let (back, cs) ← digits? 10 cs
          let (power, rest) := (exponent? cs).getD (0, cs)
          return (← floatItem? negative (front ++ back) (power - back.length), rest)
      | _ => none

def named? (cs : List Char) : Option (Item × List Char) :=
  let (negative, cs) := sign cs
  match cs with
  | 'i' :: 'n' :: 'f' :: rest => some (.float (.ofMagnitude negative Binary64.infinite), rest)
  | 'n' :: 'a' :: 'n' :: rest =>
      some (.float (.ofMagnitude negative (Binary64.infinite + Nat.pow 2 51)), rest)
  | _ => none

/-! ## Times -/

def isDay (year month day : Nat) : Bool :=
  let leap := year % 4 = 0 ∧ (year % 100 ≠ 0 ∨ year % 400 = 0)
  let last :=
    if month = 2 then (if leap then 29 else 28)
    else if month = 4 ∨ month = 6 ∨ month = 9 ∨ month = 11 then 30
    else 31
  decide (1 ≤ month ∧ month ≤ 12 ∧ 1 ≤ day ∧ day ≤ last)

def after? (c : Char) : List Char → Option (List Char)
  | d :: rest => if d = c then some rest else none
  | [] => none

def date? (cs : List Char) : Option (String × List Char) := do
  let (year, cs) ← fixed? 4 0 cs
  let (month, cs) ← fixed? 2 0 (← after? '-' cs)
  let (day, cs) ← fixed? 2 0 (← after? '-' cs)
  if isDay year month day then
    return (Time.padded 4 year ++ "-" ++ Time.padded 2 month ++ "-" ++ Time.padded 2 day, cs)
  else none

/-- The decimals of a second: nine at most count, and zeros at the end do not. -/
def decimals (digits : List Char) : String :=
  let shown := ((digits.take 9).reverse.dropWhile (· = '0')).reverse
  if shown.isEmpty then "" else "." ++ String.ofList shown

def clock? (cs : List Char) : Option (String × List Char) := do
  let (hour, cs) ← fixed? 2 0 cs
  let (minute, cs) ← fixed? 2 0 (← after? ':' cs)
  let (second, cs) ← fixed? 2 0 (← after? ':' cs)
  if 23 < hour ∨ 59 < minute ∨ 60 < second then none
  else
    let text := Time.padded 2 hour ++ ":" ++ Time.padded 2 minute ++ ":" ++ Time.padded 2 second
    match cs with
    | '.' :: rest =>
        let digits := rest.takeWhile fun c => (Text.digit? c).isSome
        if digits.isEmpty then none
        else return (text ++ decimals digits, rest.drop digits.length)
    | _ => return (text, cs)

def offset? : Reader String
  | 'Z' :: rest => some ("Z", rest)
  | 'z' :: rest => some ("Z", rest)
  | c :: cs =>
      if c = '+' ∨ c = '-' then do
        let (hour, cs) ← fixed? 2 0 cs
        let (minute, cs) ← fixed? 2 0 (← after? ':' cs)
        if 23 < hour ∨ 59 < minute then none
        else
          let shown := if c = '-' ∧ hour + minute ≠ 0 then "-" else "+"
          return (shown ++ Time.padded 2 hour ++ ":" ++ Time.padded 2 minute, cs)
      else none
  | [] => none

def time? (cs : List Char) : Option (Item × List Char) :=
  match date? cs with
  | some (date, rest) =>
      match rest with
      | c :: cs =>
          if c = 'T' ∨ c = 't' ∨ c = ' ' then
            match clock? cs with
            | some (time, behind) =>
                let (zone, behind) := (offset? behind).getD ("", behind)
                some (.time (date ++ "T" ++ time ++ zone), behind)
            | none => some (.time date, rest)
          else some (.time date, rest)
      | [] => some (.time date, rest)
  | none => (clock? cs).map fun (time, rest) => (.time time, rest)

def number? (cs : List Char) : Option (Item × List Char) :=
  time? cs <|> decimal? cs <|> named? cs <|> integer? cs

/-! ## Texts -/

def escape? : Reader Char
  | 'b' :: rest => some ('\x08', rest)
  | 't' :: rest => some ('\t', rest)
  | 'n' :: rest => some ('\n', rest)
  | 'f' :: rest => some ('\x0c', rest)
  | 'r' :: rest => some ('\r', rest)
  | '"' :: rest => some ('"', rest)
  | '\\' :: rest => some ('\\', rest)
  | 'u' :: rest => scalar? 4 rest
  | 'U' :: rest => scalar? 8 rest
  | _ => none
where
  /-- The character of so many hexadecimal digits. -/
  scalar? (count : Nat) (cs : List Char) : Option (Char × List Char) := do
    let digits ← (cs.take count).mapM (digitValue? 16)
    let n := ofDigits 16 digits
    if digits.length = count ∧ n.isValidChar then return (Char.ofNat n, cs.drop count) else none

def quoted? : Nat → List Char → List Char → Option (String × List Char)
  | 0, _, _ => none
  | fuel + 1, sofar, cs =>
      match cs with
      | '"' :: rest => some (String.ofList sofar.reverse, rest)
      | '\\' :: rest => (escape? rest).bind fun (c, rest) => quoted? fuel (c :: sofar) rest
      | c :: rest => if isPlain c then quoted? fuel (c :: sofar) rest else none
      | [] => none

def verbatim? : List Char → List Char → Option (String × List Char)
  | sofar, '\'' :: rest => some (String.ofList sofar.reverse, rest)
  | sofar, c :: rest => if isPlain c then verbatim? (c :: sofar) rest else none
  | _, [] => none

/-- What is behind a line break at the very beginning of a text of several lines. -/
def skipFirstBreak (cs : List Char) : List Char :=
  (lineBreak? cs).getD cs

/--
Quotes within a text of several lines: three end it, after at most two more
that belong to it.  Answers how many belong to it, and whether it ends.
-/
def quotes (quote : Char) (cs : List Char) : Nat × Bool × List Char :=
  let count := (cs.takeWhile (· = quote)).length
  if count < 3 then (count, false, cs.drop count)
  else
    let inner := min (count - 3) 2
    (inner, true, cs.drop (inner + 3))

/-- What is behind a backslash at the end of a line, and the blanks that follow. -/
def joined? (cs : List Char) : Option (List Char) :=
  (lineBreak? (skipBlanks cs)).map blanks
where
  /-- What is behind blanks and line breaks. -/
  blanks : List Char → List Char
    | '\r' :: '\n' :: rest => blanks rest
    | c :: rest => if isBlank c || c = '\n' then blanks rest else c :: rest
    | [] => []

def quotedLines? : Nat → List Char → List Char → Option (String × List Char)
  | 0, _, _ => none
  | fuel + 1, sofar, cs =>
      match cs with
      | '"' :: _ =>
          let (inner, ends, rest) := quotes '"' cs
          let sofar := List.replicate inner '"' ++ sofar
          if ends then some (String.ofList sofar.reverse, rest) else quotedLines? fuel sofar rest
      | '\\' :: rest =>
          match joined? rest with
          | some rest => quotedLines? fuel sofar rest
          | none => (escape? rest).bind fun (c, rest) => quotedLines? fuel (c :: sofar) rest
      | c :: rest =>
          match lineBreak? cs with
          | some rest => quotedLines? fuel ('\n' :: sofar) rest
          | none => if isPlain c then quotedLines? fuel (c :: sofar) rest else none
      | [] => none

def verbatimLines? : Nat → List Char → List Char → Option (String × List Char)
  | 0, _, _ => none
  | fuel + 1, sofar, cs =>
      match cs with
      | '\'' :: _ =>
          let (inner, ends, rest) := quotes '\'' cs
          let sofar := List.replicate inner '\'' ++ sofar
          if ends then some (String.ofList sofar.reverse, rest) else verbatimLines? fuel sofar rest
      | c :: rest =>
          match lineBreak? cs with
          | some rest => verbatimLines? fuel ('\n' :: sofar) rest
          | none => if isPlain c then verbatimLines? fuel (c :: sofar) rest else none
      | [] => none

def line? (cs : List Char) : Option (String × List Char) :=
  match cs with
  | '"' :: rest => quoted? (cs.length + 1) [] rest
  | '\'' :: rest => verbatim? [] rest
  | _ => none

def text? (cs : List Char) : Option (String × List Char) :=
  match cs with
  | '"' :: '"' :: '"' :: rest => quotedLines? (cs.length + 1) [] (skipFirstBreak rest)
  | '\'' :: '\'' :: '\'' :: rest => verbatimLines? (cs.length + 1) [] (skipFirstBreak rest)
  | _ => line? cs

end ActionGraph.Toml
