import ActionGraph.Number.Binary64
import ActionGraph.Template.Fault
import ActionGraph.Text.Case
import ActionGraph.Text.Split

/-!
# Tokens of templates

A template is plain text with expressions and statements between markers.  A
marker may ask that the blanks next to it are left out.  Comments are left
out, and so is a line break at the very end.
-/

namespace ActionGraph.Template

inductive Token where
  | text (content : List Char)
  | expressionStart
  | expressionEnd
  | statementStart
  | statementEnd
  | name (name : String)
  | string (value : String)
  | integer (value : Nat)
  | float (value : Binary64)
  | symbol (symbol : String)
deriving DecidableEq

namespace Token

def describe : Token → String
  | .text _ => "template-data"
  | .expressionStart => "start of variable block"
  | .expressionEnd => "end of variable block"
  | .statementStart => "start of block"
  | .statementEnd => "end of block"
  | .name _ => "identifier"
  | .string _ => "string"
  | .integer _ => "integer"
  | .float _ => "float"
  | .symbol s => "`" ++ s ++ "`"

end Token

/-- A token and the line on which it starts. -/
structure Located where
  token : Token
  line : Nat
deriving DecidableEq

/-- The tokens of a template up to its end, or up to a fault. -/
structure Tokens where
  list : List Located
  fault : Option Fault
deriving DecidableEq

namespace Tokens

def one (token : Token) (line : Nat) (rest : Tokens) : Tokens :=
  { rest with list := ⟨token, line⟩ :: rest.list }

def ended : Tokens :=
  ⟨[], none⟩

def broken (trouble : Trouble) (line : Nat) : Tokens :=
  ⟨[], some ⟨trouble, line⟩⟩

end Tokens

namespace Scan

def lineAfter (line : Nat) (cs : List Char) : Nat :=
  line + cs.count '\n'

/-- What is between markers. -/
inductive Marker where
  | expression
  | statement
  | comment
deriving DecidableEq, Repr

def Marker.ofChar? : Char → Option Marker
  | '{' => some .expression
  | '%' => some .statement
  | '#' => some .comment
  | _ => none

/-- The text before the first marker, the marker, and what follows it. -/
def untilMarker : List Char → List Char × Option (Marker × List Char)
  | '{' :: c :: rest =>
      match Marker.ofChar? c with
      | some marker => ([], some (marker, rest))
      | none =>
          let (text, found) := untilMarker (c :: rest)
          ('{' :: text, found)
  | c :: rest =>
      let (text, found) := untilMarker rest
      (c :: text, found)
  | [] => ([], none)

/-- What a marker says about the blanks next to it. -/
inductive Blanks where
  | plain
  | keep
  | drop
deriving DecidableEq, Repr

def Blanks.ofChar? : Char → Option Blanks
  | '-' => some .drop
  | '+' => some .keep
  | _ => none

def takeBlanks : List Char → Blanks × List Char
  | c :: rest =>
      match Blanks.ofChar? c with
      | some blanks => (blanks, rest)
      | none => (.plain, c :: rest)
  | [] => (.plain, [])

def untilPair (a b : Char) : List Char → Option (List Char × List Char)
  | c :: d :: rest =>
      if c = a ∧ d = b then some ([], rest)
      else (untilPair a b (d :: rest)).map fun (text, after) => (c :: text, after)
  | _ => none

def isSpace (c : Char) : Bool :=
  c = ' ' || c = '\t' || c = '\n' || c = '\r' || c = '\x0c'

def isDigit (c : Char) : Bool :=
  decide ('0' ≤ c ∧ c ≤ '9')

def isNameStart (c : Char) : Bool :=
  c = '_' || decide (('a' ≤ c ∧ c ≤ 'z') ∨ ('A' ≤ c ∧ c ≤ 'Z'))

def isNamePart (c : Char) : Bool :=
  isNameStart c || isDigit c

/-- The rest of a statement that has only a name in it, and what it says about blanks. -/
def bareStatement? (name : String) (cs : List Char) : Option (Blanks × List Char) := do
  let rest ← Text.stripStart? name.toList (cs.dropWhile isSpace)
  let (blanks, rest) := takeBlanks (rest.dropWhile isSpace)
  let rest ← Text.stripStart? ['%', '}'] rest
  return (blanks, rest)

/-- The text before the end of a verbatim part, what the ends say about blanks, and the rest. -/
def untilVerbatimEnd : List Char → Option (List Char × Blanks × Blanks × List Char)
  | [] => none
  | c :: rest =>
      let further := (untilVerbatimEnd rest).map fun (text, found) => (c :: text, found)
      match c, rest with
      | '{', '%' :: inner =>
          let (before, inner) := takeBlanks inner
          match bareStatement? "endraw" inner with
          | some (after, tail) => some ([], before, after, tail)
          | none => further
      | _, _ => further

/-! ## Numbers -/

/-- The parts of a number that may be written. -/
inductive Part where
  | radix
  | integer
  | fraction
  | exponent
  | afterExponent
deriving DecidableEq, Repr

def nextPart (radix : Nat) (c : Char) (part : Part) : Option Part :=
  match c, part with
  | '.', .integer => some .fraction
  | 'e', .integer => some .exponent
  | 'e', .fraction => some .exponent
  | 'E', .integer => some .exponent
  | 'E', .fraction => some .exponent
  | '+', .exponent => some .afterExponent
  | '-', .exponent => some .afterExponent
  | _, _ =>
      if isDigit c then some (if part = .exponent then .afterExponent else part)
      else if part = .radix ∧ radix = 16 ∧ decide (('a' ≤ c ∧ c ≤ 'f') ∨ ('A' ≤ c ∧ c ≤ 'F')) then
        some part
      else if c = '_' then some part
      else none

def takeNumber (radix : Nat) (part : Part) : List Char → List Char × Part × List Char
  | [] => ([], part, [])
  | c :: rest =>
      match nextPart radix c part with
      | some next =>
          let (number, last, rest) := takeNumber radix next rest
          (c :: number, last, rest)
      | none => ([], part, c :: rest)

def digitValue (c : Char) : Nat :=
  if isDigit c then c.toNat - 48
  else if 'a' ≤ c then c.toNat - 87
  else c.toNat - 55

/-- The integer of digits, if each is below the radix. -/
def integerOf? (radix : Nat) (cs : List Char) : Option Nat :=
  if cs.isEmpty || cs.any (fun c => decide (radix ≤ digitValue c)) then none
  else some (cs.foldl (fun n c => n * radix + digitValue c) 0)

/-- The digits of a decimal number and the power of ten behind them. -/
def decimalOf? (cs : List Char) : Option (Nat × Int) := do
  let mantissa := cs.takeWhile fun c => c ≠ 'e' ∧ c ≠ 'E'
  let exponent := (cs.drop mantissa.length).drop 1
  let whole := mantissa.takeWhile isDigit
  let fraction := (mantissa.drop whole.length).drop 1
  let digits := (whole ++ fraction).foldl (fun n c => n * 10 + digitValue c) 0
  let power : Int ←
    if mantissa.length = cs.length then some 0
    else
      match exponent with
      | '-' :: ds => (integerOf? 10 ds).map fun n => -(n : Int)
      | '+' :: ds => (integerOf? 10 ds).map fun n => (n : Int)
      | ds => (integerOf? 10 ds).map fun n => (n : Int)
  return (digits, power - fraction.length)

def number (cs : List Char) : Except Trouble Token × List Char :=
  let (radix, part, cs) : Nat × Part × List Char := match cs with
    | '0' :: 'b' :: rest => (2, .radix, rest)
    | '0' :: 'B' :: rest => (2, .radix, rest)
    | '0' :: 'o' :: rest => (8, .radix, rest)
    | '0' :: 'O' :: rest => (8, .radix, rest)
    | '0' :: 'x' :: rest => (16, .radix, rest)
    | '0' :: 'X' :: rest => (16, .radix, rest)
    | cs => (10, .integer, cs)
  let (written, last, rest) := takeNumber radix part cs
  let digits := written.filter (· ≠ '_')
  let token : Except Trouble Token :=
    if written.getLast? = some '_' then .error (.malformed "'_' may not occur at end of number")
    else if last = .integer ∨ last = .radix then
      match integerOf? radix digits with
      | some n =>
          if n < Nat.pow 2 128 then .ok (.integer n) else .error (.malformed "invalid integer")
      | none => .error (.malformed "invalid integer")
    else
      match decimalOf? digits with
      | some (n, power) => .ok (.float (.ofDecimal false n power))
      | none => .error (.malformed "invalid float")
  (token, rest)

/-! ## Strings -/

def takeString (quote : Char) : List Char → Option (List Char × List Char)
  | [] => none
  | '\\' :: c :: rest =>
      (takeString quote rest).map fun (text, after) => ('\\' :: c :: text, after)
  | c :: rest =>
      if c = quote then some ([], rest)
      else if c = '\\' then none
      else (takeString quote rest).map fun (text, after) => (c :: text, after)

def hexValue? (c : Char) : Option Nat :=
  if isDigit c || decide (('a' ≤ c ∧ c ≤ 'f') ∨ ('A' ≤ c ∧ c ≤ 'F')) then some (digitValue c)
  else none

def unit? (a b c d : Char) : Option Nat := do
  let a ← hexValue? a
  let b ← hexValue? b
  let c ← hexValue? c
  let d ← hexValue? d
  return ((a * 16 + b) * 16 + c) * 16 + d

def simpleEscape? : Char → Option Char
  | '"' => some '"'
  | '\\' => some '\\'
  | '/' => some '/'
  | '\'' => some '\''
  | 'b' => some '\x08'
  | 'f' => some '\x0c'
  | 'n' => some '\n'
  | 'r' => some '\r'
  | 't' => some '\t'
  | _ => none

/-- The characters that escapes stand for; a leading half of a pair waits for the other. -/
def unescape (lead : Option Nat) : List Char → Option (List Char)
  | [] => if lead.isSome then none else some []
  | '\\' :: 'u' :: a :: b :: c :: d :: rest =>
      (unit? a b c d).bind fun n =>
        match lead with
        | some first =>
            if 0xdc00 ≤ n ∧ n < 0xe000 then
              (unescape none rest).map
                (Char.ofNat (0x10000 + (first - 0xd800) * 0x400 + (n - 0xdc00)) :: ·)
            else none
        | none =>
            if 0xd800 ≤ n ∧ n < 0xdc00 then unescape (some n) rest
            else if 0xdc00 ≤ n ∧ n < 0xe000 then none
            else (unescape none rest).map (Char.ofNat n :: ·)
  | '\\' :: c :: rest =>
      if lead.isSome then none
      else (simpleEscape? c).bind fun c => (unescape none rest).map (c :: ·)
  | c :: rest =>
      if lead.isSome || c = '\\' then none else (unescape none rest).map (c :: ·)

/-! ## The scan -/

def twoChars : List (Char × Char) :=
  [('/', '/'), ('*', '*'), ('=', '='), ('!', '='), ('>', '='), ('<', '=')]

def oneChar : List Char :=
  ['+', '-', '*', '/', '%', '.', ',', ':', '~', '|', '=', '>', '<', '(', ')', '[', ']', '{', '}']

/-- Whether the end of an expression or a statement is here, what it says about blanks, the rest. -/
def closing? (close : Char) (cs : List Char) : Option (Blanks × List Char) :=
  let (blanks, rest) := takeBlanks cs
  (Text.stripStart? [close, '}'] rest).map fun rest => (blanks, rest)

inductive Mode where
  /-- Plain text, whose leading blanks may have to be left out. -/
  | outside (trim : Bool)
  | inside (marker : Marker)
deriving DecidableEq, Repr

def Marker.close : Marker → Char
  | .statement => '%'
  | _ => '}'

/-- The tokens of a text, of which at most so many characters are left. -/
def scan : Nat → Mode → Nat → List Char → Tokens
  | _, _, _, [] => .ended
  | 0, _, _, _ :: _ => .ended
  | fuel + 1, .outside trim, line, cs =>
      let shortened := if trim then Text.trimStart cs else cs
      let line := lineAfter line (cs.take (cs.length - shortened.length))
      let (lead, found) := untilMarker shortened
      let emit (lead : List Char) (rest : Tokens) : Tokens :=
        if lead.isEmpty then rest else .one (.text lead) line rest
      match found with
      | none => emit lead .ended
      | some (marker, rest) =>
          let here := lineAfter line lead
          let (blanks, inner) := takeBlanks rest
          let lead := if blanks = .drop then Text.trimEnd lead else lead
          emit lead <|
            match marker with
            | .expression =>
                .one .expressionStart here (scan fuel (.inside .expression) here inner)
            | .comment =>
                match untilPair '#' '}' inner with
                | none => .broken (.malformed "unexpected end of comment") here
                | some (comment, rest) =>
                    let trim := comment.getLast? = some '-'
                    scan fuel (.outside trim) (lineAfter here comment) rest
            | .statement =>
                match bareStatement? "raw" inner with
                | some (after, verbatim) =>
                    match untilVerbatimEnd verbatim with
                    | none => .broken (.malformed "unexpected end of raw block") here
                    | some (text, before, trailing, rest) =>
                        let text := if after = .drop then Text.trimStart text else text
                        let text := if before = .drop then Text.trimEnd text else text
                        let next := scan fuel (.outside (trailing = .drop))
                          (lineAfter here (verbatim.take (verbatim.length - rest.length))) rest
                        if text.isEmpty then next else .one (.text text) here next
                | none => .one .statementStart here (scan fuel (.inside .statement) here inner)
  | fuel + 1, .inside marker, line, c :: rest =>
      if isSpace c then scan fuel (.inside marker) (lineAfter line [c]) rest
      else
        match closing? marker.close (c :: rest) with
        | some (blanks, after) =>
            let token := if marker = .statement then Token.statementEnd else .expressionEnd
            .one token line (scan fuel (.outside (blanks = .drop)) line after)
        | none =>
            let two := match rest with
              | d :: after => if twoChars.contains (c, d) then some (d, after) else none
              | [] => none
            match two with
            | some (d, after) =>
                .one (.symbol (String.ofList [c, d])) line (scan fuel (.inside marker) line after)
            | none =>
                if oneChar.contains c then
                  .one (.symbol (String.ofList [c])) line (scan fuel (.inside marker) line rest)
                else if c = '\'' ∨ c = '"' then
                  match takeString c rest with
                  | none => .broken (.malformed "unexpected end of string") line
                  | some (written, after) =>
                      match unescape none written with
                      | none => .broken .badEscape line
                      | some text =>
                          .one (.string (String.ofList text)) line
                            (scan fuel (.inside marker) (lineAfter line written) after)
                else if isDigit c then
                  match number (c :: rest) with
                  | (.ok token, after) =>
                      .one token line (scan fuel (.inside marker) line after)
                  | (.error trouble, _) => .broken trouble line
                else if isNameStart c then
                  let name := (c :: rest).takeWhile isNamePart
                  let after := (c :: rest).dropWhile isNamePart
                  .one (.name (String.ofList name)) line (scan fuel (.inside marker) line after)
                else .broken (.malformed "unexpected character") line

/-- The text without a line break at its end. -/
def withoutLastBreak (cs : List Char) : List Char :=
  let cs := if cs.getLast? = some '\n' then cs.dropLast else cs
  if cs.getLast? = some '\r' then cs.dropLast else cs

end Scan

def Tokens.ofText (text : String) : Tokens :=
  let cs := Scan.withoutLastBreak text.toList
  Scan.scan cs.length (.outside false) 1 cs

end ActionGraph.Template
