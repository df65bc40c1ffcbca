import ActionGraph.Regex.Basic
import ActionGraph.Text.Split

/-!
# Reading patterns

The notation of patterns: literals, escapes, classes with set operations,
groups with names and flags, repetitions and alternatives.  There is no
looking around and no reference to a group.  A text that is no pattern, nests
too deep or grows too large is refused without a reason, since a malformed
pattern only ever fails to match.
-/

namespace ActionGraph.Regex

structure Flags where
  ignoreCase : Bool
  multiLine : Bool
  dotAll : Bool
  crlf : Bool
  wide : Bool
  blanks : Bool
deriving DecidableEq

/-- Patterns are read without regard to case and over all characters. -/
def Flags.initial : Flags :=
  ⟨true, false, false, false, true, false⟩

structure Reading where
  rest : List Char
  flags : Flags
  names : List (List Char)

namespace Reading

def dropComment : List Char → List Char
  | [] => []
  | c :: rest => if c = '\n' then rest else dropComment rest

def dropBlanks : Nat → List Char → List Char
  | 0, cs => cs
  | _, [] => []
  | fuel + 1, c :: rest =>
      if Text.isBlank c then dropBlanks fuel rest
      else if c = '#' then dropBlanks fuel (dropComment rest)
      else c :: rest

/-- The text behind blanks, where the flags ignore them. -/
def skip (flags : Flags) (cs : List Char) : List Char :=
  if flags.blanks then dropBlanks (cs.length + 1) cs else cs

end Reading

def folded (flags : Flags) (chars : CharSet) : CharSet :=
  if flags.ignoreCase then (if flags.wide then .fold chars else .foldAscii chars) else chars

def literal (flags : Flags) (c : Char) : Regex :=
  .set (folded flags (.single c))

/-! ## Escapes -/

inductive Escape where
  | char (c : Char)
  | set (chars : CharSet)
  | look (test : Look)

def isMeta (c : Char) : Bool :=
  "\\.+*?()|[]\x7b\x7d^$#&-~".toList.contains c

/-- Characters that may stand behind a backslash for themselves. -/
def isEscapable (c : Char) : Bool :=
  isMeta c || (c.toNat < 128 && !c.isAlphanum && c ≠ '<' && c ≠ '>')

def hexValue? (c : Char) : Option Nat :=
  if '0' ≤ c ∧ c ≤ '9' then some (c.toNat - 48)
  else if 'a' ≤ c ∧ c ≤ 'f' then some (c.toNat - 87)
  else if 'A' ≤ c ∧ c ≤ 'F' then some (c.toNat - 55)
  else none

def charOfHex? (digits : List Char) : Option Char :=
  if digits.isEmpty then none
  else do
    let values ← digits.mapM hexValue?
    let n := values.foldl (fun n d => min (16 * n + d) 0x110000) 0
    if n < 0x110000 ∧ ¬ (0xd800 ≤ n ∧ n ≤ 0xdfff) then some (Char.ofNat n) else none

def toBrace? (flags : Flags) : Nat → List Char → Option (List Char × List Char)
  | 0, _ => none
  | fuel + 1, cs =>
      match Reading.skip flags cs with
      | [] => none
      | c :: rest =>
          if c = '}' then some ([], rest)
          else (toBrace? flags fuel rest).map fun (inner, behind) => (c :: inner, behind)

def fixedHex? (flags : Flags) : Nat → List Char → List Char → Option (Char × List Char)
  | 0, digits, cs => (charOfHex? digits.reverse).map fun c => (c, cs)
  | count + 1, digits, cs =>
      match Reading.skip flags cs with
      | [] => none
      | c :: rest => fixedHex? flags count (c :: digits) rest

def hexEscape? (flags : Flags) (count : Nat) (cs : List Char) : Option (Char × List Char) :=
  match Reading.skip flags cs with
  | '{' :: rest => do
      let (digits, behind) ← toBrace? flags (rest.length + 1) rest
      let c ← charOfHex? digits
      return (c, behind)
  | cs => fixedHex? flags count [] cs

/-- The two sides of the first occurrence of a separator of one or two characters. -/
def cutName? (separator : List Char) : List Char → Option (List Char × List Char)
  | [] => none
  | c :: rest =>
      match Text.stripStart? separator (c :: rest) with
      | some value => some ([], value)
      | none => (cutName? separator rest).map fun (name, value) => (c :: name, value)

def bracedSet? (inner : List Char) : Option (CharSet × Bool) :=
  match cutName? ['!', '='] inner with
  | some (name, value) => (CharSet.ofNameValue? name value).map fun s => (s, true)
  | none =>
      match (cutName? [':'] inner).or (cutName? ['='] inner) with
      | some (name, value) => (CharSet.ofNameValue? name value).map fun s => (s, false)
      | none => (CharSet.ofName? inner).map fun s => (s, false)

def namedSet? (flags : Flags) : List Char → Option ((CharSet × Bool) × List Char)
  | [] => none
  | '{' :: rest =>
      match toBrace? flags (rest.length + 1) rest with
      | some (inner, behind) => (bracedSet? inner).map fun found => (found, behind)
      | none => none
  | c :: rest =>
      if c = '\\' then none
      else (CharSet.ofName? [c]).map fun chars => ((chars, false), rest)

def propertyEscape? (flags : Flags) (negated : Bool) (cs : List Char) :
    Option (CharSet × List Char) := do
  let (found, behind) ← namedSet? flags (Reading.skip flags cs)
  let chars := folded flags found.1
  return (if negated != found.2 then CharSet.compl chars else chars, behind)

def letterSet (flags : Flags) (c : Char) : Option CharSet :=
  let choose (wide narrow : CharSet) := if flags.wide then wide else narrow
  match c with
  | 'd' => some (choose .digit .asciiDigit)
  | 's' => some (choose .blank .asciiBlank)
  | 'w' => some (choose .word .asciiWord)
  | 'D' => if flags.wide then some (.compl .digit) else none
  | 'S' => if flags.wide then some (.compl .blank) else none
  | 'W' => if flags.wide then some (.compl .word) else none
  | _ => none

def namedBoundary? (ascii : Bool) (name : List Char) : Option Look :=
  match String.ofList name with
  | "start" => some (.wordStart ascii)
  | "end" => some (.wordStop ascii)
  | "start-half" => some (.wordStartHalf ascii)
  | "end-half" => some (.wordStopHalf ascii)
  | _ => none

/-- A word boundary, which may have a name between braces. -/
def boundaryEscape? (flags : Flags) (cs : List Char) : Option (Look × List Char) :=
  let ascii := !flags.wide
  match cs with
  | '{' :: rest =>
      match Reading.skip flags rest with
      | [] => none
      | c :: inner =>
          if c.isAlpha || c = '-' then do
            let (name, behind) ← toBrace? flags (inner.length + 2) (c :: inner)
            let test ← namedBoundary? ascii name
            return (test, behind)
          else some (.boundary ascii, cs)
  | _ => some (.boundary ascii, cs)

def escape? (flags : Flags) : List Char → Option (Escape × List Char)
  | [] => none
  | c :: rest =>
      match c with
      | 'x' => (hexEscape? flags 2 rest).map fun (c, behind) => (.char c, behind)
      | 'u' => (hexEscape? flags 4 rest).map fun (c, behind) => (.char c, behind)
      | 'U' => (hexEscape? flags 8 rest).map fun (c, behind) => (.char c, behind)
      | 'p' => (propertyEscape? flags false rest).map fun (s, behind) => (.set s, behind)
      | 'P' => (propertyEscape? flags true rest).map fun (s, behind) => (.set s, behind)
      | 'a' => some (.char (Char.ofNat 7), rest)
      | 'f' => some (.char (Char.ofNat 12), rest)
      | 't' => some (.char '\t', rest)
      | 'n' => some (.char '\n', rest)
      | 'r' => some (.char '\r', rest)
      | 'v' => some (.char (Char.ofNat 11), rest)
      | 'A' => some (.look .start, rest)
      | 'z' => some (.look .stop, rest)
      | 'b' => (boundaryEscape? flags rest).map fun (test, behind) => (.look test, behind)
      | 'B' => some (.look (.notBoundary !flags.wide), rest)
      | '<' => some (.look (.wordStart !flags.wide), rest)
      | '>' => some (.look (.wordStop !flags.wide), rest)
      | _ =>
          if "dswDSW".toList.contains c then
            (letterSet flags c).map fun s => (.set s, rest)
          else if isEscapable c then some (.char c, rest)
          else none

/-! ## Classes -/

/-- A name between colons and brackets, as it may stand inside a class. -/
def colonClass? (flags : Flags) (cs : List Char) : Option (CharSet × List Char) :=
  match cs with
  | '[' :: ':' :: rest =>
      let (negated, rest) := match rest with
        | '^' :: more => (true, more)
        | _ => (false, rest)
      let name := rest.takeWhile (· ≠ ':')
      match rest.drop name.length with
      | ':' :: ']' :: behind => do
          let chars ← CharSet.named? (String.ofList name)
          let chars := folded flags chars
          return (if negated then .compl chars else chars, behind)
      | _ => none
  | _ => none

def classItem? (flags : Flags) : List Char → Option (Escape × List Char)
  | [] => none
  | c :: rest => if c = '\\' then escape? flags rest else some (.char c, rest)

def itemSet? : Escape → Option CharSet
  | .char c => some (.single c)
  | .set s => some s
  | .look _ => none

def classRange? (flags : Flags) (cs : List Char) : Option (CharSet × List Char) := do
  let (first, behind) ← classItem? flags cs
  match Reading.skip flags behind with
  | [] => none
  | '-' :: more =>
      match Reading.skip flags more with
      | [] => none
      | c :: rest =>
          if c = ']' ∨ c = '-' then return (← itemSet? first, '-' :: more)
          else
            let (last, behind) ← classItem? flags (c :: rest)
            match first, last with
            | .char a, .char b =>
                if a ≤ b then return (.ranges [(a.toNat, b.toNat)], behind) else none
            | _, _ => none
  | behind => return (← itemSet? first, behind)

/-- An operation on sets that waits for its right side. -/
inductive SetOp where
  | inter
  | diff
  | symm

def applyOp (flags : Flags) (waiting : Option (CharSet × SetOp)) (right : CharSet) : CharSet :=
  match waiting with
  | none => right
  | some (left, op) =>
      let left := folded flags left
      let right := folded flags right
      match op with
      | .inter => .inter left right
      | .diff => .diff left right
      | .symm => .diff (.union left right) (.inter left right)

def leadingHyphens (flags : Flags) : Nat → CharSet → List Char → CharSet × List Char
  | 0, sofar, cs => (sofar, cs)
  | fuel + 1, sofar, cs =>
      match Reading.skip flags cs with
      | '-' :: rest => leadingHyphens flags fuel (.union sofar (.single '-')) rest
      | cs => (sofar, cs)

mutual

def class? (flags : Flags) : Nat → Nat → List Char → Option (CharSet × List Char)
  | 0, _, _ => none
  | _, 0, _ => none
  | fuel + 1, depth + 1, cs => do
      let cs := Reading.skip flags cs
      let (negated, cs) := match cs with
        | '^' :: rest => (true, Reading.skip flags rest)
        | _ => (false, cs)
      let (sofar, behind) := leadingHyphens flags (cs.length + 1) .none cs
      let (sofar, behind) := match behind with
        | ']' :: rest => if cs.length = behind.length then (CharSet.single ']', rest)
            else (sofar, behind)
        | _ => (sofar, behind)
      let (chars, behind) ← classBody? flags fuel depth none sofar behind
      let chars := folded flags chars
      return (if negated then .compl chars else chars, behind)

def classBody? (flags : Flags) :
    Nat → Nat → Option (CharSet × SetOp) → CharSet → List Char → Option (CharSet × List Char)
  | 0, _, _, _, _ => none
  | fuel + 1, depth, waiting, sofar, cs =>
      match Reading.skip flags cs with
      | [] => none
      | '[' :: rest =>
          match colonClass? flags ('[' :: rest) with
          | some (chars, behind) =>
              classBody? flags fuel depth waiting (.union sofar chars) behind
          | none => do
              let (chars, behind) ← class? flags fuel depth rest
              classBody? flags fuel depth waiting (.union sofar chars) behind
      | ']' :: rest => some (applyOp flags waiting sofar, rest)
      | '&' :: '&' :: rest =>
          classBody? flags fuel depth (some (applyOp flags waiting sofar, .inter)) .none rest
      | '-' :: '-' :: rest =>
          classBody? flags fuel depth (some (applyOp flags waiting sofar, .diff)) .none rest
      | '~' :: '~' :: rest =>
          classBody? flags fuel depth (some (applyOp flags waiting sofar, .symm)) .none rest
      | cs => do
          let (chars, behind) ← classRange? flags cs
          classBody? flags fuel depth waiting (.union sofar chars) behind

end

/-! ## Repetitions -/

def count? (flags : Flags) (cs : List Char) : Option (Nat × List Char) := do
  let cs := cs.dropWhile Text.isBlank
  let digits := cs.takeWhile fun c => (Text.digit? c).isSome
  let behind := Reading.skip flags ((cs.drop digits.length).dropWhile Text.isBlank)
  if digits.isEmpty then none
  else
    let n ← Text.natOfDigits? 0 digits
    if n < Nat.pow 2 32 then some (n, behind) else none

def counts? (flags : Flags) (cs : List Char) : Option ((Nat × Option Nat) × List Char) := do
  let (least, behind) ← count? flags (Reading.skip flags cs)
  match behind with
  | '}' :: rest => return ((least, some least), rest)
  | ',' :: rest =>
      match Reading.skip flags rest with
      | '}' :: rest => return ((least, none), rest)
      | rest =>
          let (most, behind) ← count? flags rest
          match behind with
          | '}' :: rest => if least ≤ most then return ((least, some most), rest) else none
          | _ => none
  | _ => none

/-- Drop the sign of a reluctant repetition. -/
def dropReluctant (flags : Flags) (cs : List Char) : List Char :=
  match Reading.skip flags cs with
  | '?' :: rest => rest
  | cs => cs

/-! ## Groups -/

def isNameStart (c : Char) : Bool :=
  c = '_' || (Text.category c).startsWith "L" || Text.category c == "Nl"

def isNameChar (c : Char) : Bool :=
  isNameStart c || c = '.' || c = '[' || c = ']' || (Text.category c).startsWith "N"

def groupName? (cs : List Char) : Option (List Char × List Char) :=
  let name := cs.takeWhile (· ≠ '>')
  match name, cs.drop name.length with
  | first :: more, _ :: behind =>
      if isNameStart first && more.all isNameChar then some (name, behind) else none
  | _, _ => none

/-- Flags behind a question mark, and the character that ends them. -/
def flags? : List Char → Bool → List Char → Flags → Option (Flags × Char × List Char)
  | seen, negated, c :: rest, flags =>
      if c = ':' ∨ c = ')' then
        match seen with
        | '-' :: _ => none
        | _ => if c = ')' ∧ seen.isEmpty then none else some (flags, c, rest)
      else if seen.contains c then none
      else
        match c with
        | '-' => flags? (c :: seen) true rest flags
        | 'i' => flags? (c :: seen) negated rest { flags with ignoreCase := !negated }
        | 'm' => flags? (c :: seen) negated rest { flags with multiLine := !negated }
        | 's' => flags? (c :: seen) negated rest { flags with dotAll := !negated }
        | 'R' => flags? (c :: seen) negated rest { flags with crlf := !negated }
        | 'u' => flags? (c :: seen) negated rest { flags with wide := !negated }
        | 'x' => flags? (c :: seen) negated rest { flags with blanks := !negated }
        | 'U' => flags? (c :: seen) negated rest flags
        | _ => none
  | _, _, [], _ => none

inductive GroupHead where
  /-- Flags for the rest of the enclosing group. -/
  | setting (flags : Flags)
  /-- A group with flags of its own. -/
  | group (flags : Flags)

def groupHead? (reading : Reading) : Option (GroupHead × Reading) :=
  match Reading.skip reading.flags reading.rest with
  | '?' :: 'P' :: '<' :: rest => named rest
  | '?' :: '<' :: c :: rest => if c = '=' ∨ c = '!' then none else named (c :: rest)
  | '?' :: rest => do
      let (flags, stop, behind) ← flags? [] false rest reading.flags
      let reading := { reading with rest := behind }
      return (if stop = ')' then .setting flags else .group flags, reading)
  | rest => some (.group reading.flags, { reading with rest })
where
  named (cs : List Char) : Option (GroupHead × Reading) := do
    let (name, behind) ← groupName? cs
    if reading.names.contains name then none
    else
      return (.group reading.flags,
        { reading with rest := behind, names := name :: reading.names })

/-! ## Patterns -/

/-- Any character, as far as the flags let the point match. -/
def point? (flags : Flags) : Option Regex :=
  if !flags.wide then none
  else if flags.dotAll then some (.set .any)
  else if flags.crlf then some (.set (.compl (.ranges [(10, 10), (13, 13)])))
  else some (.set (.compl (.ranges [(10, 10)])))

def startAnchor (flags : Flags) : Regex :=
  .look (if flags.multiLine then (if flags.crlf then .lineStartCrlf else .lineStart) else .start)

def stopAnchor (flags : Flags) : Regex :=
  .look (if flags.multiLine then (if flags.crlf then .lineStopCrlf else .lineStop) else .stop)

def primitive? (flags : Flags) (depth : Nat) : List Char → Option (Regex × List Char)
  | [] => none
  | '\\' :: rest => do
      let (item, behind) ← escape? flags rest
      match item with
      | .char c => return (literal flags c, behind)
      | .set s => return (.set s, behind)
      | .look test => return (.look test, behind)
  | '[' :: rest => do
      let (chars, behind) ← class? flags (2 * rest.length + 2) depth rest
      return (.set chars, behind)
  | '.' :: rest => (point? flags).map fun r => (r, rest)
  | '^' :: rest => some (startAnchor flags, rest)
  | '$' :: rest => some (stopAnchor flags, rest)
  | c :: rest => some (literal flags c, rest)

/-- The alternatives and the branch read so far. -/
structure Branch where
  alternatives : Option Regex
  done : Regex
  /-- The item that a repetition applies to. -/
  last : Option Regex

namespace Branch

def fresh : Branch :=
  ⟨none, .empty, none⟩

def close (b : Branch) : Regex :=
  match b.last with
  | some item => .cat b.done item
  | none => b.done

def finish (b : Branch) : Regex :=
  match b.alternatives with
  | some a => .alt a b.close
  | none => b.close

def push (b : Branch) (item : Regex) : Branch :=
  { b with done := b.close, last := some item }

/-- Flags end the item that a repetition could apply to. -/
def settle (b : Branch) : Branch :=
  { b with done := b.close, last := none }

def bar (b : Branch) : Branch :=
  ⟨some b.finish, .empty, none⟩

end Branch

def alternatives? : Nat → Nat → Branch → Reading → Option (Regex × Reading)
  | 0, _, _, _ => none
  | fuel + 1, depth, branch, reading =>
      let cs := Reading.skip reading.flags reading.rest
      let repeated (least : Nat) (most : Option Nat) (behind : List Char) :=
        match branch.last with
        | none => none
        | some item =>
            alternatives? fuel depth { branch with last := some (.rep item least most) }
              { reading with rest := dropReluctant reading.flags behind }
      match cs with
      | [] => some (branch.finish, { reading with rest := [] })
      | ')' :: _ => some (branch.finish, { reading with rest := cs })
      | '|' :: rest => alternatives? fuel depth branch.bar { reading with rest }
      | '?' :: rest => repeated 0 (some 1) rest
      | '*' :: rest => repeated 0 none rest
      | '+' :: rest => repeated 1 none rest
      | '{' :: rest =>
          match counts? reading.flags rest with
          | none => none
          | some ((least, most), behind) => repeated least most behind
      | '(' :: rest =>
          match depth, groupHead? { reading with rest } with
          | _, none => none
          | _, some (.setting flags, behind) =>
              alternatives? fuel depth branch.settle { behind with flags }
          | 0, _ => none
          | depth + 1, some (.group flags, behind) =>
              match alternatives? fuel depth .fresh { behind with flags } with
              | some (inner, closing) =>
                  match closing.rest with
                  | ')' :: after =>
                      alternatives? fuel (depth + 1) (branch.push inner)
                        { closing with rest := after, flags := reading.flags }
                  | _ => none
              | none => none
      | cs =>
          match primitive? reading.flags depth cs with
          | none => none
          | some (item, behind) =>
              alternatives? fuel depth (branch.push item) { reading with rest := behind }

/-- The deepest nesting of groups and classes. -/
def nestLimit : Nat :=
  250

def parse? (pattern : String) : Option Regex :=
  let cs := pattern.toList
  match alternatives? (2 * cs.length + 2) nestLimit .fresh ⟨cs, .initial, []⟩ with
  | some (regex, reading) =>
      if reading.rest.isEmpty && regex.weight ≤ weightLimit then some regex else none
  | none => none

/-- Whether a pattern matches somewhere in a text; a malformed pattern never does. -/
def isMatch (pattern text : String) : Bool :=
  match parse? pattern with
  | some regex => regex.occursIn text.toList
  | none => false

end ActionGraph.Regex
