import ActionGraph.Wire.Node
import ActionGraph.Text.Split

/-!
# Reading JSON texts

A JSON text becomes an encoded value.  Reading never fails: a text that is
not well formed becomes a tree with a break.  Numbers take the value of their
decimal digits divided or multiplied by one power of ten, as far as the
digits fit into 64 bits.
-/

namespace ActionGraph.Wire

/-- The rest of a text and its place. -/
structure Cursor where
  rest : List Char
  place : Place

namespace Cursor

def skipBlanks (cursor : Cursor) : Cursor :=
  go cursor.rest cursor.place
where
  go : List Char → Place → Cursor
    | [], place => ⟨[], place⟩
    | c :: rest, place =>
        if c = ' ' ∨ c = '\n' ∨ c = '\t' ∨ c = '\r' then go rest (place.past c)
        else ⟨c :: rest, place⟩

/-- The place that a fault of the next character gets. -/
def ahead (cursor : Cursor) : Place :=
  cursor.place.ahead cursor.rest

def step (cursor : Cursor) : Cursor :=
  match cursor.rest with
  | [] => cursor
  | c :: rest => ⟨rest, cursor.place.past c⟩

/-- A break at one place for readers and skippers alike. -/
def breakAt (why : Malformation) (place : Place) : Break :=
  ⟨.malformed why place, .malformed why place⟩

end Cursor

/-- The text behind a value, if the value is whole. -/
abbrev Rest := Except Break Cursor

/-! ## Numbers -/

namespace Numeral

def maxSignificand : Nat :=
  Nat.pow 2 64 - 1

/-- The significand, power of ten and remaining text of a decimal. -/
structure Scan where
  significand : Nat
  exponent : Int
  cursor : Cursor

/-- Digits that enter the significand until it would exceed 64 bits. -/
def takeDigits (significand count : Nat) : List Char → Place → Nat × Nat × Cursor × Bool
  | [], place => (significand, count, ⟨[], place⟩, false)
  | c :: rest, place =>
      match Text.digit? c with
      | none => (significand, count, ⟨c :: rest, place⟩, false)
      | some d =>
          if significand * 10 + d ≤ maxSignificand then
            takeDigits (significand * 10 + d) (count + 1) rest (place.past c)
          else (significand, count, ⟨c :: rest, place⟩, true)

/-- Digits that only count. -/
def dropDigits (count : Nat) : List Char → Place → Nat × Cursor
  | [], place => (count, ⟨[], place⟩)
  | c :: rest, place =>
      match Text.digit? c with
      | none => (count, ⟨c :: rest, place⟩)
      | some _ => dropDigits (count + 1) rest (place.past c)

def powerOfTen (n : Nat) : Float :=
  (Binary64.ofDecimal false 1 n).toFloat

/-- A significand times a power of ten, scaled down in steps when it is tiny. -/
def scale (significand : Float) : Nat → Int → Option Float
  | 0, _ => some significand
  | fuel + 1, exponent =>
      if exponent.natAbs ≤ 308 then
        if 0 ≤ exponent then
          let x := significand * powerOfTen exponent.natAbs
          if x.isInf then none else some x
        else some (significand / powerOfTen exponent.natAbs)
      else if significand == 0.0 then some significand
      else if 0 ≤ exponent then none
      else scale (significand / powerOfTen 308) fuel (exponent + 308)

/-- The float of a sign, a significand and a power of ten; nothing beyond the range. -/
def float? (negative : Bool) (significand : Nat) (exponent : Int) : Option Numeral :=
  (scale (UInt64.ofNat significand).toFloat 16 exponent).map fun x =>
    .float (.ofFloat (if negative then -x else x))

/-- The exponent digits up to the limit of 32 bits, and whether they exceed it. -/
def takeExponent (value : Nat) : List Char → Place → Nat × Cursor × Bool
  | [], place => (value, ⟨[], place⟩, false)
  | c :: rest, place =>
      match Text.digit? c with
      | none => (value, ⟨c :: rest, place⟩, false)
      | some d =>
          if value * 10 + d < Nat.pow 2 31 then takeExponent (value * 10 + d) rest (place.past c)
          else (value, ⟨rest, place.past c⟩, true)

/-- A read numeral with the text behind it, or the break. -/
abbrev Outcome := Except Break (Except Fault Numeral × Cursor)

def closeFloat (negative : Bool) (significand : Nat) (exponent : Int) (cursor : Cursor) :
    Outcome :=
  match float? negative significand exponent with
  | some x => .ok (.ok x, cursor)
  | none => .ok (.error (.malformed .numberOutOfRange cursor.place), cursor)

def readExponent (negative : Bool) (significand : Nat) (exponent : Int) (cursor : Cursor) :
    Outcome :=
  let (down, cursor) := match cursor.rest with
    | '+' :: _ => (false, cursor.step)
    | '-' :: _ => (true, cursor.step)
    | _ => (false, cursor)
  match cursor.rest with
  | [] =>
      .error ⟨.malformed .endInValue cursor.place, .malformed .invalidNumber cursor.place⟩
  | c :: rest =>
      match Text.digit? c with
      | none => .error (Cursor.breakAt .invalidNumber cursor.ahead)
      | some d =>
          let (value, cursor, exceeds) := takeExponent d rest (cursor.place.past c)
          if exceeds then
            let (_, behind) := dropDigits 0 cursor.rest cursor.place
            if significand ≠ 0 ∧ !down then
              .ok (.error (.malformed .numberOutOfRange cursor.place), behind)
            else .ok (.ok (.float (.ofMagnitude negative 0)), behind)
          else
            closeFloat negative significand
              (if down then exponent - value else exponent + value) cursor

def readScale (negative : Bool) (significand : Nat) (exponent : Int) (cursor : Cursor) :
    Outcome :=
  match cursor.rest with
  | 'e' :: _ => readExponent negative significand exponent cursor.step
  | 'E' :: _ => readExponent negative significand exponent cursor.step
  | _ => closeFloat negative significand exponent cursor

def readFraction (negative : Bool) (significand : Nat) (exponent : Int) (cursor : Cursor) :
    Outcome :=
  let (significand, count, cursor, exceeds) :=
    takeDigits significand 0 cursor.rest cursor.place
  if exceeds then
    let (_, cursor) := dropDigits 0 cursor.rest cursor.place
    readScale negative significand (exponent - count) cursor
  else if count = 0 then
    let reading := if cursor.rest.isEmpty then Malformation.endInValue else .invalidNumber
    .error ⟨.malformed reading cursor.ahead, .malformed .invalidNumber cursor.ahead⟩
  else readScale negative significand (exponent - count) cursor

def readRest (negative : Bool) (significand : Nat) (exponent : Int) (long : Bool)
    (cursor : Cursor) : Outcome :=
  match cursor.rest with
  | '.' :: _ => readFraction negative significand exponent cursor.step
  | 'e' :: _ => readExponent negative significand exponent cursor.step
  | 'E' :: _ => readExponent negative significand exponent cursor.step
  | _ =>
      if long then closeFloat negative significand exponent cursor
      else if !negative then .ok (.ok (.int significand), cursor)
      else if 0 < significand ∧ significand ≤ Nat.pow 2 63 then
        .ok (.ok (.int (-(significand : Int))), cursor)
      else closeFloat true significand 0 cursor

def readMagnitude (negative : Bool) (cursor : Cursor) : Outcome :=
  match cursor.rest with
  | [] =>
      .error ⟨.malformed .endInValue cursor.place, .malformed .invalidNumber cursor.place⟩
  | c :: rest =>
      match Text.digit? c with
      | none => .error (Cursor.breakAt .invalidNumber cursor.ahead)
      | some 0 =>
          let behind : Cursor := ⟨rest, cursor.place.past c⟩
          match rest with
          | d :: _ =>
              if (Text.digit? d).isSome then .error (Cursor.breakAt .invalidNumber behind.ahead)
              else readRest negative 0 0 false behind
          | [] => readRest negative 0 0 false behind
      | some d =>
          let (significand, _, cursor, exceeds) := takeDigits d 0 rest (cursor.place.past c)
          if exceeds then
            let (count, cursor) := dropDigits 0 cursor.rest cursor.place
            readRest negative significand count true cursor
          else readRest negative significand 0 false cursor

end Numeral

/-! ## Texts between quotes -/

namespace Quoted

/-- A read text, the first fault that only matters to readers, and the text behind. -/
structure Outcome where
  text : Except Fault String
  rest : Rest

def hexValue? (c : Char) : Option Nat :=
  if '0' ≤ c ∧ c ≤ '9' then some (c.toNat - 48)
  else if 'a' ≤ c ∧ c ≤ 'f' then some (c.toNat - 87)
  else if 'A' ≤ c ∧ c ≤ 'F' then some (c.toNat - 55)
  else none

def fourDigits (cs : List Char) (place : Place) : Except Break Nat :=
  let bytes := ((cs.take 4).map Char.utf8Size).foldl (· + ·) 0
  if bytes < 4 then .error (Cursor.breakAt .endInString (place.pastBytes 4 cs))
  else
    match cs with
    | a :: b :: c :: d :: _ =>
        match hexValue? a, hexValue? b, hexValue? c, hexValue? d with
        | some a, some b, some c, some d => .ok (((a * 16 + b) * 16 + c) * 16 + d)
        | _, _, _, _ => .error (Cursor.breakAt .invalidEscape (place.pastBytes 4 cs))
    | _ => .error (Cursor.breakAt .invalidEscape (place.pastBytes 4 cs))

def simpleEscape? (c : Char) : Option Char :=
  match c with
  | '"' => some '"'
  | '\\' => some '\\'
  | '/' => some '/'
  | 'b' => some (Char.ofNat 8)
  | 'f' => some (Char.ofNat 12)
  | 'n' => some '\n'
  | 'r' => some '\r'
  | 't' => some '\t'
  | _ => none

/-- What an earlier hexadecimal escape still asks for. -/
inductive Pending where
  | nothing
  /-- A leading surrogate that a trailing one must follow. -/
  | surrogate (lead : Nat)

/-- The text so far; once a fault is met it stays. -/
abbrev Sofar := Except Fault (List Char)

def Sofar.push (sofar : Sofar) (c : Char) : Sofar :=
  sofar.map (c :: ·)

def Sofar.fail (sofar : Sofar) (why : Malformation) (place : Place) : Sofar :=
  match sofar with
  | .ok _ => .error (.malformed why place)
  | .error fault => .error fault

def pairValue (lead trail : Nat) : Nat :=
  (lead - 0xd800) * 0x400 + (trail - 0xdc00) + 0x10000

/-- Take a code unit of a hexadecimal escape into the text. -/
def takeUnit (sofar : Sofar) (pending : Pending) (unit : Nat) (place : Place) :
    Sofar × Pending :=
  match pending with
  | .surrogate lead =>
      if 0xdc00 ≤ unit ∧ unit ≤ 0xdfff then
        (sofar.push (Char.ofNat (pairValue lead unit)), .nothing)
      else (sofar.fail .loneSurrogate place, .nothing)
  | .nothing =>
      if 0xdc00 ≤ unit ∧ unit ≤ 0xdfff then (sofar.fail .loneSurrogate place, .nothing)
      else if 0xd800 ≤ unit ∧ unit ≤ 0xdbff then (sofar, .surrogate unit)
      else (sofar.push (Char.ofNat unit), .nothing)

def unpaired (sofar : Sofar) (pending : Pending) (place : Place) : Sofar :=
  match pending with
  | .nothing => sofar
  | .surrogate _ => sofar.fail .endOfHexEscape place

def broken (b : Break) : Outcome :=
  ⟨.error b.reading, .error b⟩

def stopped (sofar : Sofar) (b : Break) : Outcome :=
  match sofar with
  | .ok _ => broken b
  | .error fault => ⟨.error fault, .error ⟨fault, b.skipping⟩⟩

/-- Take up what stands behind a backslash, unless reading stops there. -/
def escape (sofar : Sofar) (pending : Pending) (cs : List Char) (place : Place) :
    Except Outcome (Sofar × Pending × Cursor) :=
  match cs with
  | [] => .error (stopped sofar (Cursor.breakAt .endInString place))
  | c :: rest =>
      if c = 'u' then
        match fourDigits rest (place.past c) with
        | .error b => .error (stopped sofar b)
        | .ok unit =>
            let behind := (place.past c).pastBytes 4 rest
            let (sofar, pending) := takeUnit sofar pending unit behind
            .ok (sofar, pending, ⟨rest.drop 4, behind⟩)
      else
        let sofar := unpaired sofar pending (place.ahead cs)
        match simpleEscape? c with
        | some d => .ok (sofar.push d, .nothing, ⟨rest, place.past c⟩)
        | none => .error (stopped sofar (Cursor.breakAt .invalidEscape (place.ahead cs)))

def read : Nat → Sofar → Pending → List Char → Place → Outcome
  | 0, sofar, _, _, place => stopped sofar (Cursor.breakAt .endInString place)
  | _, sofar, _, [], place => stopped sofar (Cursor.breakAt .endInString place)
  | fuel + 1, sofar, pending, c :: rest, place =>
      if c = '"' then
        let sofar := unpaired sofar pending (place.ahead (c :: rest))
        ⟨sofar.map fun cs => String.ofList cs.reverse, .ok ⟨rest, place.past c⟩⟩
      else if c = '\\' then
        match escape sofar pending rest (place.past c) with
        | .error outcome => outcome
        | .ok (sofar, pending, behind) => read fuel sofar pending behind.rest behind.place
      else if c.toNat < 0x20 then
        match unpaired sofar pending (place.ahead (c :: rest)) with
        | .error fault => ⟨.error fault, .error ⟨fault, .malformed .controlCharacter place⟩⟩
        | .ok _ =>
            broken ⟨.malformed .controlCharacter (place.past c),
              .malformed .controlCharacter place⟩
      else
        let sofar := unpaired sofar pending (place.ahead (c :: rest))
        read fuel (sofar.push c) .nothing rest (place.past c)

end Quoted

/-! ## Values -/

namespace Node

def depthLimit : Nat :=
  127

def readWord : List Char → Cursor → Rest
  | [], cursor => .ok cursor
  | w :: ws, cursor =>
      match cursor.rest with
      | [] => .error (Cursor.breakAt .endInValue cursor.place)
      | c :: _ =>
          if c = w then readWord ws cursor.step
          else .error (Cursor.breakAt .expectedIdent cursor.ahead)

def whole (rest : Rest) (node : Cursor → Node) : Node × Rest :=
  match rest with
  | .ok cursor => (node cursor, rest)
  | .error b => (.broken b, rest)

def readScalar (cursor : Cursor) : Node × Rest :=
  let start := some cursor.place
  match cursor.rest with
  | 'n' :: _ => whole (readWord ['u', 'l', 'l'] cursor.step) fun c => .null start c.place
  | 't' :: _ => whole (readWord ['r', 'u', 'e'] cursor.step) fun c => .bool true start c.place
  | 'f' :: _ =>
      whole (readWord ['a', 'l', 's', 'e'] cursor.step) fun c => .bool false start c.place
  | '"' :: _ =>
      let text := Quoted.read (cursor.rest.length + 1) (.ok []) .nothing cursor.step.rest
        cursor.step.place
      whole text.rest fun c => .str text.text start c.place
  | c :: _ =>
      if c = '-' ∨ (Text.digit? c).isSome then
        let outcome :=
          if c = '-' then Numeral.readMagnitude true cursor.step
          else Numeral.readMagnitude false cursor
        match outcome with
        | .ok (value, behind) => (.num value start behind.place, .ok behind)
        | .error b => (.broken b, .error b)
      else
        let b := Cursor.breakAt .expectedValue cursor.ahead
        (.broken b, .error b)
  | [] =>
      let b := Cursor.breakAt .endInValue cursor.ahead
      (.broken b, .error b)

/-- What a sequence says when it has to end behind an item. -/
def itemFrameAt (cursor : Cursor) : ItemFrame :=
  match cursor.rest with
  | ']' :: _ => ⟨cursor.step.place, .counted⟩
  | ',' :: _ =>
      let behind := cursor.step.skipBlanks
      let why := match behind.rest with
        | ']' :: _ => Malformation.trailingComma
        | _ => .trailingCharacters
      ⟨behind.place, .fault (.malformed why behind.ahead)⟩
  | _ :: _ => ⟨cursor.place, .fault (.malformed .trailingCharacters cursor.ahead)⟩
  | [] => ⟨cursor.place, .fault (.malformed .endInList cursor.ahead)⟩

/-- The place that a fault without one gets inside a map. -/
def mapResume (cursor : Cursor) : Spot :=
  match cursor.rest with
  | '}' :: _ => some cursor.step.place
  | _ => some cursor.place

mutual

def readValue : Nat → Nat → Cursor → Node × Rest
  | 0, _, cursor =>
      let b := Cursor.breakAt .endInValue cursor.ahead
      (.broken b, .error b)
  | fuel + 1, depth, cursor =>
      let cursor := cursor.skipBlanks
      let limited (node : Node) : Node :=
        if depthLimit ≤ depth then .deep (.malformed .tooDeep cursor.ahead) node else node
      match cursor.rest with
      | '[' :: _ =>
          let (items, ending, rest) := readItems fuel (depth + 1) true cursor.step
          (limited (.seq (some cursor.place) items ending), rest)
      | '{' :: _ =>
          let (entries, ending, rest) := readEntries fuel (depth + 1) true cursor.step
          (limited (.map (some cursor.place) entries ending), rest)
      | _ => readScalar cursor

def readItems : Nat → Nat → Bool → Cursor → List (ItemFrame × Node) × Ending × Rest
  | 0, _, _, cursor => cut (Cursor.breakAt .endInList cursor.ahead)
  | fuel + 1, depth, first, cursor =>
      let cursor := cursor.skipBlanks
      match cursor.rest with
      | ']' :: _ => ([], .closed cursor.step.place, .ok cursor.step)
      | [] => cut (Cursor.breakAt .endInList cursor.ahead)
      | c :: _ =>
          if first then readItem fuel depth cursor
          else if c = ',' then
            let behind := cursor.step.skipBlanks
            match behind.rest with
            | ']' :: _ =>
                cut ⟨.malformed .trailingComma behind.ahead, .malformed .expectedValue behind.ahead⟩
            | _ => readItem fuel depth behind
          else cut (Cursor.breakAt .expectedListEnd cursor.ahead)

def readItem : Nat → Nat → Cursor → List (ItemFrame × Node) × Ending × Rest
  | 0, _, cursor => cut (Cursor.breakAt .endInList cursor.ahead)
  | fuel + 1, depth, cursor =>
      match readValue fuel depth cursor with
      | (node, .error b) => ([(itemFrame, node)], .broken b, .error b)
      | (node, .ok behind) =>
          let (items, ending, rest) := readItems fuel depth false behind
          ((itemFrameAt behind.skipBlanks, node) :: items, ending, rest)

def readEntries : Nat → Nat → Bool → Cursor → List (MapKey × Node) × Ending × Rest
  | 0, _, _, cursor => cut (Cursor.breakAt .endInObject cursor.ahead)
  | fuel + 1, depth, first, cursor =>
      let cursor := cursor.skipBlanks
      match cursor.rest with
      | '}' :: _ => ([], .closed cursor.step.place, .ok cursor.step)
      | [] => cut (Cursor.breakAt .endInObject cursor.ahead)
      | c :: _ =>
          if first then
            if c = '"' then readEntry fuel depth cursor
            else cut (Cursor.breakAt .keyNotString cursor.ahead)
          else if c = ',' then
            let behind := cursor.step.skipBlanks
            match behind.rest with
            | '"' :: _ => readEntry fuel depth behind
            | '}' :: _ =>
                cut ⟨.malformed .trailingComma behind.ahead, .malformed .keyNotString behind.ahead⟩
            | [] =>
                cut ⟨.malformed .endInValue behind.ahead, .malformed .endInObject behind.ahead⟩
            | _ => cut (Cursor.breakAt .keyNotString behind.ahead)
          else cut (Cursor.breakAt .expectedObjectEnd cursor.ahead)

def readEntry : Nat → Nat → Cursor → List (MapKey × Node) × Ending × Rest
  | 0, _, cursor => cut (Cursor.breakAt .endInObject cursor.ahead)
  | fuel + 1, depth, cursor =>
      let key := Quoted.read (cursor.rest.length + 1) (.ok []) .nothing cursor.step.rest
        cursor.step.place
      match key.rest with
      | .error b => cut b
      | .ok behindKey =>
          let colon := behindKey.skipBlanks
          let frame : MapKey :=
            ⟨key.text, some behindKey.place, mapResume colon, none, none⟩
          match colon.rest with
          | ':' :: _ =>
              match readValue fuel depth colon.step with
              | (node, .error b) => ([(frame, node)], .broken b, .error b)
              | (node, .ok behind) =>
                  let next := behind.skipBlanks
                  let (entries, ending, rest) := readEntries fuel depth false behind
                  (({ frame with next := some next.place, valueResume := mapResume next }, node)
                    :: entries, ending, rest)
          | [] =>
              let b := Cursor.breakAt .endInObject colon.ahead
              ([(frame, .broken b)], .broken b, .error b)
          | _ =>
              let b := Cursor.breakAt .expectedColon colon.ahead
              ([(frame, .broken b)], .broken b, .error b)

def cut {α : Type} (b : Break) : List α × Ending × Rest :=
  ([], .broken b, .error b)

end

end Node

/-- An encoded value and the fault of what follows it in the text. -/
structure Document where
  root : Node
  trailing : Option Fault

def Document.ofText (text : String) : Document :=
  let cs := text.toList
  match Node.readValue (3 * cs.length + 3) 0 ⟨cs, .start⟩ with
  | (root, .error _) => ⟨root, none⟩
  | (root, .ok behind) =>
      let behind := behind.skipBlanks
      if behind.rest.isEmpty then ⟨root, none⟩
      else ⟨root, some (.malformed .trailingCharacters behind.ahead)⟩

def Document.decode {α : Type} (decoder : Node → Except Fault α) (document : Document) :
    Except Fault α := do
  let value ← decoder document.root
  match document.trailing with
  | some fault => .error fault
  | none => .ok value

end ActionGraph.Wire

namespace ActionGraph.Json

def parse (text : String) : Except Wire.Fault Json :=
  (Wire.Document.ofText text).decode Wire.Node.toJson

end ActionGraph.Json
