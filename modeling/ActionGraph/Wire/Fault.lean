import ActionGraph.Number

/-!
# Faults of encoded values

A fault says why an encoded value is not accepted, and where in the text it
was noticed.  A value that did not come from a text has no places, and its
faults have none either.
-/

namespace ActionGraph.Wire

/-- A place in a text: the line, from one, and the bytes before it on the line. -/
structure Place where
  line : Nat
  column : Nat
deriving DecidableEq, Inhabited, Repr

namespace Place

def start : Place :=
  ⟨1, 0⟩

def past (place : Place) (c : Char) : Place :=
  if c = '\n' then ⟨place.line + 1, 0⟩ else ⟨place.line, place.column + c.utf8Size⟩

/-- The place behind the first byte of what follows. -/
def ahead (place : Place) : List Char → Place
  | [] => place
  | c :: _ => if c = '\n' then ⟨place.line + 1, 0⟩ else ⟨place.line, place.column + 1⟩

def pastBytes (place : Place) : Nat → List Char → Place
  | _, [] => place
  | n, c :: rest =>
      if c.utf8Size ≤ n then (place.past c).pastBytes (n - c.utf8Size) rest
      else ⟨place.line, place.column + n⟩

end Place

/-- Where a fault was noticed, if the value came from a text. -/
abbrev Spot := Option Place

/-- Why a text is not a JSON text. -/
inductive Malformation where
  | endInList
  | endInObject
  | endInString
  | endInValue
  | expectedColon
  | expectedListEnd
  | expectedObjectEnd
  | expectedIdent
  | expectedValue
  | invalidEscape
  | invalidNumber
  | numberOutOfRange
  | controlCharacter
  | keyNotString
  | loneSurrogate
  | endOfHexEscape
  | trailingComma
  | trailingCharacters
  | tooDeep
deriving DecidableEq, Repr

def Malformation.message : Malformation → String
  | .endInList => "EOF while parsing a list"
  | .endInObject => "EOF while parsing an object"
  | .endInString => "EOF while parsing a string"
  | .endInValue => "EOF while parsing a value"
  | .expectedColon => "expected `:`"
  | .expectedListEnd => "expected `,` or `]`"
  | .expectedObjectEnd => "expected `,` or `\x7d`"
  | .expectedIdent => "expected ident"
  | .expectedValue => "expected value"
  | .invalidEscape => "invalid escape"
  | .invalidNumber => "invalid number"
  | .numberOutOfRange => "number out of range"
  | .controlCharacter => "control character (\\u0000-\\u001F) found while parsing a string"
  | .keyNotString => "key must be a string"
  | .loneSurrogate => "lone leading surrogate in hex escape"
  | .endOfHexEscape => "unexpected end of hex escape"
  | .trailingComma => "trailing comma"
  | .trailingCharacters => "trailing characters"
  | .tooDeep => "recursion limit exceeded"

inductive Found where
  | null
  | bool (value : Bool)
  | int (value : Int)
  | float (value : Binary64)
  | str (value : String)
  | seq
  | map
deriving DecidableEq

inductive Cause where
  | malformed (why : Malformation)
  | invalidType (found : Found) (expected : String)
  | invalidValue (found : Found) (expected : String)
  | invalidLength (length : Nat) (expected : String)
  | unknownVariant (name : String) (known : List String)
  | missingField (name : String)
  | duplicateField (name : String)
  | noVariant (type : String)
deriving DecidableEq

/-- A fault and where it was noticed. -/
structure Fault where
  cause : Cause
  spot : Spot
deriving DecidableEq

namespace Fault

def malformed (why : Malformation) (place : Place) : Fault :=
  ⟨.malformed why, some place⟩

/-- Give a fault without a place the place of what encloses it. -/
def settle (spot : Spot) (fault : Fault) : Fault :=
  match fault.spot with
  | some _ => fault
  | none => { fault with spot }

end Fault

end ActionGraph.Wire
