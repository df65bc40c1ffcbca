import ActionGraph.Wire.Fault
import ActionGraph.Json.Basic

/-!
# Encoded values before they are accepted

A node is an encoded value as it stands in its source: entries in source
order, repeated keys kept, each part with its place in the text.  A text that
stops being well formed leaves a break in the tree, so what stands before the
break can still be judged first.  Some malformations, such as a number out of
range, matter only when the value is read and not when it is skipped.
-/

namespace ActionGraph.Wire

/-- A number of an encoded value. -/
inductive Numeral where
  | int (value : Int)
  | float (value : Binary64)
deriving DecidableEq

/-- The faults met where a text stops being well formed. -/
structure Break where
  /-- Met when the value is read. -/
  reading : Fault
  /-- Met when the value is skipped. -/
  skipping : Fault

inductive Ending where
  | closed (stop : Spot)
  | broken (break_ : Break)

/-- What becomes of the items behind the last one that is read. -/
inductive Surplus where
  /-- They are counted, and any is one too many. -/
  | counted
  | fault (fault : Fault)
  | ignored

structure ItemFrame where
  /-- The place that a fault without one gets when it is noticed behind the item. -/
  resume : Spot
  /-- What becomes of the items behind this one if it is the last one that is read. -/
  surplus : Surplus

/-- A key of a map and what stands around it. -/
structure MapKey where
  name : Except Fault String
  /-- The place behind the key. -/
  stop : Spot
  /-- The place that a fault without one gets when it is noticed behind the key. -/
  resume : Spot
  /-- The place behind the value, blanks skipped. -/
  next : Spot
  /-- The place that a fault without one gets when it is noticed behind the value. -/
  valueResume : Spot

inductive Node where
  | null (start stop : Spot)
  | bool (value : Bool) (start stop : Spot)
  | num (value : Except Fault Numeral) (start stop : Spot)
  | str (value : Except Fault String) (start stop : Spot)
  | seq (start : Spot) (items : List (ItemFrame × Node)) (ending : Ending)
  | map (start : Spot) (entries : List (MapKey × Node)) (ending : Ending)
  /-- A sequence or map nested too deep to be read. -/
  | deep (fault : Fault) (inner : Node)
  | broken (break_ : Break)

namespace Node

def keyOf (name : String) : MapKey :=
  ⟨.ok name, none, none, none, none⟩

def itemFrame : ItemFrame :=
  ⟨none, .counted⟩

def numeralOf : Number → Numeral
  | .int z _ => .int z
  | .float x _ => .float x

mutual

def ofJson : Json → Node
  | .null => .null none none
  | .bool b => .bool b none none
  | .num n => .num (.ok (numeralOf n)) none none
  | .str s => .str (.ok s) none none
  | .arr items => .seq none (ofItems items) (.closed none)
  | .obj fields => .map none (ofFields fields) (.closed none)

def ofItems : List Json → List (ItemFrame × Node)
  | [] => []
  | item :: rest => (itemFrame, ofJson item) :: ofItems rest

def ofFields : List (String × Json) → List (MapKey × Node)
  | [] => []
  | (key, value) :: rest => (keyOf key, ofJson value) :: ofFields rest

end

def skipEnding : Ending → Except Fault Unit
  | .closed _ => .ok ()
  | .broken b => .error b.skipping

mutual

/-- Skip a value: only a break in the text matters. -/
def skip : Node → Except Fault Unit
  | .broken b => .error b.skipping
  | .deep _ inner => skip inner
  | .seq _ items ending => do
      skipItems items
      skipEnding ending
  | .map _ entries ending => do
      skipEntries entries
      skipEnding ending
  | _ => .ok ()

def skipItems : List (ItemFrame × Node) → Except Fault Unit
  | [] => .ok ()
  | (_, node) :: rest => do
      skip node
      skipItems rest

def skipEntries : List (MapKey × Node) → Except Fault Unit
  | [] => .ok ()
  | (_, node) :: rest => do
      skip node
      skipEntries rest

end

def readEnding : Ending → Except Fault Unit
  | .closed _ => .ok ()
  | .broken b => .error b.reading

/-- The number of a numeral; a float that is not finite is null. -/
def jsonOfNumeral : Numeral → Json
  | .int z => Json.ofInt z
  | .float x => Json.ofBinary64 x

mutual

def toJson : Node → Except Fault Json
  | .null _ _ => .ok .null
  | .bool b _ _ => .ok (.bool b)
  | .num n _ _ => n.map jsonOfNumeral
  | .str s _ _ => s.map .str
  | .seq _ items ending => do
      let values ← toItems items
      readEnding ending
      return .arr values
  | .map _ entries ending => do
      let fields ← toFields entries
      readEnding ending
      return Json.ofFields fields
  | .deep fault _ => .error fault
  | .broken b => .error b.reading

def toItems : List (ItemFrame × Node) → Except Fault (List Json)
  | [] => .ok []
  | (_, node) :: rest => do
      let value ← toJson node
      let values ← toItems rest
      return value :: values

def toFields : List (MapKey × Node) → Except Fault (List (String × Json))
  | [] => .ok []
  | (key, node) :: rest => do
      let name ← key.name
      let value ← toJson node
      let fields ← toFields rest
      return (name, value) :: fields

end

/-- What stands where something else is expected, and the place of that fault. -/
def found : Node → Except Fault (Found × Spot)
  | .null _ stop => .ok (.null, stop)
  | .bool b _ stop => .ok (.bool b, stop)
  | .num (.ok (.int z)) _ stop => .ok (.int z, stop)
  | .num (.ok (.float x)) _ stop => .ok (.float x, stop)
  | .num (.error fault) _ _ => .error fault
  | .str (.ok s) _ stop => .ok (.str s, stop)
  | .str (.error fault) _ _ => .error fault
  | .seq start _ _ => .ok (.seq, start)
  | .map start _ _ => .ok (.map, start)
  | .deep fault _ => .error fault
  | .broken b => .error b.reading

def mismatch (expected : String) (node : Node) : Fault :=
  match node.found with
  | .ok (found, spot) => ⟨.invalidType found expected, spot⟩
  | .error fault => fault

end Node

end ActionGraph.Wire
