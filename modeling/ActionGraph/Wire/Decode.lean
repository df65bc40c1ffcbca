import ActionGraph.Wire.Node

/-!
# Decoders

A decoder accepts an encoded value as a value of a type or says what is wrong
with it.  Decoders read in source order, so of several faults the first one
is reported.
-/

namespace ActionGraph.Wire

abbrev Decoder (α : Type) := Node → Except Fault α

namespace Decode

def string : Decoder String
  | .str s _ _ => s
  | node => .error (node.mismatch "a string")

def bool : Decoder Bool
  | .bool b _ _ => .ok b
  | node => .error (node.mismatch "a boolean")

def json : Decoder Json :=
  Node.toJson

/-- A natural number below a bound. -/
def natBelow (bound : Nat) (expected : String) : Decoder Nat
  | .num (.ok (.int z)) _ stop =>
      match z with
      | .ofNat n =>
          if n < bound then .ok n else .error ⟨.invalidValue (.int n) expected, stop⟩
      | .negSucc n => .error ⟨.invalidValue (.int (.negSucc n)) expected, stop⟩
  | node => .error (node.mismatch expected)

def u32 : Decoder Nat :=
  natBelow (Nat.pow 2 32) "u32"

def u64 : Decoder Nat :=
  natBelow (Nat.pow 2 64) "u64"

def usize : Decoder Nat :=
  natBelow (Nat.pow 2 64) "usize"

def f32 : Decoder Binary32
  | .num (.ok (.int z)) _ _ => .ok (.ofInt z)
  | .num (.ok (.float x)) _ _ => .ok (.narrow x)
  | node => .error (node.mismatch "f32")

def f64 : Decoder Binary64
  | .num (.ok (.int z)) _ _ => .ok (.ofInt z)
  | .num (.ok (.float x)) _ _ => .ok x
  | node => .error (node.mismatch "f64")

/-- Null, or a value of the type. -/
def option {α : Type} (decoder : Decoder α) : Decoder (Option α)
  | .null _ _ => .ok none
  | node => (decoder node).map some

def items {α : Type} (decoder : Decoder α) : List (ItemFrame × Node) → Except Fault (List α)
  | [] => .ok []
  | (frame, node) :: rest => do
      let value ← (decoder node).mapError (Fault.settle frame.resume)
      let values ← items decoder rest
      return value :: values

def list {α : Type} (decoder : Decoder α) : Decoder (List α)
  | .seq _ nodes ending => do
      let values ← items decoder nodes
      Node.readEnding ending
      return values
  | node => .error (node.mismatch "a sequence")

def entries {α : Type} (decoder : Decoder α) :
    List (MapKey × Node) → Except Fault (List (String × α))
  | [] => .ok []
  | (key, node) :: rest => do
      let name ← key.name
      let value ← (decoder node).mapError (Fault.settle key.valueResume)
      let values ← entries decoder rest
      return (name, value) :: values

/-- A map from texts; of two entries with a key the later counts. -/
def dict {α : Type} (decoder : Decoder α) : Decoder (Dict α)
  | .map _ nodes ending => do
      let values ← entries decoder nodes
      Node.readEnding ending
      return Dict.ofList values
  | node => .error (node.mismatch "a map")

/-- Null as the content of a variant without content. -/
def unit : Decoder Unit
  | .null _ _ => .ok ()
  | node => .error (node.mismatch "unit")

/-- A variant by its name. -/
def variantNamed {α : Type} (variants : List (String × α)) (other : Option α) (spot : Spot)
    (name : String) : Except Fault α :=
  match Entries.find? name variants with
  | some value => .ok value
  | none =>
      match other with
      | some value => .ok value
      | none => .error ⟨.unknownVariant name (variants.map (·.1)), spot⟩

def noVariant (node : Node) : Fault :=
  let expectedValue : Spot → Fault := fun spot =>
    ⟨.malformed .expectedValue, spot.map fun place => ⟨place.line, place.column + 1⟩⟩
  match node with
  | .null (some place) _ => expectedValue place
  | .bool _ (some place) _ => expectedValue place
  | .num _ (some place) _ => expectedValue place
  | .seq (some place) _ _ => expectedValue place
  | _ => node.mismatch "string or map"

/--
A variant without content, written as its name or as a map from its name to
null.  Names that are not listed stand for `other`, if there is one.
-/
def variant {α : Type} (variants : List (String × α)) (other : Option α) : Decoder α
  | .str s _ stop => do
      let name ← s
      variantNamed variants other stop name
  | .map start [] (.closed (some stop)) =>
      .error ⟨.malformed .expectedValue, if start.isSome then some stop else none⟩
  | .map _ [] (.broken b) => .error b.reading
  | .map none [(key, node)] _ => do
      let name ← key.name
      let value ← variantNamed variants other none name
      unit node
      return value
  | .map none _ _ => .error ⟨.invalidValue .map "map with a single key", none⟩
  | .map (some _) ((key, node) :: rest) ending => do
      let name ← key.name
      let value ← variantNamed variants other key.stop name
      unit node
      match rest, ending with
      | [], .closed _ => return value
      | [], .broken b =>
          match b.reading.cause with
          | .malformed .endInObject => .error b.reading
          | _ => .error ⟨.malformed .expectedValue, key.next⟩
      | _ :: _, _ => .error ⟨.malformed .expectedValue, key.next⟩
  | node => .error (noVariant node)

end Decode

end ActionGraph.Wire
