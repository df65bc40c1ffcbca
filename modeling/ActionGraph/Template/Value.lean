import ActionGraph.Json.Basic
import ActionGraph.Template.Fault
import ActionGraph.Text.Debug
import ActionGraph.Text.Split

/-!
# Values of template expressions

Values are those of JSON, with integers of 128 bits, with maps whose keys may
be any value, and with the value of a name that stands for nothing.
-/

namespace ActionGraph.Template

inductive Value where
  /-- What has no value; a silent one is not objected to in strict templates. -/
  | undefined (silent : Bool)
  | none
  | bool (value : Bool)
  | int (value : Int)
  | float (value : Binary64)
  | str (value : String)
  | list (items : List Value)
  | map (entries : List (Value × Value))

namespace Value

instance : Inhabited Value :=
  ⟨.none⟩

/-- The value of a name that stands for nothing. -/
def missing : Value :=
  .undefined false

def ofNumber : Number → Value
  | .int z _ => .int z
  | .float x _ => .float x

mutual

def ofJson : Json → Value
  | .null => .none
  | .bool b => .bool b
  | .num n => ofNumber n
  | .str s => .str s
  | .arr items => .list (ofItems items)
  | .obj fields => .map (ofFields fields)

def ofItems : List Json → List Value
  | [] => []
  | item :: rest => ofJson item :: ofItems rest

def ofFields : List (String × Json) → List (Value × Value)
  | [] => []
  | (key, value) :: rest => (.str key, ofJson value) :: ofFields rest

end

def ofNat (n : Nat) : Value :=
  .int n

def ofChars (cs : List Char) : Value :=
  .str (String.ofList cs)

def kind : Value → String
  | .undefined _ => "undefined"
  | .none => "none"
  | .bool _ => "bool"
  | .int _ => "number"
  | .float _ => "number"
  | .str _ => "string"
  | .list _ => "sequence"
  | .map _ => "map"

/-- The place of the kind of a value in the order of values. -/
def rank : Value → Nat
  | .undefined _ => 0
  | .none => 1
  | .bool _ => 2
  | .int _ => 3
  | .float _ => 3
  | .str _ => 4
  | .list _ => 5
  | .map _ => 6

def isUndefined : Value → Bool
  | .undefined _ => true
  | _ => false

def string? : Value → Option String
  | .str s => some s
  | _ => Option.none

def isTrue : Value → Bool
  | .undefined _ => false
  | .none => false
  | .bool b => b
  | .int z => z ≠ 0
  | .float x => !x.eqv ⟨0⟩
  | .str s => !s.isEmpty
  | .list items => !items.isEmpty
  | .map entries => !entries.isEmpty

/-- The text of a float, always with a point. -/
def floatText (x : Binary64) : String :=
  Decimal.render64 Decimal.plainPoint x

mutual

/-- The text of a value inside a list or a map. -/
def nested : Value → String
  | .undefined _ => "undefined"
  | .none => "None"
  | .bool true => "True"
  | .bool false => "False"
  | .int z => toString z
  | .float x => floatText x
  | .str s => Text.quoted s
  | .list items => "[" ++ ", ".intercalate (nestedItems items) ++ "]"
  | .map entries => "\x7b" ++ ", ".intercalate (nestedEntries entries) ++ "\x7d"

def nestedItems : List Value → List String
  | [] => []
  | item :: rest => nested item :: nestedItems rest

def nestedEntries : List (Value × Value) → List String
  | [] => []
  | (key, value) :: rest => (nested key ++ ": " ++ nested value) :: nestedEntries rest

end

def text : Value → String
  | .undefined _ => ""
  | .str s => s
  | value => value.nested

/-! ## Order and equality -/

/-- Two numbers on common ground. -/
inductive Pair where
  | ints (a b : Int)
  | floats (a b : Binary64)

/-- The integer of a truth value, an integer or a whole float. -/
def integer? : Value → Option Int
  | .bool b => some (if b then 1 else 0)
  | .int z => some z
  | .float x =>
      if x.isFinite && x.isWhole && decide (x.floorMagnitude < Nat.pow 2 63) then
        some (if x.negative then -(x.floorMagnitude : Int) else x.floorMagnitude)
      else Option.none
  | _ => Option.none

/-- The float of a number; of an integer only if it is exact or need not be. -/
def float? (lossy : Bool) : Value → Option Binary64
  | .bool b => some (.ofInt (if b then 1 else 0))
  | .int z =>
      let x := Binary64.ofInt z
      if lossy || x.floorMagnitude == z.natAbs then some x else Option.none
  | .float x => some x
  | _ => Option.none

/-- Two numbers as integers, or as floats if one of them is a float. -/
def pair? (lossy : Bool) (a b : Value) : Option Pair :=
  match a, b with
  | .float x, _ => (float? lossy b).map fun y => .floats x y
  | _, .float y => (float? lossy a).map fun x => .floats x y
  | _, _ =>
      match integer? a, integer? b with
      | some x, some y => some (.ints x y)
      | _, _ => Option.none

mutual

/-- The order of values: by kind, and within a kind by content. -/
def order (a b : Value) : Ordering :=
  if a.rank ≠ b.rank then compare a.rank b.rank
  else
    match a, b with
    | .str s, .str t => compare s t
    | .list items, .list others => orderItems items others
    | .map entries, .map others => orderEntries entries others
    | _, _ =>
        match pair? false a b with
        | some (.ints x y) => compare x y
        | some (.floats x y) => compare x.key y.key
        | Option.none => .eq

def orderItems : List Value → List Value → Ordering
  | [], [] => .eq
  | [], _ :: _ => .lt
  | _ :: _, [] => .gt
  | a :: as, b :: bs => (order a b).then (orderItems as bs)

def orderEntries : List (Value × Value) → List (Value × Value) → Ordering
  | [], [] => .eq
  | [], _ :: _ => .lt
  | _ :: _, [] => .gt
  | (k, a) :: as, (l, b) :: bs =>
      ((order k l).then (order a b)).then (orderEntries as bs)

end

mutual

def same (a b : Value) : Bool :=
  match a, b with
  | .none, .none => true
  | .undefined _, .undefined _ => true
  | .str s, .str t => s == t
  | .list items, .list others => sameItems items others
  | .map entries, .map others => sameEntries entries others
  | _, _ =>
      match pair? false a b with
      | some (.ints x y) => x == y
      | some (.floats x y) => x.eqv y
      | Option.none => false

def sameItems : List Value → List Value → Bool
  | [], [] => true
  | a :: as, b :: bs => same a b && sameItems as bs
  | _, _ => false

def sameEntries : List (Value × Value) → List (Value × Value) → Bool
  | [], [] => true
  | (k, a) :: as, (l, b) :: bs => same k l && same a b && sameEntries as bs
  | _, _ => false

end

/-! ## Parts of values -/

def lookUp (key : Value) : List (Value × Value) → Option Value
  | [] => Option.none
  | (k, v) :: rest => if same k key then some v else lookUp key rest

/-- Enter a value under a key, in the order of the keys. -/
def enter (key value : Value) : List (Value × Value) → List (Value × Value)
  | [] => [(key, value)]
  | (k, v) :: rest =>
      match order key k with
      | .eq => (key, value) :: rest
      | .lt => (key, value) :: (k, v) :: rest
      | .gt => (k, v) :: enter key value rest

/-- The map of entries, of which a later one counts. -/
def ofEntries (entries : List (Value × Value)) : Value :=
  .map (entries.foldl (fun sofar entry => enter entry.1 entry.2 sofar) [])

def attribute? (name : String) : Value → Option Value
  | .map entries => lookUp (.str name) entries
  | _ => Option.none

/-- The place that an index selects among so many; a negative one counts from the end. -/
def place? (index : Value) (count : Nat) : Option Nat :=
  match integer? index with
  | some (.ofNat n) => some n
  | some (.negSucc n) => if n + 1 ≤ count then some (count - (n + 1)) else Option.none
  | Option.none => Option.none

/-- The item of a list, the character of a text, or the entry of a map. -/
def item? (value index : Value) : Option Value :=
  match value with
  | .list items => (place? index items.length).bind fun i => items[i]?
  | .str s =>
      let cs := s.toList
      (place? index cs.length).bind fun i => (cs[i]?).map fun c => ofChars [c]
  | .map entries => lookUp index entries
  | _ => Option.none

/-- What a loop goes through: items, characters or keys. -/
def items? : Value → Option (List Value)
  | .undefined _ => some []
  | .none => some []
  | .str s => some (s.toList.map fun c => ofChars [c])
  | .list items => some items
  | .map entries => some (entries.map (·.1))
  | _ => Option.none

def items (value : Value) : Except Trouble (List Value) :=
  match value.items? with
  | some items => .ok items
  | Option.none => .error (.invalidOperation (value.kind ++ " is not iterable"))

def length? : Value → Option Nat
  | .str s => some s.length
  | .list items => some items.length
  | .map entries => some entries.length
  | _ => Option.none

def contains (value : Value) : Value → Except Trouble Bool
  | .undefined _ => .ok false
  | .str s => .ok (Text.occursIn value.text.toList s.toList)
  | .list items => .ok (items.any fun item => item.same value)
  | .map entries => .ok (lookUp value entries).isSome
  | _ => .error (.invalidOperation "cannot perform a containment check on this value")

end Value

end ActionGraph.Template
