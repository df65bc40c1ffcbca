import ActionGraph.Toml.Parse
import ActionGraph.Wire.Decode
import ActionGraph.Wire.Message

/-!
# Accepting TOML

A TOML document becomes an encoded value, which a decoder accepts or not.  A
time becomes a map with one key of its own.  Where a sequence stands for a
record, what is too much is ignored.
-/

namespace ActionGraph.Toml

def timeKey : String :=
  "$__toml_private_datetime"

def itemFrame : Wire.ItemFrame :=
  ⟨none, .ignored⟩

namespace Item

mutual

def toNode : Item → Wire.Node
  | .string s => .str (.ok s) none none
  | .integer z => .num (.ok (.int z)) none none
  | .float x => .num (.ok (.float x)) none none
  | .boolean b => .bool b none none
  | .time text =>
      .map none [(Wire.Node.keyOf timeKey, .str (.ok text) none none)] (.closed none)
  | .array items => .seq none (toItems items) (.closed none)
  | .table _ entries => .map none (toEntries entries) (.closed none)
  | .tables elements => .seq none (toElements elements) (.closed none)

def toItems : List Item → List (Wire.ItemFrame × Wire.Node)
  | [] => []
  | item :: rest => (itemFrame, toNode item) :: toItems rest

def toEntries : List (String × Item) → List (Wire.MapKey × Wire.Node)
  | [] => []
  | (key, item) :: rest => (Wire.Node.keyOf key, toNode item) :: toEntries rest

def toElements : List (List (String × Item)) → List (Wire.ItemFrame × Wire.Node)
  | [] => []
  | entries :: rest => (itemFrame, .map none (toEntries entries) (.closed none)) :: toElements rest

end

end Item

/-- Why a text is not accepted, with the line where that was noticed. -/
inductive Fault where
  | malformed (line : Nat)
  | conflicting (line : Nat)
  | undecodable (fault : Wire.Fault)
deriving DecidableEq

namespace Fault

def message : Fault → String
  | .malformed line => "TOML parse error at line " ++ toString line ++ ": malformed entry"
  | .conflicting line =>
      "TOML parse error at line " ++ toString line ++ ": the entry conflicts with an earlier one"
  | .undecodable fault => "TOML parse error: " ++ fault.message

/-- The line of a text that has so many characters left. -/
def lineOf (text : String) (left : Nat) : Nat :=
  (text.toList.take (text.length - left)).count '\n' + 1

def ofTrouble (text : String) : Trouble → Fault
  | .malformed left => .malformed (lineOf text left)
  | .conflicting left => .conflicting (lineOf text left)

end Fault

def accept {α : Type} (decoder : Wire.Decoder α) (text : String) : Except Fault α := do
  let table ← (read text).mapError (Fault.ofTrouble text)
  (decoder (Item.table table.kind table.entries).toNode).mapError .undecodable

end ActionGraph.Toml
