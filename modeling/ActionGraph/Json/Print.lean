import ActionGraph.Json.Basic

/-!
# JSON texts of values

The compact text has no blanks at all; the indented text gives each item and
each field a line of its own, two blanks deeper than its container.  Quotes,
backslashes and control characters are escaped, all other characters stand
for themselves.
-/

namespace ActionGraph.Json

def hexDigit (n : Nat) : Char :=
  Char.ofNat (if n < 10 then 48 + n else 87 + n)

/-- The characters that stand for a character between quotes. -/
def escape (c : Char) : List Char :=
  match c.toNat with
  | 0x22 => ['\\', '"']
  | 0x5c => ['\\', '\\']
  | 0x08 => ['\\', 'b']
  | 0x0c => ['\\', 'f']
  | 0x0a => ['\\', 'n']
  | 0x0d => ['\\', 'r']
  | 0x09 => ['\\', 't']
  | n => if n < 0x20 then ['\\', 'u', '0', '0', hexDigit (n / 16), hexDigit (n % 16)] else [c]

def quote (s : String) : String :=
  "\"" ++ String.ofList (s.toList.flatMap escape) ++ "\""

mutual

/-- The text of a value without blanks. -/
def compact : Json → String
  | .null => "null"
  | .bool true => "true"
  | .bool false => "false"
  | .num n => n.render
  | .str s => quote s
  | .arr items => "[" ++ ",".intercalate (compactItems items) ++ "]"
  | .obj fields => "\x7b" ++ ",".intercalate (compactFields fields) ++ "\x7d"

def compactItems : List Json → List String
  | [] => []
  | item :: rest => compact item :: compactItems rest

def compactFields : List (String × Json) → List String
  | [] => []
  | (key, value) :: rest => (quote key ++ ":" ++ compact value) :: compactFields rest

end

/-- A line break and the blanks of a depth. -/
def lineBreak (depth : Nat) : String :=
  "\n" ++ String.ofList (List.replicate (2 * depth) ' ')

mutual

def indented (depth : Nat) : Json → String
  | .arr [] => "[]"
  | .obj [] => "\x7b\x7d"
  | .arr items =>
      "[" ++ ",".intercalate (indentedItems (depth + 1) items) ++ lineBreak depth ++ "]"
  | .obj fields =>
      "\x7b" ++ ",".intercalate (indentedFields (depth + 1) fields) ++ lineBreak depth ++ "\x7d"
  | .null => "null"
  | .bool true => "true"
  | .bool false => "false"
  | .num n => n.render
  | .str s => quote s

def indentedItems (depth : Nat) : List Json → List String
  | [] => []
  | item :: rest => (lineBreak depth ++ indented depth item) :: indentedItems depth rest

def indentedFields (depth : Nat) : List (String × Json) → List String
  | [] => []
  | (key, value) :: rest =>
      (lineBreak depth ++ quote key ++ ": " ++ indented depth value) :: indentedFields depth rest

end

def pretty (value : Json) : String :=
  indented 0 value

end ActionGraph.Json
