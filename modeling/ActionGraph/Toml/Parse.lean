import ActionGraph.Toml.Scalar

/-!
# Reading TOML texts

A text is read line by line: headers, key-value pairs, comments and empty
lines.  A value may go on over several lines.  Values nest less than eighty
deep, and keys have fewer than eighty parts.
-/

namespace ActionGraph.Toml

/-- Values in brackets and braces, and the parts of keys, are fewer than this. -/
def depthLimit : Nat :=
  80

/-! ## Keys -/

def isBareKey (c : Char) : Bool :=
  c.isAlphanum || c = '_' || c = '-'

def part? (cs : List Char) : Option (String × List Char) :=
  let cs := skipBlanks cs
  let found := match cs with
    | '"' :: _ => line? cs
    | '\'' :: _ => line? cs
    | _ =>
        let name := cs.takeWhile isBareKey
        if name.isEmpty then none else some (String.ofList name, cs.drop name.length)
  found.map fun (name, rest) => (name, skipBlanks rest)

def parts? : Nat → List Char → Option (List String × List Char)
  | 0, _ => none
  | fuel + 1, cs => do
      let (name, cs) ← part? cs
      match cs with
      | '.' :: cs => do
          let (names, cs) ← parts? fuel cs
          return (name :: names, cs)
      | _ => return ([name], cs)

def key? (cs : List Char) : Option (List String × String × List Char) := do
  let (names, cs) ← parts? (depthLimit - 1) cs
  let last ← names.getLast?
  return (names.dropLast, last, cs)

/-! ## Values -/

abbrev Pair :=
  List String × String × Item

mutual

def value? : Nat → Nat → List Char → Option (Item × List Char)
  | 0, _, _ => none
  | fuel + 1, depth, cs =>
      match cs with
      | '"' :: _ => (text? cs).map fun (text, rest) => (.string text, rest)
      | '\'' :: _ => (text? cs).map fun (text, rest) => (.string text, rest)
      | '[' :: rest =>
          if depthLimit ≤ depth + 1 then none
          else (items? fuel (depth + 1) rest).map fun (items, rest) => (.array items, rest)
      | '{' :: rest =>
          if depthLimit ≤ depth + 1 then none
          else do
            let (pairs, rest) ← match skipBlanks rest with
              | '}' :: rest => some ([], rest)
              | rest => pairs? fuel (depth + 1) rest
            let table ← Table.ofPairs (.empty .inline) pairs
            return (.table .inline table.entries, rest)
      | 't' :: 'r' :: 'u' :: 'e' :: rest => some (.boolean true, rest)
      | 'f' :: 'a' :: 'l' :: 's' :: 'e' :: rest => some (.boolean false, rest)
      | _ => number? cs

def items? : Nat → Nat → List Char → Option (List Item × List Char)
  | 0, _, _ => none
  | fuel + 1, depth, cs =>
      let cs := skipLines cs.length cs
      match cs with
      | ']' :: rest => some ([], rest)
      | _ => do
          let (item, cs) ← value? fuel depth cs
          match skipLines cs.length cs with
          | ',' :: rest => do
              let (items, rest) ← items? fuel depth rest
              return (item :: items, rest)
          | ']' :: rest => return ([item], rest)
          | _ => none

def pairs? : Nat → Nat → List Char → Option (List Pair × List Char)
  | 0, _, _ => none
  | fuel + 1, depth, cs => do
      let (path, key, cs) ← key? cs
      match cs with
      | '=' :: cs => do
          let (item, cs) ← value? fuel depth (skipBlanks cs)
          match skipBlanks cs with
          | ',' :: rest => do
              let (pairs, rest) ← pairs? fuel depth rest
              return ((path, key, item) :: pairs, rest)
          | '}' :: rest => return ([(path, key, item)], rest)
          | _ => none
      | _ => none

end

/-! ## Lines -/

inductive Statement where
  | blank
  | pair (pair : Pair)
  /-- The header of a table, and whether it repeats. -/
  | header (path : List String) (key : String) (repeats : Bool)

def header? (cs : List Char) : Option (Statement × List Char) :=
  match cs with
  | '[' :: cs => do
      let (path, key, cs) ← key? cs
      match cs with
      | ']' :: ']' :: cs => return (.header path key true, ← lineEnd? cs)
      | _ => none
  | cs => do
      let (path, key, cs) ← key? cs
      match cs with
      | ']' :: cs => return (.header path key false, ← lineEnd? cs)
      | _ => none

def statement? (cs : List Char) : Option (Statement × List Char) :=
  match cs with
  | '[' :: cs => header? cs
  | _ =>
      match lineEnd? cs with
      | some rest => some (.blank, rest)
      | none => do
          let (path, key, cs) ← key? cs
          match cs with
          | '=' :: cs => do
              let cs := skipBlanks cs
              let (item, cs) ← value? (3 * cs.length + 3) 0 cs
              return (.pair (path, key, item), ← lineEnd? cs)
          | _ => none

def Draft.enter (draft : Draft) : Statement → Option Draft
  | .blank => some draft
  | .pair (path, key, item) => draft.insert path key item
  | .header path key true => draft.openElement path key
  | .header path key false => draft.openTable path key

/-- Why a text is not accepted, and the characters from that line on. -/
inductive Trouble where
  | malformed (left : Nat)
  | conflicting (left : Nat)
deriving DecidableEq, Repr

def readLines : Nat → Draft → List Char → Except Trouble Table
  | 0, _, cs => .error (.malformed cs.length)
  | fuel + 1, draft, cs =>
      let cs := skipBlanks cs
      if cs.isEmpty then
        match draft.close with
        | some table => .ok table
        | none => .error (.conflicting 0)
      else
        match statement? cs with
        | none => .error (.malformed cs.length)
        | some (statement, rest) =>
            match draft.enter statement with
            | none => .error (.conflicting cs.length)
            | some draft => readLines fuel draft rest

/-- Read a document, without the mark that may stand at its beginning. -/
def read (text : String) : Except Trouble Table :=
  let cs := match text.toList with
    | '\uFEFF' :: rest => rest
    | cs => cs
  readLines (cs.length + 1) .empty cs

end ActionGraph.Toml
