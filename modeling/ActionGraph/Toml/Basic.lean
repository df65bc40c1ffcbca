import ActionGraph.Number.Binary64

/-!
# TOML documents

A document is a table of items.  A table remembers how it came about, because
that decides whether it may be added to later: by a header, on the way to
another table, by a dotted key, or written out in braces.  Adding to a table
goes along a path of keys and fails where the path runs into something that
may not be added to.
-/

namespace ActionGraph.Toml

/-- How a table came about. -/
inductive Kind where
  | header
  /-- On the way of a header to another table. -/
  | implied
  /-- On the way of a key to a value. -/
  | dotted
  | inline
deriving DecidableEq, Repr

inductive Item where
  | string (value : String)
  | integer (value : Int)
  | float (value : Binary64)
  | boolean (value : Bool)
  /-- A date, a time, or both, as it is written out. -/
  | time (text : String)
  | array (items : List Item)
  | table (kind : Kind) (entries : List (String × Item))
  /-- The tables of repeated headers. -/
  | tables (elements : List (List (String × Item)))

/-- The entries of a table in the order in which they were added. -/
abbrev Entries :=
  List (String × Item)

/-- A table with how it came about. -/
structure Table where
  kind : Kind
  entries : Entries

namespace Table

def empty (kind : Kind) : Table :=
  ⟨kind, []⟩

def get? (t : Table) (key : String) : Option Item :=
  (t.entries.find? fun entry => entry.1 = key).map (·.2)

/-- Replace the item of a key, or add it behind all others. -/
def put (t : Table) (key : String) (item : Item) : Table :=
  if t.entries.any fun entry => entry.1 = key then
    { t with
      entries := t.entries.map fun entry => if entry.1 = key then (key, item) else entry }
  else { t with entries := t.entries ++ [(key, item)] }

def erase (t : Table) (key : String) : Table :=
  { t with entries := t.entries.filter fun entry => entry.1 ≠ key }

/--
Change the table at the end of a path.  Tables that are missing are made on
the way.  A path of a dotted key passes no table that has a header.
-/
def alter (dotted : Bool) (f : Table → Option Table) : List String → Table → Option Table
  | [], t => f t
  | key :: path, t =>
      match t.get? key with
      | none => do
          let inner ← alter dotted f path (empty (if dotted then .dotted else .implied))
          return t.put key (.table inner.kind inner.entries)
      | some (.table kind entries) =>
          if kind = .inline ∨ (dotted = true ∧ kind = .header) then none
          else do
            let inner ← alter dotted f path ⟨kind, entries⟩
            return t.put key (.table inner.kind inner.entries)
      | some (.tables elements) =>
          match elements.getLast? with
          | none => none
          | some last => do
              let inner ← alter dotted f path ⟨.header, last⟩
              return t.put key (.tables (elements.dropLast ++ [inner.entries]))
      | some _ => none

/-- Add an item under a dotted key; tables are either dotted into or added to, never both. -/
def insert (path : List String) (key : String) (item : Item) (t : Table) : Option Table :=
  alter true
    (fun t =>
      if decide (t.kind = .dotted) = path.isEmpty then none
      else if (t.get? key).isSome then none
      else some (t.put key item))
    path t

def ofPairs : Table → List (List String × String × Item) → Option Table
  | t, [] => some t
  | t, (path, key, item) :: rest => (t.insert path key item).bind fun t => ofPairs t rest

end Table

/-! ## Documents under headers -/

/-- A document up to a line. -/
structure Draft where
  /-- All but the table of the last header. -/
  root : Table
  /-- The table of the last header. -/
  current : Table
  /-- The last header, without its last key. -/
  path : List String
  /-- The last key of the last header, and whether it repeats; none before the first. -/
  key : Option (String × Bool)

namespace Draft

def empty : Draft :=
  ⟨.empty .header, .empty .header, [], none⟩

def insert (draft : Draft) (path : List String) (key : String) (item : Item) : Option Draft :=
  (draft.current.insert path key item).map fun current => { draft with current }

/-- Put the table of the last header into its place. -/
def close (draft : Draft) : Option Table :=
  match draft.key with
  | none => some draft.current
  | some (key, true) =>
      Table.alter false
        (fun t =>
          match t.get? key with
          | none => some (t.put key (.tables [draft.current.entries]))
          | some (.tables elements) =>
              some (t.put key (.tables (elements ++ [draft.current.entries])))
          | some _ => none)
        draft.path draft.root
  | some (key, false) =>
      Table.alter false
        (fun t => some (t.put key (.table .header draft.current.entries)))
        draft.path draft.root

def under (path : List String) (root : Table) : Option Table :=
  match path with
  | [] => some root
  | key :: rest =>
      match root.get? key with
      | none => some (.empty .implied)
      | some (.table kind entries) => if kind = .inline then none else under rest ⟨kind, entries⟩
      | some (.tables elements) =>
          match elements.getLast? with
          | none => none
          | some last => under rest ⟨.header, last⟩
      | some _ => none

def openTable (draft : Draft) (path : List String) (key : String) : Option Draft := do
  let root ← draft.close
  let parent ← under path root
  match parent.get? key with
  | none => return ⟨root, .empty .header, path, some (key, false)⟩
  | some (.table .implied entries) =>
      let root ← Table.alter false (fun t => some (t.erase key)) path root
      return ⟨root, ⟨.header, entries⟩, path, some (key, false)⟩
  | some _ => none

def openElement (draft : Draft) (path : List String) (key : String) : Option Draft := do
  let root ← draft.close
  let parent ← under path root
  match parent.get? key with
  | none => return ⟨root, .empty .header, path, some (key, true)⟩
  | some (.tables _) => return ⟨root, .empty .header, path, some (key, true)⟩
  | some _ => none

end Draft

end ActionGraph.Toml
