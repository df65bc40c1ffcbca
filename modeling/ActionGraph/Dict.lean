/-!
# Dictionaries in key order

Lists of keyed entries, and dictionaries as such lists in strictly increasing
key order.  Keys are ordered by code points.  A dictionary is determined by
its lookups, and `get?_insert` and `get?_erase` say what each operation does
to them.
-/

namespace ActionGraph

namespace Entries

variable {α β : Type}

/-- The value of the first entry with a key. -/
def find? (key : String) : List (String × α) → Option α
  | [] => none
  | (k, v) :: rest => if k = key then some v else find? key rest

/-- Replace the entry of a key, or insert it before the first greater key. -/
def insert (key : String) (value : α) : List (String × α) → List (String × α)
  | [] => [(key, value)]
  | (k, v) :: rest =>
      if key = k then (key, value) :: rest
      else if key < k then (key, value) :: (k, v) :: rest
      else (k, v) :: insert key value rest

def erase (key : String) (entries : List (String × α)) : List (String × α) :=
  entries.filter fun entry => entry.1 ≠ key

def Sorted (entries : List (String × α)) : Prop :=
  entries.Pairwise fun a b => a.1 < b.1

theorem find?_insert_self (key : String) (value : α) (entries : List (String × α)) :
    find? key (insert key value entries) = some value := by
  induction entries with
  | nil => simp [insert, find?]
  | cons entry rest ih =>
      obtain ⟨k, v⟩ := entry
      by_cases same : key = k
      · simp [insert, find?, same]
      · by_cases below : key < k
        · simp [insert, find?, same, below]
        · simp [insert, find?, same, below, Ne.symm same, ih]

theorem find?_insert_of_ne {key other : String} (ne : other ≠ key) (value : α)
    (entries : List (String × α)) :
    find? other (insert key value entries) = find? other entries := by
  induction entries with
  | nil => simp [insert, find?, Ne.symm ne]
  | cons entry rest ih =>
      obtain ⟨k, v⟩ := entry
      by_cases same : key = k
      · subst same
        simp [insert, find?, Ne.symm ne]
      · by_cases below : key < k
        · simp [insert, find?, same, below, Ne.symm ne]
        · simp [insert, find?, same, below, ih]

theorem find?_erase_self (key : String) (entries : List (String × α)) :
    find? key (erase key entries) = none := by
  induction entries with
  | nil => rfl
  | cons entry rest ih =>
      obtain ⟨k, v⟩ := entry
      by_cases same : k = key
      · simpa [erase, same] using ih
      · simpa [erase, same, find?] using ih

theorem find?_erase_of_ne {key other : String} (ne : other ≠ key)
    (entries : List (String × α)) :
    find? other (erase key entries) = find? other entries := by
  induction entries with
  | nil => rfl
  | cons entry rest ih =>
      obtain ⟨k, v⟩ := entry
      by_cases same : k = key
      · simpa [erase, same, find?, Ne.symm ne] using ih
      · by_cases here : k = other
        · simp [erase, find?, here, ne]
        · simpa [erase, same, find?, here] using ih

theorem mem_keys_insert {key other : String} {value : α} {entries : List (String × α)}
    {entry : String × α} (mem : entry ∈ insert key value entries) (h : other < key)
    (all : ∀ e ∈ entries, other < e.1) : other < entry.1 := by
  induction entries with
  | nil =>
      simp [insert] at mem
      simpa [mem] using h
  | cons first rest ih =>
      obtain ⟨k, v⟩ := first
      have inRest : ∀ e ∈ rest, other < e.1 := fun e he => all e (by simp [he])
      have atFirst : other < k := all (k, v) (by simp)
      by_cases same : key = k
      · simp only [insert, same, if_true, List.mem_cons] at mem
        rcases mem with rfl | mem
        · exact atFirst
        · exact inRest _ mem
      · by_cases below : key < k
        · simp only [insert, same, below, if_true, if_false, List.mem_cons] at mem
          rcases mem with rfl | rfl | mem
          · exact h
          · exact atFirst
          · exact inRest _ mem
        · simp only [insert, same, below, if_false, List.mem_cons] at mem
          rcases mem with rfl | mem
          · exact atFirst
          · exact ih mem inRest

theorem Sorted.insert {entries : List (String × α)} (sorted : Sorted entries)
    (key : String) (value : α) : Sorted (insert key value entries) := by
  induction entries with
  | nil => simp [Entries.insert, Sorted]
  | cons entry rest ih =>
      obtain ⟨k, v⟩ := entry
      have tail : Sorted rest := (List.pairwise_cons.1 sorted).2
      have head : ∀ e ∈ rest, k < e.1 := (List.pairwise_cons.1 sorted).1
      by_cases same : key = k
      · subst same
        simp only [Entries.insert, if_true]
        exact List.pairwise_cons.2 ⟨head, tail⟩
      · by_cases below : key < k
        · simp only [Entries.insert, same, below, if_true, if_false]
          refine List.pairwise_cons.2 ⟨?_, sorted⟩
          intro e he
          rcases List.mem_cons.1 he with rfl | he
          · exact below
          · exact String.lt_trans below (head e he)
        · have above : k < key := by
            rcases Std.lt_trichotomy key k with lt | eq | gt
            · exact absurd lt below
            · exact absurd eq same
            · exact gt
          simp only [Entries.insert, same, below, if_false]
          exact List.pairwise_cons.2 ⟨fun e he => mem_keys_insert he above head, ih tail⟩

theorem Sorted.erase {entries : List (String × α)} (sorted : Sorted entries) (key : String) :
    Sorted (erase key entries) :=
  List.Pairwise.filter _ sorted

end Entries

/-- A dictionary: entries in strictly increasing key order. -/
structure Dict (α : Type) where
  entries : List (String × α)
  sorted : Entries.Sorted entries

namespace Dict

variable {α β : Type}

instance [DecidableEq α] : DecidableEq (Dict α) := fun a b =>
  decidable_of_iff (a.entries = b.entries) (by cases a; cases b; simp)

def empty : Dict α :=
  ⟨[], .nil⟩

instance : Inhabited (Dict α) :=
  ⟨empty⟩

def isEmpty (d : Dict α) : Bool :=
  d.entries.isEmpty

def size (d : Dict α) : Nat :=
  d.entries.length

def keys (d : Dict α) : List String :=
  d.entries.map (·.1)

def values (d : Dict α) : List α :=
  d.entries.map (·.2)

def get? (d : Dict α) (key : String) : Option α :=
  Entries.find? key d.entries

def contains (d : Dict α) (key : String) : Bool :=
  (d.get? key).isSome

def insert (d : Dict α) (key : String) (value : α) : Dict α :=
  ⟨Entries.insert key value d.entries, d.sorted.insert key value⟩

def erase (d : Dict α) (key : String) : Dict α :=
  ⟨Entries.erase key d.entries, d.sorted.erase key⟩

/-- Enter the entries one after another; a later entry replaces an earlier one. -/
def insertAll (d : Dict α) (entries : List (String × α)) : Dict α :=
  entries.foldl (fun d entry => d.insert entry.1 entry.2) d

/-- The dictionary of a list of entries, in which a later entry counts. -/
def ofList (entries : List (String × α)) : Dict α :=
  empty.insertAll entries

def map (f : α → β) (d : Dict α) : Dict β :=
  ⟨d.entries.map fun entry => (entry.1, f entry.2), by
    have h := d.sorted
    simp only [Entries.Sorted, List.pairwise_map] at h ⊢
    exact h⟩

def filter (p : String → α → Bool) (d : Dict α) : Dict α :=
  ⟨d.entries.filter fun entry => p entry.1 entry.2, List.Pairwise.filter _ d.sorted⟩

@[simp] theorem get?_empty (key : String) : (empty : Dict α).get? key = none :=
  rfl

theorem get?_insert (d : Dict α) (key other : String) (value : α) :
    (d.insert key value).get? other = if other = key then some value else d.get? other := by
  by_cases same : other = key
  · subst same
    simpa [get?, insert] using Entries.find?_insert_self other value d.entries
  · simpa [get?, insert, same] using Entries.find?_insert_of_ne same value d.entries

theorem get?_erase (d : Dict α) (key other : String) :
    (d.erase key).get? other = if other = key then none else d.get? other := by
  by_cases same : other = key
  · subst same
    simpa [get?, erase] using Entries.find?_erase_self other d.entries
  · simpa [get?, erase, same] using Entries.find?_erase_of_ne same d.entries

end Dict

end ActionGraph
