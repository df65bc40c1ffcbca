import ActionGraph.Proofs.Dictionaries
import ActionGraph.Proofs.Refusals
import ActionGraph.Wire.Node

/-!
# Values on the wire

A JSON value is ordered if the fields of each of its objects stand in key
order, each key once.  Every value that is read from anywhere is ordered, and
an ordered value that is encoded is read back as it was.
-/

namespace ActionGraph

/-- Entering the entries of a dictionary makes the dictionary again. -/
theorem Dict.ofList_entries {α : Type} (d : Dict α) : ofList d.entries = d := by
  apply ext_get?
  intro key
  cases found : d.get? key with
  | some value => exact get?_ofList_of_mem d.keys_apart ((d.mem_entries_iff key value).mpr found)
  | none =>
      apply get?_ofList_of_notMem
      intro mem
      have known := (d.mem_keys_iff key).mp mem
      rw [found] at known
      cases known

namespace Json

mutual

/-- The fields of every object stand in key order, each key once. -/
def Ordered : Json → Prop
  | .arr items => OrderedItems items
  | .obj fields => Entries.Sorted fields ∧ OrderedFields fields
  | _ => True

def OrderedItems : List Json → Prop
  | [] => True
  | item :: rest => item.Ordered ∧ OrderedItems rest

def OrderedFields : List (String × Json) → Prop
  | [] => True
  | (_, value) :: rest => value.Ordered ∧ OrderedFields rest

end

theorem orderedItems_iff {items : List Json} : OrderedItems items ↔ ∀ item ∈ items, item.Ordered := by
  induction items with
  | nil => simp [OrderedItems]
  | cons item rest ih => simp [OrderedItems, ih]

theorem orderedFields_iff {fields : List (String × Json)} :
    OrderedFields fields ↔ ∀ field ∈ fields, field.2.Ordered := by
  induction fields with
  | nil => simp [OrderedFields]
  | cons field rest ih =>
      obtain ⟨key, value⟩ := field
      simp [OrderedFields, ih]

theorem OrderedFields.nil : OrderedFields [] :=
  trivial

theorem OrderedFields.cons {key : String} {value : Json} {rest : List (String × Json)}
    (here : value.Ordered) (later : OrderedFields rest) : OrderedFields ((key, value) :: rest) :=
  ⟨here, later⟩

theorem ordered_ofDict {d : Dict Json} (all : d.All Ordered) : (ofDict d).Ordered :=
  ⟨d.sorted, orderedFields_iff.mpr fun entry mem =>
    all entry.1 entry.2 ((d.mem_entries_iff entry.1 entry.2).mp mem)⟩

theorem all_of_orderedFields {d : Dict Json} (ordered : OrderedFields d.entries) : d.All Ordered :=
  fun key value found =>
    orderedFields_iff.mp ordered (key, value) ((d.mem_entries_iff key value).mpr found)

theorem ofFields_of_sorted {fields : List (String × Json)} (sorted : Entries.Sorted fields) :
    ofFields fields = .obj fields :=
  congrArg ofDict (Dict.ofList_entries ⟨fields, sorted⟩)

theorem field?_ofFields {fields : List (String × Json)} (distinct : (fields.map (·.1)).Nodup)
    {key : String} {value : Json} (mem : (key, value) ∈ fields) :
    (ofFields fields).field? key = some value :=
  Dict.get?_ofList_of_mem distinct mem

theorem field?_ofFields_iff {fields : List (String × Json)}
    (distinct : (fields.map (·.1)).Nodup) {key : String} {value : Json} :
    (ofFields fields).field? key = some value ↔ (key, value) ∈ fields :=
  ⟨Dict.mem_of_get?_ofList, field?_ofFields distinct⟩

/-- An object is ordered in whatever order its fields were given. -/
theorem ordered_ofFields {fields : List (String × Json)} (all : OrderedFields fields) :
    (ofFields fields).Ordered := by
  refine ⟨(Dict.ofList fields).sorted, orderedFields_iff.mpr ?_⟩
  rintro ⟨key, value⟩ mem
  have given := Dict.mem_of_get?_ofList ((Dict.mem_entries_iff _ key value).mp mem)
  exact orderedFields_iff.mp all _ given

theorem ordered_ofBinary64 (x : Binary64) : (ofBinary64 x).Ordered := by
  unfold ofBinary64
  split <;> trivial

theorem ordered_ofInt (z : Int) : (ofInt z).Ordered := by
  unfold ofInt
  split
  · trivial
  · exact ordered_ofBinary64 _

theorem ordered_ofNat (n : Nat) : (ofNat n).Ordered := by
  rw [ofNat]
  exact ordered_ofInt _

theorem ordered_some {value : Json} (ordered : value.Ordered) : ∀ v ∈ some value, v.Ordered :=
  fun _ mem => Option.mem_some_iff.mp mem ▸ ordered

theorem ordered_text (text : Option String) : ∀ value ∈ text.map str, value.Ordered := by
  cases text with
  | none => exact nofun
  | some s =>
      rintro _ ⟨⟩
      trivial

theorem ofInt_of_inRange {z : Int}
    (inRange : -0x8000000000000000 ≤ z ∧ z < 0x10000000000000000) :
    ofInt z = .num (.int z inRange) := by
  have made : Number.ofInt? z = some (.int z inRange) := dif_pos inRange
  simp only [ofInt, made]

end Json

namespace Wire.Node

theorem jsonOfNumeral_numeralOf (n : Number) : jsonOfNumeral (numeralOf n) = .num n := by
  cases n with
  | int z inRange => exact Json.ofInt_of_inRange inRange
  | float x finite =>
      have made : Number.ofBinary64? x = some (.float x finite) := dif_pos finite
      simp only [numeralOf, jsonOfNumeral, Json.ofBinary64, made]

theorem ordered_jsonOfNumeral (n : Numeral) : (jsonOfNumeral n).Ordered := by
  cases n with
  | int z => exact Json.ordered_ofInt z
  | float x => exact Json.ordered_ofBinary64 x

mutual

/-- An ordered value is read back as it was. -/
theorem toJson_ofJson {value : Json} (ordered : value.Ordered) :
    (ofJson value).toJson = .ok value := by
  cases value with
  | null => rfl
  | bool b => rfl
  | num n => exact congrArg Except.ok (jsonOfNumeral_numeralOf n)
  | str s => rfl
  | arr items =>
      simp only [ofJson, toJson, bind_eq_ok_iff]
      exact ⟨items, toItems_ofItems ordered, (), rfl, rfl⟩
  | obj fields =>
      simp only [ofJson, toJson, bind_eq_ok_iff]
      refine ⟨fields, toFields_ofFields ordered.2, (), rfl, ?_⟩
      rw [Json.ofFields_of_sorted ordered.1]
      rfl

theorem toItems_ofItems {items : List Json} (ordered : Json.OrderedItems items) :
    toItems (ofItems items) = .ok items := by
  cases items with
  | nil => rfl
  | cons item rest =>
      simp only [ofItems, toItems, bind_eq_ok_iff]
      exact ⟨item, toJson_ofJson ordered.1, rest, toItems_ofItems ordered.2, rfl⟩

theorem toFields_ofFields {fields : List (String × Json)} (ordered : Json.OrderedFields fields) :
    toFields (ofFields fields) = .ok fields := by
  cases fields with
  | nil => rfl
  | cons field rest =>
      obtain ⟨key, value⟩ := field
      simp only [ofFields, toFields, bind_eq_ok_iff]
      exact ⟨key, rfl, value, toJson_ofJson ordered.1, rest, toFields_ofFields ordered.2, rfl⟩

end

mutual

/-- Whatever is read is ordered. -/
theorem ordered_of_toJson {node : Node} {value : Json} (read : node.toJson = .ok value) :
    value.Ordered := by
  cases node with
  | null start stop =>
      cases read
      trivial
  | bool b start stop =>
      cases read
      trivial
  | num n start stop =>
      cases n with
      | error fault => cases read
      | ok n =>
          cases read
          exact ordered_jsonOfNumeral n
  | str s start stop =>
      cases s with
      | error fault => cases read
      | ok s =>
          cases read
          trivial
  | seq start items ending =>
      simp only [toJson, bind_eq_ok_iff] at read
      obtain ⟨values, items, _, _, ⟨⟩⟩ := read
      exact orderedItems_of_toItems items
  | map start entries ending =>
      simp only [toJson, bind_eq_ok_iff] at read
      obtain ⟨fields, entries, _, _, ⟨⟩⟩ := read
      exact Json.ordered_ofFields (orderedFields_of_toFields entries)
  | deep fault inner => cases read
  | broken break_ => cases read

theorem orderedItems_of_toItems {items : List (ItemFrame × Node)} {values : List Json}
    (read : toItems items = .ok values) : Json.OrderedItems values := by
  cases items with
  | nil =>
      cases read
      trivial
  | cons item rest =>
      simp only [toItems, bind_eq_ok_iff] at read
      obtain ⟨value, first, values, later, ⟨⟩⟩ := read
      exact ⟨ordered_of_toJson first, orderedItems_of_toItems later⟩

theorem orderedFields_of_toFields {entries : List (MapKey × Node)}
    {fields : List (String × Json)} (read : toFields entries = .ok fields) :
    Json.OrderedFields fields := by
  cases entries with
  | nil =>
      cases read
      trivial
  | cons entry rest =>
      simp only [toFields, bind_eq_ok_iff] at read
      obtain ⟨name, _, value, first, fields, later, ⟨⟩⟩ := read
      exact ⟨ordered_of_toJson first, orderedFields_of_toFields later⟩

end

end Wire.Node

end ActionGraph
