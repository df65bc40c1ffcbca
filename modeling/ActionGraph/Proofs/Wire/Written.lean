import ActionGraph.Json.Path
import ActionGraph.Proofs.Wire.Records
import ActionGraph.Proofs.Wire.Values

/-!
# Records that are written

A record is written as an object.  It is read back if the value that is
written for each of its fields is, and if what is left out has a default.
Keys beyond the fields are skipped, or kept in a record that keeps them.
-/

namespace ActionGraph

theorem Entries.find?_append {α : Type} (key : String) (first second : List (String × α)) :
    find? key (first ++ second) = (find? key first).or (find? key second) := by
  induction first with
  | nil => rfl
  | cons entry rest ih =>
      obtain ⟨k, value⟩ := entry
      rw [List.cons_append, find?, find?, ih]
      split
      · rfl
      · rfl

/-- Where every key is given once, it does not matter in which order. -/
theorem Dict.get?_ofList {α : Type} {entries : List (String × α)}
    (apart : (entries.map (·.1)).Nodup) (key : String) :
    (ofList entries).get? key = Entries.find? key entries := by
  cases found : Entries.find? key entries with
  | some value => exact get?_ofList_of_mem apart (Entries.mem_of_find? found)
  | none =>
      apply get?_ofList_of_notMem
      intro mem
      obtain ⟨⟨_, value⟩, there, rfl⟩ := List.mem_map.mp mem
      rw [Entries.find?_of_mem apart there] at found
      cases found

theorem Json.present?_of_ne {value : Json} (there : value ≠ .null) : value.present? = some value := by
  cases value with
  | null => exact absurd rfl there
  | _ => rfl

namespace Wire

/-! ## Values without places -/

def Node.OfJson (node : Node) : Prop :=
  ∃ value, node = .ofJson value

namespace Node

theorem ofFields_eq_map (fields : List (String × Json)) :
    ofFields fields = fields.map fun field => (keyOf field.1, ofJson field.2) := by
  induction fields with
  | nil => rfl
  | cons field rest ih => exact congrArg (_ :: ·) ih

theorem ofItems_eq_map (items : List Json) :
    ofItems items = items.map fun item => (itemFrame, ofJson item) := by
  induction items with
  | nil => rfl
  | cons item rest ih => exact congrArg (_ :: ·) ih

theorem each_ofJson (value : Json) : (ofJson value).Each OfJson := by
  cases value with
  | arr items =>
      rw [ofJson, Each, ofItems_eq_map, List.forall_mem_map]
      exact fun item _ => ⟨item, rfl⟩
  | obj fields =>
      rw [ofJson, Each, ofFields_eq_map, List.forall_mem_map]
      exact fun field _ => ⟨field.2, rfl⟩
  | _ => trivial

/-- What is read of a JSON value is null only if the value is. -/
theorem ne_null_of_toJson {value read : Json} (there : value ≠ .null)
    (made : (ofJson value).toJson = .ok read) : read ≠ .null := by
  cases value with
  | null => exact absurd rfl there
  | num n =>
      cases made
      rw [jsonOfNumeral_numeralOf]
      rintro ⟨⟩
  | arr items =>
      simp only [ofJson, toJson, bind_eq_ok_iff] at made
      obtain ⟨_, _, _, _, ⟨⟩⟩ := made
      rintro ⟨⟩
  | obj fields =>
      simp only [ofJson, toJson, bind_eq_ok_iff] at made
      obtain ⟨_, _, _, _, ⟨⟩⟩ := made
      rintro ⟨⟩
  | _ =>
      cases made
      rintro ⟨⟩

mutual

/-- A JSON value has no break. -/
theorem skip_ofJson (value : Json) : (ofJson value).skip = .ok () := by
  cases value with
  | arr items =>
      simp only [ofJson, skip, bind_eq_ok_iff]
      exact ⟨(), skipItems_ofItems items, rfl⟩
  | obj fields =>
      simp only [ofJson, skip, bind_eq_ok_iff]
      exact ⟨(), skipEntries_ofFields fields, rfl⟩
  | _ => rfl

theorem skipItems_ofItems (items : List Json) : skipItems (ofItems items) = .ok () := by
  cases items with
  | nil => rfl
  | cons item rest =>
      simp only [ofItems, skipItems, bind_eq_ok_iff]
      exact ⟨(), skip_ofJson item, skipItems_ofItems rest⟩

theorem skipEntries_ofFields (fields : List (String × Json)) :
    skipEntries (ofFields fields) = .ok () := by
  cases fields with
  | nil => rfl
  | cons field rest =>
      obtain ⟨key, value⟩ := field
      simp only [ofFields, skipEntries, bind_eq_ok_iff]
      exact ⟨(), skip_ofJson value, skipEntries_ofFields rest⟩

end

end Node

/-- What stands under a name of a dictionary is its value. -/
theorem under_ofFields (d : Dict Json) (name : String) :
    under name (Node.ofFields d.entries) = ((d.get? name).map Node.ofJson).toList := by
  obtain ⟨entries, sorted⟩ := d
  unfold Dict.get?
  dsimp only
  induction entries with
  | nil => rfl
  | cons entry rest ih =>
      obtain ⟨key, value⟩ := entry
      obtain ⟨before, later⟩ := List.pairwise_cons.mp sorted
      rw [Node.ofFields, Entries.find?]
      split
      · rename_i here
        subst here
        have after : Entries.find? key rest = none := Entries.find?_eq_none_of_lt before
        rw [under_cons_self rfl, ih later, after]
        rfl
      · rename_i other
        rw [under_cons_of_ne rfl other, ih later]

/-! ## Decoders -/

namespace Decode

variable {α : Type} {decoder : Decoder α}

theorem option_ofJson_of_ne {value : Json} (there : value ≠ .null) :
    option decoder (.ofJson value) = (decoder (.ofJson value)).map some := by
  cases value with
  | null => exact absurd rfl there
  | _ => rfl

theorem option_eq_ok_some {node : Node} {value : α} (read : option decoder node = .ok (some value)) :
    decoder node = .ok value := by
  cases node with
  | null start stop => cases read
  | _ =>
      obtain ⟨_, read, ⟨⟩⟩ := map_eq_ok_iff.mp read
      exact read

/-- Null is read as no value. -/
theorem option_json_ofJson {value : Json} (ordered : value.Ordered) :
    option json (.ofJson value) = .ok value.present? := by
  by_cases there : value = .null
  · rw [there]
    rfl
  · rw [option_ofJson_of_ne there, Json.present?_of_ne there]
    exact congrArg (Except.map some) (Node.toJson_ofJson ordered)

theorem u64_ofJson {n : Nat} (below : n < Nat.pow 2 64) : u64 (.ofJson (.ofNat n)) = .ok n := by
  have inRange : -0x8000000000000000 ≤ (n : Int) ∧ (n : Int) < 0x10000000000000000 := by
    have small : n < 0x10000000000000000 := below
    clear below
    omega
  rw [Json.ofNat, Json.ofInt_of_inRange inRange]
  exact if_pos below

theorem lt_of_u64 {node : Node} {n : Nat} (read : u64 node = .ok n) : n < Nat.pow 2 64 := by
  unfold u64 natBelow at read
  split at read
  · split at read
    · split at read
      · rename_i below
        cases read
        exact below
      · cases read
    · cases read
  · cases read

/-- A list is read back if its items are. -/
theorem list_ofJson {encode : α → Json} {values : List α}
    (each : ∀ value ∈ values, decoder (.ofJson (encode value)) = .ok value) :
    list decoder (.ofJson (.arr (values.map encode))) = .ok values := by
  simp only [Node.ofJson, list, bind_eq_ok_iff, items_eq_ok_iff]
  refine ⟨values, ?_, (), rfl, rfl⟩
  rw [Node.ofItems_eq_map, List.map_map, List.forall₂_map_left_iff, List.forall₂_same]
  exact each

/-- Each item of a list was read. -/
theorem exists_of_list {node : Node} {values : List α} (read : list decoder node = .ok values) :
    ∀ value ∈ values, ∃ item, decoder item = .ok value := by
  obtain ⟨_, nodes, _, _, items⟩ := list_eq_ok read
  intro value mem
  obtain ⟨i, inRange, rfl⟩ := List.mem_iff_getElem.mp mem
  exact ⟨_, items.get (items.length_eq ▸ inRange) inRange⟩

theorem entries_json_ofFields {fields : List (String × Json)}
    (ordered : Json.OrderedFields fields) : entries json (Node.ofFields fields) = .ok fields := by
  induction fields with
  | nil => rfl
  | cons field rest ih =>
      obtain ⟨key, value⟩ := field
      simp only [Node.ofFields, entries, bind_eq_ok_iff, mapError_eq_ok_iff]
      exact ⟨key, rfl, value, Node.toJson_ofJson ordered.1, rest, ih ordered.2, rfl⟩

/-- A dictionary of ordered values is read back. -/
theorem dict_ofJson {d : Dict Json} (ordered : Json.OrderedFields d.entries) :
    dict json (.ofJson (.ofDict d)) = .ok d := by
  simp only [Json.ofDict, Node.ofJson, dict, bind_eq_ok_iff]
  exact ⟨d.entries, entries_json_ofFields ordered, (), rfl, congrArg _ (Dict.ofList_entries d)⟩

theorem ordered_of_entries {nodes : List (MapKey × Node)} {fields : List (String × Json)}
    (read : entries json nodes = .ok fields) : Json.OrderedFields fields := by
  induction nodes generalizing fields with
  | nil =>
      cases read
      trivial
  | cons entry rest ih =>
      simp only [entries, bind_eq_ok_iff, mapError_eq_ok_iff] at read
      obtain ⟨name, _, value, first, later, more, ⟨⟩⟩ := read
      exact ⟨Node.ordered_of_toJson first, ih more⟩

theorem ordered_of_dict {node : Node} {d : Dict Json} (read : dict json node = .ok d) :
    Json.OrderedFields d.entries := by
  cases node with
  | map start nodes ending =>
      simp only [dict, bind_eq_ok_iff] at read
      obtain ⟨fields, read, _, _, ⟨⟩⟩ := read
      exact (Json.ordered_ofFields (ordered_of_entries read)).2
  | _ => cases read

end Decode

/-- Whatever is read is read again from what is written of it. -/
def Stable {α : Type} (decode : Decoder α) (encode : α → Json) : Prop :=
  ∀ value a, decode (.ofJson value) = .ok a → decode (.ofJson (encode a)) = .ok a

/-! ## Records -/

/-- The value of a field is what is written for it, or the default if nothing is. -/
def Field.Told {α : Type} (field : Field α) : Option Json → α → Prop
  | some value, a => field.decoder (.ofJson value) = .ok a
  | none, a => field.absent = some a

theorem Field.told_iff {α : Type} {field : Field α} {value : Option Json} {a : α} :
    field.Told value a ↔ field.Holds (value.map Node.ofJson).toList a := by
  cases value with
  | none =>
      constructor
      · exact .absent
      · rintro (default | _)
        exact default
  | some value =>
      constructor
      · exact .present
      · rintro (_ | read)
        exact read

namespace Field

variable {α : Type} {name : String} {decoder : Decoder α} {encode : α → Json} {value : Option α}

theorem told_required {value : Json} {a : α} (read : decoder (.ofJson value) = .ok a) :
    (required name decoder).Told (some value) a :=
  read

/-- A value that is null if there is none. -/
theorem told_nullable
    (each : ∀ a ∈ value, encode a ≠ .null ∧ decoder (.ofJson (encode a)) = .ok a) :
    (optional name decoder).Told (some ((value.map encode).getD .null)) value := by
  cases value with
  | none => rfl
  | some a =>
      obtain ⟨there, read⟩ := each a rfl
      exact (Decode.option_ofJson_of_ne there).trans (congrArg (Except.map some) read)

/-- A value that is left out if there is none. -/
theorem told_optional
    (each : ∀ a ∈ value, encode a ≠ .null ∧ decoder (.ofJson (encode a)) = .ok a) :
    (optional name decoder).Told (value.map encode) value := by
  cases value with
  | none => rfl
  | some a => exact told_nullable each

theorem told_text (value : Option String) :
    (optional name Decode.string).Told (value.map Json.str) value :=
  told_optional fun _ _ => ⟨nofun, rfl⟩

end Field

namespace Fields

variable {γ : Type}

def Told {γ : Type} : Fields γ → (String → Option Json) → γ → Prop
  | .nil, _, _ => True
  | .cons field rest, written, values =>
      field.Told (written field.name) values.1 ∧ rest.Told written values.2

theorem told_iff {fields : Fields γ} {d : Dict Json} {values : γ} :
    fields.Told d.get? values ↔ fields.Holds (Node.ofFields d.entries) values := by
  induction fields with
  | nil => exact Iff.rfl
  | cons field rest ih =>
      rw [Told, Holds, under_ofFields, ih, Field.told_iff]

/-- Only what is written under the names of the fields matters. -/
theorem Told.congr {fields : Fields γ} {written written' : String → Option Json} {values : γ}
    (told : fields.Told written values)
    (same : ∀ name ∈ fields.names, written name = written' name) :
    fields.Told written' values := by
  induction fields with
  | nil => trivial
  | cons field rest ih =>
      obtain ⟨here, later⟩ := List.forall_mem_cons.mp same
      exact ⟨here ▸ told.1, ih told.2 later⟩

def write {γ : Type} : Fields γ → List (Option Json) → List (String × Json)
  | .nil, _ => []
  | .cons _ _, [] => []
  | .cons field rest, value :: more =>
      (value.map fun v => (field.name, v)).toList ++ rest.write more

def Tells {γ : Type} : Fields γ → List (Option Json) → γ → Prop
  | .nil, _, _ => True
  | .cons _ _, [], _ => False
  | .cons field rest, value :: more, values =>
      field.Told value values.1 ∧ rest.Tells more values.2

theorem keys_write (fields : Fields γ) (written : List (Option Json)) :
    ((fields.write written).map (·.1)).Sublist fields.names := by
  induction fields generalizing written with
  | nil => exact .slnil
  | cons field rest ih =>
      cases written with
      | nil => exact List.nil_sublist _
      | cons value more =>
          cases value with
          | none => exact (ih more).cons _
          | some v => exact (ih more).cons_cons _

theorem find?_write_of_notMem {fields : Fields γ} {name : String} (unknown : name ∉ fields.names)
    (written : List (Option Json)) : Entries.find? name (fields.write written) = none := by
  cases found : Entries.find? name (fields.write written) with
  | none => rfl
  | some value =>
      have mem := List.mem_map_of_mem (f := (·.1)) (Entries.mem_of_find? found)
      exact absurd ((keys_write fields written).mem mem) unknown

theorem ordered_write (fields : Fields γ) {written : List (Option Json)}
    (all : ∀ value ∈ written, ∀ v ∈ value, v.Ordered) :
    Json.OrderedFields (fields.write written) := by
  induction fields generalizing written with
  | nil => trivial
  | cons field rest ih =>
      cases written with
      | nil => trivial
      | cons value more =>
          obtain ⟨here, later⟩ := List.forall_mem_cons.mp all
          cases value with
          | none => exact ih later
          | some v => exact ⟨here v rfl, ih later⟩

/-- Each field is found with what was written of it. -/
theorem told_write {fields : Fields γ} (distinct : fields.names.Nodup)
    {written : List (Option Json)} {values : γ} (tells : fields.Tells written values) :
    fields.Told (Entries.find? · (fields.write written)) values := by
  induction fields generalizing written with
  | nil => trivial
  | cons field rest ih =>
      obtain ⟨apart, distinct⟩ := List.nodup_cons.mp distinct
      cases written with
      | nil => exact tells.elim
      | cons value more =>
          have lookup (name : String) :
              Entries.find? name ((cons field rest).write (value :: more)) =
                (if field.name = name then value else none).or
                  (Entries.find? name (rest.write more)) := by
            rw [write, Entries.find?_append]
            cases value with
            | none => exact congrArg (Option.or · _) (ite_self none).symm
            | some v => rfl
          refine ⟨?_, (ih distinct tells.2).congr fun name mem => ?_⟩
          · have here : Entries.find? field.name ((cons field rest).write (value :: more)) = value := by
              rw [lookup, if_pos rfl, find?_write_of_notMem apart, Option.or_none]
            exact (congrArg (field.Told · values.1) here).mpr tells.1
          · have other : field.name ≠ name := fun same => apart (same ▸ mem)
            rw [lookup, if_neg other, Option.none_or]

theorem passable_ofFields (fields : Fields γ) (written : List (String × Json)) :
    fields.Passable (Node.ofFields written) := by
  intro entry mem
  rw [Node.ofFields_eq_map] at mem
  obtain ⟨⟨name, value⟩, _, rfl⟩ := List.mem_map.mp mem
  exact ⟨name, rfl, fun _ => Node.skip_ofJson value⟩

/-- A record is read back from what is written of its fields. -/
theorem record_write {fields : Fields γ} (distinct : fields.names.Nodup) (type : String)
    {written : List (Option Json)} {values : γ} (tells : fields.Tells written values) :
    record type fields (.ofJson (.ofFields (fields.write written))) = .ok values := by
  have told := told_write distinct tells
  have apart := distinct.sublist (keys_write fields written)
  have lookups : (Entries.find? · (fields.write written)) =
      (Dict.ofList (fields.write written)).get? :=
    funext fun key => (Dict.get?_ofList apart key).symm
  rw [lookups, told_iff] at told
  exact (record_map_eq_ok_iff distinct type).mpr
    ⟨⟨none, rfl⟩, passable_ofFields fields _, told⟩

/-! ## Records that keep what is no field -/

/-- The entries that are no fields can be read, and are kept in source order. -/
def Kept (fields : Fields γ) : List (MapKey × Node) → List (String × Json) → Prop
  | [], extra => extra = []
  | (key, node) :: rest, extra => ∃ name, key.name = .ok name ∧
      if name ∈ fields.names then fields.Kept rest extra
      else ∃ value more, node.toJson = .ok value ∧ fields.Kept rest more ∧
        extra = (name, value) :: more

theorem fillOpen_eq_ok_iff {fields : Fields γ} (distinct : fields.names.Nodup)
    {entries : List (MapKey × Node)} {before after : fields.Slots}
    {extra : List (String × Json)} :
    fields.fillOpen before entries = .ok (after, extra) ↔
      fields.Kept entries extra ∧ fields.Filled entries before after := by
  induction entries generalizing before extra with
  | nil =>
      rw [fillOpen, Kept, filled_nil_iff]
      constructor
      · rintro ⟨⟩
        exact ⟨rfl, rfl⟩
      · rintro ⟨rfl, rfl⟩
        rfl
  | cons entry rest ih =>
      obtain ⟨key, node⟩ := entry
      rw [fillOpen, bind_eq_ok_iff, Kept]
      constructor
      · rintro ⟨name, named, filled⟩
        rw [filled_cons_iff distinct named]
        cases result : fields.put before name node with
        | unknown =>
            rw [result] at filled
            simp only [bind_eq_ok_iff] at filled
            obtain ⟨value, read, ⟨slots, more⟩, later, ⟨⟩⟩ := filled
            obtain ⟨kept, filled⟩ := ih.mp later
            refine ⟨⟨name, named, ?_⟩, filled⟩
            rw [if_neg (put_eq_unknown_iff.mp result)]
            exact ⟨value, more, read, kept, rfl⟩
        | duplicate =>
            rw [result] at filled
            cases filled
        | decoded slots =>
            rw [result] at filled
            cases slots with
            | error fault => cases filled
            | ok slots =>
                obtain ⟨kept, filled⟩ := ih.mp filled
                refine ⟨⟨name, named, ?_⟩, filled⟩
                rwa [if_pos (mem_names_of_put result)]
      · rintro ⟨⟨name, named, kept⟩, filled⟩
        refine ⟨name, named, ?_⟩
        rw [filled_cons_iff distinct named] at filled
        cases result : fields.put before name node with
        | unknown =>
            rw [result] at filled
            rw [if_neg (put_eq_unknown_iff.mp result)] at kept
            obtain ⟨value, more, read, kept, rfl⟩ := kept
            simp only [bind_eq_ok_iff]
            exact ⟨value, read, _, ih.mpr ⟨kept, filled⟩, rfl⟩
        | duplicate =>
            rw [result] at filled
            exact filled.elim
        | decoded slots =>
            rw [result] at filled
            cases slots with
            | error fault => exact filled.elim
            | ok slots =>
                rw [if_pos (mem_names_of_put result)] at kept
                exact ih.mpr ⟨kept, filled⟩

/-- The maps that are accepted as such a record, with the values of its fields. -/
theorem openRecord_map_eq_ok_iff {fields : Fields γ} (distinct : fields.names.Nodup)
    (type : String) {start : Spot} {entries : List (MapKey × Node)} {ending : Ending}
    {values : γ} {extra : Dict Json} :
    openRecord type fields (.map start entries ending) = .ok (values, extra) ↔
      (∃ stop, ending = .closed stop) ∧ fields.Holds entries values ∧
        ∃ kept, fields.Kept entries kept ∧ extra = Dict.ofList kept := by
  simp only [openRecord, bind_eq_ok_iff]
  constructor
  · rintro ⟨⟨slots, kept⟩, filled, finished⟩
    obtain ⟨keeps, filled⟩ := (fillOpen_eq_ok_iff distinct).mp filled
    cases ending with
    | broken break_ => cases finished
    | closed stop =>
        simp only [bind_eq_ok_iff] at finished
        obtain ⟨values, finished, ⟨⟩⟩ := finished
        exact ⟨⟨stop, rfl⟩, (holds_iff stop).mpr ⟨slots, filled, finished⟩, kept, keeps, rfl⟩
  · rintro ⟨⟨stop, rfl⟩, holds, kept, keeps, rfl⟩
    obtain ⟨slots, filled, finished⟩ := (holds_iff stop).mp holds
    refine ⟨(slots, kept), (fillOpen_eq_ok_iff distinct).mpr ⟨keeps, filled⟩, ?_⟩
    simp only [bind_eq_ok_iff]
    exact ⟨values, finished, rfl⟩

/-- What is kept was read and is no field. -/
theorem Kept.forall {fields : Fields γ} {entries : List (MapKey × Node)}
    {extra : List (String × Json)} (kept : fields.Kept entries extra) :
    ∀ entry ∈ extra, entry.1 ∉ fields.names ∧ ∃ node : Node, node.toJson = .ok entry.2 := by
  induction entries generalizing extra with
  | nil =>
      obtain rfl : extra = [] := kept
      exact List.forall_mem_nil _
  | cons entry rest ih =>
      obtain ⟨name, _, kept⟩ := kept
      split at kept
      · exact ih kept
      · rename_i unknown
        obtain ⟨value, more, read, kept, rfl⟩ := kept
        exact List.forall_mem_cons.mpr ⟨⟨unknown, _, read⟩, ih kept⟩

/-- Of an object, all is kept that is no field. -/
theorem kept_ofFields (fields : Fields γ) {written : List (String × Json)}
    (ordered : Json.OrderedFields written) :
    fields.Kept (Node.ofFields written)
      (written.filter fun entry => entry.1 ∉ fields.names) := by
  induction written with
  | nil => rfl
  | cons entry rest ih =>
      obtain ⟨key, value⟩ := entry
      refine ⟨key, rfl, ?_⟩
      split
      · rename_i known
        rw [List.filter_cons_of_neg (by simpa using known)]
        exact ih ordered.2
      · rename_i unknown
        rw [List.filter_cons_of_pos (by simpa using unknown)]
        exact ⟨value, _, Node.toJson_ofJson ordered.1, ih ordered.2, rfl⟩

/-- A record that keeps what is no field is read back with what it keeps. -/
theorem openRecord_write {fields : Fields γ} (distinct : fields.names.Nodup) (type : String)
    {written : List (Option Json)} (ordered : Json.OrderedFields (fields.write written))
    {extra : Dict Json} (unknown : ∀ entry ∈ extra.entries, entry.1 ∉ fields.names)
    (orderedExtra : Json.OrderedFields extra.entries) {values : γ}
    (tells : fields.Tells written values) :
    openRecord type fields (.ofJson (.ofFields (fields.write written ++ extra.entries))) =
      .ok (values, extra) := by
  have none_of_field : ∀ name ∈ fields.names, extra.get? name = none := by
    intro name field
    cases found : extra.get? name with
    | none => rfl
    | some value => exact absurd field (unknown _ ((extra.mem_entries_iff name value).mpr found))
  have apart : ((fields.write written ++ extra.entries).map (·.1)).Nodup := by
    have keys := keys_write fields written
    rw [List.map_append, List.nodup_append]
    refine ⟨distinct.sublist keys, extra.keys_apart, ?_⟩
    rintro a mem b memToo rfl
    obtain ⟨entry, there, same⟩ := List.mem_map.mp memToo
    exact unknown entry there (same ▸ keys.mem mem)
  generalize same : Dict.ofList (fields.write written ++ extra.entries) = d
  have lookup (name : String) :
      d.get? name = (Entries.find? name (fields.write written)).or (extra.get? name) := by
    rw [← same, Dict.get?_ofList apart, Entries.find?_append]
    rfl
  have told : fields.Told d.get? values := (told_write distinct tells).congr fun name field => by
    rw [lookup, none_of_field name field, Option.or_none]
  -- the object has its entries in key order, no longer as they were written
  have whole : Json.OrderedFields d.entries := by
    have all := List.forall_mem_append.mpr
      ⟨Json.orderedFields_iff.mp ordered, Json.orderedFields_iff.mp orderedExtra⟩
    rw [← same]
    exact (Json.ordered_ofFields (Json.orderedFields_iff.mpr all)).2
  have kept : Dict.ofList (d.entries.filter fun entry => entry.1 ∉ fields.names) = extra := by
    have filtered := Dict.ofList_entries (d.filter fun key _ => key ∉ fields.names)
    refine filtered.trans (Dict.ext_get? fun key => ?_)
    rw [Dict.get?_filter, lookup]
    by_cases field : key ∈ fields.names
    · rw [none_of_field key field, Option.or_none]
      cases Entries.find? key (fields.write written) with
      | none => rfl
      | some value => rw [Option.filter_some, if_neg (by simpa using field)]
    · rw [find?_write_of_notMem field, Option.none_or]
      cases extra.get? key with
      | none => rfl
      | some value => rw [Option.filter_some, if_pos (decide_eq_true field)]
  rw [Json.ofFields, same]
  exact (openRecord_map_eq_ok_iff distinct type).mpr
    ⟨⟨none, rfl⟩, told_iff.mp told, _, kept_ofFields fields whole, kept.symm⟩

end Fields

end Wire

end ActionGraph
