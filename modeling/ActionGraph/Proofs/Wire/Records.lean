import ActionGraph.Proofs.Refusals
import ActionGraph.Wire.Fields
import Mathlib.Data.List.Forall2

/-!
# Reading records

A map is accepted as a record exactly if it is closed, its keys can be read,
what is no field of the record can be skipped, and each field stands in the
map once and can be read or is absent and has a default.  A list is accepted
exactly if each of its items is.
-/

namespace ActionGraph.Wire

/-- The nodes that stand under a name, in source order. -/
def under (name : String) : List (MapKey × Node) → List Node
  | [] => []
  | (key, node) :: rest =>
      match key.name with
      | .ok other => if other = name then node :: under name rest else under name rest
      | .error _ => under name rest

theorem under_cons_self {key : MapKey} {name : String} (named : key.name = .ok name) (node : Node)
    (rest : List (MapKey × Node)) : under name ((key, node) :: rest) = node :: under name rest := by
  simp [under, named]

theorem under_cons_of_ne {key : MapKey} {name other : String} (named : key.name = .ok other)
    (ne : other ≠ name) (node : Node) (rest : List (MapKey × Node)) :
    under name ((key, node) :: rest) = under name rest := by
  simp [under, named, ne]

theorem forall_under {good : Node → Prop} {entries : List (MapKey × Node)}
    (all : ∀ entry ∈ entries, good entry.2) (name : String) :
    ∀ node ∈ under name entries, good node := by
  induction entries with
  | nil => exact List.forall_mem_nil _
  | cons entry rest ih =>
      obtain ⟨key, node⟩ := entry
      obtain ⟨here, later⟩ := List.forall_mem_cons.mp all
      rw [under]
      split
      · split
        · exact List.forall_mem_cons.mpr ⟨here, ih later⟩
        · exact ih later
      · exact ih later

def Node.Each (good : Node → Prop) : Node → Prop
  | .seq _ items _ => ∀ item ∈ items, good item.2
  | .map _ entries _ => ∀ entry ∈ entries, good entry.2
  | _ => True

theorem Node.each_true (node : Node) : node.Each fun _ => True := by
  cases node with
  | seq start items ending => exact fun _ _ => trivial
  | map start entries ending => exact fun _ _ => trivial
  | _ => trivial

/-! ## Lists -/

namespace Decode

variable {α : Type} {decoder : Decoder α}

theorem items_eq_ok_iff {nodes : List (ItemFrame × Node)} {values : List α} :
    items decoder nodes = .ok values ↔
      List.Forall₂ (fun node value => decoder node.2 = .ok value) nodes values := by
  induction nodes generalizing values with
  | nil =>
      rw [items, List.forall₂_nil_left_iff]
      exact ⟨fun same => by cases same; rfl, fun same => by rw [same]⟩
  | cons item rest ih =>
      simp only [items, bind_eq_ok_iff, mapError_eq_ok_iff, ih, List.forall₂_cons_left_iff]
      constructor
      · rintro ⟨value, first, values, later, ⟨⟩⟩
        exact ⟨value, values, first, later, rfl⟩
      · rintro ⟨value, values, first, later, rfl⟩
        exact ⟨value, first, values, later, rfl⟩

theorem list_eq_ok {node : Node} {values : List α} (accepted : list decoder node = .ok values) :
    ∃ start nodes ending, node = .seq start nodes ending ∧
      List.Forall₂ (fun item value => decoder item.2 = .ok value) nodes values := by
  cases node with
  | seq start nodes ending =>
      simp only [list, bind_eq_ok_iff] at accepted
      obtain ⟨_, read, _, _, ⟨⟩⟩ := accepted
      exact ⟨start, nodes, ending, rfl, items_eq_ok_iff.mp read⟩
  | _ => cases accepted

end Decode

/-! ## Fields -/

namespace Field

variable {α : Type}

/-- What the nodes under the name of a field do to its slot. -/
inductive Fills (field : Field α) : List Node → Option α → Option α → Prop where
  | absent (slot : Option α) : Fills field [] slot slot
  | present {node : Node} {value : α} (read : field.decoder node = .ok value) :
      Fills field [node] none (some value)

inductive Holds (field : Field α) : List Node → α → Prop where
  | absent {value : α} (default : field.absent = some value) : Holds field [] value
  | present {node : Node} {value : α} (read : field.decoder node = .ok value) :
      Holds field [node] value

theorem holds_required_iff {name : String} {decoder : Decoder α} {nodes : List Node} {value : α} :
    (required name decoder).Holds nodes value ↔
      ∃ node, nodes = [node] ∧ decoder node = .ok value := by
  constructor
  · rintro (default | read)
    · cases default
    · exact ⟨_, rfl, read⟩
  · rintro ⟨node, rfl, read⟩
    exact .present read

theorem holds_default_iff {name : String} {decoder : Decoder α} {given : α} {nodes : List Node}
    {value : α} :
    (default name decoder given).Holds nodes value ↔
      nodes = [] ∧ value = given ∨ ∃ node, nodes = [node] ∧ decoder node = .ok value := by
  constructor
  · rintro (default | read)
    · exact .inl ⟨rfl, (Option.some.inj default).symm⟩
    · exact .inr ⟨_, rfl, read⟩
  · rintro (⟨rfl, rfl⟩ | ⟨node, rfl, read⟩)
    · exact .absent rfl
    · exact .present read

/-- A node fills an empty slot that no later node fills. -/
theorem fills_cons_iff {field : Field α} {node : Node} {rest : List Node}
    {before after : Option α} :
    field.Fills (node :: rest) before after ↔
      before = none ∧
        ∃ value, field.decoder node = .ok value ∧ field.Fills rest (some value) after := by
  constructor
  · rintro (_ | @⟨_, value, read⟩)
    exact ⟨rfl, value, read, .absent _⟩
  · rintro ⟨rfl, value, read, fills⟩
    cases fills with
    | absent => exact .present read

/-- A value that is a default of its field or was read from a good node. -/
def Drawn (good : Node → Prop) (field : Field α) (value : α) : Prop :=
  field.absent = some value ∨ field.missing = some value ∨
    ∃ node, good node ∧ field.decoder node = .ok value

namespace Drawn

variable {good : Node → Prop} {name : String} {decoder : Decoder α} {value : α}

theorem of_required (drawn : (required name decoder).Drawn good value) :
    ∃ node, good node ∧ decoder node = .ok value := by
  rcases drawn with default | missing | read
  · cases default
  · cases missing
  · exact read

theorem of_default {given : α} (drawn : (default name decoder given).Drawn good value) :
    value = given ∨ ∃ node, good node ∧ decoder node = .ok value := by
  rcases drawn with default | missing | read
  · exact .inl (Option.some.inj default).symm
  · exact .inl (Option.some.inj missing).symm
  · exact .inr read

theorem of_optional (drawn : (optional name decoder).Drawn good (some value)) :
    ∃ node, good node ∧ Decode.option decoder node = .ok (some value) := by
  rcases drawn with default | missing | read
  · cases default
  · cases missing
  · exact read

end Drawn

end Field

namespace Fields

variable {γ : Type}

def names {γ : Type} : Fields γ → List String
  | .nil => []
  | .cons field rest => field.name :: rest.names

def Filled {γ : Type} :
    (fields : Fields γ) → List (MapKey × Node) → fields.Slots → fields.Slots → Prop
  | .nil, _, _, _ => True
  | .cons (α := α) field rest, entries, before, after =>
      let before : Option α × rest.Slots := before
      let after : Option α × rest.Slots := after
      field.Fills (under field.name entries) before.1 after.1 ∧
        rest.Filled entries before.2 after.2

def Holds {γ : Type} : Fields γ → List (MapKey × Node) → γ → Prop
  | .nil, _, _ => True
  | .cons field rest, entries, values =>
      field.Holds (under field.name entries) values.1 ∧ rest.Holds entries values.2

/-- Every key can be read, and what is no field can be skipped. -/
def Passable (fields : Fields γ) (entries : List (MapKey × Node)) : Prop :=
  ∀ entry ∈ entries, ∃ name, entry.1.name = .ok name ∧
    (name ∉ fields.names → entry.2.skip = .ok ())

theorem filled_nil_iff {fields : Fields γ} {before after : fields.Slots} :
    fields.Filled [] before after ↔ before = after := by
  induction fields with
  | nil => exact iff_of_true trivial rfl
  | cons field rest ih =>
      obtain ⟨slot, before⟩ := before
      obtain ⟨slot', after⟩ := after
      simp only [Filled, ih, under]
      constructor
      · rintro ⟨⟨⟩, rfl⟩
        rfl
      · rintro ⟨⟩
        exact ⟨.absent slot, rfl⟩

/-- An entry that is no field leaves the slots as they are. -/
theorem filled_cons_of_notMem {fields : Fields γ} {key : MapKey} {name : String}
    (named : key.name = .ok name) (unknown : name ∉ fields.names) (node : Node)
    (rest : List (MapKey × Node)) {before after : fields.Slots} :
    fields.Filled ((key, node) :: rest) before after ↔ fields.Filled rest before after := by
  induction fields with
  | nil => exact Iff.rfl
  | cons field more ih =>
      simp only [names, List.mem_cons, not_or] at unknown
      simp only [Filled, under_cons_of_ne named unknown.1, ih unknown.2]

theorem put_eq_unknown_iff {fields : Fields γ} {name : String} {slots : fields.Slots}
    {node : Node} : fields.put slots name node = .unknown ↔ name ∉ fields.names := by
  induction fields with
  | nil => exact iff_of_true rfl List.not_mem_nil
  | cons field more ih =>
      obtain ⟨slot, slots⟩ := slots
      rw [names, List.mem_cons, not_or, ← @ih slots]
      by_cases here : name = field.name
      · simp only [put, here, if_pos]
        cases slot <;> simp
      · simp only [put, if_neg here]
        cases more.put slots name node <;> simp [Put.map, here]

theorem mem_names_of_put {fields : Fields γ} {name : String} {slots : fields.Slots} {node : Node}
    {read : Except Fault fields.Slots} (put : fields.put slots name node = .decoded read) :
    name ∈ fields.names := by
  by_contra unknown
  rw [put_eq_unknown_iff.mpr unknown] at put
  cases put

/-- What one entry does to the slots is what reading it into them does. -/
theorem filled_cons_iff {fields : Fields γ} (distinct : fields.names.Nodup) {key : MapKey}
    {name : String} (named : key.name = .ok name) (node : Node) (rest : List (MapKey × Node))
    {before after : fields.Slots} :
    fields.Filled ((key, node) :: rest) before after ↔
      match fields.put before name node with
      | .unknown => fields.Filled rest before after
      | .duplicate => False
      | .decoded (.ok slots) => fields.Filled rest slots after
      | .decoded (.error _) => False := by
  induction fields with
  | nil => exact Iff.rfl
  | cons field more ih =>
      obtain ⟨slot, before⟩ := before
      obtain ⟨slot', after⟩ := after
      rw [names, List.nodup_cons] at distinct
      by_cases here : name = field.name
      · subst here
        simp only [Filled, put, if_pos, under_cons_self named,
          filled_cons_of_notMem named distinct.1, Field.fills_cons_iff]
        cases slot with
        | some value => exact iff_of_false (fun filled => nomatch filled.1.1) id
        | none =>
            cases field.decoder node with
            | error fault => exact iff_of_false (fun filled => by simp at filled) id
            | ok value => simp [Except.map]
      · simp only [Filled, put, if_neg here, under_cons_of_ne named here, ih distinct.2]
        cases more.put before name node with
        | unknown => exact Iff.rfl
        | duplicate => exact iff_of_false And.right id
        | decoded slots =>
            cases slots with
            | error fault => exact iff_of_false And.right id
            | ok slots => exact Iff.rfl

theorem fill_eq_ok_iff {fields : Fields γ} (distinct : fields.names.Nodup)
    {entries : List (MapKey × Node)} {before after : fields.Slots} :
    fields.fill before entries = .ok after ↔
      fields.Passable entries ∧ fields.Filled entries before after := by
  induction entries generalizing before with
  | nil =>
      rw [fill, filled_nil_iff]
      constructor
      · rintro ⟨⟩
        exact ⟨List.forall_mem_nil _, rfl⟩
      · rintro ⟨_, rfl⟩
        rfl
  | cons entry rest ih =>
      obtain ⟨key, node⟩ := entry
      rw [fill, bind_eq_ok_iff, Passable, List.forall_mem_cons]
      constructor
      · rintro ⟨name, named, filled⟩
        rw [filled_cons_iff distinct named]
        cases result : fields.put before name node with
        | unknown =>
            rw [result] at filled
            obtain ⟨⟨⟩, skipped, filled⟩ := bind_eq_ok_iff.mp filled
            obtain ⟨passable, filled⟩ := ih.mp filled
            exact ⟨⟨⟨name, named, fun _ => skipped⟩, passable⟩, filled⟩
        | duplicate =>
            rw [result] at filled
            cases filled
        | decoded slots =>
            rw [result] at filled
            cases slots with
            | error fault => cases filled
            | ok slots =>
                obtain ⟨passable, filled⟩ := ih.mp filled
                have known := mem_names_of_put result
                exact ⟨⟨⟨name, named, absurd known⟩, passable⟩, filled⟩
      · rintro ⟨⟨⟨name, named, skips⟩, passable⟩, filled⟩
        refine ⟨name, named, ?_⟩
        rw [filled_cons_iff distinct named] at filled
        cases result : fields.put before name node with
        | unknown =>
            rw [result] at filled
            exact bind_eq_ok_iff.mpr
              ⟨(), skips (put_eq_unknown_iff.mp result), ih.mpr ⟨passable, filled⟩⟩
        | duplicate =>
            rw [result] at filled
            exact filled.elim
        | decoded slots =>
            rw [result] at filled
            cases slots with
            | error fault => exact filled.elim
            | ok slots => exact ih.mpr ⟨passable, filled⟩

/-- A field has the value of its slot, or its default if the slot is empty. -/
theorem finish_cons_eq_ok_iff {α : Type} {field : Field α} {more : Fields γ} (spot : Spot)
    {slot : Option α} {slots : more.Slots} {value : α} {values : γ} :
    (Fields.cons field more).finish spot (slot, slots) = .ok (value, values) ↔
      slot.or field.absent = some value ∧ more.finish spot slots = .ok values := by
  have filled (given : α) : (do
        let values ← more.finish spot slots
        return (given, values) : Except Fault (α × γ)) = .ok (value, values) ↔
      given = value ∧ more.finish spot slots = .ok values := by
    rw [bind_eq_ok_iff]
    constructor
    · rintro ⟨_, finished, ⟨⟩⟩
      exact ⟨rfl, finished⟩
    · rintro ⟨rfl, finished⟩
      exact ⟨values, finished, rfl⟩
  cases slot with
  | some given => exact (filled given).trans (by simp)
  | none =>
      cases default : field.absent with
      | some given =>
          simp only [finish, default]
          exact (filled given).trans (by simp)
      | none =>
          simp only [finish, default]
          exact iff_of_false nofun nofun

/-- The values of a map are what its slots amount to when all entries were read. -/
theorem holds_iff {fields : Fields γ} {entries : List (MapKey × Node)} {values : γ} (spot : Spot) :
    fields.Holds entries values ↔
      ∃ slots,
        fields.Filled entries fields.vacant slots ∧ fields.finish spot slots = .ok values := by
  induction fields with
  | nil => exact iff_of_true trivial ⟨(), trivial, rfl⟩
  | cons field more ih =>
      obtain ⟨value, values⟩ := values
      simp only [Holds, Filled, vacant, ih]
      constructor
      · rintro ⟨holds, slots, filled, finished⟩
        generalize under field.name entries = nodes at holds
        cases holds with
        | absent default =>
            exact ⟨(none, slots), ⟨.absent none, filled⟩,
              (finish_cons_eq_ok_iff spot).mpr ⟨default, finished⟩⟩
        | present read =>
            exact ⟨(some value, slots), ⟨.present read, filled⟩,
              (finish_cons_eq_ok_iff spot).mpr ⟨rfl, finished⟩⟩
      · rintro ⟨⟨slot, slots⟩, ⟨fills, filled⟩, finished⟩
        obtain ⟨taken, finished⟩ := (finish_cons_eq_ok_iff spot).mp finished
        refine ⟨?_, slots, filled, finished⟩
        generalize under field.name entries = nodes at fills
        cases fills with
        | absent => exact .absent taken
        | present read =>
            cases taken
            exact .present read

/-- The maps that are accepted as a record, and the values of its fields. -/
theorem record_map_eq_ok_iff {fields : Fields γ} (distinct : fields.names.Nodup) (type : String)
    {start : Spot} {entries : List (MapKey × Node)} {ending : Ending} {values : γ} :
    record type fields (.map start entries ending) = .ok values ↔
      (∃ stop, ending = .closed stop) ∧ fields.Passable entries ∧ fields.Holds entries values := by
  rw [record, ofEntries, bind_eq_ok_iff]
  constructor
  · rintro ⟨slots, filled, finished⟩
    obtain ⟨passable, filled⟩ := (fill_eq_ok_iff distinct).mp filled
    cases ending with
    | closed stop => exact ⟨⟨stop, rfl⟩, passable, (holds_iff stop).mpr ⟨slots, filled, finished⟩⟩
    | broken break_ => cases finished
  · rintro ⟨⟨stop, rfl⟩, passable, holds⟩
    obtain ⟨slots, filled, finished⟩ := (holds_iff stop).mp holds
    exact ⟨slots, (fill_eq_ok_iff distinct).mpr ⟨passable, filled⟩, finished⟩

def Sourced {γ : Type} : Fields γ → γ → Prop
  | .nil, _ => True
  | .cons field rest, values =>
      (field.absent = some values.1 ∨ field.missing = some values.1 ∨
        ∃ node, field.decoder node = .ok values.1) ∧ rest.Sourced values.2

def Drawn {γ : Type} (good : Node → Prop) : Fields γ → γ → Prop
  | .nil, _ => True
  | .cons field rest, values => field.Drawn good values.1 ∧ rest.Drawn good values.2

variable {good : Node → Prop}

theorem drawn_of_holds {fields : Fields γ} {entries : List (MapKey × Node)}
    (all : ∀ entry ∈ entries, good entry.2) {values : γ} (holds : fields.Holds entries values) :
    fields.Drawn good values := by
  induction fields with
  | nil => trivial
  | cons field rest ih =>
      obtain ⟨here, later⟩ := holds
      refine ⟨?_, ih later⟩
      have nodes := forall_under all field.name
      generalize under field.name entries = found at here nodes
      cases here with
      | absent default => exact .inl default
      | present read => exact .inr (.inr ⟨_, nodes _ List.mem_cons_self, read⟩)

theorem drawn_of_takeItems {fields : Fields γ} {type : String} {total index : Nat}
    {ending : Ending} {last : Option ItemFrame} {items : List (ItemFrame × Node)}
    (all : ∀ item ∈ items, good item.2) {values : γ}
    (taken : takeItems type total ending fields index last items = .ok values) :
    fields.Drawn good values := by
  induction fields generalizing index last items with
  | nil => trivial
  | cons field more ih =>
      cases items with
      | cons item rest =>
          obtain ⟨here, later⟩ := List.forall_mem_cons.mp all
          simp only [takeItems, bind_eq_ok_iff, mapError_eq_ok_iff] at taken
          obtain ⟨value, read, values, taken, ⟨⟩⟩ := taken
          exact ⟨.inr (.inr ⟨_, here, read⟩), ih later taken⟩
      | nil =>
          cases ending with
          | broken break_ => cases taken
          | closed stop =>
              cases missing : field.missing with
              | none =>
                  simp only [takeItems, missing] at taken
                  cases taken
              | some value =>
                  simp only [takeItems, missing, bind_eq_ok_iff] at taken
                  obtain ⟨values, taken, ⟨⟩⟩ := taken
                  exact ⟨.inr (.inl missing), ih all taken⟩

/-- The values of a record are defaults or were read from the parts of the node. -/
theorem drawn_of_record {fields : Fields γ} (distinct : fields.names.Nodup) {type : String}
    {node : Node} (all : node.Each good) {values : γ} (read : record type fields node = .ok values) :
    fields.Drawn good values := by
  cases node with
  | map start entries ending =>
      obtain ⟨_, _, holds⟩ := (record_map_eq_ok_iff distinct type).mp read
      exact drawn_of_holds all holds
  | seq start items ending => exact drawn_of_takeItems all read
  | _ => cases read

theorem Drawn.sourced {fields : Fields γ} {values : γ} (drawn : fields.Drawn good values) :
    fields.Sourced values := by
  induction fields with
  | nil => trivial
  | cons field rest ih =>
      obtain ⟨here, later⟩ := drawn
      refine ⟨?_, ih later⟩
      rcases here with default | missing | ⟨node, _, read⟩
      · exact .inl default
      · exact .inr (.inl missing)
      · exact .inr (.inr ⟨node, read⟩)

/-- The values of a record that is read are defaults or were read themselves. -/
theorem sourced_of_record {fields : Fields γ} (distinct : fields.names.Nodup) {type : String}
    {node : Node} {values : γ} (read : record type fields node = .ok values) :
    fields.Sourced values :=
  (drawn_of_record distinct (Node.each_true node) read).sourced

end Fields

end ActionGraph.Wire
