import ActionGraph.Wire.Decode

/-!
# Decoding records

A record is described by its fields in declaration order.  It is read from a
map, in which fields may stand in any order but once, unknown keys are
skipped and absent fields take their default, or from a sequence that holds
the fields in declaration order.
-/

namespace ActionGraph.Wire

structure Field (α : Type) where
  name : String
  decoder : Decoder α
  /-- The value of the field when a map lacks it. -/
  absent : Option α
  /-- The value of the field when a sequence ends before it. -/
  missing : Option α

namespace Field

/-- A field that must be present. -/
def required {α : Type} (name : String) (decoder : Decoder α) : Field α :=
  ⟨name, decoder, none, none⟩

def default {α : Type} (name : String) (decoder : Decoder α) (value : α) : Field α :=
  ⟨name, decoder, some value, some value⟩

/-- A field that may be null and may be absent. -/
def optional {α : Type} (name : String) (decoder : Decoder α) : Field (Option α) :=
  ⟨name, Decode.option decoder, some none, some none⟩

end Field

/-- The fields of a record, in declaration order. -/
inductive Fields : Type → Type 1 where
  | nil : Fields Unit
  | cons {α β : Type} (field : Field α) (rest : Fields β) : Fields (α × β)

namespace Fields

/-- The field values met so far. -/
def Slots {γ : Type} : Fields γ → Type
  | .nil => Unit
  | .cons (α := α) _ rest => Option α × Slots rest

def vacant {γ : Type} : (fields : Fields γ) → fields.Slots
  | .nil => ()
  | .cons _ rest => (none, vacant rest)

def count {γ : Type} : Fields γ → Nat
  | .nil => 0
  | .cons _ rest => rest.count + 1

/-- What a key does to the slots. -/
inductive Put (σ : Type) where
  | unknown
  | duplicate
  | decoded (slots : Except Fault σ)

def Put.map {σ τ : Type} (f : σ → τ) : Put σ → Put τ
  | .unknown => .unknown
  | .duplicate => .duplicate
  | .decoded slots => .decoded (slots.map f)

def put {γ : Type} : (fields : Fields γ) → fields.Slots → String → Node → Put fields.Slots
  | .nil, _, _, _ => .unknown
  | .cons (α := α) field rest, slots, name, node =>
      let slots : Option α × rest.Slots := slots
      if name = field.name then
        match slots.1 with
        | some _ => .duplicate
        | none => .decoded ((field.decoder node).map fun value => (some value, slots.2))
      else (rest.put slots.2 name node).map fun more => (slots.1, more)

/-- The record of the slots; the first absent field without a default is missing. -/
def finish {γ : Type} (spot : Spot) : (fields : Fields γ) → fields.Slots → Except Fault γ
  | .nil, _ => .ok ()
  | .cons (α := α) field rest, slots => do
      let slots : Option α × rest.Slots := slots
      let value ← match slots.1 with
        | some value => .ok value
        | none =>
            match field.absent with
            | some value => .ok value
            | none => .error ⟨.missingField field.name, spot⟩
      let values ← rest.finish spot slots.2
      return (value, values)

def fill {γ : Type} (fields : Fields γ) :
    fields.Slots → List (MapKey × Node) → Except Fault fields.Slots
  | slots, [] => .ok slots
  | slots, (key, node) :: rest => do
      let name ← key.name
      match fields.put slots name node with
      | .unknown =>
          node.skip
          fields.fill slots rest
      | .duplicate => .error ⟨.duplicateField name, key.resume⟩
      | .decoded (.ok slots) => fields.fill slots rest
      | .decoded (.error fault) => .error (fault.settle key.valueResume)

def ofEntries {γ : Type} (fields : Fields γ) (entries : List (MapKey × Node))
    (ending : Ending) : Except Fault γ := do
  let slots ← fields.fill fields.vacant entries
  match ending with
  | .closed stop => fields.finish stop slots
  | .broken b => .error b.reading

/-- The name of a record with the count of its fields. -/
def sized (type : String) (count : Nat) : String :=
  type ++ " with " ++ toString count ++ (if count = 1 then " element" else " elements")

/-- Read the fields one after another from the items of a sequence. -/
def takeItems {γ : Type} (type : String) (total : Nat) (ending : Ending) :
    (fields : Fields γ) → Nat → Option ItemFrame → List (ItemFrame × Node) → Except Fault γ
  | .nil, index, last, rest =>
      match last.map ItemFrame.surplus with
      | some (.fault fault) => .error fault
      | some .ignored => .ok ()
      | _ =>
          if rest.isEmpty then .ok ()
          else .error ⟨.invalidLength (index + rest.length) "fewer elements in array", none⟩
  | .cons field more, index, _, (frame, node) :: rest => do
      let value ← (field.decoder node).mapError (Fault.settle frame.resume)
      let values ← takeItems type total ending more (index + 1) (some frame) rest
      return (value, values)
  | .cons field more, index, _, [] =>
      match ending with
      | .broken b => .error b.reading
      | .closed stop =>
          match field.missing with
          | some value => do
              let values ← takeItems type total ending more (index + 1) none []
              return (value, values)
          | none => .error ⟨.invalidLength index (sized type total), stop⟩

def record {γ : Type} (type : String) (fields : Fields γ) : Decoder γ
  | .map _ entries ending => fields.ofEntries entries ending
  | .seq _ items ending => takeItems type fields.count ending fields 0 none items
  | node => .error (node.mismatch type)

/-- Read the entries of a map one after another and keep those that are no field. -/
def fillOpen {γ : Type} (fields : Fields γ) :
    fields.Slots → List (MapKey × Node) → Except Fault (fields.Slots × List (String × Json))
  | slots, [] => .ok (slots, [])
  | slots, (key, node) :: rest => do
      let name ← key.name
      match fields.put slots name node with
      | .unknown =>
          let value ← node.toJson
          let (slots, extra) ← fields.fillOpen slots rest
          return (slots, (name, value) :: extra)
      | .duplicate => .error ⟨.duplicateField name, key.resume⟩
      | .decoded (.ok slots) => fields.fillOpen slots rest
      | .decoded (.error fault) => .error (fault.settle key.valueResume)

/-- Read a record of a named type that keeps what is no field of it. -/
def openRecord {γ : Type} (type : String) (fields : Fields γ) : Decoder (γ × Dict Json)
  | .map _ entries ending => do
      let (slots, extra) ← fields.fillOpen fields.vacant entries
      match ending with
      | .closed stop => return (← fields.finish stop slots, Dict.ofList extra)
      | .broken b => .error b.reading
  | node => .error (node.mismatch type)

end Fields

end ActionGraph.Wire
