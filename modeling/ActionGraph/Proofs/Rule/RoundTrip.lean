import ActionGraph.Proofs.Rule.Leaves
import ActionGraph.Proofs.Wire.Values

/-!
# Rules that are written and read back

A rule whose values are ordered is read back as it was written, however deep
its groups nest.  A leaf has a field and is therefore read as a leaf.  A group
has none, so it fails as a leaf and is read as a group, with room for as many
levels of groups as its encoded value has levels.
-/

namespace ActionGraph

open Wire

namespace Operator

theorem decode_toJson (op : Operator) : decode (.ofJson op.toJson) = .ok op := by
  cases op <;> rfl

end Operator

namespace Logic

theorem decode_toJson (logic : Logic) : decode (.ofJson logic.toJson) = .ok logic := by
  cases logic <;> rfl

end Logic

/-! ## Leaves -/

namespace Condition

def entries (c : Condition) : List (MapKey × Node) :=
  [(Node.keyOf "field", .ofJson (.str c.field)),
   (Node.keyOf "operator", .ofJson c.operator.toJson),
   (Node.keyOf "value", .ofJson c.value)]

theorem toJson_eq (c : Condition) :
    c.toJson =
      .obj [("field", .str c.field), ("operator", c.operator.toJson), ("value", c.value)] := by
  apply Json.ofFields_of_sorted
  have keys : ["field", "operator", "value"].Pairwise (· < ·) := by decide
  exact List.pairwise_map.mp keys

theorem ofJson_toJson (c : Condition) :
    Node.ofJson c.toJson = .map none c.entries (.closed none) := by
  rw [toJson_eq]
  rfl

theorem ordered_toJson {c : Condition} (ordered : c.value.Ordered) : c.toJson.Ordered := by
  apply Json.ordered_ofFields
  exact ⟨trivial, trivial, ordered, trivial⟩

theorem passable_entries (c : Condition) : fields.Passable c.entries := by
  intro entry mem
  simp only [entries, List.mem_cons, List.not_mem_nil, or_false] at mem
  rcases mem with rfl | rfl | rfl
  · exact ⟨"field", rfl, fun unknown => absurd (by decide) unknown⟩
  · exact ⟨"operator", rfl, fun unknown => absurd (by decide) unknown⟩
  · exact ⟨"value", rfl, fun unknown => absurd (by decide) unknown⟩

theorem decode_toJson {c : Condition} (ordered : c.value.Ordered) :
    decode (.ofJson c.toJson) = .ok c := by
  rw [ofJson_toJson, decode_map_eq_ok_iff]
  refine ⟨⟨none, rfl⟩, c.passable_entries, ⟨_, rfl, rfl⟩, ⟨_, rfl, ?_⟩, .inr ⟨_, rfl, ?_⟩⟩
  · exact c.operator.decode_toJson
  · exact Node.toJson_ofJson ordered

end Condition

/-! ## Groups -/

namespace RuleGroup

def entries (logic : Logic) (rules : List Rule) : List (MapKey × Node) :=
  [(Node.keyOf "conditions", .ofJson (.arr (Rule.rulesToJson rules))),
   (Node.keyOf "logic", .ofJson logic.toJson)]

/-- The fields of a group are written in key order, the rules first. -/
theorem toJson_eq (logic : Logic) (rules : List Rule) :
    (Rule.group logic rules).toJson =
      .obj [("conditions", .arr (Rule.rulesToJson rules)), ("logic", logic.toJson)] := by
  have before : "conditions" < "logic" := by decide
  have apart : "conditions" ≠ "logic" := by decide
  simp [Rule.toJson, Json.ofFields, Dict.ofList, Dict.insertAll, Dict.insert, Dict.empty,
    Entries.insert, before, apart]

theorem ofJson_toJson (logic : Logic) (rules : List Rule) :
    Node.ofJson (Rule.group logic rules).toJson =
      .map none (entries logic rules) (.closed none) := by
  rw [toJson_eq]
  rfl

theorem passable_entries (rule : Decoder Rule) (logic : Logic) (rules : List Rule) :
    (fields rule).Passable (entries logic rules) := by
  have known : (fields rule).names = ["logic", "conditions"] := rfl
  intro entry mem
  simp only [entries, List.mem_cons, List.not_mem_nil, or_false] at mem
  rcases mem with rfl | rfl
  · exact ⟨"conditions", rfl, fun unknown => absurd (by simp [known]) unknown⟩
  · exact ⟨"logic", rfl, fun unknown => absurd (by simp [known]) unknown⟩

/-- A group is read back if its rules are. -/
theorem decodeWith_entries {rule : Decoder Rule} {rules : List Rule} (logic : Logic)
    (read : List.Forall₂ (fun item r => rule item.2 = .ok r)
      (Node.ofItems (Rule.rulesToJson rules)) rules) :
    decodeWith rule (.map none (entries logic rules) (.closed none)) = .ok ⟨logic, rules⟩ := by
  have listed : Decode.list rule (.ofJson (.arr (Rule.rulesToJson rules))) = .ok rules := by
    simp only [Node.ofJson, Decode.list, bind_eq_ok_iff]
    exact ⟨rules, Decode.items_eq_ok_iff.mpr read, (), rfl, rfl⟩
  have distinct : (fields rule).names.Nodup := (by decide : ["logic", "conditions"].Nodup)
  have holds : (fields rule).Holds (entries logic rules) (logic, rules, ()) :=
    ⟨.present logic.decode_toJson, .present listed, trivial⟩
  rw [decodeWith, bind_eq_ok_iff]
  refine ⟨(logic, rules, ()), ?_, rfl⟩
  rw [Fields.record_map_eq_ok_iff distinct]
  exact ⟨⟨none, rfl⟩, passable_entries rule logic rules, holds⟩

/-- A group has no field, so it is no leaf. -/
theorem decode_condition_ne (logic : Logic) (rules : List Rule) (c : Condition) :
    Condition.decode (.map none (entries logic rules) (.closed none)) ≠ .ok c := by
  intro read
  have once : (under "field" (entries logic rules)).length = 1 :=
    (Condition.formed_of_decode read).field
  have none : (under "field" (entries logic rules)).length = 0 := rfl
  omega

end RuleGroup

/-! ## Trees -/

namespace Rule

mutual

def Ordered : Rule → Prop
  | .leaf condition => condition.value.Ordered
  | .group _ rules => AllOrdered rules

def AllOrdered : List Rule → Prop
  | [] => True
  | rule :: rest => rule.Ordered ∧ AllOrdered rest

end

mutual

def nesting : Rule → Nat
  | .leaf _ => 0
  | .group _ rules => nestings rules + 1

def nestings : List Rule → Nat
  | [] => 0
  | rule :: rest => max (nesting rule) (nestings rest)

end

mutual

/-- The encoded value of a rule is at least as deep as the rule. -/
theorem nesting_le_depth (rule : Rule) : rule.nesting ≤ (Node.ofJson rule.toJson).depth := by
  cases rule with
  | leaf c => exact Nat.zero_le _
  | group logic rules =>
      have inner := nestings_le_itemsDepth rules
      rw [RuleGroup.ofJson_toJson]
      simp only [nesting, RuleGroup.entries, Node.ofJson, Node.depth, Node.entriesDepth]
      omega

theorem nestings_le_itemsDepth (rules : List Rule) :
    nestings rules ≤ Node.itemsDepth (Node.ofItems (rulesToJson rules)) := by
  cases rules with
  | nil => exact Nat.le_refl 0
  | cons rule rest =>
      have first := nesting_le_depth rule
      have later := nestings_le_itemsDepth rest
      simp only [nestings, rulesToJson, Node.ofItems, Node.itemsDepth]
      omega

end

mutual

theorem ordered_toJson {rule : Rule} (ordered : rule.Ordered) : rule.toJson.Ordered := by
  cases rule with
  | leaf c => exact Condition.ordered_toJson ordered
  | group logic rules =>
      apply Json.ordered_ofFields
      refine ⟨?_, orderedItems_rulesToJson ordered, trivial⟩
      cases logic <;> trivial

theorem orderedItems_rulesToJson {rules : List Rule} (ordered : AllOrdered rules) :
    Json.OrderedItems (rulesToJson rules) := by
  cases rules with
  | nil => trivial
  | cons rule rest => exact ⟨ordered_toJson ordered.1, orderedItems_rulesToJson ordered.2⟩

end

mutual

/-- A rule is read back within any depth that it does not exceed. -/
theorem decodeWithin_toJson {rule : Rule} (ordered : rule.Ordered) {depth : Nat}
    (deep : rule.nesting ≤ depth) : decodeWithin depth (.ofJson rule.toJson) = .ok rule := by
  have whole := Node.toJson_ofJson (ordered_toJson ordered)
  cases rule with
  | leaf c =>
      have leaf := Condition.decode_toJson (c := c) ordered
      rw [decodeWithin.eq_def, bind_eq_ok_iff]
      refine ⟨_, whole, ?_⟩
      simp only [toJson, leaf]
      rfl
  | group logic rules =>
      cases depth with
      | zero => exact absurd deep (Nat.not_succ_le_zero _)
      | succ depth =>
          have inner := RuleGroup.decodeWith_entries logic
            (forall₂_rulesToJson ordered (Nat.le_of_succ_le_succ deep))
          rw [decodeWithin.eq_def, bind_eq_ok_iff]
          refine ⟨_, whole, ?_⟩
          rw [RuleGroup.ofJson_toJson]
          cases leaf : Condition.decode
              (.map none (RuleGroup.entries logic rules) (.closed none)) with
          | ok c => exact absurd leaf (RuleGroup.decode_condition_ne logic rules c)
          | error fault =>
              simp only [inner]
              rfl

theorem forall₂_rulesToJson {rules : List Rule} (ordered : AllOrdered rules) {depth : Nat}
    (deep : nestings rules ≤ depth) :
    List.Forall₂ (fun item r => decodeWithin depth item.2 = .ok r)
      (Node.ofItems (rulesToJson rules)) rules := by
  cases rules with
  | nil => exact .nil
  | cons rule rest =>
      simp only [nestings] at deep
      refine .cons ?_ ?_
      · exact decodeWithin_toJson ordered.1 (by omega)
      · exact forall₂_rulesToJson ordered.2 (by omega)

end

theorem decode_toJson {rule : Rule} (ordered : rule.Ordered) :
    decode (.ofJson rule.toJson) = .ok rule :=
  decodeWithin_toJson ordered rule.nesting_le_depth

end Rule

/-! ## Rules that were read -/

theorem Condition.ordered_of_decode {node : Node} {c : Condition} (read : decode node = .ok c) :
    c.value.Ordered := by
  rw [decode, bind_eq_ok_iff] at read
  obtain ⟨⟨field, operator, value, ⟨⟩⟩, read, ⟨⟩⟩ := read
  obtain ⟨_, _, source, _⟩ := Fields.sourced_of_record (by decide) read
  rcases source with default | default | ⟨node, read⟩
  · cases default
    trivial
  · cases default
    trivial
  · exact Node.ordered_of_toJson read

def RuleGroup.Ordered (g : RuleGroup) : Prop :=
  g.toRule.Ordered

theorem Rule.allOrdered_iff {rules : List Rule} :
    AllOrdered rules ↔ ∀ rule ∈ rules, rule.Ordered := by
  induction rules with
  | nil => simp [AllOrdered]
  | cons rule rest ih => simp [AllOrdered, ih]

/-- A group is ordered if whatever its rules are read as is. -/
theorem RuleGroup.ordered_of_decodeWith {rule : Decoder Rule}
    (all : ∀ node r, rule node = .ok r → r.Ordered) {node : Node} {g : RuleGroup}
    (read : decodeWith rule node = .ok g) : g.Ordered := by
  have distinct : (fields rule).names.Nodup := (by decide : ["logic", "conditions"].Nodup)
  rw [decodeWith, bind_eq_ok_iff] at read
  obtain ⟨⟨logic, rules, ⟨⟩⟩, read, ⟨⟩⟩ := read
  obtain ⟨_, source, _⟩ := Fields.sourced_of_record distinct read
  rcases source with default | default | ⟨node, read⟩
  · cases default
    trivial
  · cases default
    trivial
  · obtain ⟨_, nodes, _, _, items⟩ := Decode.list_eq_ok read
    refine Rule.allOrdered_iff.mpr fun r mem => ?_
    obtain ⟨i, inRange, rfl⟩ := List.mem_iff_getElem.mp mem
    have here := items.get (items.length_eq ▸ inRange) inRange
    exact all _ _ here

/-- Whatever is read as a rule is ordered. -/
theorem Rule.ordered_of_decodeWithin {depth : Nat} {node : Node} {rule : Rule}
    (read : decodeWithin depth node = .ok rule) : rule.Ordered := by
  induction depth generalizing node rule with
  | zero =>
      obtain ⟨_, ⟨c, leaf, rfl⟩ | ⟨_, depth', g, ⟨⟩, _⟩⟩ := decodeWithin_eq_ok read
      exact Condition.ordered_of_decode leaf
  | succ depth ih =>
      obtain ⟨_, ⟨c, leaf, rfl⟩ | ⟨_, depth', g, ⟨⟩, inner, rfl⟩⟩ := decodeWithin_eq_ok read
      · exact Condition.ordered_of_decode leaf
      · exact RuleGroup.ordered_of_decodeWith (fun _ _ => ih) inner

theorem RuleGroup.ordered_of_decode {node : Node} {g : RuleGroup} (read : decode node = .ok g) :
    g.Ordered :=
  ordered_of_decodeWith (fun _ _ => Rule.ordered_of_decodeWithin) read

/-! ## Groups that were written -/

namespace RuleGroup

theorem decode_toJson {g : RuleGroup} (ordered : g.Ordered) :
    decode (.ofJson g.toJson) = .ok g := by
  have deep : Rule.nestings g.rules ≤ (Node.ofJson g.toJson).depth := by
    have whole := g.toRule.nesting_le_depth
    exact Nat.le_of_succ_le whole
  have written : Node.ofJson g.toJson = .map none (entries g.logic g.rules) (.closed none) :=
    ofJson_toJson g.logic g.rules
  rw [written] at deep
  rw [decode, written]
  exact decodeWith_entries g.logic (Rule.forall₂_rulesToJson ordered deep)

/-- A group that is read from anywhere can be written and read again. -/
theorem decode_again {node : Node} {g : RuleGroup} (read : decode node = .ok g) :
    decode (.ofJson g.toJson) = .ok g :=
  decode_toJson (ordered_of_decode read)

/-- A group is read back as the group it was, and every rule as the leaf or group it was. -/
theorem decode_of_written {g : RuleGroup} (ordered : g.Ordered) :
    decode (.ofJson g.toJson) = .ok g ∧
      ∀ rule : Rule, rule.Ordered → Rule.decode (.ofJson rule.toJson) = .ok rule :=
  ⟨decode_toJson ordered, fun _ => Rule.decode_toJson⟩

def unknownRules : RuleGroup :=
  ⟨.any,
    [.group .all [],
      .leaf ⟨"message.size", .unknown, .obj [("max", .arr []), ("min", .null)]⟩]⟩

theorem unknownRules_written :
    unknownRules.Ordered ∧ decode (.ofJson unknownRules.toJson) = .ok unknownRules ∧
      ∀ rule : Rule, rule.Ordered → Rule.decode (.ofJson rule.toJson) = .ok rule := by
  have ordered : unknownRules.Ordered := by
    refine ⟨trivial, ⟨?_, trivial, trivial, trivial⟩, trivial⟩
    have keys : ["max", "min"].Pairwise (· < ·) := by decide
    exact List.pairwise_map.mp keys
  exact ⟨ordered, decode_of_written ordered⟩

end RuleGroup

end ActionGraph
