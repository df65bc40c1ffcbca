import ActionGraph.Proofs.Wire.Records
import ActionGraph.Rule.Evaluate
import ActionGraph.Rule.Wire

/-!
# Leaves in the list of a group

An object with a field stands in the list of a group.  It is read as a leaf
exactly if it has one field, one operator that can be read and at most one
value.  Otherwise it is tried as a group, and since it lists no rules it is
the empty group, which holds on every view.
-/

namespace ActionGraph

open Wire

/-! ## Values that can be read -/

namespace Wire.Node

theorem closed_of_readEnding {ending : Ending} (read : readEnding ending = .ok ()) :
    ∃ stop, ending = .closed stop := by
  cases ending with
  | closed stop => exact ⟨stop, rfl⟩
  | broken break_ => cases read

mutual

/-- What can be read can be skipped. -/
theorem skip_of_toJson {node : Node} {value : Json} (read : node.toJson = .ok value) :
    node.skip = .ok () := by
  cases node with
  | seq start items ending =>
      simp only [toJson, bind_eq_ok_iff] at read
      obtain ⟨values, items, _, closed, _⟩ := read
      obtain ⟨stop, rfl⟩ := closed_of_readEnding closed
      simp [skip, skipItems_of_toItems items, skipEnding, bind_eq_ok_iff]
  | map start entries ending =>
      simp only [toJson, bind_eq_ok_iff] at read
      obtain ⟨fields, entries, _, closed, _⟩ := read
      obtain ⟨stop, rfl⟩ := closed_of_readEnding closed
      simp [skip, skipEntries_of_toFields entries, skipEnding, bind_eq_ok_iff]
  | deep fault inner => cases read
  | broken break_ => cases read
  | _ => rfl

theorem skipItems_of_toItems {items : List (ItemFrame × Node)} {values : List Json}
    (read : toItems items = .ok values) : skipItems items = .ok () := by
  cases items with
  | nil => rfl
  | cons item rest =>
      simp only [toItems, bind_eq_ok_iff] at read
      obtain ⟨value, first, values, later, _⟩ := read
      simp [skipItems, skip_of_toJson first, skipItems_of_toItems later, bind_eq_ok_iff]

theorem skipEntries_of_toFields {entries : List (MapKey × Node)} {fields : List (String × Json)}
    (read : toFields entries = .ok fields) : skipEntries entries = .ok () := by
  cases entries with
  | nil => rfl
  | cons entry rest =>
      simp only [toFields, bind_eq_ok_iff] at read
      obtain ⟨name, _, value, first, fields, later, _⟩ := read
      simp [skipEntries, skip_of_toJson first, skipEntries_of_toFields later, bind_eq_ok_iff]

end

/-- The keys and the values of a map that can be read can be read. -/
theorem mem_of_toFields {entries : List (MapKey × Node)} {fields : List (String × Json)}
    (read : toFields entries = .ok fields) :
    ∀ entry ∈ entries, (∃ name, entry.1.name = .ok name) ∧ ∃ value, entry.2.toJson = .ok value := by
  induction entries generalizing fields with
  | nil => exact List.forall_mem_nil _
  | cons entry rest ih =>
      simp only [toFields, bind_eq_ok_iff] at read
      obtain ⟨name, named, value, first, fields, later, _⟩ := read
      exact List.forall_mem_cons.mpr ⟨⟨⟨name, named⟩, value, first⟩, ih later⟩

theorem map_of_toJson {start : Spot} {entries : List (MapKey × Node)} {ending : Ending}
    {value : Json} (read : (Node.map start entries ending).toJson = .ok value) :
    (∃ stop, ending = .closed stop) ∧
      ∀ entry ∈ entries, (∃ name, entry.1.name = .ok name) ∧
        ∃ value, entry.2.toJson = .ok value := by
  simp only [toJson, bind_eq_ok_iff] at read
  obtain ⟨fields, all, _, closed, _⟩ := read
  exact ⟨closed_of_readEnding closed, mem_of_toFields all⟩

end Wire.Node

theorem Wire.mem_of_mem_under {name : String} {entries : List (MapKey × Node)} {node : Node}
    (mem : node ∈ under name entries) : ∃ key, (key, node) ∈ entries := by
  induction entries with
  | nil => cases mem
  | cons entry rest ih =>
      obtain ⟨key, first⟩ := entry
      have later : node ∈ under name rest → ∃ key', (key', node) ∈ (key, first) :: rest :=
        fun mem => (ih mem).imp fun _ there => List.mem_cons_of_mem _ there
      cases named : key.name with
      | error fault =>
          simp only [under, named] at mem
          exact later mem
      | ok other =>
          simp only [under, named] at mem
          split at mem
          · rcases List.mem_cons.mp mem with rfl | there
            · exact ⟨key, List.mem_cons_self⟩
            · exact later there
          · exact later mem

/-! ## Leaves -/

namespace Condition

/-- The entries of a leaf: one field, one operator that can be read, at most one value. -/
structure Formed (entries : List (MapKey × Node)) : Prop where
  field : (under "field" entries).length = 1
  operator : ∃ node op, under "operator" entries = [node] ∧ Operator.decode node = .ok op
  value : (under "value" entries).length ≤ 1

theorem decode_map_eq_ok_iff {start : Spot} {entries : List (MapKey × Node)} {ending : Ending}
    {c : Condition} :
    decode (.map start entries ending) = .ok c ↔
      (∃ stop, ending = .closed stop) ∧ fields.Passable entries ∧
        (∃ node, under "field" entries = [node] ∧ Decode.string node = .ok c.field) ∧
        (∃ node, under "operator" entries = [node] ∧ Operator.decode node = .ok c.operator) ∧
        (under "value" entries = [] ∧ c.value = .null ∨
          ∃ node, under "value" entries = [node] ∧ Decode.json node = .ok c.value) := by
  have holds : fields.Holds entries (c.field, c.operator, c.value, ()) ↔ _ :=
    and_congr Field.holds_required_iff
      (and_congr Field.holds_required_iff
        ((and_iff_left trivial).trans Field.holds_default_iff))
  refine Iff.trans ?_ (and_congr_right' (and_congr_right' holds))
  rw [← Fields.record_map_eq_ok_iff (by decide) "struct Condition", decode, bind_eq_ok_iff]
  constructor
  · rintro ⟨⟨field, operator, value, ⟨⟩⟩, read, ⟨⟩⟩
    exact read
  · exact fun read => ⟨_, read, rfl⟩

variable {start : Spot} {entries : List (MapKey × Node)} {ending : Ending}

theorem formed_of_decode {c : Condition} (read : decode (.map start entries ending) = .ok c) :
    Formed entries := by
  obtain ⟨_, _, ⟨text, field, _⟩, ⟨node, operator, readable⟩, value⟩ :=
    decode_map_eq_ok_iff.mp read
  refine ⟨by rw [field]; rfl, ⟨node, _, operator, readable⟩, ?_⟩
  rcases value with ⟨none, _⟩ | ⟨node, one, _⟩
  · simp [none]
  · simp [one]

variable {s : String} {before behind : Spot}

theorem field_of_decode {c : Condition} (read : decode (.map start entries ending) = .ok c)
    (field : Node.str (.ok s) before behind ∈ under "field" entries) : c.field = s := by
  obtain ⟨_, _, ⟨text, only, readable⟩, _⟩ := decode_map_eq_ok_iff.mp read
  rw [only, List.mem_singleton] at field
  subst field
  exact (Except.ok.inj readable).symm

/-- An object with the entries of a leaf is read as one, if it can be read at all. -/
theorem decode_of_formed {value : Json} (whole : (Node.map start entries ending).toJson = .ok value)
    (field : Node.str (.ok s) before behind ∈ under "field" entries) (formed : Formed entries) :
    ∃ c, decode (.map start entries ending) = .ok c := by
  obtain ⟨closed, all⟩ := Node.map_of_toJson whole
  obtain ⟨once, ⟨node, op, operator, readable⟩, atMostOnce⟩ := formed
  have passable : fields.Passable entries := by
    intro entry mem
    obtain ⟨⟨name, named⟩, value, read⟩ := all entry mem
    exact ⟨name, named, fun _ => Node.skip_of_toJson read⟩
  obtain ⟨text, only⟩ := List.length_eq_one_iff.mp once
  rw [only, List.mem_singleton] at field
  subst field
  obtain ⟨value, given⟩ : ∃ value, under "value" entries = [] ∧ value = .null ∨
      ∃ node, under "value" entries = [node] ∧ Decode.json node = .ok value := by
    cases values : under "value" entries with
    | nil => exact ⟨.null, .inl ⟨rfl, rfl⟩⟩
    | cons node rest =>
        obtain ⟨key, mem⟩ : ∃ key, (key, node) ∈ entries :=
          mem_of_mem_under (by rw [values]; exact List.mem_cons_self)
        obtain ⟨value, read⟩ := (all _ mem).2
        have alone : rest = [] := by
          rw [values, List.length_cons] at atMostOnce
          exact List.length_eq_zero_iff.mp (by omega)
        exact ⟨value, .inr ⟨node, by rw [alone], read⟩⟩
  exact ⟨⟨s, op, value⟩, decode_map_eq_ok_iff.mpr
    ⟨closed, passable, ⟨_, only, rfl⟩, ⟨node, operator, readable⟩, given⟩⟩

end Condition

/-! ## Groups -/

namespace RuleGroup

/-- The nodes in the list of rules of a group, which is written as a map or as a list. -/
def listed? : Node → Option (List Node)
  | .map _ entries _ =>
      match under "conditions" entries with
      | [.seq _ items _] => some (items.map (·.2))
      | _ => none
  | .seq _ (_ :: (_, .seq _ items _) :: _) _ => some (items.map (·.2))
  | _ => none

variable {rule : Decoder Rule} {g : RuleGroup}

theorem rules_of_decodeWith {start : Spot} {entries : List (MapKey × Node)} {ending : Ending}
    (read : decodeWith rule (.map start entries ending) = .ok g) :
    under "conditions" entries = [] ∧ g.rules = [] ∨
      ∃ node, under "conditions" entries = [node] ∧ Decode.list rule node = .ok g.rules := by
  rw [decodeWith, bind_eq_ok_iff] at read
  obtain ⟨⟨logic, rules, ⟨⟩⟩, read, ⟨⟩⟩ := read
  have distinct : (fields rule).names.Nodup :=
    (by decide : ["logic", "conditions"].Nodup)
  obtain ⟨_, _, _, holds, _⟩ := (Fields.record_map_eq_ok_iff distinct _).mp read
  exact Field.holds_default_iff.mp holds

/-- The rules of a group are what is read from the nodes of its list, in order. -/
theorem rules_of_listed {node : Node} (read : decodeWith rule node = .ok g) {children : List Node}
    (listed : listed? node = some children) :
    List.Forall₂ (fun child r => rule child = .ok r) children g.rules := by
  have ofList (start : Spot) (items : List (ItemFrame × Node)) (ending : Ending)
      (given : Decode.list rule (.seq start items ending) = .ok g.rules)
      (same : items.map (·.2) = children) :
      List.Forall₂ (fun child r => rule child = .ok r) children g.rules := by
    obtain ⟨_, _, _, ⟨⟩, all⟩ := Decode.list_eq_ok given
    rw [← same, List.forall₂_map_left_iff]
    exact all
  unfold listed? at listed
  split at listed
  · split at listed
    · rename_i only
      rcases rules_of_decodeWith read with ⟨none, _⟩ | ⟨node, one, given⟩
      · rw [none] at only
        cases only
      · rw [one] at only
        cases only
        exact ofList _ _ _ given (Option.some.inj listed)
    · cases listed
  · rw [decodeWith, bind_eq_ok_iff] at read
    obtain ⟨⟨logic, rules, ⟨⟩⟩, read, ⟨⟩⟩ := read
    simp only [Fields.record, fields, Fields.takeItems, Field.default, bind_eq_ok_iff,
      mapError_eq_ok_iff] at read
    obtain ⟨_, _, _, ⟨_, given, _, _, ⟨⟩⟩, ⟨⟩⟩ := read
    exact ofList _ _ _ given (Option.some.inj listed)
  · cases listed

end RuleGroup

/-! ## Children of groups -/

section Child

variable {start : Spot} {entries : List (MapKey × Node)} {ending : Ending} {s : String}
  {before behind : Spot}

/-- A rule is read as a leaf if it can be, and else as a group. -/
theorem Rule.decodeWithin_eq_ok {depth : Nat} {node : Node} {rule : Rule}
    (read : decodeWithin depth node = .ok rule) :
    (∃ value, node.toJson = .ok value) ∧
      ((∃ c, Condition.decode node = .ok c ∧ rule = .leaf c) ∨
        (∀ c, Condition.decode node ≠ .ok c) ∧ ∃ depth' g, depth = depth' + 1 ∧
          RuleGroup.decodeWith (decodeWithin depth') node = .ok g ∧ rule = g.toRule) := by
  rw [decodeWithin.eq_def, bind_eq_ok_iff] at read
  obtain ⟨value, whole, read⟩ := read
  refine ⟨⟨value, whole⟩, ?_⟩
  cases leaf : Condition.decode node with
  | ok c =>
      rw [leaf] at read
      cases read
      exact .inl ⟨c, rfl, rfl⟩
  | error fault =>
      simp only [leaf] at read
      refine .inr ⟨nofun, ?_⟩
      cases depth with
      | zero => cases read
      | succ depth =>
          cases inner : RuleGroup.decodeWith (decodeWithin depth) node with
          | error fault =>
              simp only [inner] at read
              cases read
          | ok g =>
              simp only [inner] at read
              cases read
              exact ⟨depth, g, rfl, inner, rfl⟩

/-- An object with a field that lists no rules is a leaf with this field or an empty group. -/
theorem Rule.child_cases {depth : Nat} {rule : Rule}
    (read : decodeWithin depth (.map start entries ending) = .ok rule)
    (field : Node.str (.ok s) before behind ∈ under "field" entries)
    (unlisted : under "conditions" entries = []) :
    (Condition.Formed entries ∧ ∃ c, rule = .leaf c ∧ c.field = s) ∨
      ¬ Condition.Formed entries ∧ ∃ logic, rule = .group logic [] := by
  obtain ⟨⟨value, whole⟩, ⟨c, leaf, rfl⟩ | ⟨noLeaf, depth', g, _, inner, rfl⟩⟩ :=
    decodeWithin_eq_ok read
  · exact .inl ⟨Condition.formed_of_decode leaf, c, rfl, Condition.field_of_decode leaf field⟩
  · refine .inr ⟨fun formed => ?_, g.logic, ?_⟩
    · obtain ⟨c, leaf⟩ := Condition.decode_of_formed whole field formed
      exact noLeaf c leaf
    · rcases RuleGroup.rules_of_decodeWith inner with ⟨_, none⟩ | ⟨node, one, _⟩
      · rw [RuleGroup.toRule, none]
      · rw [unlisted] at one
        cases one

/--
In the list of a group that is accepted, an object with a field that lists no
rules is read as a leaf with this field exactly if it has the entries of a
leaf; otherwise it becomes an empty group, which holds on every view.
-/
theorem RuleGroup.leaf_iff_formed {node : Node} {g : RuleGroup} (accepted : decode node = .ok g)
    {children : List Node} (listed : listed? node = some children) {i : Nat}
    (child : children[i]? = some (.map start entries ending))
    (field : Node.str (.ok s) before behind ∈ under "field" entries)
    (unlisted : under "conditions" entries = []) :
    ((∃ c, g.rules[i]? = some (.leaf c) ∧ c.field = s) ↔ Condition.Formed entries) ∧
      (¬ Condition.Formed entries → ∃ logic, g.rules[i]? = some (.group logic []) ∧
        ∀ view, Rule.holds view (.group logic []) = true) := by
  obtain ⟨rule, there, read⟩ : ∃ rule, g.rules[i]? = some rule ∧
      Rule.decodeWithin node.depth (.map start entries ending) = .ok rule := by
    have all := rules_of_listed accepted listed
    obtain ⟨inRange, here⟩ := List.getElem?_eq_some_iff.mp child
    have inRules : i < g.rules.length := all.length_eq ▸ inRange
    have read := all.get inRange inRules
    rw [List.get_eq_getElem, here] at read
    exact ⟨_, List.getElem?_eq_getElem inRules, read⟩
  rw [there]
  rcases Rule.child_cases read field unlisted with ⟨formed, c, rfl, same⟩ | ⟨malformed, logic, rfl⟩
  · exact ⟨iff_of_true ⟨c, rfl, same⟩ formed, fun malformed => absurd formed malformed⟩
  · refine ⟨iff_of_false ?_ malformed, fun _ => ⟨logic, rfl, fun view => rfl⟩⟩
    rintro ⟨c, ⟨⟩, _⟩

end Child

namespace RuleGroup

def operatorless : List (String × Json) :=
  [("field", .str "user.name"), ("value", .str "Ada")]

def userGroup : Json :=
  Json.ofFields
    [("logic", .str "OR"),
     ("conditions", .arr
      [Json.ofFields [("field", .str "user.name"), ("operator", .str "eq"), ("value", .str "Bob")],
       .obj operatorless])]

def userRules : RuleGroup :=
  ⟨.any, [.leaf ⟨"user.name", .eq, .str "Bob"⟩, .group .all []]⟩

/-- The group is accepted, not as leaves, and holds where there is no user at all. -/
theorem userRules_hold :
    decode (.ofJson userGroup) = .ok userRules ∧ userRules.rules[1]? = some (.group .all []) ∧
      userRules.holds default = true :=
  ⟨rfl, rfl, by decide +kernel⟩

theorem leaf_iff_formed_of_userGroup :
    ¬ Condition.Formed (Node.ofFields operatorless) ∧
      decode (.ofJson userGroup) = .ok userRules ∧
      ((∃ c, userRules.rules[1]? = some (.leaf c) ∧ c.field = "user.name") ↔
        Condition.Formed (Node.ofFields operatorless)) ∧
      (¬ Condition.Formed (Node.ofFields operatorless) →
        ∃ logic, userRules.rules[1]? = some (.group logic []) ∧
          ∀ view, Rule.holds view (.group logic []) = true) := by
  have accepted : decode (.ofJson userGroup) = .ok userRules := rfl
  refine ⟨?_, accepted, leaf_iff_formed (i := 1) accepted rfl rfl List.mem_cons_self rfl⟩
  rintro ⟨_, ⟨node, op, there, _⟩, _⟩
  cases there

end RuleGroup

end ActionGraph
