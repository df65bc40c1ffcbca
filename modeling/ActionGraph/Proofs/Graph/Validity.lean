import Mathlib.Data.List.TakeWhile
import ActionGraph.Graph.Topology

/-!
# Valid definitions

What the checks before sorting accept, said without the checks: the texts are
filled in, the identifiers are distinct and every edge ends at nodes.
-/

namespace ActionGraph.Graph.Definition

def FilledIn (s : String) : Prop :=
  ∃ c ∈ s.toList, Text.isBlank c = false

/-- A definition whose fields, identifiers and edges are in order. -/
structure Valid (d : Definition) : Prop where
  name : FilledIn d.name
  version : FilledIn d.version
  nodes_ne_nil : d.nodes ≠ []
  nodes : ∀ node ∈ d.nodes, FilledIn node.id ∧ FilledIn node.component
  distinct : d.ids.Nodup
  ends : ∀ edge ∈ d.edges, edge.source.node ∈ d.ids ∧ edge.target.node ∈ d.ids

theorem trim_eq_nil_iff (cs : List Char) :
    Text.trim cs = [] ↔ ∀ c ∈ cs, Text.isBlank c = true := by
  simp only [Text.trim, Text.trimEnd, Text.trimStart, List.reverse_eq_nil_iff,
    List.dropWhile_eq_nil_iff, List.mem_reverse]
  constructor
  · intro blank c mem
    by_contra notBlank
    -- the first character that is kept at the front is not blank
    have kept : cs.dropWhile Text.isBlank ≠ [] := by
      intro none
      exact notBlank (List.dropWhile_eq_nil_iff.mp none c mem)
    have first := List.head_dropWhile_not Text.isBlank kept
    rw [blank _ (List.head_mem kept)] at first
    cases first
  · intro blank c mem
    exact blank c (List.dropWhile_subset _ mem)

theorem isBlankText_eq_false_iff (s : String) : isBlankText s = false ↔ FilledIn s := by
  rw [isBlankText, ← Bool.not_eq_true, List.isEmpty_iff, trim_eq_nil_iff]
  simp only [not_forall, FilledIn, exists_prop, Bool.not_eq_true]

theorem isBlankText_eq_true_iff (s : String) : isBlankText s = true ↔ ¬ FilledIn s := by
  rw [← isBlankText_eq_false_iff, Bool.not_eq_false]

theorem checkNodes_eq_ok_iff (index : Nat) (nodes : List Node) :
    checkNodes index nodes = .ok () ↔
      ∀ node ∈ nodes, FilledIn node.id ∧ FilledIn node.component := by
  induction nodes generalizing index with
  | nil => simp [checkNodes]
  | cons node rest ih =>
      rw [checkNodes, List.forall_mem_cons, ← ih (index + 1)]
      by_cases id : FilledIn node.id
      · by_cases component : FilledIn node.component
        · simp [(isBlankText_eq_false_iff _).mpr id, (isBlankText_eq_false_iff _).mpr component,
            id, component]
        · simp [(isBlankText_eq_false_iff _).mpr id, (isBlankText_eq_true_iff _).mpr component,
            component]
      · simp [(isBlankText_eq_true_iff _).mpr id, id]

theorem checkDistinct_eq_ok_iff (seen : List String) (nodes : List Node) :
    checkDistinct seen nodes = .ok () ↔
      (nodes.map (·.id)).Nodup ∧ ∀ node ∈ nodes, node.id ∉ seen := by
  induction nodes generalizing seen with
  | nil => simp [checkDistinct]
  | cons node rest ih =>
      rw [checkDistinct]
      by_cases old : node.id ∈ seen
      · simp [old]
      · simp only [List.contains_eq_mem, old, decide_false, Bool.false_eq_true, if_false, ih,
          List.map_cons, List.nodup_cons, List.mem_cons, not_or, List.mem_map, not_exists, not_and]
        constructor
        · rintro ⟨distinct, apart⟩
          refine ⟨⟨fun other mem => (apart other mem).1, distinct⟩, ?_⟩
          rintro other (rfl | mem)
          · exact old
          · exact (apart other mem).2
        · rintro ⟨⟨apart, distinct⟩, unseen⟩
          exact ⟨distinct, fun other mem => ⟨apart other mem, unseen other (.inr mem)⟩⟩

theorem checkEdges_eq_ok_iff (ids : List String) (edges : List Edge) :
    checkEdges ids edges = .ok () ↔
      ∀ edge ∈ edges, edge.source.node ∈ ids ∧ edge.target.node ∈ ids := by
  induction edges with
  | nil => simp [checkEdges]
  | cons edge rest ih =>
      rw [checkEdges, List.forall_mem_cons, ← ih]
      by_cases source : edge.source.node ∈ ids
      · by_cases target : edge.target.node ∈ ids
        · simp [source, target]
        · simp [source, target]
      · simp [source]

/-- The checks accept exactly the valid definitions. -/
theorem validate_eq_ok_iff (d : Definition) : d.validate = .ok () ↔ d.Valid := by
  rw [validate]
  by_cases name : FilledIn d.name
  · by_cases version : FilledIn d.version
    · by_cases empty : d.nodes = []
      · simp only [(isBlankText_eq_false_iff _).mpr name, (isBlankText_eq_false_iff _).mpr version,
          empty, List.isEmpty_nil, if_true, Bool.false_eq_true, if_false, reduceCtorEq, false_iff]
        exact fun valid => valid.nodes_ne_nil empty
      · have some : d.nodes.isEmpty = false := by simpa using empty
        simp only [(isBlankText_eq_false_iff _).mpr name, (isBlankText_eq_false_iff _).mpr version,
          some, Bool.false_eq_true, if_false]
        constructor
        · intro accepted
          cases nodes : checkNodes 0 d.nodes with
          | error failure => rw [nodes] at accepted; cases accepted
          | ok _ =>
              cases distinct : checkDistinct [] d.nodes with
              | error failure => rw [nodes, distinct] at accepted; cases accepted
              | ok _ =>
                  rw [nodes, distinct] at accepted
                  exact ⟨name, version, empty, (checkNodes_eq_ok_iff 0 _).mp nodes,
                    ((checkDistinct_eq_ok_iff [] _).mp distinct).1,
                    (checkEdges_eq_ok_iff _ _).mp accepted⟩
        · intro valid
          rw [(checkNodes_eq_ok_iff 0 _).mpr valid.nodes,
            (checkDistinct_eq_ok_iff [] _).mpr ⟨valid.distinct, by simp⟩]
          exact (checkEdges_eq_ok_iff _ _).mpr valid.ends
    · simp only [(isBlankText_eq_false_iff _).mpr name, (isBlankText_eq_true_iff _).mpr version,
        if_true, Bool.false_eq_true, if_false, reduceCtorEq, false_iff]
      exact fun valid => version valid.version
  · simp only [(isBlankText_eq_true_iff _).mpr name, if_true, reduceCtorEq, false_iff]
    exact fun valid => name valid.name

end ActionGraph.Graph.Definition
