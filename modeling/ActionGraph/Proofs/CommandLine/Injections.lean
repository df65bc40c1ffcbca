import ActionGraph.CommandLine.Injection
import ActionGraph.Text.Split
import Mathlib.Control.Monad.Basic
import Mathlib.Tactic.ByContra

/-!
# Injections are read as they are written

The target of an injection ends at the first equals sign, and its node at the
first dot of the target.  So a port may have dots, and a value both, and what
was written is what is read.
-/

namespace ActionGraph.CommandLine.Injection

/-- A text stands for its JSON value if it has one, and for itself if it has none. -/
def Denotes (text : String) (value : Json) : Prop :=
  Json.parse text = .ok value ∨ (∀ other, Json.parse text ≠ .ok other) ∧ value = .str text

/-- A target without a dot is a node; another one has a node before its first dot, and a port. -/
inductive Aimed : String → Prop where
  | node {node : String} (named : node ≠ "") (undotted : '.' ∉ node.toList) : Aimed node
  | port {node port : String} (named : node ≠ "") (undotted : '.' ∉ node.toList)
      (portNamed : port ≠ "") : Aimed (node ++ "." ++ port)

/-- A JSON text denotes nothing but its value. -/
theorem Denotes.eq_of_parse {text : String} {value other : Json} (denotes : Denotes text value)
    (parsed : Json.parse text = .ok other) : value = other := by
  obtain read | ⟨unread, -⟩ := denotes
  · exact Except.ok.inj (read.symm.trans parsed)
  · exact absurd parsed (unread other)

theorem denotes_valueOf (text : String) : Denotes text (valueOf text) := by
  unfold valueOf
  cases parsed : Json.parse text with
  | ok value => exact .inl parsed
  | error fault =>
      refine .inr ⟨fun other read => ?_, rfl⟩
      rw [parsed] at read
      cases read

/-! ## Targets -/

theorem target_of_dotted {node : List Char} (undotted : '.' ∉ node) (port : List Char) :
    target (node ++ '.' :: port) = (node, port) := by
  rw [target, Text.splitFirst?_append_cons undotted]

theorem target_of_undotted {node : List Char} (undotted : '.' ∉ node) :
    target node = (node, Graph.defaultTargetPort.toList) := by
  rw [target, Text.splitFirst?_of_notMem undotted]

theorem toList_dotted (node port : String) :
    (node ++ "." ++ port).toList = node.toList ++ '.' :: port.toList := by
  simp

/-- A target is aimed exactly if neither the node nor the port that it is cut into is empty. -/
theorem aimed_iff (text : String) :
    Aimed text ↔ (target text.toList).1 ≠ [] ∧ (target text.toList).2 ≠ [] := by
  constructor
  · rintro (⟨named, undotted⟩ | ⟨named, undotted, portNamed⟩)
    · rw [target_of_undotted undotted]
      have portNamed : Graph.defaultTargetPort.toList ≠ [] := by decide
      exact ⟨named ∘ String.toList_eq_nil_iff.mp, portNamed⟩
    · rw [toList_dotted, target_of_dotted undotted]
      exact ⟨named ∘ String.toList_eq_nil_iff.mp, portNamed ∘ String.toList_eq_nil_iff.mp⟩
  · rintro ⟨named, portNamed⟩
    by_cases dotted : '.' ∈ text.toList
    · obtain ⟨node, port, split, undotted⟩ := List.eq_append_cons_of_mem dotted
      rw [split, target_of_dotted undotted] at named portNamed
      have same : text = String.ofList node ++ "." ++ String.ofList port := by
        rw [← String.toList_inj, toList_dotted, String.toList_ofList, String.toList_ofList, split]
      rw [same]
      refine .port ?_ (by rwa [String.toList_ofList]) ?_
      · rwa [ne_eq, ← String.toList_eq_nil_iff, String.toList_ofList]
      · rwa [ne_eq, ← String.toList_eq_nil_iff, String.toList_ofList]
    · rw [target_of_undotted dotted] at named
      exact .node (named ∘ String.toList_eq_nil_iff.mpr) dotted

/-! ## Injections -/

theorem ofText_of_notMem {raw : String} (absent : '=' ∉ raw.toList) :
    ofText raw = .error (.noValue raw) := by
  rw [ofText, Text.splitFirst?_of_notMem absent]

/-- The target of an injection is what stands before the first equals sign. -/
theorem ofText_of_split {before : String} (first : '=' ∉ before.toList) (text : String) :
    ofText (before ++ "=" ++ text) =
      if (target before.toList).1.isEmpty || (target before.toList).2.isEmpty then
        .error (.badTarget before)
      else .ok ⟨String.ofList (target before.toList).1, String.ofList (target before.toList).2,
        valueOf text⟩ := by
  have split : (before ++ "=" ++ text).toList = before.toList ++ '=' :: text.toList := by simp
  rw [ofText, split, Text.splitFirst?_append_cons first]
  simp only [String.ofList_toList]

theorem exists_split {raw : String} (there : '=' ∈ raw.toList) :
    ∃ before text : String, raw = before ++ "=" ++ text ∧ '=' ∉ before.toList := by
  obtain ⟨before, text, split, first⟩ := List.eq_append_cons_of_mem there
  refine ⟨String.ofList before, String.ofList text, ?_, by rwa [String.toList_ofList]⟩
  rw [← String.toList_inj, split]
  simp

/-- With an equals sign, an injection is accepted exactly if its target is aimed. -/
theorem ofText_split_iff {before : String} (first : '=' ∉ before.toList) (text : String) :
    (∃ injection, ofText (before ++ "=" ++ text) = .ok injection) ↔ Aimed before := by
  rw [ofText_of_split first, aimed_iff]
  split
  · rename_i empty
    rw [Bool.or_eq_true, List.isEmpty_iff, List.isEmpty_iff] at empty
    refine iff_of_false (by rintro ⟨_, ⟨⟩⟩) fun ⟨named, portNamed⟩ => ?_
    exact empty.elim named portNamed
  · rename_i neither
    rw [Bool.or_eq_true, List.isEmpty_iff, List.isEmpty_iff, not_or] at neither
    exact iff_of_true ⟨_, rfl⟩ neither

/-- An injection whose target is cut into a node and a port, neither of which is empty. -/
theorem ofText_of_target {before node port : String} (first : '=' ∉ before.toList)
    (cut : target before.toList = (node.toList, port.toList)) (named : node ≠ "")
    (portNamed : port ≠ "") (text : String) :
    ofText (before ++ "=" ++ text) = .ok ⟨node, port, valueOf text⟩ := by
  rw [ofText_of_split first, cut, if_neg, String.ofList_toList, String.ofList_toList]
  rw [Bool.or_eq_true, List.isEmpty_iff, List.isEmpty_iff, String.toList_eq_nil_iff,
    String.toList_eq_nil_iff]
  exact not_or.mpr ⟨named, portNamed⟩

/--
A text is an injection exactly if there is an equals sign and what stands
before the first one is aimed; and an injection that is written with a port or
without one is read with that port, or with the default one, and with the
value that its text denotes.
-/
theorem injections_round_trip :
    (∀ raw : String, (∃ injection, ofText raw = .ok injection) ↔
      ∃ before text, raw = before ++ "=" ++ text ∧ '=' ∉ before.toList ∧ Aimed before) ∧
    ∀ node : String, node ≠ "" → '.' ∉ node.toList → '=' ∉ node.toList → ∀ text : String,
      ∃ value, Denotes text value ∧ ofText (node ++ "=" ++ text) = .ok ⟨node, "in", value⟩ ∧
        ∀ port : String, port ≠ "" → '=' ∉ port.toList →
          ofText (node ++ "." ++ port ++ "=" ++ text) = .ok ⟨node, port, value⟩ := by
  refine ⟨fun raw => ?_, fun node named undotted first text => ?_⟩
  · constructor
    · rintro ⟨injection, read⟩
      have there : '=' ∈ raw.toList := by
        by_contra absent
        rw [ofText_of_notMem absent] at read
        cases read
      obtain ⟨before, text, rfl, first⟩ := exists_split there
      exact ⟨before, text, rfl, first, (ofText_split_iff first text).mp ⟨injection, read⟩⟩
    · rintro ⟨before, text, rfl, first, aimed⟩
      exact (ofText_split_iff first text).mpr aimed
  · refine ⟨valueOf text, denotes_valueOf text, ?_, fun port portNamed firstPort => ?_⟩
    · exact ofText_of_target first (target_of_undotted undotted) named (by decide) text
    · refine ofText_of_target ?_ ?_ named portNamed text
      · rw [toList_dotted]
        simp [first, firstPort]
      · rw [toList_dotted, target_of_dotted undotted]

/-- Dots and equals signs in the port and in the value do not move the cuts. -/
theorem injections_round_trip_of_crowdedText :
    let text := "\x7b\"at\": \"a.b=c\", \"by\": [15, null]\x7d"
    let value := Json.ofFields [("at", .str "a.b=c"), ("by", .arr [.ofInt 15, .null])]
    "router" ≠ "" ∧ '.' ∉ "router".toList ∧ '=' ∉ "router".toList ∧
      "query.deep" ≠ "" ∧ '=' ∉ "query.deep".toList ∧ Json.parse text = .ok value ∧
      ofText ("router" ++ "=" ++ text) = .ok ⟨"router", "in", value⟩ ∧
      ofText ("router" ++ "." ++ "query.deep" ++ "=" ++ text) =
        .ok ⟨"router", "query.deep", value⟩ := by
  intro text value
  have named : "router" ≠ "" := by decide
  have undotted : '.' ∉ "router".toList := by decide
  have first : '=' ∉ "router".toList := by decide
  have portNamed : "query.deep" ≠ "" := by decide
  have firstPort : '=' ∉ "query.deep".toList := by decide
  have parsed : Json.parse text = .ok value := by decide +kernel
  obtain ⟨read, denotes, default, withPort⟩ :=
    injections_round_trip.2 "router" named undotted first text
  obtain rfl := denotes.eq_of_parse parsed
  exact ⟨named, undotted, first, portNamed, firstPort, parsed, default,
    withPort "query.deep" portNamed firstPort⟩

end ActionGraph.CommandLine.Injection
