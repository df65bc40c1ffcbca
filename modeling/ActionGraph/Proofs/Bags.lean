import ActionGraph.Proofs.Json.Equality
import ActionGraph.Proofs.Writes

/-!
# Equal bags

Bags are compared entry by entry, which comes to the same as comparing them
key by key.  The writes that lead from one bag to another are exactly the
differences between the two: they lead there from every bag that is equal to
the first one, there are none exactly if the two are equal, and once they are
made it makes no difference to make them again.
-/

namespace ActionGraph

namespace Bag

/-- Whether two bags have the same keys and equal values. -/
def eqv (a b : Bag) : Bool :=
  Json.eqvFields a.entries b.entries

section Agreement

variable {a b c : Bag} {key : String}

theorem agrees_iff :
    a.agrees b key = true ↔
      Option.Rel (fun old new => old.eqv new = true) (a.get? key) (b.get? key) := by
  rw [agrees]
  cases a.get? key with
  | none => cases b.get? key <;> simp
  | some old => cases b.get? key <;> simp

theorem agrees_refl (a : Bag) (key : String) : a.agrees a key = true := by
  rw [agrees_iff]
  cases a.get? key with
  | none => exact .none
  | some value => exact .some value.eqv_refl

theorem agrees_trans (first : a.agrees b key = true) (second : b.agrees c key = true) :
    a.agrees c key = true := by
  rw [agrees_iff] at *
  generalize a.get? key = x, b.get? key = y, c.get? key = z at *
  cases first with
  | none => exact second
  | some first =>
      cases second with
      | some second => exact .some (Json.eqv_trans first second)

end Agreement

/-! ## Key by key -/

theorem rel_find?_of_eqvFields {as bs : List (String × Json)}
    (same : Json.eqvFields as bs = true) (key : String) :
    Option.Rel (fun old new => old.eqv new = true) (Entries.find? key as)
      (Entries.find? key bs) := by
  induction Json.eqvFields_iff.mp same with
  | nil => exact .none
  | @cons a b as bs first rest ih =>
      obtain ⟨k, a⟩ := a
      obtain ⟨l, b⟩ := b
      obtain ⟨rfl, equal⟩ := first
      by_cases here : k = key
      · subst here
        rw [Entries.find?_cons_self, Entries.find?_cons_self]
        exact .some equal
      · rw [Entries.find?_cons_of_ne here, Entries.find?_cons_of_ne here]
        exact ih (Json.eqvFields_iff.mpr rest)

/-- The entries of a bag are those of one that agrees with it, with its own values. -/
theorem entries_eq_of_agrees {a b : Bag} (agree : ∀ key, a.agrees b key = true) :
    b.entries = a.entries.map fun entry => (entry.1, (b.get? entry.1).getD entry.2) := by
  refine Entries.eq_of_find? b.sorted ?_ fun key => ?_
  · have sorted := a.sorted
    simp only [Entries.Sorted, List.pairwise_map] at sorted ⊢
    exact sorted
  · rw [Entries.find?_mapKeyed fun key value => (b.get? key).getD value]
    have alike := agrees_iff.mp (agree key)
    change b.get? key = (a.get? key).map _
    generalize a.get? key = x, b.get? key = y at *
    cases alike with
    | none => rfl
    | some => rfl

/-- Bags are equal exactly if they agree on every key. -/
theorem eqv_iff_agrees {a b : Bag} : a.eqv b = true ↔ ∀ key, a.agrees b key = true := by
  constructor
  · intro same key
    exact agrees_iff.mpr (rel_find?_of_eqvFields same key)
  · intro agree
    rw [eqv, Json.eqvFields_iff, entries_eq_of_agrees agree, List.forall₂_map_right_iff,
      List.forall₂_same]
    rintro ⟨key, value⟩ mem
    refine ⟨rfl, ?_⟩
    have found := (a.mem_entries_iff key value).mp mem
    have alike := agrees_iff.mp (agree key)
    rw [found] at alike
    revert alike
    cases b.get? key with
    | none => exact nofun
    | some other => exact fun | .some equal => equal

theorem eqv_symm {a b : Bag} (same : a.eqv b = true) : b.eqv a = true :=
  Json.eqv_symm (a := .ofDict a) (b := .ofDict b) same

end Bag

namespace Writes

/-- The writes are what differs between a bag and that of a context. -/
structure Exact (writes : Writes) (base : Bag) (context : Context) : Prop where
  /-- Replayed on what the bag was, they lead to what it is. -/
  replayed : ∀ other : Context, other.bag.eqv base = true →
    (other.applyWrites writes).bag.eqv context.bag = true
  /-- A key is set if its value was another one or none. -/
  set_iff : ∀ key value, (key, value) ∈ writes.set ↔
    context.bag.get? key = some value ∧
      ∀ old, base.get? key = some old → old.eqv value = false
  /-- A key is removed if it had a value and has none. -/
  removed_iff : ∀ key, key ∈ writes.removed ↔
    (base.get? key).isSome ∧ context.bag.get? key = .none
  setOnce : (writes.set.map (·.1)).Nodup
  removedOnce : writes.removed.Nodup
  disjoint : (writes.set.map (·.1)).Disjoint writes.removed
  isEmpty_iff : writes.isEmpty = true ↔ context.bag.eqv base = true
  /-- To replay them again changes nothing. -/
  settled : ∀ other : Context,
    (other.applyWrites writes).applyWrites writes = other.applyWrites writes

section Between

variable (base bag : Bag)

theorem agrees_false_iff {key : String} {value : Json} (found : bag.get? key = some value) :
    base.agrees bag key = false ↔ ∀ old, base.get? key = some old → old.eqv value = false := by
  rw [agrees_of_get? found, holds]
  cases base.get? key with
  | none => simp
  | some old => simp

theorem apply_between_eqv {target : Bag} (same : target.eqv base = true) :
    ((between base bag).apply target).eqv bag = true := by
  rw [Bag.eqv_iff_agrees] at same ⊢
  intro key
  have replayed := get?_apply_between base bag target key
  cases agrees : base.agrees bag key with
  | true =>
      rw [agrees, if_pos rfl] at replayed
      have unchanged : target.agrees bag key = true := Bag.agrees_trans (same key) agrees
      rwa [Bag.agrees, ← replayed] at unchanged
  | false =>
      rw [agrees, if_neg Bool.false_ne_true] at replayed
      have equal := Bag.agrees_refl bag key
      rw [Bag.agrees] at equal
      rw [Bag.agrees, replayed]
      exact equal

theorem apply_between_twice (target : Bag) :
    (between base bag).apply ((between base bag).apply target) =
      (between base bag).apply target := by
  refine Dict.ext_get? fun key => ?_
  rw [get?_apply_between, get?_apply_between]
  split
  · rfl
  · rfl

theorem isEmpty_between_iff : (between base bag).isEmpty = true ↔ base.eqv bag = true := by
  rw [Bag.eqv_iff_agrees, isEmpty, Bool.and_eq_true, List.isEmpty_iff, List.isEmpty_iff]
  constructor
  · rintro ⟨noneSet, noneRemoved⟩ key
    by_contra differs
    rw [Bool.not_eq_true] at differs
    cases found : bag.get? key with
    | some value => exact absurd (noneSet ▸ mem_set_iff.mpr ⟨found, differs⟩) List.not_mem_nil
    | none => exact absurd (noneRemoved ▸ mem_removed_iff.mpr ⟨found, differs⟩) List.not_mem_nil
  · intro agree
    have settled {key : String} : base.agrees bag key ≠ false :=
      fun differs => Bool.false_ne_true (differs.symm.trans (agree key))
    exact ⟨List.eq_nil_iff_forall_not_mem.mpr fun _ mem => settled (mem_set_iff.mp mem).2,
      List.eq_nil_iff_forall_not_mem.mpr fun _ mem => settled (mem_removed_iff.mp mem).2⟩

end Between

end Writes

/--
What was written to the bag of a context is exactly how the bag differs from
what it was.
-/
theorem Context.writesSince_exact (context : Context) (base : Bag) :
    (context.writesSince base).Exact base context where
  replayed other same := Writes.apply_between_eqv base context.bag same
  set_iff key value := by
    rw [writesSince, Writes.mem_set_iff]
    exact and_congr_right fun found => Writes.agrees_false_iff base context.bag found
  removed_iff key := by
    rw [writesSince, Writes.mem_removed_iff, and_comm]
    refine and_congr_left fun absent => ?_
    rw [Writes.agrees_of_absent absent, Bool.not_eq_false', Dict.contains]
  setOnce := Writes.set_apart base context.bag
  removedOnce := base.keys_apart.filter _
  disjoint := by
    intro key set removed
    obtain ⟨entry, mem, rfl⟩ := List.mem_map.mp set
    have found := (Writes.mem_set_iff.mp mem).1
    rw [(Writes.mem_removed_iff.mp removed).1] at found
    cases found
  isEmpty_iff := by
    rw [writesSince, Writes.isEmpty_between_iff]
    exact ⟨Bag.eqv_symm, Bag.eqv_symm⟩
  settled other :=
    congrArg (fun bag => { other with bag }) (Writes.apply_between_twice base context.bag other.bag)

end ActionGraph
