import ActionGraph.Context.Writes
import ActionGraph.Proofs.Dictionaries

/-!
# What writes amount to

Writes between two bags carry into any third one, key by key, what the later
bag holds otherwise than the earlier one, and nothing else.
-/

namespace ActionGraph

/-- Whether two bags hold the same under a key: nothing, or values that are equal. -/
def Bag.agrees (a b : Bag) (key : String) : Bool :=
  match a.get? key, b.get? key with
  | none, none => true
  | some old, some new => old.eqv new
  | _, _ => false

namespace Writes

variable {base bag : Bag} {key : String}

theorem agrees_of_absent (absent : bag.get? key = .none) :
    base.agrees bag key = !base.contains key := by
  rw [Bag.agrees, absent, Dict.contains]
  cases base.get? key <;> rfl

theorem agrees_of_get? {value : Json} (found : bag.get? key = some value) :
    base.agrees bag key = holds base key value := by
  rw [Bag.agrees, found, holds]
  cases base.get? key <;> rfl

theorem mem_set_iff {value : Json} :
    (key, value) ∈ (between base bag).set ↔
      bag.get? key = some value ∧ base.agrees bag key = false := by
  rw [between, List.mem_filter, Dict.mem_entries_iff, Bool.not_eq_true']
  refine and_congr_right fun found => ?_
  rw [agrees_of_get? found]

theorem mem_removed_iff :
    key ∈ (between base bag).removed ↔
      bag.get? key = .none ∧ base.agrees bag key = false := by
  rw [between, List.mem_filter, Dict.mem_keys_iff]
  constructor
  · rintro ⟨known, dropped⟩
    have absent : bag.get? key = .none := by simpa [Dict.contains] using dropped
    refine ⟨absent, ?_⟩
    rw [agrees_of_absent absent, Dict.contains, known]
    rfl
  · rintro ⟨absent, differs⟩
    rw [agrees_of_absent absent, Bool.not_eq_false'] at differs
    exact ⟨differs, by simp [Dict.contains, absent]⟩

/-- No key is set twice. -/
theorem set_apart (base bag : Bag) : ((between base bag).set.map (·.1)).Nodup :=
  bag.keys_apart.sublist (List.filter_sublist.map _)

/-- Where the two bags agree a third stays as it is, and elsewhere it follows the later one. -/
theorem get?_apply_between (base bag target : Bag) (key : String) :
    ((between base bag).apply target).get? key =
      if base.agrees bag key then target.get? key else bag.get? key := by
  unfold apply
  cases agrees : base.agrees bag key with
  | true =>
      have unset : key ∉ (between base bag).set.map (·.1) := by
        intro mem
        obtain ⟨entry, set, rfl⟩ := List.mem_map.mp mem
        have differs := (mem_set_iff.mp set).2
        rw [agrees] at differs
        cases differs
      have kept : key ∉ (between base bag).removed := by
        intro mem
        have differs := (mem_removed_iff.mp mem).2
        rw [agrees] at differs
        cases differs
      rw [Dict.get?_insertAll_of_notMem unset, Dict.get?_foldl_erase, if_neg kept]
      rfl
  | false =>
      cases found : bag.get? key with
      | some value =>
          exact Dict.get?_insertAll_of_mem (set_apart base bag) (mem_set_iff.mpr ⟨found, agrees⟩)
      | none =>
          have unset : key ∉ (between base bag).set.map (·.1) := by
            intro mem
            obtain ⟨entry, set, rfl⟩ := List.mem_map.mp mem
            have there := (mem_set_iff.mp set).1
            rw [found] at there
            cases there
          rw [Dict.get?_insertAll_of_notMem unset, Dict.get?_foldl_erase,
            if_pos (mem_removed_iff.mpr ⟨found, agrees⟩)]
          rfl

end Writes

end ActionGraph
