import ActionGraph.Json.Path
import ActionGraph.Proofs.Wire.Values

/-!
# What a merge comes to

A merge of objects is told key by key: a key that both have holds the merge of
its two values, and any other key holds what it holds on the one side.
Followed along a path of keys, this says where the result has what the patch
has and where it has what the target had.  A patch that has been merged is in
the result already, so that it makes no difference to merge it again.
-/

namespace ActionGraph.Json

/-! ## Ordered values -/

namespace Ordered

variable {value : Json}

theorem field? (ordered : value.Ordered) {key : String} {found : Json}
    (there : value.field? key = some found) : found.Ordered := by
  cases value with
  | obj fields => exact orderedFields_iff.mp ordered.2 _ (Entries.mem_of_find? there)
  | _ => cases there

theorem field (ordered : value.Ordered) (key : String) : (value.field key).Ordered := by
  unfold Json.field
  cases there : value.field? key with
  | none => trivial
  | some found => exact ordered.field? there

end Ordered

mutual

theorem ordered_merge {target patch : Json} (ordered : target.Ordered) (orderedToo : patch.Ordered) :
    (target.merge patch).Ordered := by
  cases patch with
  | obj patch =>
      cases target with
      | obj fields =>
          rw [merge]
          exact ordered_mergeFields (d := ⟨fields, ordered.1⟩)
            (all_of_orderedFields ordered.2) orderedToo.2
      | _ => exact orderedToo
  | _ => exact orderedToo

theorem ordered_mergeFields {d : Dict Json} (all : d.All Ordered) {patch : List (String × Json)}
    (ordered : OrderedFields patch) : (obj (mergeFields d.entries patch)).Ordered := by
  cases patch with
  | nil => exact ordered_ofDict all
  | cons entry rest =>
      obtain ⟨key, value⟩ := entry
      rw [mergeFields]
      refine ordered_mergeFields (d := d.insert key _) (all.insert key ?_) ordered.2
      split
      · rename_i old found
        exact ordered_merge (all key old found) ordered.1
      · exact ordered.1

end

/-! ## Key by key -/

section Keys

variable {target patch : Json} {key : String}

theorem isObject_of_field? {value child : Json} (found : value.field? key = some child) :
    value.isObject = true := by
  cases value with
  | obj fields => rfl
  | _ => cases found

/-- Unless both sides are objects, the patch takes the place of the target. -/
theorem merge_eq_patch (apart : ¬ (patch.isObject = true ∧ target.isObject = true)) :
    target.merge patch = patch := by
  cases patch with
  | obj fields =>
      cases target with
      | obj old => exact absurd ⟨rfl, rfl⟩ apart
      | _ => rfl
  | _ => cases target <;> rfl

theorem find?_mergeFields {fields patch : List (String × Json)} (key : String)
    (sorted : Entries.Sorted patch) :
    Entries.find? key (mergeFields fields patch) =
      Option.merge merge (Entries.find? key fields) (Entries.find? key patch) := by
  induction patch generalizing fields with
  | nil =>
      rw [mergeFields]
      cases Entries.find? key fields <;> rfl
  | cons entry rest ih =>
      obtain ⟨k, value⟩ := entry
      obtain ⟨head, tail⟩ := List.pairwise_cons.mp sorted
      rw [mergeFields, ih tail]
      by_cases here : k = key
      · subst here
        rw [Entries.find?_insert_self, Entries.find?_cons_self, Entries.find?_eq_none_of_lt head]
        cases Entries.find? k fields <;> rfl
      · rw [Entries.find?_insert_of_ne (Ne.symm here), Entries.find?_cons_of_ne here]

theorem field?_merge (orderedPatch : patch.Ordered) (patchIs : patch.isObject = true)
    (targetIs : target.isObject = true) (key : String) :
    (target.merge patch).field? key =
      Option.merge merge (target.field? key) (patch.field? key) := by
  cases patch with
  | obj fields =>
      cases target with
      | obj old => exact find?_mergeFields key orderedPatch.1
      | _ => cases targetIs
  | _ => cases patchIs

/-- A key of the patch holds the merge of its value into what was there, be it null. -/
theorem exists_field?_merge (ordered : target.Ordered) (orderedPatch : patch.Ordered) {new : Json}
    (given : patch.field? key = some new) :
    ∃ old : Json, old.Ordered ∧ (target.merge patch).field? key = some (old.merge new) := by
  have nothing : Json.null.merge new = new := merge_eq_patch fun both => nomatch both.2
  by_cases targetIs : target.isObject = true
  · rw [field?_merge orderedPatch (isObject_of_field? given) targetIs, given]
    cases found : target.field? key with
    | none => exact ⟨.null, trivial, congrArg some nothing.symm⟩
    | some old => exact ⟨old, ordered.field? found, rfl⟩
  · rw [merge_eq_patch fun both => targetIs both.2, given]
    exact ⟨.null, trivial, congrArg some nothing.symm⟩

end Keys

/-! ## Along a path -/

def descend? : Json → List String → Option Json
  | value, [] => some value
  | value, key :: rest => (value.field? key).bind fun child => child.descend? rest

def ObjectAt (value : Json) (path : List String) : Prop :=
  ∃ fields, value.descend? path = some (.obj fields)

theorem objectAt_nil_iff {value : Json} : value.ObjectAt [] ↔ value.isObject = true := by
  cases value <;> simp [ObjectAt, descend?, isObject]

theorem descend?_append (value : Json) (path more : List String) :
    value.descend? (path ++ more) = (value.descend? path).bind fun child => child.descend? more := by
  induction path generalizing value with
  | nil => rfl
  | cons key rest ih =>
      rw [List.cons_append, descend?, descend?]
      cases value.field? key with
      | none => rfl
      | some child => exact ih child

theorem Ordered.descend? {value : Json} (ordered : value.Ordered) {path : List String}
    {found : Json} (there : value.descend? path = some found) : found.Ordered := by
  induction path generalizing value with
  | nil =>
      cases there
      exact ordered
  | cons key rest ih =>
      obtain ⟨child, here, there⟩ := Option.bind_eq_some_iff.mp there
      exact ih (ordered.field? here) there

section Paths

variable {target patch : Json}

/-- Where both sides lead somewhere, the result leads to the merge of the two. -/
theorem descend?_merge (orderedPatch : patch.Ordered) {path : List String} {old new : Json}
    (there : target.descend? path = some old) (given : patch.descend? path = some new) :
    (target.merge patch).descend? path = some (old.merge new) := by
  induction path generalizing target patch with
  | nil =>
      cases there
      cases given
      rfl
  | cons key rest ih =>
      obtain ⟨before, found, there⟩ := Option.bind_eq_some_iff.mp there
      obtain ⟨after, foundToo, given⟩ := Option.bind_eq_some_iff.mp given
      have merged := field?_merge orderedPatch (isObject_of_field? foundToo)
        (isObject_of_field? found) key
      rw [found, foundToo] at merged
      rw [descend?, merged]
      exact ih (orderedPatch.field? foundToo) there given

/-- Where not both sides lead to objects, the result has what the patch has. -/
theorem descend?_merge_of_given (orderedPatch : patch.Ordered) {path : List String} {new : Json}
    (given : patch.descend? path = some new)
    (apart : ¬ (patch.ObjectAt path ∧ target.ObjectAt path)) :
    (target.merge patch).descend? path = some new := by
  induction path generalizing target patch with
  | nil =>
      rw [objectAt_nil_iff, objectAt_nil_iff] at apart
      rw [merge_eq_patch apart, given]
  | cons key rest ih =>
      by_cases targetIs : target.isObject = true
      · obtain ⟨after, foundToo, given⟩ := Option.bind_eq_some_iff.mp given
        have merged := field?_merge orderedPatch (isObject_of_field? foundToo) targetIs key
        rw [descend?, merged, foundToo]
        cases found : target.field? key with
        | none => exact given
        | some before =>
            refine ih (orderedPatch.field? foundToo) given fun both => apart ?_
            simp only [ObjectAt, descend?, found, foundToo]
            exact both
      · rw [merge_eq_patch fun both => targetIs both.2, given]

/-- Below a key that an object of the patch lacks, an object of the target stays as it was. -/
theorem descend?_merge_of_absent (ordered : patch.Ordered) {before : List String} {key : String}
    (patchIs : patch.ObjectAt before) (targetIs : target.ObjectAt before)
    (absent : patch.descend? (before ++ [key]) = none) (after : List String) :
    (target.merge patch).descend? (before ++ key :: after) =
      target.descend? (before ++ key :: after) := by
  obtain ⟨fields, given⟩ := patchIs
  obtain ⟨old, there⟩ := targetIs
  have lacks : Entries.find? key fields = none := by
    rw [descend?_append, given] at absent
    simpa [descend?, field?] using absent
  have sorted : Entries.Sorted fields := (ordered.descend? given).1
  have kept : ((obj old).merge (.obj fields)).field? key = (obj old).field? key := by
    change Entries.find? key (mergeFields old fields) = Entries.find? key old
    rw [find?_mergeFields key sorted, lacks]
    cases Entries.find? key old <;> rfl
  rw [descend?_append, descend?_append, there, descend?_merge ordered there given]
  simp only [Option.bind_some, descend?, kept]

end Paths

/-! ## Once and again -/

/-- If the patch is there under each of its keys, merging it changes nothing. -/
theorem mergeFields_eq_self {fields patch : List (String × Json)}
    (ordered : (obj fields).Ordered) (orderedPatch : (obj patch).Ordered)
    (held : ∀ key new, Entries.find? key patch = some new →
      ∃ there, Entries.find? key fields = some there ∧ there.merge new = there) :
    mergeFields fields patch = fields := by
  have sorted : Entries.Sorted (mergeFields fields patch) := (ordered_merge ordered orderedPatch).1
  refine Entries.eq_of_find? sorted ordered.1 fun key => ?_
  rw [find?_mergeFields key orderedPatch.1]
  cases given : Entries.find? key patch with
  | none => cases Entries.find? key fields <;> rfl
  | some new =>
      obtain ⟨there, found, same⟩ := held key new given
      rw [found]
      exact congrArg some same

mutual

/-- A patch that has been merged is there, so that merging it again changes nothing. -/
theorem merge_merge {target patch : Json} (ordered : target.Ordered)
    (orderedPatch : patch.Ordered) : (target.merge patch).merge patch = target.merge patch := by
  cases patch with
  | obj fields =>
      obtain ⟨merged, result⟩ : ∃ merged, target.merge (.obj fields) = .obj merged := by
        cases target <;> exact ⟨_, rfl⟩
      have orderedResult := ordered_merge ordered orderedPatch
      rw [result] at orderedResult ⊢
      refine congrArg obj (mergeFields_eq_self orderedResult orderedPatch fun key new given => ?_)
      obtain ⟨old, orderedOld, found⟩ := exists_field?_merge ordered orderedPatch given
      rw [result] at found
      have mem := Entries.mem_of_find? given
      exact ⟨old.merge new, found, merge_merge_of_mem orderedPatch.2 (key, new) mem old orderedOld⟩
  | _ => cases target <;> rfl

theorem merge_merge_of_mem {patch : List (String × Json)} (orderedPatch : OrderedFields patch) :
    ∀ entry ∈ patch, ∀ target : Json, target.Ordered →
      (target.merge entry.2).merge entry.2 = target.merge entry.2 := by
  cases patch with
  | nil => exact nofun
  | cons entry rest =>
      obtain ⟨key, value⟩ := entry
      refine List.forall_mem_cons.mpr ⟨fun target ordered => ?_, ?_⟩
      · exact merge_merge ordered orderedPatch.1
      · exact merge_merge_of_mem orderedPatch.2

end

/-! ## The law of paths -/

/-- What the result of a merge has along paths of keys, and under one more merge. -/
structure Merges (target patch result : Json) : Prop where
  /-- Where the patch leads somewhere and not both lead to objects, the result has what it has. -/
  given : ∀ path, (patch.descend? path).isSome → ¬ (patch.ObjectAt path ∧ target.ObjectAt path) →
    result.descend? path = patch.descend? path
  /-- Below a key that an object of the patch lacks, an object of the target is as it was. -/
  kept : ∀ before key after, patch.ObjectAt before → target.ObjectAt before →
    patch.descend? (before ++ [key]) = none →
    result.descend? (before ++ [key] ++ after) = target.descend? (before ++ [key] ++ after)
  settled : result.merge patch = result

theorem merges_along_paths {target patch : Json} (ordered : target.Ordered)
    (orderedPatch : patch.Ordered) : Merges target patch (target.merge patch) where
  given path leads apart := by
    obtain ⟨new, given⟩ := Option.isSome_iff_exists.mp leads
    rw [given]
    exact descend?_merge_of_given orderedPatch given apart
  kept before key after patchIs targetIs absent := by
    rw [List.append_assoc]
    exact descend?_merge_of_absent orderedPatch patchIs targetIs absent after
  settled := merge_merge ordered orderedPatch

def resident : Json :=
  .obj [("home", .obj [("city", .str "Oslo"), ("zip", .str "0150")]), ("tags", .arr [.str "new"])]

def move : Json :=
  .obj [("home", .obj [("city", .obj [("name", .str "Rome")])]), ("tags", .arr [])]

/-- What the patch has is taken over at every depth, and what it lacks is kept. -/
theorem merges_along_paths_of_move :
    resident.Ordered ∧ move.Ordered ∧ Merges resident move (resident.merge move) ∧
      (resident.merge move).descend? ["home", "city", "name"] = some (.str "Rome") ∧
      (resident.merge move).descend? ["tags"] = some (.arr []) ∧
      (resident.merge move).descend? ["home", "zip"] = some (.str "0150") := by
  have top : ["home", "tags"].Pairwise (· < ·) := by decide
  have home : ["city", "zip"].Pairwise (· < ·) := by decide
  have ordered : resident.Ordered :=
    ⟨List.pairwise_map.mp top,
      ⟨List.pairwise_map.mp home, trivial, trivial, trivial⟩, ⟨trivial, trivial⟩, trivial⟩
  have orderedPatch : move.Ordered :=
    ⟨List.pairwise_map.mp top,
      ⟨List.pairwise_singleton _ _, ⟨List.pairwise_singleton _ _, trivial, trivial⟩, trivial⟩,
      trivial, trivial⟩
  have law := merges_along_paths ordered orderedPatch
  refine ⟨ordered, orderedPatch, law, ?_, ?_, ?_⟩
  · exact law.given ["home", "city", "name"] rfl fun ⟨⟨_, there⟩, _⟩ => nomatch there
  · exact law.given ["tags"] rfl fun ⟨⟨_, there⟩, _⟩ => nomatch there
  · exact law.kept ["home"] "zip" [] ⟨_, rfl⟩ ⟨_, rfl⟩ rfl

end ActionGraph.Json
