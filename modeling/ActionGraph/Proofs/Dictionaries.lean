import ActionGraph.Dict

/-!
# Lookups and sums in dictionaries

What mapping a dictionary and making one from a list do to its lookups, and
what an insertion does to a property of all values and to a sum over them.
-/

namespace ActionGraph

namespace Entries

variable {α β : Type}

theorem find?_mapKeyed (f : String → α → β) (key : String) (entries : List (String × α)) :
    find? key (entries.map fun entry => (entry.1, f entry.1 entry.2)) =
      (find? key entries).map (f key) := by
  induction entries with
  | nil => rfl
  | cons entry rest ih =>
      obtain ⟨k, v⟩ := entry
      by_cases same : k = key
      · simp [find?, same]
      · simpa [find?, same] using ih

theorem find?_map (f : α → β) (key : String) (entries : List (String × α)) :
    find? key (entries.map fun entry => (entry.1, f entry.2)) = (find? key entries).map f :=
  find?_mapKeyed (fun _ => f) key entries

def sum (f : α → Nat) (entries : List (String × α)) : Nat :=
  ((entries.map (·.2)).map f).foldr (· + ·) 0

theorem sum_cons (f : α → Nat) (entry : String × α) (entries : List (String × α)) :
    sum f (entry :: entries) = f entry.2 + sum f entries :=
  rfl

theorem find?_eq_none_of_lt {key : String} {entries : List (String × α)}
    (all : ∀ entry ∈ entries, key < entry.1) : find? key entries = none := by
  induction entries with
  | nil => rfl
  | cons entry rest ih =>
      obtain ⟨k, v⟩ := entry
      have above : key < k := all _ List.mem_cons_self
      have apart : k ≠ key := by
        rintro rfl
        exact Std.lt_irrefl above
      rw [find?, if_neg apart]
      exact ih fun entry mem => all entry (List.mem_cons_of_mem _ mem)

theorem find?_cons_self (key : String) (value : α) (rest : List (String × α)) :
    find? key ((key, value) :: rest) = some value :=
  if_pos rfl

theorem find?_cons_of_ne {key k : String} (ne : k ≠ key) (value : α)
    (rest : List (String × α)) : find? key ((k, value) :: rest) = find? key rest :=
  if_neg ne

theorem find?_eq_map_find? (key : String) (entries : List (String × α)) :
    find? key entries = (entries.find? fun entry => entry.1 = key).map (·.2) := by
  induction entries with
  | nil => rfl
  | cons entry rest ih =>
      obtain ⟨k, v⟩ := entry
      rw [List.find?_cons]
      by_cases same : k = key
      · simp [find?, same]
      · simpa [find?, same] using ih

/-- Entries in key order are told by their lookups. -/
theorem eq_of_find? {a b : List (String × α)} (sortedA : Sorted a) (sortedB : Sorted b)
    (same : ∀ key, find? key a = find? key b) : a = b := by
  induction a generalizing b with
  | nil =>
      cases b with
      | nil => rfl
      | cons entry rest =>
          have here := same entry.1
          rw [find?_cons_self] at here
          cases here
  | cons entry rest ih =>
      obtain ⟨k, v⟩ := entry
      have here := same k
      rw [find?_cons_self] at here
      cases b with
      | nil => cases here
      | cons entry' rest' =>
          obtain ⟨k', v'⟩ := entry'
          obtain ⟨headA, tailA⟩ := List.pairwise_cons.mp sortedA
          obtain ⟨headB, tailB⟩ := List.pairwise_cons.mp sortedB
          have notBelow : ¬ k < k' := by
            intro below
            rw [find?_eq_none_of_lt] at here
            · cases here
            · exact List.forall_mem_cons.mpr
                ⟨below, fun entry mem => Std.lt_trans below (headB entry mem)⟩
          have notAbove : ¬ k' < k := by
            intro above
            have there := same k'
            rw [find?_cons_self, find?_eq_none_of_lt] at there
            · cases there
            · exact List.forall_mem_cons.mpr
                ⟨above, fun entry mem => Std.lt_trans above (headA entry mem)⟩
          obtain rfl : k = k' := by
            rcases Std.lt_trichotomy k k' with below | equal | above
            · exact absurd below notBelow
            · exact equal
            · exact absurd above notAbove
          rw [find?_cons_self] at here
          obtain rfl : v = v' := Option.some.inj here
          refine congrArg ((k, v) :: ·) (ih tailA tailB fun key => ?_)
          by_cases first : k = key
          · subst first
            rw [find?_eq_none_of_lt headA, find?_eq_none_of_lt headB]
          · have there := same key
            rwa [find?_cons_of_ne first, find?_cons_of_ne first] at there

theorem find?_filter {entries : List (String × α)} (sorted : Sorted entries)
    (p : String → α → Bool) (key : String) :
    find? key (entries.filter fun entry => p entry.1 entry.2) =
      (find? key entries).filter (p key) := by
  induction entries with
  | nil => rfl
  | cons entry rest ih =>
      obtain ⟨k, v⟩ := entry
      obtain ⟨head, tail⟩ := List.pairwise_cons.mp sorted
      rw [List.filter_cons]
      by_cases same : k = key
      · subst same
        rw [find?_cons_self]
        cases kept : p k v with
        | true => rw [if_pos rfl, find?_cons_self, Option.filter_some_pos kept]
        | false =>
            rw [if_neg Bool.false_ne_true, ih tail, find?_eq_none_of_lt head,
              Option.filter_some_neg kept]
            rfl
      · rw [find?_cons_of_ne same, ← ih tail]
        split
        · rw [find?_cons_of_ne same]
        · rfl

theorem mem_of_find? {entries : List (String × α)} {key : String} {value : α}
    (found : find? key entries = some value) : (key, value) ∈ entries := by
  induction entries with
  | nil => cases found
  | cons entry rest ih =>
      obtain ⟨k, v⟩ := entry
      by_cases same : k = key
      · subst same
        rw [find?_cons_self] at found
        rw [Option.some.inj found]
        exact List.mem_cons_self
      · rw [find?_cons_of_ne same] at found
        exact List.mem_cons_of_mem _ (ih found)

theorem find?_of_mem {entries : List (String × α)} (apart : (entries.map (·.1)).Nodup)
    {key : String} {value : α} (mem : (key, value) ∈ entries) :
    find? key entries = some value := by
  induction entries with
  | nil => cases mem
  | cons entry rest ih =>
      rw [List.map_cons, List.nodup_cons] at apart
      rcases List.mem_cons.mp mem with rfl | later
      · exact find?_cons_self _ _ _
      · have ne : entry.1 ≠ key := by
          rintro rfl
          exact apart.1 (List.mem_map.mpr ⟨_, later, rfl⟩)
        rw [find?_cons_of_ne ne]
        exact ih apart.2 later

theorem find?_map_self (f : String → α) {keys : List String} {key : String} (mem : key ∈ keys) :
    find? key (keys.map fun key => (key, f key)) = some (f key) := by
  induction keys with
  | nil => cases mem
  | cons first rest ih =>
      rw [List.map_cons]
      by_cases here : first = key
      · subst here
        exact find?_cons_self _ _ _
      · rw [find?_cons_of_ne here]
        exact ih ((List.mem_cons.mp mem).resolve_left (Ne.symm here))

/-- The value of a key gives way to the one that is inserted. -/
theorem sum_insert (f : α → Nat) {entries : List (String × α)} (sorted : Sorted entries)
    (key : String) (value : α) :
    sum f (insert key value entries) + ((find? key entries).map f).getD 0 =
      sum f entries + f value := by
  induction entries with
  | nil => rw [insert, sum_cons, find?]; exact Nat.add_comm _ _
  | cons entry rest ih =>
      obtain ⟨k, v⟩ := entry
      obtain ⟨head, tail⟩ := List.pairwise_cons.mp sorted
      by_cases same : key = k
      · subst same
        simp only [insert, find?, if_true, sum_cons, Option.map_some, Option.getD_some]
        omega
      · by_cases below : key < k
        · have absent : find? key rest = none :=
            find?_eq_none_of_lt fun entry mem => Std.lt_trans below (head entry mem)
          simp only [insert, find?, same, below, Ne.symm same, if_true, if_false, sum_cons, absent,
            Option.map_none, Option.getD_none]
          omega
        · have rest := ih tail
          simp only [insert, find?, same, below, Ne.symm same, if_false, sum_cons]
          omega

theorem sum_filter {f : α → Nat} {p : String × α → Bool} (entries : List (String × α))
    (void : ∀ entry, p entry = false → f entry.2 = 0) :
    sum f (entries.filter p) = sum f entries := by
  induction entries with
  | nil => rfl
  | cons entry rest ih =>
      cases kept : p entry with
      | true => rw [List.filter_cons_of_pos kept, sum_cons, sum_cons, ih]
      | false =>
          rw [List.filter_cons_of_neg (Bool.eq_false_iff.mp kept), sum_cons, ih, void entry kept,
            Nat.zero_add]

theorem sum_eq_zero_iff (f : α → Nat) (entries : List (String × α)) :
    sum f entries = 0 ↔ ∀ entry ∈ entries, f entry.2 = 0 := by
  induction entries with
  | nil => exact iff_of_true rfl nofun
  | cons entry rest ih => rw [sum_cons, Nat.add_eq_zero_iff, ih, List.forall_mem_cons]

theorem countP_eq_sum (p : α → Bool) (entries : List (String × α)) :
    (entries.map (·.2)).countP p = sum (fun value => (p value).toNat) entries := by
  induction entries with
  | nil => rfl
  | cons entry rest ih =>
      rw [List.map_cons, List.countP_cons, sum_cons, ih, Nat.add_comm]
      cases p entry.2 <;> rfl

theorem countP_le_one {p : α → Bool} {entries : List (String × α)}
    (apart : (entries.map (·.1)).Nodup)
    (unique : ∀ one ∈ entries, ∀ other ∈ entries, p one.2 = true → p other.2 = true →
      one.1 = other.1) : (entries.map (·.2)).countP p ≤ 1 := by
  induction entries with
  | nil => exact Nat.zero_le 1
  | cons entry rest ih =>
      rw [List.map_cons, List.nodup_cons] at apart
      have later := ih apart.2 fun one mem other there =>
        unique one (List.mem_cons_of_mem _ mem) other (List.mem_cons_of_mem _ there)
      rw [List.map_cons, List.countP_cons]
      by_cases passes : p entry.2 = true
      · have none : (rest.map (·.2)).countP p = 0 := by
          refine List.countP_eq_zero.mpr (List.forall_mem_map.mpr fun other mem again => ?_)
          have same := unique entry List.mem_cons_self other (List.mem_cons_of_mem _ mem) passes
            again
          exact apart.1 (same ▸ List.mem_map_of_mem mem)
        refine Nat.le_of_eq ?_
        rw [none, if_pos passes]
      · rw [if_neg passes]
        exact later

/-- The greatest of a number for each value, or zero. -/
def greatest (f : α → Nat) (entries : List (String × α)) : Nat :=
  ((entries.map (·.2)).map f).foldr max 0

theorem greatest_le_iff (f : α → Nat) (entries : List (String × α)) (bound : Nat) :
    greatest f entries ≤ bound ↔ ∀ entry ∈ entries, f entry.2 ≤ bound := by
  induction entries with
  | nil => exact iff_of_true (Nat.zero_le _) nofun
  | cons entry rest ih => rw [List.forall_mem_cons, ← ih, ← Nat.max_le]; rfl

end Entries

namespace Dict

variable {α β : Type}

@[simp] theorem get?_map (f : α → β) (d : Dict α) (key : String) :
    (d.map f).get? key = (d.get? key).map f :=
  Entries.find?_map f key d.entries

theorem insertAll_cons (d : Dict α) (entry : String × α) (rest : List (String × α)) :
    d.insertAll (entry :: rest) = (d.insert entry.1 entry.2).insertAll rest :=
  rfl

/-- Keys that are not entered keep their values. -/
theorem get?_insertAll_of_notMem {d : Dict α} {entries : List (String × α)} {key : String}
    (absent : key ∉ entries.map (·.1)) : (d.insertAll entries).get? key = d.get? key := by
  induction entries generalizing d with
  | nil => rfl
  | cons entry rest ih =>
      rw [List.map_cons, List.mem_cons, not_or] at absent
      rw [insertAll_cons, ih absent.2, get?_insert, if_neg absent.1]

/-- A key that is entered once has the value that is entered for it. -/
theorem get?_insertAll_of_mem {d : Dict α} {entries : List (String × α)} {key : String}
    {value : α} (distinct : (entries.map (·.1)).Nodup) (mem : (key, value) ∈ entries) :
    (d.insertAll entries).get? key = some value := by
  induction entries generalizing d with
  | nil => cases mem
  | cons entry rest ih =>
      rw [List.map_cons, List.nodup_cons] at distinct
      rw [insertAll_cons]
      rcases List.mem_cons.mp mem with rfl | later
      · rw [get?_insertAll_of_notMem distinct.1, get?_insert, if_pos rfl]
      · exact ih distinct.2 later

theorem get?_ofList_of_notMem {entries : List (String × α)} {key : String}
    (absent : key ∉ entries.map (·.1)) : (ofList entries).get? key = none := by
  rw [ofList, get?_insertAll_of_notMem absent, get?_empty]

theorem get?_ofList_of_mem {entries : List (String × α)} {key : String} {value : α}
    (distinct : (entries.map (·.1)).Nodup) (mem : (key, value) ∈ entries) :
    (ofList entries).get? key = some value :=
  get?_insertAll_of_mem distinct mem

/-- What is found was there before or is entered. -/
theorem mem_of_get?_insertAll {d : Dict α} {entries : List (String × α)} {key : String}
    {value : α} (found : (d.insertAll entries).get? key = some value) :
    (key, value) ∈ entries ∨ d.get? key = some value := by
  induction entries generalizing d with
  | nil => exact .inr found
  | cons entry rest ih =>
      rcases ih found with later | before
      · exact .inl (List.mem_cons_of_mem _ later)
      · rw [get?_insert] at before
        split at before
        · rename_i here
          rw [here, ← Option.some.inj before]
          exact .inl List.mem_cons_self
        · exact .inr before

theorem mem_of_get?_ofList {entries : List (String × α)} {key : String} {value : α}
    (found : (ofList entries).get? key = some value) : (key, value) ∈ entries :=
  (mem_of_get?_insertAll found).resolve_right nofun

/-- A dictionary is told by its lookups. -/
theorem ext_get? {a b : Dict α} (same : ∀ key, a.get? key = b.get? key) : a = b := by
  obtain ⟨entriesA, sortedA⟩ := a
  obtain ⟨entriesB, sortedB⟩ := b
  have entries : entriesA = entriesB := Entries.eq_of_find? sortedA sortedB same
  subst entries
  rfl

@[simp] theorem get?_filter (d : Dict α) (p : String → α → Bool) (key : String) :
    (d.filter p).get? key = (d.get? key).filter (p key) :=
  Entries.find?_filter d.sorted p key

/-- A key that is entered has a value. -/
theorem isSome_get?_insertAll {d : Dict α} {entries : List (String × α)} {key : String}
    (mem : key ∈ entries.map (·.1) ∨ (d.get? key).isSome) :
    ((d.insertAll entries).get? key).isSome := by
  induction entries generalizing d with
  | nil => exact mem.resolve_left List.not_mem_nil
  | cons entry rest ih =>
      refine ih ?_
      rw [List.map_cons, List.mem_cons] at mem
      rw [get?_insert]
      rcases mem with (rfl | later) | before
      · exact .inr (by rw [if_pos rfl]; rfl)
      · exact .inl later
      · refine .inr ?_
        split
        · rfl
        · exact before

/-- Where the value is told by the key, it does not matter how often it is entered. -/
theorem get?_ofList_map {γ : Type} (l : List γ) (name : γ → String) (f : String → α)
    (key : String) :
    (ofList (l.map fun c => (name c, f (name c)))).get? key =
      if key ∈ l.map name then some (f key) else none := by
  have keys : (l.map fun c => (name c, f (name c))).map (·.1) = l.map name := by
    rw [List.map_map]
    rfl
  split
  · rename_i mem
    have known : ((ofList (l.map fun c => (name c, f (name c)))).get? key).isSome :=
      isSome_get?_insertAll (.inl (keys ▸ mem))
    obtain ⟨value, found⟩ := Option.isSome_iff_exists.mp known
    obtain ⟨c, _, same⟩ := List.mem_map.mp (mem_of_get?_ofList found)
    rw [Prod.mk.injEq] at same
    obtain ⟨rfl, rfl⟩ := same
    exact found
  · rename_i absent
    exact get?_ofList_of_notMem (keys ▸ absent)

theorem keys_apart (d : Dict α) : d.keys.Nodup := by
  refine List.pairwise_map.mpr (d.sorted.imp ?_)
  intro a b below same
  rw [same] at below
  exact Std.lt_irrefl below

theorem mem_entries_iff (d : Dict α) (key : String) (value : α) :
    (key, value) ∈ d.entries ↔ d.get? key = some value :=
  ⟨Entries.find?_of_mem d.keys_apart, Entries.mem_of_find?⟩

theorem mem_keys_iff (d : Dict α) (key : String) : key ∈ d.keys ↔ (d.get? key).isSome := by
  constructor
  · intro mem
    obtain ⟨⟨_, value⟩, there, rfl⟩ := List.mem_map.mp mem
    rw [(d.mem_entries_iff _ value).mp there]
    rfl
  · intro known
    obtain ⟨value, found⟩ := Option.isSome_iff_exists.mp known
    exact List.mem_map.mpr ⟨_, (d.mem_entries_iff key value).mpr found, rfl⟩

@[simp] theorem erase_insert (d : Dict α) (key : String) (value : α) :
    (d.insert key value).erase key = d.erase key := by
  refine ext_get? fun other => ?_
  rw [get?_erase, get?_erase, get?_insert]
  split
  · rfl
  · rfl

@[simp] theorem erase_erase (d : Dict α) (key : String) :
    (d.erase key).erase key = d.erase key := by
  refine ext_get? fun other => ?_
  rw [get?_erase, get?_erase]
  split
  · rfl
  · rfl

/-- To remove a key changes nothing exactly if it is absent. -/
theorem erase_eq_self_iff (d : Dict α) (key : String) :
    d.erase key = d ↔ d.get? key = none := by
  constructor
  · intro same
    rw [← same, get?_erase, if_pos rfl]
  · intro absent
    refine ext_get? fun other => ?_
    rw [get?_erase]
    split
    · rename_i here
      rw [here, absent]
    · rfl

/-- Keys that are removed one after another are absent, and all others are as they were. -/
theorem get?_foldl_erase (d : Dict α) (removed : List String) (key : String) :
    (removed.foldl erase d).get? key = if key ∈ removed then none else d.get? key := by
  induction removed generalizing d with
  | nil => rfl
  | cons first rest ih =>
      rw [List.foldl_cons, ih, get?_erase]
      by_cases here : key = first
      · simp [here]
      · simp [here]

/-! ## Properties of all values -/

section All

variable {P : α → Prop} {d : Dict α}

def All (P : α → Prop) (d : Dict α) : Prop :=
  ∀ key value, d.get? key = some value → P value

theorem All.insert (all : d.All P) (key : String) {value : α} (holds : P value) :
    (d.insert key value).All P := by
  intro other found get
  rw [get?_insert] at get
  split at get
  · cases get
    exact holds
  · exact all other found get

theorem All.foldl_erase (all : d.All P) (keys : List String) : (keys.foldl erase d).All P := by
  intro other found get
  rw [get?_foldl_erase] at get
  split at get
  · cases get
  · exact all other found get

theorem All.insertAll (all : d.All P) {entries : List (String × α)}
    (hold : ∀ entry ∈ entries, P entry.2) : (d.insertAll entries).All P := by
  induction entries generalizing d with
  | nil => exact all
  | cons entry rest ih =>
      obtain ⟨here, later⟩ := List.forall_mem_cons.mp hold
      rw [insertAll_cons]
      exact ih (all.insert entry.1 here) later

end All

/-! ## Sums -/

def sum (f : α → Nat) (d : Dict α) : Nat :=
  Entries.sum f d.entries

theorem sum_insert (f : α → Nat) (d : Dict α) (key : String) (value : α) :
    (d.insert key value).sum f + ((d.get? key).map f).getD 0 = d.sum f + f value :=
  Entries.sum_insert f d.sorted key value

theorem sum_insert_of_get? {f : α → Nat} {d : Dict α} {key : String} {old : α}
    (found : d.get? key = some old) (value : α) :
    (d.insert key value).sum f + f old = d.sum f + f value := by
  have changed := d.sum_insert f key value
  rwa [found] at changed

theorem sum_map (f : β → Nat) (g : α → β) (d : Dict α) :
    (d.map g).sum f = d.sum fun value => f (g value) := by
  simp only [sum, Entries.sum, map, List.map_map]
  rfl

/-- Values that count for nothing may be left out. -/
theorem sum_filter {f : α → Nat} {p : String → α → Bool} (d : Dict α)
    (void : ∀ key value, p key value = false → f value = 0) :
    (d.filter p).sum f = d.sum f :=
  Entries.sum_filter d.entries fun entry dropped => void entry.1 entry.2 dropped

theorem sum_insertAll_le {f : α → Nat} {entries : List (String × α)}
    (void : ∀ entry ∈ entries, f entry.2 = 0) (d : Dict α) :
    (d.insertAll entries).sum f ≤ d.sum f := by
  induction entries generalizing d with
  | nil => exact Nat.le_refl _
  | cons entry rest ih =>
      rw [List.forall_mem_cons] at void
      have first := d.sum_insert f entry.1 entry.2
      have later := ih void.2 (d.insert entry.1 entry.2)
      rw [insertAll_cons]
      omega

theorem sum_ofList_eq_zero {f : α → Nat} {entries : List (String × α)}
    (void : ∀ entry ∈ entries, f entry.2 = 0) : (ofList entries).sum f = 0 :=
  Nat.le_zero.mp (sum_insertAll_le void empty)

theorem sum_eq_zero_iff (f : α → Nat) (d : Dict α) :
    d.sum f = 0 ↔ ∀ key value, d.get? key = some value → f value = 0 := by
  simp only [← mem_entries_iff]
  rw [sum, Entries.sum_eq_zero_iff, Prod.forall]

theorem countP_values (p : α → Bool) (d : Dict α) :
    d.values.countP p = d.sum fun value => (p value).toNat :=
  Entries.countP_eq_sum p d.entries

/-- If at most one value passes a test, it is passed at most once. -/
theorem countP_values_le_one {p : α → Bool} {d : Dict α}
    (unique : ∀ a b v w, d.get? a = some v → d.get? b = some w → p v = true → p w = true →
      a = b) : d.values.countP p ≤ 1 := by
  refine Entries.countP_le_one d.keys_apart fun one mem other there => ?_
  exact unique _ _ _ _ ((d.mem_entries_iff _ _).mp mem) ((d.mem_entries_iff _ _).mp there)

/-! ## Maxima -/

def greatest (f : α → Nat) (d : Dict α) : Nat :=
  Entries.greatest f d.entries

theorem greatest_le_iff (f : α → Nat) (d : Dict α) (bound : Nat) :
    d.greatest f ≤ bound ↔ ∀ key value, d.get? key = some value → f value ≤ bound := by
  simp only [← mem_entries_iff]
  rw [greatest, Entries.greatest_le_iff, Prod.forall]

theorem greatest_map (f : β → Nat) (g : α → β) (d : Dict α) :
    (d.map g).greatest f = d.greatest fun value => f (g value) := by
  simp only [greatest, Entries.greatest, map, List.map_map]
  rfl

/-- A value that counted for nothing gives way to the one that is inserted. -/
theorem greatest_insert {f : α → Nat} {d : Dict α} {key : String} {old : α}
    (found : d.get? key = some old) (void : f old = 0) (value : α) :
    (d.insert key value).greatest f = max (d.greatest f) (f value) := by
  have bounded : ∀ bound, (d.insert key value).greatest f ≤ bound ↔
      max (d.greatest f) (f value) ≤ bound := by
    intro bound
    simp only [Nat.max_le, greatest_le_iff, get?_insert]
    constructor
    · intro all
      refine ⟨fun other v there => ?_, all key value (if_pos rfl)⟩
      by_cases here : other = key
      · subst here
        rw [← Option.some.inj (found.symm.trans there), void]
        exact Nat.zero_le bound
      · exact all other v ((if_neg here).trans there)
    · rintro ⟨all, new⟩ other v there
      split at there
      · rwa [← Option.some.inj there]
      · exact all other v there
  exact Nat.le_antisymm ((bounded _).mpr (Nat.le_refl _)) ((bounded _).mp (Nat.le_refl _))

end Dict

end ActionGraph
