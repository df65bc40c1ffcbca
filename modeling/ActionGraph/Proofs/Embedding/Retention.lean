import ActionGraph.Embedding.Cache
import Mathlib.Data.Set.Card

/-!
# What a cache still holds

A cache is told by the log of what was done with it.  What was inserted last
under a key is found until its time has passed, and neither an older vector nor
that of another key ever is.  When entries are dropped does not matter to
lookups; it matters to how many there are, and only where their time has
passed.
-/

namespace ActionGraph.Embedding.Cache

/-! ## Lookups -/

def drop (c : Cache) (key : CacheKey) : Cache :=
  { c with entries := c.entries.filter fun e => e.key ≠ key }

theorem find?_drop_self (c : Cache) (key : CacheKey) : (c.drop key).find? key = none := by
  refine List.find?_eq_none.mpr fun e mem => ?_
  simpa using (List.mem_filter.mp mem).2

theorem find?_drop_of_ne (c : Cache) {key other : CacheKey} (ne : key ≠ other) :
    (c.drop other).find? key = c.find? key := by
  unfold Cache.find? drop
  rw [List.find?_filter]
  congr 1
  funext e
  by_cases here : e.key = key
  · simp [here, ne]
  · simp [here]

/-- Looking a key up leaves the cache as it is, or finds nothing and drops what has passed. -/
theorem get_eq_or (c : Cache) (now : Nat) (key : CacheKey) :
    (c.get now key).1 = c ∨ c.get now key = (c.drop key, none) := by
  unfold Cache.get
  split
  · split
    · exact .inl rfl
    · exact .inr rfl
  · exact .inl rfl

theorem key_of_find? {c : Cache} {key : CacheKey} {entry : CacheEntry}
    (found : c.find? key = some entry) : entry.key = key := by
  have here := List.find?_some found
  exact of_decide_eq_true here

theorem get_snd (c : Cache) (now : Nat) (key : CacheKey) :
    (c.get now key).2 =
      (c.find? key).bind fun entry => if c.live now entry then some entry.vector else none := by
  unfold Cache.get
  cases c.find? key with
  | none => rfl
  | some entry =>
      dsimp only [Option.bind_some]
      split
      · rfl
      · rfl

/-- What is looked up does not change what else is found. -/
theorem get_get (c : Cache) (now : Nat) (other key : CacheKey) :
    ((c.get now other).1.get now key).2 = (c.get now key).2 := by
  obtain same | dropped := c.get_eq_or now other
  · rw [same]
  · by_cases here : key = other
    · subst here
      rw [dropped, get_snd, find?_drop_self]
      rfl
    · rw [dropped, get_snd, get_snd, find?_drop_of_ne c here]
      rfl

section Apart

variable {c : Cache} (apart : (c.entries.map CacheEntry.key).Nodup)
include apart

theorem find?_eq_some_iff {key : CacheKey} {entry : CacheEntry} :
    c.find? key = some entry ↔ entry ∈ c.entries ∧ entry.key = key := by
  constructor
  · intro found
    exact ⟨List.mem_of_find?_eq_some found, key_of_find? found⟩
  · rintro ⟨mem, is⟩
    have some : (c.find? key).isSome := by
      unfold Cache.find?
      exact List.find?_isSome.mpr ⟨entry, mem, decide_eq_true is⟩
    obtain ⟨first, found⟩ := Option.isSome_iff_exists.mp some
    have there := List.mem_of_find?_eq_some found
    have same : first.key = entry.key := (key_of_find? found).trans is.symm
    exact found.trans (congrArg Option.some (List.inj_on_of_nodup_map apart there mem same))

theorem get_snd_eq_some_iff {now : Nat} {key : CacheKey} {vector : Vector} :
    (c.get now key).2 = some vector ↔
      ∃ entry ∈ c.entries, entry.key = key ∧ entry.vector = vector ∧ c.live now entry = true := by
  rw [get_snd, Option.bind_eq_some_iff]
  refine exists_congr fun entry => ?_
  rw [find?_eq_some_iff apart, and_assoc, Option.ite_none_right_eq_some, Option.some_inj,
    and_comm (a := entry.vector = vector)]

/-- A lookup keeps all but what is found and has passed. -/
theorem entries_get (now : Nat) (key : CacheKey) :
    (c.get now key).1.entries =
      c.entries.filter fun entry => entry.key ≠ key ∨ c.live now entry = true := by
  unfold Cache.get
  split
  · rename_i found there
    have alone : ∀ entry ∈ c.entries, entry.key = key → entry = found := fun entry mem is =>
      Option.some.inj (((find?_eq_some_iff apart).mpr ⟨mem, is⟩).symm.trans there)
    split
    · rename_i live
      refine (List.filter_eq_self.mpr fun entry mem => decide_eq_true ?_).symm
      exact or_iff_not_imp_left.mpr fun is => alone entry mem (of_not_not is) ▸ live
    · rename_i passed
      refine List.filter_congr fun entry mem => decide_eq_decide.mpr ?_
      exact ⟨.inl, fun kept => kept.elim id fun live is => passed (alone entry mem is ▸ live)⟩
  · rename_i missing
    refine (List.filter_eq_self.mpr fun entry mem => decide_eq_true (.inl fun is => ?_)).symm
    cases missing.symm.trans ((find?_eq_some_iff apart).mpr ⟨mem, is⟩)

end Apart

/-- The keys of some entries of a cache are as many as these entries. -/
theorem length_filter_eq_encard {c : Cache} (apart : (c.entries.map CacheEntry.key).Nodup)
    (p : CacheEntry → Bool) :
    ((c.entries.filter p).length : ENat) =
      {key | ∃ entry ∈ c.entries, entry.key = key ∧ p entry = true}.encard := by
  have kept : ((c.entries.filter p).map CacheEntry.key).Nodup :=
    apart.sublist (List.filter_sublist.map _)
  have keys : {key | ∃ entry ∈ c.entries, entry.key = key ∧ p entry = true} =
      (((c.entries.filter p).map CacheEntry.key).toFinset : Set CacheKey) := by
    ext key
    simp only [Set.mem_ofPred_eq, List.coe_toFinset, List.mem_map, List.mem_filter]
    exact exists_congr fun entry => by tauto
  rw [keys, Set.encard_coe_eq_coe_finsetCard, List.toFinset_card_of_nodup kept, List.length_map]

/-! ## The acts of a log -/

inductive Act where
  | insert (key : CacheKey) (vector : Vector)
  | get (key : CacheKey)
  | purge
  | pass (milliseconds : Nat)
deriving DecidableEq

structure Timed where
  cache : Cache
  now : Nat

namespace Timed

def perform (t : Timed) : Act → Timed
  | .insert key vector => { t with cache := t.cache.insert t.now key vector }
  | .get key => { t with cache := (t.cache.get t.now key).1 }
  | .purge => { t with cache := (t.cache.purge t.now).1 }
  | .pass milliseconds => { t with now := t.now + milliseconds }

def performAll (t : Timed) (acts : List Act) : Timed :=
  acts.foldl perform t

end Timed

def Act.span : Act → Nat
  | .pass milliseconds => milliseconds
  | _ => 0

def elapsed (acts : List Act) : Nat :=
  (acts.map Act.span).foldr (· + ·) 0

/-- An act that drops the entry of a key if its time has passed. -/
def Act.Sweeps (key : CacheKey) : Act → Prop
  | .insert _ _ => True
  | .get other => other = key
  | .purge => True
  | .pass _ => False

/-- The last insertion under a key stored a vector, and these acts came after it. -/
def LastInsertion (acts : List Act) (key : CacheKey) (vector : Vector) (after : List Act) : Prop :=
  (∃ before, acts = before ++ .insert key vector :: after) ∧
    ∀ other, .insert key other ∉ after

/-- The time of what was inserted last under a key has not passed. -/
def Fresh (lifetime : Nat) (acts : List Act) (key : CacheKey) : Prop :=
  ∃ vector after, LastInsertion acts key vector after ∧ elapsed after < lifetime

/-- No act swept a key after the time of what was inserted before these acts had passed. -/
def Unswept (lifetime : Nat) (key : CacheKey) (after : List Act) : Prop :=
  ∀ before act rest, after = before ++ act :: rest → act.Sweeps key → elapsed before < lifetime

/-- What was inserted last under a key has not been dropped, be its time over or not. -/
def Stored (lifetime : Nat) (acts : List Act) (key : CacheKey) : Prop :=
  ∃ vector after, LastInsertion acts key vector after ∧ Unswept lifetime key after

section Log

variable {lifetime : Nat} {acts : List Act} {act : Act} {key : CacheKey} {vector : Vector}
  {after : List Act}

theorem elapsed_append (acts more : List Act) :
    elapsed (acts ++ more) = elapsed acts + elapsed more := by
  induction acts with
  | nil => exact (Nat.zero_add _).symm
  | cons act rest ih =>
      change act.span + elapsed (rest ++ more) = act.span + elapsed rest + elapsed more
      rw [ih, Nat.add_assoc]

theorem elapsed_concat (acts : List Act) (act : Act) :
    elapsed (acts ++ [act]) = elapsed acts + act.span :=
  elapsed_append acts [act]

theorem Act.span_of_sweeps (sweeps : act.Sweeps key) : act.span = 0 := by
  cases act with
  | pass => exact sweeps.elim
  | insert => rfl
  | get => rfl
  | purge => rfl

/-- What stands in a list that one was added to is that one or stood there before. -/
theorem concat_eq_append_cons_iff {l before rest : List Act} {last : Act} :
    l ++ [last] = before ++ act :: rest ↔
      (before = l ∧ act = last ∧ rest = []) ∨
        ∃ more, rest = more ++ [last] ∧ l = before ++ act :: more := by
  constructor
  · intro same
    rcases List.eq_nil_or_concat' rest with rfl | ⟨more, added, rfl⟩
    · obtain ⟨rfl, is⟩ := List.append_inj' same rfl
      exact .inl ⟨rfl, (List.singleton_inj.mp is).symm, rfl⟩
    · rw [← List.cons_append, ← List.append_assoc] at same
      obtain ⟨rfl, is⟩ := List.append_inj' same rfl
      exact .inr ⟨more, by rw [is], rfl⟩
  · rintro (⟨rfl, rfl, rfl⟩ | ⟨more, rfl, rfl⟩)
    · rfl
    · rw [List.append_assoc, List.cons_append]

theorem lastInsertion_concat_iff :
    LastInsertion (acts ++ [act]) key vector after ↔
      (act = .insert key vector ∧ after = []) ∨
        ∃ earlier, after = earlier ++ [act] ∧ LastInsertion acts key vector earlier ∧
          ∀ other, act ≠ .insert key other := by
  constructor
  · rintro ⟨⟨before, same⟩, last⟩
    obtain ⟨-, rfl, rfl⟩ | ⟨earlier, rfl, rfl⟩ := concat_eq_append_cons_iff.mp same
    · exact .inl ⟨rfl, rfl⟩
    · refine .inr ⟨earlier, rfl, ⟨⟨before, rfl⟩, fun other mem => ?_⟩, fun other is => ?_⟩
      · exact last other (List.mem_append_left _ mem)
      · exact last other (List.mem_append_right _ (List.mem_singleton.mpr is.symm))
  · rintro (⟨rfl, rfl⟩ | ⟨earlier, rfl, ⟨⟨before, rfl⟩, last⟩, others⟩)
    · exact ⟨⟨acts, rfl⟩, fun _ => List.not_mem_nil⟩
    · refine ⟨⟨before, by rw [List.append_assoc, List.cons_append]⟩, fun other mem => ?_⟩
      obtain mem | mem := List.mem_append.mp mem
      · exact last other mem
      · exact others other (List.mem_singleton.mp mem).symm

theorem LastInsertion.elapsed_le (last : LastInsertion acts key vector after) :
    elapsed after ≤ elapsed acts := by
  obtain ⟨⟨before, rfl⟩, -⟩ := last
  rw [← List.singleton_append, elapsed_append, elapsed_append]
  omega

theorem unswept_concat_iff :
    Unswept lifetime key (after ++ [act]) ↔
      Unswept lifetime key after ∧ (act.Sweeps key → elapsed after < lifetime) := by
  constructor
  · intro unswept
    refine ⟨fun before other rest same => ?_, unswept after act [] rfl⟩
    exact unswept before other (rest ++ [act]) (by rw [same, List.append_assoc, List.cons_append])
  · rintro ⟨unswept, still⟩ before other rest same
    obtain ⟨rfl, rfl, -⟩ | ⟨more, -, rfl⟩ := concat_eq_append_cons_iff.mp same
    · exact still
    · exact unswept before other more rfl

theorem unswept_nil : Unswept lifetime key [] :=
  fun _ _ _ same => absurd same.symm (List.append_ne_nil_of_right_ne_nil _ (List.cons_ne_nil _ _))

theorem unswept_of_elapsed_lt (still : elapsed after < lifetime) : Unswept lifetime key after := by
  intro before act rest same _
  rw [same, elapsed_append] at still
  exact Nat.lt_of_le_of_lt (Nat.le_add_right _ _) still

/-- A key that was just swept has an entry only if its time has not passed or it was just stored. -/
theorem stored_concat_iff (sweeps : act.Sweeps key) :
    Stored lifetime (acts ++ [act]) key ↔
      (∃ vector, act = .insert key vector) ∨ Fresh lifetime (acts ++ [act]) key := by
  constructor
  · rintro ⟨vector, after, last, unswept⟩
    obtain ⟨is, -⟩ | ⟨earlier, rfl, -, -⟩ := lastInsertion_concat_iff.mp last
    · exact .inl ⟨vector, is⟩
    · have still := (unswept_concat_iff.mp unswept).2 sweeps
      refine .inr ⟨vector, _, last, ?_⟩
      rwa [elapsed_concat, Act.span_of_sweeps sweeps]
  · rintro (⟨vector, is⟩ | ⟨vector, after, last, still⟩)
    · exact ⟨vector, [], lastInsertion_concat_iff.mpr (.inl ⟨is, rfl⟩), unswept_nil⟩
    · exact ⟨vector, after, last, unswept_of_elapsed_lt still⟩

theorem stored_purge_iff :
    Stored lifetime (acts ++ [.purge]) key ↔ Fresh lifetime (acts ++ [.purge]) key := by
  have sweeps : Act.purge.Sweeps key := True.intro
  rw [stored_concat_iff sweeps]
  exact or_iff_right fun ⟨_, is⟩ => Act.noConfusion is

theorem stored_insert_iff {other : CacheKey} :
    Stored lifetime (acts ++ [.insert key vector]) other ↔
      other = key ∨ Fresh lifetime (acts ++ [.insert key vector]) other := by
  have sweeps : (Act.insert key vector).Sweeps other := True.intro
  rw [stored_concat_iff sweeps]
  refine or_congr_left ⟨fun ⟨_, is⟩ => (Act.insert.inj is).1.symm, ?_⟩
  rintro rfl
  exact ⟨vector, rfl⟩

end Log

/-! ## Acts in any order -/

namespace Timed

variable {lifetime : Nat} {acts : List Act} {t : Timed}

theorem perform_now (t : Timed) (act : Act) : (t.perform act).now = t.now + act.span := by
  cases act with
  | pass => rfl
  | insert => rfl
  | get => rfl
  | purge => rfl

theorem perform_lifetime (t : Timed) (act : Act) :
    (t.perform act).cache.lifetime = t.cache.lifetime := by
  cases act with
  | get key =>
      obtain same | dropped := t.cache.get_eq_or t.now key
      · exact congrArg Cache.lifetime same
      · exact congrArg (Cache.lifetime ∘ Prod.fst) dropped
  | insert => rfl
  | purge => rfl
  | pass => rfl

section Apart

variable (apart : (t.cache.entries.map CacheEntry.key).Nodup)
include apart

/-- An act stores what it inserts and keeps the rest, except for what it replaces or sweeps. -/
theorem mem_perform_iff (act : Act) (entry : CacheEntry) :
    entry ∈ (t.perform act).cache.entries ↔
      (act = .insert entry.key entry.vector ∧ entry.stored = t.now) ∨
        (entry ∈ t.cache.entries ∧ (∀ other, act ≠ .insert entry.key other) ∧
          (act.Sweeps entry.key → t.cache.live t.now entry = true)) := by
  cases act with
  | pass =>
      simp [perform, Act.Sweeps]
  | purge =>
      simp [perform, Act.Sweeps, Cache.purge, Cache.sweep]
  | get key =>
      rw [perform, entries_get apart, List.mem_filter]
      simp only [Act.Sweeps, decide_eq_true_iff, ← imp_iff_not_or, @eq_comm _ entry.key key,
        reduceCtorEq, ne_eq, not_false_eq_true, false_and, false_or, implies_true, true_and]
  | insert key vector =>
      have stored : entry = ⟨key, vector, t.now⟩ ↔
          Act.insert key vector = .insert entry.key entry.vector ∧ entry.stored = t.now := by
        constructor
        · rintro rfl
          exact ⟨rfl, rfl⟩
        · rintro ⟨is, now⟩
          obtain ⟨own, found, since⟩ := entry
          cases is
          exact congrArg (CacheEntry.mk own found) now
      have others : (∀ other, Act.insert key vector ≠ .insert entry.key other) ↔
          entry.key ≠ key :=
        ⟨fun apart is => apart vector (congrArg (Act.insert · vector) is.symm),
          fun apart other is => apart (Act.insert.inj is).1.symm⟩
      rw [others]
      refine List.mem_cons.trans (or_congr stored ?_)
      simp only [Cache.sweep, Act.Sweeps, List.mem_filter, decide_eq_true_iff, true_imp_iff]
      rw [and_assoc, and_comm (a := entry.key ≠ key)]

theorem apart_perform (act : Act) :
    ((t.perform act).cache.entries.map CacheEntry.key).Nodup := by
  cases act with
  | pass => exact apart
  | purge => exact apart.sublist (List.filter_sublist.map _)
  | get key =>
      rw [perform, entries_get apart]
      exact apart.sublist (List.filter_sublist.map _)
  | insert key vector =>
      refine List.nodup_cons.mpr ⟨fun mem => ?_, ?_⟩
      · obtain ⟨entry, mem, is⟩ := List.mem_map.mp mem
        exact of_decide_eq_true (List.mem_filter.mp mem).2 is
      · exact apart.sublist ((List.filter_sublist.trans List.filter_sublist).map _)

end Apart

/-- The entries are what was inserted last under each key and has not been swept since. -/
structure Tracks (lifetime : Nat) (acts : List Act) (t : Timed) : Prop where
  term : t.cache.lifetime = lifetime
  apart : (t.cache.entries.map CacheEntry.key).Nodup
  clock : elapsed acts ≤ t.now
  mem : ∀ entry, entry ∈ t.cache.entries ↔
    ∃ after, LastInsertion acts entry.key entry.vector after ∧
      Unswept lifetime entry.key after ∧ entry.stored + elapsed after = t.now

namespace Tracks

theorem empty (lifetime start : Nat) : Tracks lifetime [] ⟨.empty lifetime, start⟩ where
  term := rfl
  apart := List.nodup_nil
  clock := Nat.zero_le _
  mem := fun entry => by
    refine iff_of_false List.not_mem_nil ?_
    rintro ⟨after, ⟨⟨before, same⟩, -⟩, -⟩
    exact List.append_ne_nil_of_right_ne_nil _ (List.cons_ne_nil _ _) same.symm

/-- The age of an entry is the time that has passed in the log since it was inserted. -/
theorem live_iff (tracks : Tracks lifetime acts t) {entry : CacheEntry} {after : List Act}
    (since : entry.stored + elapsed after = t.now) :
    t.cache.live t.now entry = true ↔ elapsed after < lifetime := by
  rw [Cache.live, decide_eq_true_iff, tracks.term, ← since, Nat.add_sub_cancel_left]

theorem perform (tracks : Tracks lifetime acts t) (act : Act) :
    Tracks lifetime (acts ++ [act]) (t.perform act) where
  term := (t.perform_lifetime act).trans tracks.term
  apart := apart_perform tracks.apart act
  clock := by
    rw [perform_now, elapsed_concat]
    exact Nat.add_le_add_right tracks.clock _
  mem := fun entry => by
    -- Both sides gain the same way: an entry is new, or it was there and the act spared it.
    rw [mem_perform_iff tracks.apart, tracks.mem, perform_now]
    constructor
    · rintro (⟨rfl, stored⟩ | ⟨⟨earlier, last, unswept, since⟩, others, live⟩)
      · exact ⟨[], lastInsertion_concat_iff.mpr (.inl ⟨rfl, rfl⟩), unswept_nil, stored⟩
      · refine ⟨earlier ++ [act], lastInsertion_concat_iff.mpr (.inr ⟨earlier, rfl, last, others⟩),
          unswept_concat_iff.mpr ⟨unswept, fun sweeps => ?_⟩, ?_⟩
        · exact (tracks.live_iff since).mp (live sweeps)
        · rw [elapsed_concat, ← Nat.add_assoc, since]
    · rintro ⟨after, last, unswept, since⟩
      obtain ⟨rfl, rfl⟩ | ⟨earlier, rfl, last, others⟩ := lastInsertion_concat_iff.mp last
      · exact .inl ⟨rfl, since⟩
      · obtain ⟨unswept, still⟩ := unswept_concat_iff.mp unswept
        rw [elapsed_concat, ← Nat.add_assoc] at since
        have since := Nat.add_right_cancel since
        exact .inr ⟨⟨earlier, last, unswept, since⟩, others, fun sweeps =>
          (tracks.live_iff since).mpr (still sweeps)⟩

theorem performAll (lifetime start : Nat) (acts : List Act) :
    Tracks lifetime acts (Timed.performAll ⟨.empty lifetime, start⟩ acts) := by
  induction acts using List.reverseRecOn with
  | nil => exact empty lifetime start
  | append_singleton acts act ih =>
      rw [Timed.performAll, List.foldl_append]
      exact ih.perform act

variable (tracks : Tracks lifetime acts t)
include tracks

theorem exists_entry {key : CacheKey} {vector : Vector} {after : List Act}
    (last : LastInsertion acts key vector after) (unswept : Unswept lifetime key after) :
    ∃ entry ∈ t.cache.entries, entry.key = key ∧ entry.vector = vector ∧
      entry.stored + elapsed after = t.now := by
  have since : t.now - elapsed after + elapsed after = t.now :=
    Nat.sub_add_cancel (last.elapsed_le.trans tracks.clock)
  exact ⟨⟨key, vector, _⟩, (tracks.mem _).mpr ⟨after, last, unswept, since⟩, rfl, rfl, since⟩

/-- The vector that was stored last is answered for as long as its time has not passed. -/
theorem get_iff (key : CacheKey) (vector : Vector) :
    (t.cache.get t.now key).2 = some vector ↔
      ∃ after, LastInsertion acts key vector after ∧ elapsed after < lifetime := by
  rw [get_snd_eq_some_iff tracks.apart]
  constructor
  · rintro ⟨entry, mem, rfl, rfl, live⟩
    obtain ⟨after, last, -, since⟩ := (tracks.mem entry).mp mem
    exact ⟨after, last, (tracks.live_iff since).mp live⟩
  · rintro ⟨after, last, still⟩
    obtain ⟨entry, mem, is, holds, since⟩ := tracks.exists_entry last (unswept_of_elapsed_lt still)
    exact ⟨entry, mem, is, holds, (tracks.live_iff since).mpr still⟩

theorem stored_iff (key : CacheKey) :
    Stored lifetime acts key ↔ ∃ entry ∈ t.cache.entries, entry.key = key := by
  constructor
  · rintro ⟨vector, after, last, unswept⟩
    obtain ⟨entry, mem, is, -⟩ := tracks.exists_entry last unswept
    exact ⟨entry, mem, is⟩
  · rintro ⟨entry, mem, rfl⟩
    obtain ⟨after, last, unswept, -⟩ := (tracks.mem entry).mp mem
    exact ⟨entry.vector, after, last, unswept⟩

theorem fresh_iff {entry : CacheEntry} (mem : entry ∈ t.cache.entries) :
    Fresh lifetime acts entry.key ↔ t.cache.live t.now entry = true := by
  have asked (vector : Vector) := (tracks.get_iff entry.key vector).symm.trans
    (get_snd_eq_some_iff tracks.apart)
  rw [Fresh, exists_congr asked]
  constructor
  · rintro ⟨vector, other, there, is, -, live⟩
    exact List.inj_on_of_nodup_map tracks.apart there mem is ▸ live
  · intro live
    exact ⟨entry.vector, entry, mem, rfl, rfl, live⟩

/-- Between two sweeps there may be entries whose time has passed, and these count as well. -/
theorem size_eq : (t.cache.size : ENat) = {key | Stored lifetime acts key}.encard := by
  have count := length_filter_eq_encard tracks.apart fun _ => true
  simp only [List.filter_true, and_true, ← tracks.stored_iff] at count
  exact count

theorem purge_eq :
    ((t.cache.purge t.now).2 : ENat) =
      {key | Stored lifetime acts key ∧ ¬ Fresh lifetime acts key}.encard := by
  have dropped : (t.cache.purge t.now).2 =
      (t.cache.entries.filter fun entry => !t.cache.live t.now entry).length := by
    have split := List.length_eq_length_filter_add (l := t.cache.entries) (t.cache.live t.now)
    exact Nat.sub_eq_of_eq_add' split
  have keys : {key | Stored lifetime acts key ∧ ¬ Fresh lifetime acts key} =
      {key | ∃ entry ∈ t.cache.entries, entry.key = key ∧ (!t.cache.live t.now entry) = true} := by
    ext key
    change Stored lifetime acts key ∧ ¬ Fresh lifetime acts key ↔ _
    rw [tracks.stored_iff]
    constructor
    · rintro ⟨⟨entry, mem, rfl⟩, passed⟩
      rw [tracks.fresh_iff mem] at passed
      exact ⟨entry, mem, rfl, by simpa using passed⟩
    · rintro ⟨entry, mem, rfl, passed⟩
      rw [tracks.fresh_iff mem]
      exact ⟨⟨entry, mem, rfl⟩, by simpa using passed⟩
  rw [dropped, keys, length_filter_eq_encard tracks.apart]

end Tracks

/-! ## The law of caches -/

structure Lawful (lifetime : Nat) (acts : List Act) (t : Timed) : Prop where
  /-- A vector is answered exactly if it was stored last under the key and still may be. -/
  get : ∀ key vector, (t.cache.get t.now key).2 = some vector ↔
    ∃ after, LastInsertion acts key vector after ∧ elapsed after < lifetime
  stored : ∀ key, (t.cache.find? key).isSome ↔ Stored lifetime acts key
  /-- The entries a purge counts are those that are there and have passed. -/
  purge : ((t.cache.purge t.now).2 : ENat) =
    {key | Stored lifetime acts key ∧ ¬ Fresh lifetime acts key}.encard
  size_purge : ((t.perform .purge).cache.size : ENat) =
    {key | Fresh lifetime (acts ++ [.purge]) key}.encard
  /-- What is stored counts even if no time is given to it. -/
  size_insert : ∀ key vector, ((t.perform (.insert key vector)).cache.size : ENat) =
    {other | other = key ∨ Fresh lifetime (acts ++ [.insert key vector]) other}.encard

theorem refines_log (lifetime start : Nat) (acts : List Act) :
    Lawful lifetime acts (performAll ⟨.empty lifetime, start⟩ acts) := by
  have tracks := Tracks.performAll lifetime start acts
  refine ⟨tracks.get_iff, fun key => ?_, tracks.purge_eq, ?_, fun key vector => ?_⟩
  · rw [tracks.stored_iff, Cache.find?, List.find?_isSome]
    simp only [decide_eq_true_iff]
  · rw [(tracks.perform .purge).size_eq]
    simp only [stored_purge_iff]
  · rw [(tracks.perform (.insert key vector)).size_eq]
    simp only [stored_insert_iff]

end Timed

end ActionGraph.Embedding.Cache
