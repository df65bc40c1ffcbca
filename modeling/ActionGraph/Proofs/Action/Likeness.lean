import ActionGraph.Action.World
import ActionGraph.Process.Timeout
import ActionGraph.Proofs.Process.Pools
import Mathlib.Data.List.Forall2

/-!
# Tasks alike in two worlds

Several tasks may work in one world, each with a share of what there is apart
from the clock.  A task keeps to its share if its acts take no time, leave the
shares of others alone, and tell no two worlds apart that have the same time
and the same share.  The alarms that others set move its own to later places,
so the places of alarms are compared by which of them comes first.
-/

namespace ActionGraph

/-! ## Places of alarms -/

/-- Places of alarms in two worlds that belong together, in the same succession. -/
def InStep (r : Nat → Nat → Prop) : Prop :=
  ∀ a b a' b', r a b → r a' b' → (a < a' ↔ b < b')

/-- Places that belong together are those of alarms that were set. -/
structure Fits (r : Nat → Nat → Prop) (m n : Nat) : Prop where
  inStep : InStep r
  set : ∀ a b, r a b → a < m ∧ b < n

def further (r : Nat → Nat → Prop) (m n count : Nat) (a b : Nat) : Prop :=
  r a b ∨ ∃ j < count, a = m + j ∧ b = n + j

theorem fits_none (m n : Nat) : Fits (fun _ _ => False) m n :=
  ⟨nofun, nofun⟩

section Fits

variable {r s : Nat → Nat → Prop} {m n m' n' count : Nat}

theorem Fits.mono (fits : Fits s m n) (less : ∀ a b, r a b → s a b) : Fits r m n := by
  refine ⟨fun a b a' b' first second => ?_, fun a b related => fits.set a b (less a b related)⟩
  exact fits.inStep a b a' b' (less a b first) (less a' b' second)

/-- Alarms that others set do not matter. -/
theorem Fits.later (fits : Fits r m n) (first : m ≤ m') (second : n ≤ n') : Fits r m' n' := by
  refine ⟨fits.inStep, fun a b related => ?_⟩
  have set := fits.set a b related
  omega

theorem Fits.setMore (fits : Fits r m n) (count : Nat) :
    Fits (further r m n count) (m + count) (n + count) := by
  constructor
  · rintro a b a' b' (old | ⟨j, _, rfl, rfl⟩) (old' | ⟨j', _, rfl, rfl⟩)
    · exact fits.inStep a b a' b' old old'
    · have set := fits.set a b old
      omega
    · have set := fits.set a' b' old'
      omega
    · omega
  · rintro a b (old | ⟨j, less, rfl, rfl⟩)
    · have set := fits.set a b old
      omega
    · omega

theorem further_of (m n count a b : Nat) (related : r a b) :
    further r m n count a b :=
  .inl related

theorem further_mono (less : ∀ a b, r a b → s a b) (a b : Nat)
    (related : further r m n count a b) : further s m n count a b :=
  related.imp_left (less a b)

end Fits

namespace Alarm

/-- Alarms that ring at the same time, with places that belong together. -/
structure Related (r : Nat → Nat → Prop) (a b : Alarm) : Prop where
  due : a.due = b.due
  order : r a.order b.order

variable {r : Nat → Nat → Prop} {a a' b b' : Alarm}

theorem Related.before (first : Related r a a') (second : Related r b b') (inStep : InStep r) :
    a.before b = a'.before b' := by
  have order := inStep _ _ _ _ first.order second.order
  simp only [Alarm.before, first.due, second.due, order]

theorem Related.first (one : Related r a a') (other : Related r b b') (inStep : InStep r) :
    Related r (a.first b) (a'.first b') := by
  rw [Alarm.first, Alarm.first, other.before one inStep]
  split
  · exact other
  · exact one

end Alarm

/-! ## Lists side by side -/

section Lists

variable {α β : Type} {R : α → β → Prop} {l : List α} {l' : List β}

theorem forall₂_getElem? (sides : List.Forall₂ R l l') {j : Nat} {x : α}
    (there : l[j]? = some x) : ∃ y, l'[j]? = some y ∧ R x y := by
  induction sides generalizing j with
  | nil => cases there
  | cons first rest ih =>
      cases j with
      | zero =>
          cases there
          exact ⟨_, rfl, first⟩
      | succ j => exact ih there

theorem forall₂_set (sides : List.Forall₂ R l l') {x : α} {y : β} (related : R x y) (j : Nat) :
    List.Forall₂ R (l.set j x) (l'.set j y) := by
  induction sides generalizing j with
  | nil => exact .nil
  | cons first rest ih =>
      cases j with
      | zero => exact .cons related rest
      | succ j => exact .cons first (ih j)

theorem forall₂_mergeSort {le : α → α → Bool} {le' : β → β → Bool}
    (sides : List.Forall₂ R l l')
    (same : ∀ a a' b b', R a a' → R b b' → le a b = le' a' b') :
    List.Forall₂ R (l.mergeSort le) (l'.mergeSort le') := by
  have length := sides.length_eq
  have related : ∀ pair ∈ l.zip l', R pair.1 pair.2 := fun _ mem => List.forall₂_zip sides mem
  have sorted : List.Forall₂ R (((l.zip l').mergeSort fun a b => le a.1 b.1).map (·.1))
      (((l.zip l').mergeSort fun a b => le a.1 b.1).map (·.2)) := by
    rw [List.forall₂_map_left_iff, List.forall₂_map_right_iff, List.forall₂_same]
    exact fun pair mem => related pair ((List.mergeSort_perm _ _).mem_iff.mp mem)
  rw [List.map_mergeSort (s := le) fun _ _ _ _ => rfl,
    List.map_mergeSort (s := le') fun a mem b mem' => same _ _ _ _ (related a mem) (related b mem'),
    List.map_fst_zip (Nat.le_of_eq length), List.map_snd_zip (Nat.le_of_eq length.symm)] at sorted
  exact sorted

theorem forall₂_takeWhile {p : α → Bool} {q : β → Bool} (sides : List.Forall₂ R l l')
    (same : ∀ a b, R a b → p a = q b) :
    List.Forall₂ R (l.takeWhile p) (l'.takeWhile q) := by
  induction sides with
  | nil => exact .nil
  | cons first rest ih =>
      rw [List.takeWhile_cons, List.takeWhile_cons, same _ _ first]
      split
      · exact .cons first ih
      · exact .nil

end Lists

namespace Action

variable {σ V α β τ : Type}

/-! ## Shares of a world -/

/-- What each of several tasks works with, apart from the clock. -/
abbrev Shares (σ V : Type) :=
  Nat → Embedding.Cache → σ → V

namespace World

def share (shares : Shares σ V) (i : Nat) (w : World σ) : V :=
  shares i w.cache w.outside

/-- Two worlds that a task with a share does not tell apart. -/
structure Matched (shares : Shares σ V) (i : Nat) (r : Nat → Nat → Prop) (v w : World σ) :
    Prop where
  now : v.now = w.now
  share : v.share shares i = w.share shares i
  alarms : Fits r v.alarms w.alarms

/-- What an act of the owner of a share may do: set alarms and change the share. -/
structure Tame (shares : Shares σ V) (i count : Nat) (v w : World σ) : Prop where
  now : w.now = v.now
  alarms : w.alarms = v.alarms + count
  others : ∀ j, j ≠ i → w.share shares j = v.share shares j

theorem Matched.mono {shares : Shares σ V} {i : Nat} {r s : Nat → Nat → Prop} {v w : World σ}
    (matched : Matched shares i s v w) (less : ∀ a b, r a b → s a b) :
    Matched shares i r v w :=
  ⟨matched.now, matched.share, matched.alarms.mono less⟩

end World

namespace Task

/-- Tasks that go the same way in worlds that the owner of a share does not tell apart. -/
inductive Alike (shares : Shares σ V) (i : Nat) :
    (Nat → Nat → Prop) → Task σ α → Task σ α → Prop
  | done {r : Nat → Nat → Prop} (a : α) : Alike shares i r (.done a) (.done a)
  | act {r : Nat → Nat → Prop} {change change' : World σ → World σ}
      {next next' : World σ → Task σ α} (count : World σ → World σ → Nat)
      (tame : ∀ v w, World.Matched shares i r v w →
        World.Tame shares i (count v w) v (change v) ∧
          World.Tame shares i (count v w) w (change' w))
      (same : ∀ v w, World.Matched shares i r v w →
        (change v).share shares i = (change' w).share shares i)
      (goOn : ∀ v w, World.Matched shares i r v w →
        Alike shares i (further r v.alarms w.alarms (count v w)) (next v) (next' w)) :
      Alike shares i r (.act change next) (.act change' next')
  | wait {r : Nat → Nat → Prop} {alarm alarm' : Alarm} {next next' : Task σ α}
      (related : alarm.Related r alarm') (goOn : Alike shares i r next next') :
      Alike shares i r (.wait alarm next) (.wait alarm' next')

def KeepsTo (shares : Shares σ V) (i : Nat) (p : Task σ α) : Prop :=
  Alike shares i (fun _ _ => False) p p

variable {shares : Shares σ V} {i : Nat} {r s : Nat → Nat → Prop}

theorem Alike.mono {p q : Task σ α} (alike : Alike shares i r p q)
    (less : ∀ a b, r a b → s a b) : Alike shares i s p q := by
  induction alike generalizing s with
  | done a => exact .done a
  | act count tame same goOn ih =>
      refine .act count (fun v w matched => tame v w (matched.mono less))
        (fun v w matched => same v w (matched.mono less)) fun v w matched => ?_
      exact ih v w (matched.mono less) (further_mono less)
  | wait related goOn ih =>
      exact .wait ⟨related.due, less _ _ related.order⟩ (ih less)

theorem KeepsTo.alike {p : Task σ α} (keeps : KeepsTo shares i p) (r : Nat → Nat → Prop) :
    Alike shares i r p p :=
  keeps.mono nofun

theorem Alike.bind {p q : Task σ α} {f g : α → Task σ β} (alike : Alike shares i r p q)
    (next : ∀ s, (∀ a b, r a b → s a b) → ∀ a, Alike shares i s (f a) (g a)) :
    Alike shares i r (p.bind f) (q.bind g) := by
  induction alike with
  | done a => exact next _ (fun _ _ => id) a
  | act count tame same goOn ih =>
      refine .act count tame same fun v w matched => ih v w matched fun s more => ?_
      exact next s fun a b related => more a b (.inl related)
  | wait related goOn ih => exact .wait related (ih next)

theorem KeepsTo.bind {p : Task σ α} {f : α → Task σ β} (keeps : KeepsTo shares i p)
    (next : ∀ a, KeepsTo shares i (f a)) : KeepsTo shares i (p.bind f) :=
  Alike.bind keeps fun s _ a => (next a).alike s

theorem keepsTo_done (a : α) : KeepsTo shares i (.done a : Task σ α) :=
  .done a

/-! ## Time -/

theorem keepsTo_now : KeepsTo shares i (Process.now : Task σ Nat) := by
  refine .act (fun _ _ => 0) (fun v w _ => ⟨⟨rfl, rfl, fun _ _ => rfl⟩, rfl, rfl, fun _ _ => rfl⟩)
    (fun v w matched => matched.share) fun v w matched => ?_
  change Alike shares i _ (.done v.now) (.done w.now)
  rw [matched.now]
  exact .done _

/-- Tasks that set an alarm. -/
theorem Alike.setAlarm {next next' : World σ → Task σ α}
    (goOn : ∀ v w, World.Matched shares i r v w →
      Alike shares i (further r v.alarms w.alarms 1) (next v) (next' w)) :
    Alike shares i r (.act Clocked.setAlarm next) (.act Clocked.setAlarm next') :=
  .act (fun _ _ => 1) (fun _ _ _ => ⟨⟨rfl, rfl, fun _ _ => rfl⟩, rfl, rfl, fun _ _ => rfl⟩)
    (fun _ _ matched => matched.share) goOn

theorem related_setAlarm (r : Nat → Nat → Prop) (due m n : Nat) :
    Alarm.Related (further r m n 1) ⟨due, m⟩ ⟨due, n⟩ :=
  ⟨rfl, .inr ⟨0, Nat.one_pos, rfl, rfl⟩⟩

theorem keepsTo_sleep (milliseconds : Nat) :
    KeepsTo shares i (Process.sleep milliseconds : Task σ Unit) := by
  unfold Process.sleep
  split
  · exact .done ()
  · refine Alike.setAlarm fun v w matched => .wait ?_ (.done ())
    change Alarm.Related _ ⟨v.now + milliseconds, v.alarms⟩ ⟨w.now + milliseconds, w.alarms⟩
    rw [matched.now]
    exact related_setAlarm _ _ _ _

theorem Alike.underAlarm {p q : Task σ α} (alike : Alike shares i r p q) (inStep : InStep r)
    {limit limit' : Alarm} (limits : limit.Related r limit') (now : Nat) :
    Alike shares i r (p.underAlarm limit now) (q.underAlarm limit' now) := by
  induction alike generalizing now with
  | done a => exact .done (some a)
  | act count tame same goOn ih =>
      refine .act count tame same fun v w matched => ?_
      exact ih v w matched (matched.alarms.setMore _).inStep ⟨limits.due, .inl limits.order⟩ now
  | wait related goOn ih =>
      rw [Process.underAlarm, Process.underAlarm, limits.due, related.due]
      split
      · exact .done none
      · split
        · exact .wait (related.first limits inStep) (ih inStep limits _)
        · exact .wait limits (.done none)

theorem Alike.within? {p q : Task σ α} (alike : Alike shares i r p q)
    (milliseconds start : Nat) :
    Alike shares i r (p.within? milliseconds start) (q.within? milliseconds start) := by
  induction alike with
  | done a => exact .done (some a)
  | act count tame same goOn ih => exact .act count tame same ih
  | wait related goOn ih =>
      rw [Process.within?, Process.within?]
      split
      · exact .done none
      · refine Alike.setAlarm fun v w matched => ?_
        have later := (Alike.wait related goOn).mono (further_of v.alarms w.alarms 1)
        exact later.underAlarm (matched.alarms.setMore 1).inStep (related_setAlarm _ _ _ _) start

theorem KeepsTo.timeout {p : Task σ α} (keeps : KeepsTo shares i p) (milliseconds : Nat) :
    KeepsTo shares i (p.timeout milliseconds) :=
  keepsTo_now.bind fun start => Alike.within? keeps milliseconds start

/-! ## Pools -/

/-- A pool and its like ring the same processes. -/
theorem alarms_alike {ps qs : List (Task σ α)} (alike : List.Forall₂ (Alike shares i r) ps qs)
    (k : Nat) :
    List.Forall₂ (fun entry other => entry.1.Related r other.1 ∧ entry.2 = other.2)
      (Process.alarms k ps) (Process.alarms k qs) := by
  induction alike generalizing k with
  | nil => exact .nil
  | cons first rest ih =>
      rw [Process.alarms, Process.alarms]
      cases first with
      | done a => exact ih (k + 1)
      | act count tame same goOn => exact ih (k + 1)
      | wait related goOn => exact .cons ⟨related, rfl⟩ (ih (k + 1))

theorem ringing_alike {ps qs : List (Task σ α)} (alike : List.Forall₂ (Alike shares i r) ps qs)
    (inStep : InStep r) :
    List.Forall₂ (fun entry other => entry.1.Related r other.1 ∧ entry.2 = other.2)
      (Process.ringing ps) (Process.ringing qs) := by
  have sorted : List.Forall₂ (fun entry other => entry.1.Related r other.1 ∧ entry.2 = other.2)
      ((Process.alarms 0 ps).mergeSort fun a b => !b.1.before a.1)
      ((Process.alarms 0 qs).mergeSort fun a b => !b.1.before a.1) := by
    refine forall₂_mergeSort (alarms_alike alike 0) fun a a' b b' first second => ?_
    rw [second.1.before first.1 inStep]
  rw [Process.ringing, Process.ringing]
  generalize (Process.alarms 0 ps).mergeSort _ = all at sorted ⊢
  generalize (Process.alarms 0 qs).mergeSort _ = all' at sorted ⊢
  cases sorted with
  | nil => exact .nil
  | cons first rest =>
      refine forall₂_takeWhile (.cons first rest) fun entry other related => ?_
      rw [related.1.due, first.1.due]

/-- Pools of tasks that are alike at each place are alike. -/
theorem Alike.pool {take : Process.Taker τ α} {ps qs : List (Task σ α)}
    (alike : List.Forall₂ (Alike shares i r) ps qs) (inStep : InStep r)
    (queue : List (Nat × Bool)) (sofar : τ) :
    Alike shares i r (Process.pool take ps queue sofar) (Process.pool take qs queue sofar) := by
  fun_induction Process.pool take ps queue sofar generalizing qs r with
  | case1 ps sofar j rang rest absent ih =>
      have absentToo : qs[j]? = none := by
        rw [List.getElem?_eq_none_iff] at absent ⊢
        rwa [← alike.length_eq]
      rw [Process.pool_absent absentToo]
      exact ih alike inStep
  | case2 ps sofar j rang rest a ended last same =>
      obtain ⟨q, there, likewise⟩ := forall₂_getElem? alike ended
      cases likewise
      rw [Process.pool_done there, same]
      exact .done last
  | case3 ps sofar j rang rest a ended last enough same goesOn ih =>
      obtain ⟨q, there, likewise⟩ := forall₂_getElem? alike ended
      cases likewise
      rw [Process.pool_done there, same, if_neg goesOn]
      exact ih alike inStep
  | case4 ps sofar j rang rest change next here ih =>
      obtain ⟨q, there, likewise⟩ := forall₂_getElem? alike here
      cases likewise with
      | act count tame same goOn =>
          rw [Process.pool_act there]
          refine .act count tame same fun v w matched => ?_
          have later := alike.imp fun p q alike =>
            alike.mono (further_of v.alarms w.alarms (count v w))
          exact ih v (forall₂_set later (goOn v w matched) j) (matched.alarms.setMore _).inStep
  | case5 ps sofar j rest alarm next here ih =>
      obtain ⟨q, there, likewise⟩ := forall₂_getElem? alike here
      cases likewise with
      | wait related goOn =>
          rw [Process.pool_wait there, if_pos rfl]
          exact ih (forall₂_set alike goOn j) inStep
  | case6 ps sofar j rang rest alarm next here asleep ih =>
      obtain ⟨q, there, likewise⟩ := forall₂_getElem? alike here
      cases likewise with
      | wait related goOn =>
          rw [Process.pool_wait there, if_neg asleep]
          exact ih alike inStep
  | case7 ps sofar silent =>
      have ring := ringing_alike alike inStep
      rw [silent] at ring
      rw [Process.pool_over (List.forall₂_nil_left_iff.mp ring)]
      exact .done sofar
  | case8 ps sofar alarm j others rings _ next here ih =>
      obtain ⟨_, waits⟩ := Process.getElem?_of_mem_ringing (rings ▸ List.mem_cons_self)
      cases here.symm.trans waits
      have ring := ringing_alike alike inStep
      rw [rings] at ring
      obtain ⟨⟨alarm', _⟩, others', ⟨related, rfl⟩, likewise, ringsToo⟩ :=
        List.forall₂_cons_left_iff.mp ring
      have places : (others.map fun other => (other.2, true)) =
          others'.map fun other => (other.2, true) := by
        rw [← List.forall₂_eq_eq_eq, List.forall₂_map_left_iff, List.forall₂_map_right_iff]
        exact likewise.imp fun _ _ related => congrArg (·, true) related.2
      obtain ⟨_, there⟩ := Process.getElem?_of_mem_ringing (ringsToo ▸ List.mem_cons_self)
      obtain ⟨q, thereToo, alikeToo⟩ := forall₂_getElem? alike waits
      cases thereToo.symm.trans there
      cases alikeToo with
      | wait _ goOn =>
          rw [Process.pool_ring ringsToo there, ← places]
          exact .wait related (ih (forall₂_set alike goOn j) inStep)
  | case9 ps sofar alarm j others rings stuck =>
      obtain ⟨next, waits⟩ := Process.getElem?_of_mem_ringing (rings ▸ List.mem_cons_self)
      exact absurd waits (stuck alarm next)

theorem KeepsTo.gather {take : Process.Taker τ α} {init : τ} {tasks : List (Task σ α)}
    (keep : ∀ p ∈ tasks, KeepsTo shares i p) :
    KeepsTo shares i (Process.gather take init tasks) :=
  Alike.pool (List.forall₂_same.mpr keep) nofun _ init

end Task

end Action

end ActionGraph
