import ActionGraph.Proofs.Action.Dispatch
import ActionGraph.Proofs.Action.Upkeep
import ActionGraph.Proofs.Action.Watching
import ActionGraph.Proofs.Dictionaries
import ActionGraph.Proofs.Embedding.Retention
import ActionGraph.Proofs.Occurrences
import ActionGraph.Routing.Lookup

/-!
# Texts that are embedded together

Of the texts that a routing action compares, the source of embeddings is asked
about those that the cache answers nothing for, about each once, and in one
request.  Either every text gets its own vector, or the action fails and the
cache has nothing new.
-/

namespace ActionGraph

namespace Embedding.Cache

/-- The cache has a vector under a key, and its time has not passed. -/
def Holds (c : Cache) (now : Nat) (key : CacheKey) (vector : Vector) : Prop :=
  ∃ entry, c.find? key = some entry ∧ c.live now entry = true ∧ entry.vector = vector

theorem get_snd_eq_some_iff_holds (c : Cache) (now : Nat) (key : CacheKey) (vector : Vector) :
    (c.get now key).2 = some vector ↔ c.Holds now key vector := by
  rw [get_snd, Option.bind_eq_some_iff]
  refine exists_congr fun entry => and_congr_right fun _ => ?_
  rw [Option.ite_none_right_eq_some, Option.some_inj]

theorem get_snd_eq_none_iff (c : Cache) (now : Nat) (key : CacheKey) :
    (c.get now key).2 = none ↔ ∀ vector, ¬ c.Holds now key vector := by
  simp only [Option.eq_none_iff_forall_ne_some, ne_eq, get_snd_eq_some_iff_holds]

theorem sublist_get (c : Cache) (now : Nat) (key : CacheKey) :
    (c.get now key).1.entries.Sublist c.entries := by
  obtain same | dropped := c.get_eq_or now key
  · rw [same]
  · rw [dropped]
    exact List.filter_sublist

end Embedding.Cache

namespace Routing

open ActionGraph.Action ActionGraph.Embedding

variable {σ : Type}

/-! ## Texts that are asked for -/

/-- The texts that the cache has no vector of, each once, in order. -/
def uncached (cache : Cache) (now : Nat) (model : String) (texts : List String) : List String :=
  (texts.filter fun text => (cache.get now ⟨model, text⟩).2.isNone).eraseDups

section Uncached

variable {cache : Cache} {now : Nat} {model : String} {texts : List String}

theorem mem_uncached_iff {text : String} :
    text ∈ uncached cache now model texts ↔
      text ∈ texts ∧ ∀ vector, ¬ cache.Holds now ⟨model, text⟩ vector := by
  rw [uncached, List.mem_eraseDups, List.mem_filter, Option.isNone_iff_eq_none,
    Cache.get_snd_eq_none_iff]

theorem uncached_inOrder (cache : Cache) (now : Nat) (model : String) (texts : List String) :
    (uncached cache now model texts).Pairwise fun a b => texts.idxOf a < texts.idxOf b := by
  refine (pairwise_eraseDups _).imp_of_mem fun memA memB before => ?_
  have missed := fun {text} (mem : text ∈ uncached cache now model texts) =>
    (List.mem_filter.mp (List.mem_eraseDups.mp mem)).2
  refine (idxOf_filter_lt_iff ?_ ?_).mp before
  · exact missed memA
  · exact missed memB

theorem uncached_apart (cache : Cache) (now : Nat) (model : String) (texts : List String) :
    (uncached cache now model texts).Nodup := by
  refine (uncached_inOrder cache now model texts).imp ?_
  rintro a _ before rfl
  exact Nat.lt_irrefl _ before

/-- Only what the cache has under the model is left out, and it stays out when it is repeated. -/
example :
    uncached ⟨1000, [⟨⟨"small", "b"⟩, [], 0⟩, ⟨⟨"large", "a"⟩, [], 0⟩]⟩ 999 "small"
      ["c", "b", "a", "c", "b"] = ["c", "a"] := by
  decide +kernel

end Uncached

theorem lookUp_hits (model : String) (now : Nat) (cache : Cache) (texts : List String) :
    (lookUp model now cache texts).2 =
      texts.map fun text => (text, (cache.get now ⟨model, text⟩).2) := by
  induction texts generalizing cache with
  | nil => rfl
  | cons text rest ih =>
      simp only [lookUp, List.map_cons, ih, Cache.get_get]

theorem misses_lookUp (model : String) (now : Nat) (cache : Cache) (texts : List String) :
    misses (lookUp model now cache texts).2 = uncached cache now model texts := by
  rw [misses, lookUp_hits, List.filter_map, List.map_map]
  exact congrArg List.eraseDups (List.map_id' _)

/-- Lookups store nothing. -/
theorem sublist_lookUp (model : String) (now : Nat) (cache : Cache) (texts : List String) :
    (lookUp model now cache texts).1.entries.Sublist cache.entries := by
  induction texts generalizing cache with
  | nil => exact List.Sublist.refl _
  | cons text rest ih => exact (ih _).trans (cache.sublist_get now ⟨model, text⟩)

/-! ## Vectors of the texts -/

/--
The vector of a text: the one that the cache holds, or, if it holds none, the
one in the place of the text among those that were asked for.
-/
def Supplied (cache : Cache) (now : Nat) (model : String) (asked : List String)
    (fresh : List Vector) (text : String) (vector : Vector) : Prop :=
  cache.Holds now ⟨model, text⟩ vector ∨
    (∀ other, ¬ cache.Holds now ⟨model, text⟩ other) ∧
      ∃ i : Nat, asked[i]? = some text ∧ fresh[i]? = some vector

theorem find?_zip {texts : List String} {fresh : List Vector} (apart : texts.Nodup)
    (enough : fresh.length = texts.length) {i : Nat} {text : String} {vector : Vector}
    (named : texts[i]? = some text) (there : fresh[i]? = some vector) :
    Entries.find? text (texts.zip fresh) = some vector := by
  refine Entries.find?_of_mem ?_ (List.mem_iff_getElem?.mpr ⟨i, ?_⟩)
  · rwa [List.map_fst_zip (Nat.le_of_eq enough.symm)]
  · rw [List.getElem?_zip_eq_some]
    exact ⟨named, there⟩

/-- With as many vectors as texts were asked for, every text has its own. -/
theorem fill_supplied (cache : Cache) (now : Nat) (model : String) (texts : List String)
    {fresh : List Vector} (enough : fresh.length = (uncached cache now model texts).length) :
    List.Forall₂ (Supplied cache now model (uncached cache now model texts) fresh) texts
      (fill (lookUp model now cache texts).2 ((uncached cache now model texts).zip fresh)) := by
  rw [fill, lookUp_hits, List.map_map, List.forall₂_map_right_iff, List.forall₂_same]
  intro text mem
  dsimp only [Function.comp_apply]
  split
  · rename_i vector hit
    exact Or.inl ((cache.get_snd_eq_some_iff_holds ..).mp hit)
  · rename_i missed
    have none := (cache.get_snd_eq_none_iff ..).mp missed
    obtain ⟨i, named⟩ := List.mem_iff_getElem?.mp (mem_uncached_iff.mpr ⟨mem, none⟩)
    have inRange : i < fresh.length := enough ▸ (List.getElem?_eq_some_iff.mp named).1
    have there : fresh[i]? = some fresh[i] := List.getElem?_eq_getElem inRange
    rw [find?_zip (uncached_apart cache now model texts) enough named there]
    exact Or.inr ⟨none, i, named, there⟩

/-! ## Runs -/

def consulted (model : String) (texts : List String) (w : World σ) : World σ :=
  { w with cache := (lookUp model w.now w.cache texts).1 }

def fetched (embedder : Embedder σ) (dimensions : Option Nat) (model : String)
    (texts : List String) (w : World σ) : World σ × Except Failure (List Vector) :=
  Task.complete (consulted model texts w)
    (embedder (uncached w.cache w.now model texts) model dimensions)

def keeping (model : String) (texts : List String) (fresh : List Vector) (w : World σ) : World σ :=
  { w with cache := store model w.now w.cache (texts.zip fresh) }

/-- What is done with the answer about the texts that are missing. -/
def conclude (model : String) (hits : Hits) :
    Except Failure (List (String × Vector)) → Task σ (Except Failure (List Vector))
  | .error failure => .done (.error failure)
  | .ok fresh =>
      (Task.cached fun cache now => (store model now cache fresh, ())).bind fun _ =>
        .done (.ok (fill hits fresh))

theorem complete_conclude_snd (model : String) (hits : Hits)
    (answer : Except Failure (List (String × Vector))) (w : World σ) :
    (Task.complete w (conclude model hits answer)).2 = answer.map (fill hits) := by
  cases answer with
  | error failure => rfl
  | ok fresh => rfl

section Runs

variable (embedder : Embedder σ) (dimensions : Option Nat) {model : String} {texts : List String}
  {w : World σ}

theorem complete_vectors_of_none (none : uncached w.cache w.now model texts = []) :
    Task.complete w (vectors embedder dimensions model texts) =
      (consulted model texts w, .ok (fill (lookUp model w.now w.cache texts).2 [])) := by
  unfold vectors
  rw [Task.complete_bind, Task.complete_cached]
  dsimp only
  rw [misses_lookUp, none]
  rfl

theorem complete_vectors_of_some (missing : uncached w.cache w.now model texts ≠ []) :
    Task.complete w (vectors embedder dimensions model texts) =
      Task.complete (fetched embedder dimensions model texts w).1
        (conclude model (lookUp model w.now w.cache texts).2
          ((fetched embedder dimensions model texts w).2.bind
            (paired (uncached w.cache w.now model texts)))) := by
  unfold vectors
  rw [Task.complete_bind, Task.complete_cached]
  dsimp only
  rw [misses_lookUp, if_neg fun empty => missing (List.isEmpty_iff.mp empty), Task.complete_bind]
  rfl

end Runs

/-! ## Requests that are noted -/

/-- What a source of embeddings is asked. -/
structure Request where
  texts : List String
  model : String
  dimensions : Option Nat
deriving DecidableEq

def recorded (embedder : Embedder σ) : Embedder (σ × List Request) :=
  fun texts model dimensions =>
    (Task.note ⟨texts, model, dimensions⟩).bind fun _ =>
      (embedder texts model dimensions).besides

section Recorded

variable (embedder : Embedder σ) (dimensions : Option Nat) (model : String)

def noting (v : World σ) (journal : List Request) : World (σ × List Request) :=
  ⟨v.now, v.alarms, v.cache, (v.outside, journal)⟩

theorem complete_recorded (texts : List String) (w : World σ) (journal : List Request) :
    Task.complete (noting w journal) (recorded embedder texts model dimensions) =
      let ended := Task.complete w (embedder texts model dimensions)
      (noting ended.1 (journal ++ [⟨texts, model, dimensions⟩]), ended.2) := by
  unfold recorded
  rw [Task.complete_bind, Task.complete_besides]
  rfl

theorem complete_conclude (hits : Hits) (answer : Except Failure (List (String × Vector)))
    (w : World σ) (journal : List Request) :
    Task.complete (noting w journal) (conclude model hits answer) =
      let ended := Task.complete w (conclude model hits answer)
      (noting ended.1 journal, ended.2) := by
  cases answer with
  | error failure => rfl
  | ok fresh => rfl

/-- The requests for the texts that are missing. -/
def requests (texts : List String) (w : World σ) : List Request :=
  if uncached w.cache w.now model texts = [] then []
  else [⟨uncached w.cache w.now model texts, model, dimensions⟩]

/-- Whether or not requests are noted, the texts come to the same, after one request at most. -/
theorem complete_vectors_recorded (texts : List String) (w : World σ) (journal : List Request) :
    Task.complete (noting w journal) (vectors (recorded embedder) dimensions model texts) =
      let ended := Task.complete w (vectors embedder dimensions model texts)
      (noting ended.1 (journal ++ requests dimensions model texts w), ended.2) := by
  unfold requests
  by_cases none : uncached w.cache w.now model texts = []
  · rw [complete_vectors_of_none _ _ none,
      complete_vectors_of_none (w := noting w journal) _ _ none, if_pos none, List.append_nil]
    rfl
  · have asked : fetched (recorded embedder) dimensions model texts (noting w journal) = _ :=
      complete_recorded embedder dimensions model _ (consulted model texts w) journal
    rw [complete_vectors_of_some _ _ none,
      complete_vectors_of_some (w := noting w journal) _ _ none, if_neg none, asked]
    exact complete_conclude ..

end Recorded

/-! ## Batches -/

section Outcomes

variable {embedder : Embedder σ} {dimensions : Option Nat} {model : String}
  {texts : List String} {w v : World σ}

/-- Where nothing is missing, the cache has all the vectors. -/
theorem held_of_none (none : uncached w.cache w.now model texts = []) :
    List.Forall₂ (fun text => w.cache.Holds w.now ⟨model, text⟩) texts
      (fill (lookUp model w.now w.cache texts).2 []) := by
  have enough : ([] : List Vector).length = (uncached w.cache w.now model texts).length :=
    congrArg List.length none.symm
  have supplied := fill_supplied w.cache w.now model texts enough
  rw [List.zip_nil_right] at supplied
  refine supplied.imp fun text vector from_ => from_.resolve_right ?_
  rintro ⟨-, i, -, there⟩
  cases there

theorem complete_vectors_of_enough (missing : uncached w.cache w.now model texts ≠ [])
    {fresh : List Vector} (comes : fetched embedder dimensions model texts w = (v, .ok fresh))
    (enough : fresh.length = (uncached w.cache w.now model texts).length) :
    Task.complete w (vectors embedder dimensions model texts) =
      (keeping model (uncached w.cache w.now model texts) fresh v,
        .ok (fill (lookUp model w.now w.cache texts).2
          ((uncached w.cache w.now model texts).zip fresh))) := by
  have paired : paired (uncached w.cache w.now model texts) fresh = .ok _ := if_pos enough
  rw [complete_vectors_of_some _ _ missing, comes]
  dsimp only [Except.bind]
  rw [paired]
  rfl

theorem complete_vectors_of_miscounted (missing : uncached w.cache w.now model texts ≠ [])
    {fresh : List Vector} (comes : fetched embedder dimensions model texts w = (v, .ok fresh))
    (other : fresh.length ≠ (uncached w.cache w.now model texts).length) :
    Task.complete w (vectors embedder dimensions model texts) =
      (v, .error <| .embedding <| "expected " ++
        toString (uncached w.cache w.now model texts).length ++ " vectors, got " ++
          toString fresh.length) := by
  have paired : paired (uncached w.cache w.now model texts) fresh = .error _ := if_neg other
  rw [complete_vectors_of_some _ _ missing, comes]
  dsimp only [Except.bind]
  rw [paired]
  rfl

theorem complete_vectors_of_refused (missing : uncached w.cache w.now model texts ≠ [])
    {failure : Failure}
    (comes : fetched embedder dimensions model texts w = (v, .error failure)) :
    Task.complete w (vectors embedder dimensions model texts) = (v, .error failure) := by
  rw [complete_vectors_of_some _ _ missing, comes]
  rfl

/-- What fails leaves the cache as the source of embeddings left it. -/
theorem cache_of_failed {failure : Failure}
    (failed : Task.complete w (vectors embedder dimensions model texts) = (v, .error failure)) :
    v.cache = (fetched embedder dimensions model texts w).1.cache := by
  by_cases none : uncached w.cache w.now model texts = []
  · cases (complete_vectors_of_none embedder dimensions none).symm.trans failed
  · rw [complete_vectors_of_some _ _ none] at failed
    cases answer : (fetched embedder dimensions model texts w).2.bind
        (paired (uncached w.cache w.now model texts)) with
    | error refusal =>
        rw [answer] at failed
        exact congrArg (World.cache ∘ Prod.fst) failed.symm
    | ok fresh =>
        rw [answer] at failed
        cases congrArg Prod.snd failed

end Outcomes

/-- How a source of embeddings is asked about texts in a world, and what comes of it. -/
structure Batched (embedder : Embedder σ) (dimensions : Option Nat) (model : String)
    (texts : List String) (w : World σ) : Prop where
  /-- The texts that are asked for are those of which the cache holds no vector. -/
  missing : ∀ text, text ∈ uncached w.cache w.now model texts ↔
    text ∈ texts ∧ ∀ vector, ¬ w.cache.Holds w.now ⟨model, text⟩ vector
  apart : (uncached w.cache w.now model texts).Nodup
  inOrder : (uncached w.cache w.now model texts).Pairwise fun a b =>
    texts.idxOf a < texts.idxOf b
  /-- They are asked for in one request; if there are none, there is no request. -/
  asks : ∀ journal,
    Task.complete (noting w journal) (vectors (recorded embedder) dimensions model texts) =
      let ended := Task.complete w (vectors embedder dimensions model texts)
      (noting ended.1 (journal ++ requests dimensions model texts w), ended.2)
  held : uncached w.cache w.now model texts = [] →
    ∃ all, Task.complete w (vectors embedder dimensions model texts) =
        (consulted model texts w, .ok all) ∧
      List.Forall₂ (fun text => w.cache.Holds w.now ⟨model, text⟩) texts all
  served : uncached w.cache w.now model texts ≠ [] →
    ∀ v fresh, fetched embedder dimensions model texts w = (v, .ok fresh) →
      fresh.length = (uncached w.cache w.now model texts).length →
      ∃ all, Task.complete w (vectors embedder dimensions model texts) =
          (keeping model (uncached w.cache w.now model texts) fresh v, .ok all) ∧
        List.Forall₂
          (Supplied w.cache w.now model (uncached w.cache w.now model texts) fresh) texts all
  /-- Another number of vectors is a failure, and none of them is kept. -/
  miscounted : uncached w.cache w.now model texts ≠ [] →
    ∀ v fresh, fetched embedder dimensions model texts w = (v, .ok fresh) →
      fresh.length ≠ (uncached w.cache w.now model texts).length →
      ∃ text, Task.complete w (vectors embedder dimensions model texts) =
        (v, .error (.embedding text))
  refused : uncached w.cache w.now model texts ≠ [] →
    ∀ v failure, fetched embedder dimensions model texts w = (v, .error failure) →
      Task.complete w (vectors embedder dimensions model texts) = (v, .error failure)
  /-- A failure adds nothing to the cache, unless the source of embeddings does so itself. -/
  addsNothing : ∀ v failure,
    Task.complete w (vectors embedder dimensions model texts) = (v, .error failure) →
      Task.Spares World.cache
        (embedder (uncached w.cache w.now model texts) model dimensions) →
      v.cache.entries.Sublist w.cache.entries

/--
Whatever the cache has and whichever texts there are, with repetitions: those
that are missing are asked for at most once, all together, and every text gets
its own vector or the cache has nothing new.
-/
theorem vectors_batched (embedder : Embedder σ) (dimensions : Option Nat) (model : String)
    (texts : List String) (w : World σ) : Batched embedder dimensions model texts w where
  missing _ := mem_uncached_iff
  apart := uncached_apart ..
  inOrder := uncached_inOrder ..
  asks journal := complete_vectors_recorded embedder dimensions model texts w journal
  held none := ⟨_, complete_vectors_of_none embedder dimensions none, held_of_none none⟩
  served missing _ _ comes enough :=
    ⟨_, complete_vectors_of_enough missing comes enough, fill_supplied _ _ _ _ enough⟩
  miscounted missing _ _ comes other := ⟨_, complete_vectors_of_miscounted missing comes other⟩
  refused missing _ _ comes := complete_vectors_of_refused missing comes
  addsNothing v failure failed spares := by
    have same : (fetched embedder dimensions model texts w).1.cache = _ :=
      spares.complete (fun _ _ => rfl) _
    rw [cache_of_failed failed, same]
    exact sublist_lookUp ..

end Routing

end ActionGraph
