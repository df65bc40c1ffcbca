import ActionGraph.Embedding.Vector

/-!
# The embedding cache

Vectors are kept for a while under the model and the text they belong to.
An entry whose time has passed is never answered; it is dropped when it is
asked for, and with all others of its kind when a vector is stored.
-/

namespace ActionGraph.Embedding

structure CacheKey where
  model : String
  text : String
deriving DecidableEq

structure CacheEntry where
  key : CacheKey
  vector : Vector
  stored : Nat
deriving DecidableEq

/-- Vectors that are kept for a time to live, both in milliseconds. -/
structure Cache where
  lifetime : Nat
  entries : List CacheEntry
deriving DecidableEq

namespace Cache

def empty (lifetime : Nat) : Cache :=
  ⟨lifetime, []⟩

def live (c : Cache) (now : Nat) (entry : CacheEntry) : Bool :=
  decide (now - entry.stored < c.lifetime)

def find? (c : Cache) (key : CacheKey) : Option CacheEntry :=
  c.entries.find? fun entry => entry.key = key

/-- The vector of a key, if its time has not passed; an entry whose time has is dropped. -/
def get (c : Cache) (now : Nat) (key : CacheKey) : Cache × Option Vector :=
  match c.find? key with
  | some entry =>
      if c.live now entry then (c, some entry.vector)
      else ({ c with entries := c.entries.filter fun e => e.key ≠ key }, none)
  | none => (c, none)

/-- Drop the entries whose time has passed. -/
def sweep (c : Cache) (now : Nat) : Cache :=
  { c with entries := c.entries.filter (c.live now) }

def purge (c : Cache) (now : Nat) : Cache × Nat :=
  (c.sweep now, c.entries.length - (c.sweep now).entries.length)

/-- Store a vector after a sweep. -/
def insert (c : Cache) (now : Nat) (key : CacheKey) (vector : Vector) : Cache :=
  let swept := c.sweep now
  { swept with
    entries := ⟨key, vector, now⟩ :: swept.entries.filter fun e => e.key ≠ key }

def size (c : Cache) : Nat :=
  c.entries.length

end Cache

end ActionGraph.Embedding
