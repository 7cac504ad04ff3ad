import Strata.Registry.Layer

/-!
The cache of a registry. It holds what keys resolve to, also that they resolve to nothing. Every
eviction begins a new epoch, and what was found out in an earlier epoch is not put into the cache.
Every entry has a generation of its own, which no other entry ever has.
-/

namespace Strata

/-- What a key resolves to, and the generation of that entry. -/
structure CacheEntry where
  resolved : Option Resolved
  generation : Nat
  deriving DecidableEq, Repr

/-- What reading a key gives. There is a generation if the result stands in the cache. -/
structure Reading where
  resolved : Option Resolved
  generation : Option Nat
  deriving DecidableEq, Repr

/-- A cache, its epoch, and the generation of the next entry. -/
structure Cache where
  entries : Table CacheEntry := .empty
  epoch : Nat := 0
  nextGeneration : Nat := 1

namespace Cache

/-- The reading that an entry gives. -/
def hit (e : CacheEntry) : Reading := ⟨e.resolved, some e.generation⟩

/-- Reads a key from the cache alone. -/
def get? (c : Cache) (key : String) : Option Reading := (c.entries.get? key).map hit

/-- Puts in what a key resolves to, as found out since the given epoch began. An entry that is
there already stays and is the result. -/
def fill (c : Cache) (key : String) (resolved : Option Resolved) (epoch : Nat) : Reading × Cache :=
  match c.entries.get? key with
  | some e => (hit e, c)
  | none =>
    if c.epoch ≠ epoch then (⟨resolved, none⟩, c)
    else
      (⟨resolved, some c.nextGeneration⟩,
        { c with
          entries := c.entries.insert key ⟨resolved, c.nextGeneration⟩
          nextGeneration := c.nextGeneration + 1 })

/-- Keeps the entries that satisfy a test, in a new epoch. -/
def retain (c : Cache) (keep : String → CacheEntry → Bool) : Cache :=
  { c with entries := c.entries.filter keep, epoch := c.epoch + 1 }

/-- Evicts the entry of one key, or without a key all entries. -/
def invalidate (c : Cache) : Option String → Cache
  | some key => c.retain fun k _ => k != key
  | none => c.retain fun _ _ => false

/-- Evicts the entries of keys that resolve to something else now. -/
def evictChanged (c : Cache) (updates : List Change) : Cache :=
  c.retain fun k e => !updates.any fun u => u.1 = k && u.2 ≠ e.resolved

/-- Evicts the entries that a view does not confirm. -/
def evictStale (c : Cache) (v : View) : Cache := c.retain fun k e => e.resolved = v.resolve k

/-- The keys whose entries a view does not confirm. -/
def staleKeys (c : Cache) (v : View) : List String :=
  (c.entries.filter fun k e => e.resolved ≠ v.resolve k).keys

end Cache

end Strata
