import Strata.Registry.Cache
import Strata.Text.Quoted

/-!
A registry: layers in order, a cache of what keys resolve to, and listeners. Each thing that can
happen to it in one instant is an action. Registration and refresh are made of several actions;
they exclude each other by a lock, and they add one to the change sequence as they begin and as
they end, so that it is odd in between.
-/

namespace Strata

/-- The state of a registry. Listeners have numbers, and stand in the order in which they
subscribed. -/
structure Registry where
  layers : List Layer := []
  cache : Cache := {}
  listeners : List (String × Nat) := []
  isLocked : Bool := false
  changeSeq : Nat := 0
  nextSeq : Nat := 0

/-- What can happen to a registry in one instant. -/
inductive RegistryAction where
  | lock
  | unlock
  | beginChange
  | endChange
  | changeSeq
  | layers
  | setLayers (layers : List Layer)
  | record (seq : Nat) (s : Snapshot)
  | takeSeq
  | cached (key : String)
  | epoch
  | fill (key : String) (resolved : Option Resolved) (epoch : Nat)
  | cachedCount
  | invalidate (key : Option String)
  | evictChanged (updates : List Change)
  | evictStale (view : View)
  | listeners (key : String)

namespace RegistryAction

/-- What an action answers. -/
@[reducible] def Answer : RegistryAction → Type
  | changeSeq | takeSeq | epoch | cachedCount => Nat
  | layers => List Layer
  | cached _ => Option Reading
  | fill .. => Reading
  | evictStale _ => List String
  | listeners _ => List Nat
  | _ => Unit

end RegistryAction

namespace Registry

/-- Adds a listener for a key. -/
def subscribe (r : Registry) (key : String) (listener : Nat) : Registry :=
  { r with listeners := r.listeners ++ [(key, listener)] }

/-- The listeners for a key in the order in which they subscribed. -/
def listenersOf (r : Registry) (key : String) : List Nat :=
  (r.listeners.filter (·.1 == key)).map (·.2)

/-- Takes an action. One that waits for the lock to be free cannot be taken before. -/
def take : (a : RegistryAction) → Registry → Option (a.Answer × Registry)
  | .lock, r => if r.isLocked then none else some ((), { r with isLocked := true })
  | .unlock, r => some ((), { r with isLocked := false })
  | .beginChange, r | .endChange, r => some ((), { r with changeSeq := r.changeSeq + 1 })
  | .changeSeq, r => some (r.changeSeq, r)
  | .layers, r => some (r.layers, r)
  | .setLayers ls, r => some ((), { r with layers := ls })
  | .record seq s, r => some ((), { r with layers := Layer.record seq s r.layers })
  | .takeSeq, r => some (r.nextSeq, { r with nextSeq := r.nextSeq + 1 })
  | .cached key, r => some (r.cache.get? key, r)
  | .epoch, r => some (r.cache.epoch, r)
  | .fill key resolved epoch, r =>
    let (reading, cache) := r.cache.fill key resolved epoch
    some (reading, { r with cache := cache })
  | .cachedCount, r => some (r.cache.entries.size, r)
  | .invalidate key, r => some ((), { r with cache := r.cache.invalidate key })
  | .evictChanged updates, r => some ((), { r with cache := r.cache.evictChanged updates })
  | .evictStale view, r =>
    some (r.cache.staleKeys view, { r with cache := r.cache.evictStale view })
  | .listeners key, r => some (r.listenersOf key, r)

/-- A text that tells of the layers and of the cache. -/
def summary (r : Registry) : String :=
  let source (i : SourceInfo) : String :=
    "SourceInfo \x7b name: " ++ Text.quoted i.name ++ ", priority: " ++ toString i.priority ++
      ", mutable: " ++ (if i.isMutable then "true" else "false") ++ " \x7d"
  "Registry \x7b sources: [" ++ ", ".intercalate (r.layers.map fun l => source l.info) ++
    "], cached_keys: " ++ toString r.cache.entries.size ++ ", epoch: " ++
    toString r.cache.epoch ++ " \x7d"

end Registry

/-- What a refresh has done: the keys that resolve differently, the keys that were evicted from the
cache, and the sources whose snapshot was and was not to be had. -/
structure RefreshReport where
  changed : List String := []
  invalidated : List String := []
  refreshed : List String := []
  failed : List String := []
  deriving DecidableEq, Repr

/-- Whether a refresh has changed nothing. -/
def RefreshReport.isEmpty (r : RefreshReport) : Bool :=
  r.changed.isEmpty && r.invalidated.isEmpty

end Strata
