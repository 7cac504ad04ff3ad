import Strata.Operation.Resolve

/-!
Registering a source and refreshing a registry: the operations that change what keys resolve to.
Each of them has the registry for itself while it works. When it is done, the listeners of every
key that resolves differently through the recorded snapshots are called, by the order of the keys
and for one key by the order of subscription.
-/

namespace Strata.RegistryId

/-- Calls listeners one after the other. -/
def deliver (resolved : Option Resolved) : List Nat → Task Unit :=
  Program.forAll fun listener => do
    let script ← act (.deliver listener resolved)
    run script

/-- Calls the listeners of keys that have changed. -/
def notify (r : RegistryId) : List Change → Task Unit :=
  Program.forAll fun change => do
    let listeners ← ask r (.listeners change.1)
    deliver change.2 listeners

/-! ### Registration -/

/-- The snapshot to be recorded of a new source: without any property if the source fails, which
the flag says. -/
def firstSnapshot (source : SourceId) (name : String) : Task (Snapshot × Bool) := do
  match ← takeSnapshot source with
  | .ok s => return (s, true)
  | .error e => do
    act (.observe (.registration name) e)
    return (.empty, false)

/-- Puts a source in place of which nothing is registered among the layers, and evicts what it
changes. If its keys are not known the whole cache is evicted. -/
def insertLayer (r : RegistryId) (old : List Layer) (source : SourceId) (name : String)
    (isMutable : Bool) (priority : Int) : Task (List Change) := do
  let (recorded, isComplete) ← firstSnapshot source name
  let seq ← ask r .takeSeq
  let new := Layer.insert ⟨source, name, isMutable, priority, seq, recorded⟩ old
  ask r (.setLayers new)
  let newView := View.recorded new
  let keys := recorded.keys
  if !keys.isEmpty then
    ask r (.evictChanged (keys.map fun k => (k, newView.resolve k)))
  if !isComplete then ask r (.invalidate none)
  return changesBetween (Keys.ofList keys) (View.recorded old) newView

/-- Registers a source. A name can be registered once. -/
def register (r : RegistryId) (source : SourceId) (priority : Int) :
    Task (Except Failure Unit) := do
  let (name, isMutable) ← act (.describe source)
  ask r .lock
  let old ← ask r .layers
  if old.any (·.name == name) then do
    let e := Failure.duplicateSource name
    act (.observe (.registration name) e)
    ask r .unlock
    return .error e
  else do
    ask r .beginChange
    let changes ← r.insertLayer old source name isMutable priority
    ask r .endChange
    ask r .unlock
    r.notify changes
    return .ok ()

/-! ### Refresh -/

/-- Takes the snapshots of the mutable layers in order. A layer whose source fails comes without a
snapshot, and the failure is observed. -/
def takeSnapshots : List Layer → Task (List (Layer × Option Snapshot))
  | [] => return []
  | l :: rest => do
    if l.isMutable then do
      let snapshot ← do
        match ← takeSnapshot l.source with
        | .ok s => pure (some s)
        | .error e => do
          act (.observe (.refresh l.name) e)
          pure none
      let others ← takeSnapshots rest
      return (l, snapshot) :: others
    else takeSnapshots rest

/-- The layers with the snapshots that were taken. -/
def recordAll (taken : List (Layer × Option Snapshot)) (ls : List Layer) : List Layer :=
  taken.foldl (fun ls t =>
    match t.2 with
    | some s => Layer.record t.1.seq s ls
    | none => ls) ls

/-- The keys that differ between the recorded snapshots and those that were taken. -/
def keysTaken (taken : List (Layer × Option Snapshot)) : Keys :=
  taken.foldl (fun keys t =>
    match t.2 with
    | some s => keys.union (changedKeys t.1.recorded s)
    | none => keys) .empty

/-- Records the snapshots that were taken. -/
def record (r : RegistryId) : List (Layer × Option Snapshot) → Task Unit :=
  Program.forAll fun t =>
    match t.2 with
    | some s => ask r (.record t.1.seq s)
    | none => .done ()

/-- Takes the snapshots of all mutable layers, records them, and evicts the entries of the cache
that they do not confirm. -/
def renew (r : RegistryId) : Task (RefreshReport × List Change) := do
  let layers ← ask r .layers
  let taken ← takeSnapshots layers
  let old := View.recorded layers
  let new := View.recorded (recordAll taken layers)
  r.record taken
  let changes := changesBetween (keysTaken taken) old new
  let invalidated ← ask r (.evictStale new)
  return (
    { changed := changes.map (·.1)
      invalidated := invalidated
      refreshed := (taken.filter (·.2.isSome)).map (·.1.name)
      failed := (taken.filter (·.2.isNone)).map (·.1.name) },
    changes)

/-- Refreshes a registry. -/
def refresh (r : RegistryId) : Task RefreshReport := do
  ask r .lock
  ask r .beginChange
  let (report, changes) ← r.renew
  ask r .endChange
  ask r .unlock
  r.notify changes
  return report

end Strata.RegistryId
