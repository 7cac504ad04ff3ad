import Strata.Session.Action

/-!
Resolving a key. The cache is asked first. If it does not know the key, the layers are asked in
order until one has a value; a layer that fails counts as one without a value, and its failure is
observed. The result is put into the cache unless a layer has failed or something has been evicted
in the meantime.
-/

namespace Strata

/-- Asks a source for the value of a key. -/
def lookUp (source : SourceId) (key : String) : Task (Except Failure (Option String)) := do
  let (result, script) ← act (.lookup source key)
  run script
  return result

/-- Asks a source for all that it has. -/
def takeSnapshot (source : SourceId) : Task (Except Failure Snapshot) := do
  let (result, script) ← act (.snapshot source)
  run script
  return result

namespace RegistryId

/-- What a key resolves to in layers, and whether a layer has failed on the way. -/
def consult (key : String) : List Layer → Task (Option Resolved × Bool)
  | [] => return (none, false)
  | l :: rest => do
    match ← lookUp l.source key with
    | .ok (some value) => return (some ⟨value, l.name⟩, false)
    | .ok none => consult key rest
    | .error e => do
      act (.observe (.lookup l.name key) e)
      let (resolved, _) ← consult key rest
      return (resolved, true)

/-- Reads a key that the cache does not know. -/
def readUncached (r : RegistryId) (key : String) : Task Reading := do
  let epoch ← ask r .epoch
  let layers ← ask r .layers
  let (resolved, isDegraded) ← consult key layers
  if isDegraded then return ⟨resolved, none⟩
  else ask r (.fill key resolved epoch)

/-- Reads a key. The empty key resolves to nothing. -/
def read (r : RegistryId) (key : String) : Task Reading := do
  if key.isEmpty then return ⟨none, none⟩
  else
    match ← ask r (.cached key) with
    | some reading => return reading
    | none => r.readUncached key

/-- What a key resolves to. -/
def resolve (r : RegistryId) (key : String) : Task (Option Resolved) := do
  return (← r.read key).resolved

/-- What a key resolves to, which has to be something. -/
def resolveRequired (r : RegistryId) (key : String) : Task (Except Failure Resolved) := do
  if key.isEmpty then return .error (.invalidKey key)
  else
    match ← r.resolve key with
    | some resolved => return .ok resolved
    | none => return .error (.missingProperty key)

/-- The text that a key resolves to. -/
def getText (r : RegistryId) (key : String) : Task (Option String) := do
  return (← r.resolve key).map (·.value)

/-- The value that a key resolves to. -/
def get {α : Type} (r : RegistryId) (key : String) (c : Converter α) :
    Task (Except Failure (Option α)) := do
  match ← r.resolve key with
  | none => return .ok none
  | some resolved => return (c.decode resolved.value).map some

end RegistryId

end Strata
