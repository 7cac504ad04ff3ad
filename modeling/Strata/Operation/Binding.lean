import Strata.Operation.Resolve

/-!
Reading through handles. What a handle has decoded it keeps together with the generation of the
cache entry, and as long as the entry is the same it does not decode again. A value that cannot be
decoded is observed when it is decoded.
-/

namespace Strata

/-- Decodes what a reading of the key has given. -/
def Binding.decode (b : Binding) (reading : Reading) : Task Decoded :=
  match reading.resolved with
  | none => return .absent
  | some resolved => do
    match ← act (.decode b resolved.value reading.generation) with
    | .ok v => return .found v
    | .error e => do
      act (.observe (.conversion b.key) e)
      return .failed e

namespace Binding

/-- What is kept from a generation, if there is one. -/
def kept (b : Binding) : Option Nat → Task (Option Decoded)
  | none => return none
  | some generation => act (.kept b.number generation)

/-- Keeps what was decoded from a generation, if there is one. -/
def remember (b : Binding) (d : Decoded) : Option Nat → Task Unit
  | none => return ()
  | some generation => act (.keep b.number generation d)

/-- The decoded value of the key of a handle. -/
def read (b : Binding) : Task Decoded := do
  let reading ← b.registry.read b.key
  match ← b.kept reading.generation with
  | some d => return d
  | none => do
    let d ← b.decode reading
    b.remember d reading.generation
    return d

/-- The value for what was decoded, the default standing in where it may. -/
def orFallback (b : Binding) : Decoded → Except Failure Value
  | .found v => .ok v
  | .absent => .ok b.default
  | .failed e => if b.fallsBack then .ok b.default else .error e

/-- The value for what was decoded, the default standing in for anything else. -/
def orDefault (b : Binding) : Decoded → Value
  | .found v => v
  | _ => b.default

/-- The value for what was decoded, which has to be there. -/
def orMissing (b : Binding) : Decoded → Except Failure Value
  | .found v => .ok v
  | .absent => .error (.missingProperty b.key)
  | .failed e => .error e

end Binding

/-- The value that was decoded, if there is one. -/
def Decoded.value? : Decoded → Except Failure (Option Value)
  | .found v => .ok (some v)
  | .absent => .ok none
  | .failed e => .error e

namespace Binding

/-- The value of a handle, the default standing in where it may. -/
def get (b : Binding) : Task (Except Failure Value) := do
  return b.orFallback (← b.read)

/-- The value of a handle, the default standing in for anything else. -/
def getOrDefault (b : Binding) : Task Value := do
  return b.orDefault (← b.read)

/-- The value of a handle, which has to be there. -/
def getRequired (b : Binding) : Task (Except Failure Value) := do
  return b.orMissing (← b.read)

/-- The value of a handle, if there is one. -/
def value (b : Binding) : Task (Except Failure (Option Value)) := do
  return (← b.read).value?

/-- What the key of a handle resolves to. -/
def resolved (b : Binding) : Task (Option Resolved) := b.registry.resolve b.key

end Binding

end Strata
