import Strata.Operation.Change

/-!
Building a registry from its declaration. The declaration is validated first; then the sources are
made and registered one by one, in the order in which they are declared.
-/

namespace Strata.RegistryId

/-- Makes and registers the sources of layers. -/
def addLayers (r : RegistryId) : List Config.Layer → Task (Except Failure Unit)
  | [] => return .ok ()
  | l :: rest => do
    match ← act (.create l.source) with
    | .error e => return .error e
    | .ok source =>
      match ← r.register source l.priority with
      | .error e => return .error e
      | .ok () => r.addLayers rest

/-- Builds the registry of a declaration. -/
def build (c : Config.Registry) : Task (Except Failure RegistryId) := do
  match Config.report? c.faults with
  | some report => return .error (.config (.invalid report))
  | none => do
    let r ← act .addRegistry
    match ← r.addLayers c.sources with
    | .error e => return .error e
    | .ok () => return .ok r

end Strata.RegistryId
