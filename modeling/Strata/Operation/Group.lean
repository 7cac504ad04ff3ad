import Strata.Operation.Binding

/-!
Reading several handles at once. The handles are read again as long as the registry has begun or
ended a change in the meantime, and they are not read while it is in the midst of one; but the
hundredth attempt counts in any case.
-/

namespace Strata

namespace RegistryId

/-- Reads consistently, given how many attempts there are before the last one. -/
def readConsistently {α : Type} (r : RegistryId) (read : Task α) : Nat → Task α
  | 0 => do
    let _ ← ask r .changeSeq
    let result ← read
    let _ ← ask r .changeSeq
    return result
  | n + 1 => do
    let before ← ask r .changeSeq
    if before % 2 = 1 then r.readConsistently read n
    else do
      let result ← read
      let after ← ask r .changeSeq
      if after = before then return result else r.readConsistently read n

end RegistryId

namespace Binding

/-- The number of attempts to read consistently. -/
def maxAttempts : Nat := 100

/-- Reads handles in order, up to the first one that fails. -/
def getAll : List Binding → Task (Except Failure (List Value))
  | [] => return .ok []
  | b :: rest => do
    match ← b.get with
    | .error e => return .error e
    | .ok v => return (← getAll rest).map (v :: ·)

/-- Reads handles consistently, by the registry of the first. -/
def getGroup : List Binding → Task (Except Failure (List Value))
  | [] => return .ok []
  | bs@(b :: _) => b.registry.readConsistently (getAll bs) (maxAttempts - 1)

/-- Renders a template with the values of handles. -/
def renderGroup (bs : List Binding) (template : String) : Task (Except Failure String) := do
  match ← getGroup bs with
  | .error e => return .error e
  | .ok vs =>
    let args := (bs.zip vs).map fun b => b.1.converter.encode b.2
    return (Template.render template args).mapError .template

end Binding

end Strata
