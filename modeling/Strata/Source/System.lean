import Strata.Config.Sources
import Strata.Failure
import Strata.Text.Blank

/-!
System properties: a table that belongs to the whole host and that every source of system
properties reads afresh.
-/

namespace Strata

/-- A source of system properties. -/
structure SystemSource where
  name : String

namespace SystemSource

/-- The source that settings describe. -/
def ofSettings (c : Config.SystemSource) : SystemSource := ⟨c.name⟩

/-- The property that an argument of the form `key=value` sets. The key is trimmed and may not be
empty then. -/
def assignment (argument : String) : Except Failure (String × String) :=
  let s := argument.toList
  match s.dropWhile (· ≠ '=') with
  | [] => .error (.config (.expectedAssignment argument))
  | _ :: value =>
    let key := Text.trim (s.takeWhile (· ≠ '='))
    if key.isEmpty then .error (.invalidKey argument)
    else .ok (String.ofList key, String.ofList value)

end SystemSource

end Strata
