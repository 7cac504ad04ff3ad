import Strata.Config.Sources
import Strata.Text.Search

/-!
Sources whose properties are held in memory: maps that are written by hand, and what the
environment held when the source was made.
-/

namespace Strata

/-! ### Maps -/

/-- A source of values written by hand. -/
structure MapSource where
  name : String
  isMutable : Bool
  values : Table String

namespace MapSource

/-- The source that settings describe. -/
def ofSettings (c : Config.MapSource) : MapSource := ⟨c.name, c.isMutable, c.values⟩

/-- Sets the value of a key. -/
def put (s : MapSource) (key value : String) : MapSource :=
  { s with values := s.values.insert key value }

/-- Removes a key. -/
def remove (s : MapSource) (key : String) : MapSource := { s with values := s.values.erase key }

/-- Sets the values of several keys at once. -/
def extend (s : MapSource) (values : Table String) : MapSource :=
  { s with values := s.values.insertAll values.entries }

end MapSource

/-! ### The environment -/

/-- A source of environment variables. -/
structure EnvironmentSource where
  name : String
  values : Table String

namespace EnvironmentSource

/-- What a variable's name becomes: without the stem, if it has one and more than that. -/
def keyOf? (stem : Option String) (name : String) : Option String :=
  match stem with
  | none => some name
  | some stem =>
    if stem.isEmpty then some name
    else
      match Text.stripStart stem.toList name.toList with
      | none | some [] => none
      | some rest => some (String.ofList rest)

/-- The source that settings describe, over the given variables. The last value of a variable
counts. -/
def ofSettings (c : Config.EnvironmentSource) (entries : List (String × String)) :
    EnvironmentSource :=
  ⟨c.name, .ofList (entries.filterMap fun v => (keyOf? c.stem v.1).map fun k => (k, v.2))⟩

end EnvironmentSource

end Strata
