import Strata.Config.Layers
import Strata.Document.Json5
import Strata.Document.Toml
import Strata.Document.Yaml

/-!
Reading declarations from text in one of three notations. A text that cannot be read, or does not
hold what is declared, gives nothing.
-/

namespace Strata.Config

/-- The notations in which declarations are written. -/
inductive Notation where
  | json5
  | yaml
  | toml
  deriving DecidableEq, Repr

/-- Reads a record from a text in a notation. -/
def Notation.read {ρ : Type} (n : Notation) (read : (ν : Type) → Dialect ν → ν → Except Misfit ρ)
    (text : String) : Option ρ :=
  match n with
  | .json5 => (Json5.parse text).bind fun v => (read _ Json5.dialect v).toOption
  | .toml =>
    match Toml.parse text with
    | .ok d => (read _ Toml.dialect d).toOption
    | .error _ => none
  | .yaml => (Yaml.readRecord (read _ Yaml.dialect) text).toOption

/-- The declaration of a thing to be made. -/
def TypeOptions.parse (n : Notation) : String → Option TypeOptions :=
  n.read fun _ D => TypeOptions.read D

/-- The declaration of a registry. -/
def Registry.parse (n : Notation) : String → Option Registry :=
  n.read fun _ D => Registry.read D

end Strata.Config
