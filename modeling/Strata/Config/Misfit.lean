import Strata.Document.Basic
import Strata.Text.Quoted
import Strata.Timespan

/-!
Why structured data does not fit a record of settings.
-/

namespace Strata.Config

/-- What stands where something else was expected. -/
inductive Found where
  | null
  | boolean (b : Bool)
  | number (n : Numeral)
  | text (s : String)
  | sequence
  | map
  deriving DecidableEq, Repr

/-- What a document is, for a message. -/
def Found.ofDocument : Document → Found
  | .null => .null
  | .boolean b => .boolean b
  | .number n => .number n
  | .text s => .text s
  | .list _ => .sequence
  | .object _ => .map

/-- How a message names what was found. -/
def Found.message : Found → String
  | .null => "null"
  | .boolean b => "boolean `" ++ (if b then "true" else "false") ++ "`"
  | .number (.whole n) => "integer `" ++ toString n ++ "`"
  | .number (.real x) => "floating point `" ++ (Numeral.real x).text ++ "`"
  | .text s => "string " ++ Text.quoted s
  | .sequence => "sequence"
  | .map => "map"

/-- Why data does not fit. -/
inductive Misfit where
  | invalidType (found : Found) (expected : String)
  | invalidValue (found : Found) (expected : String)
  | invalidLength (length : Nat) (expected : String)
  | missingField (name : String)
  | duplicateField (name : String)
  | unknownVariant (name : String) (known : List String)
  | timespan (fault : Timespan.Fault)
  deriving DecidableEq, Repr

/-- A name between backticks. -/
def ticked (name : String) : String := "`" ++ name ++ "`"

/-- The explanation of a misfit. -/
def Misfit.message : Misfit → String
  | .invalidType found expected =>
    "invalid type: " ++ found.message ++ ", expected " ++ expected
  | .invalidValue found expected =>
    "invalid value: " ++ found.message ++ ", expected " ++ expected
  | .invalidLength length expected =>
    "invalid length " ++ toString length ++ ", expected " ++ expected
  | .missingField name => "missing field " ++ ticked name
  | .duplicateField name => "duplicate field " ++ ticked name
  | .unknownVariant name known =>
    "unknown variant " ++ ticked name ++ ", expected one of " ++
      ", ".intercalate (known.map ticked)
  | .timespan fault => fault.message

end Strata.Config
