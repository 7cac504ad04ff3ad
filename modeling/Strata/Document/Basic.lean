import Strata.Number.Spelling
import Strata.Table

/-!
Documents: the data that structured files, server answers and configurations are made of. A whole
number in the 64-bit ranges is exact, any other number is a binary number of 64 bits. The fields
of an object stand in the order of their keys, no key twice; every reader builds objects through
`Document.ofFields`, which sees to that.
-/

namespace Strata

open Number

/-- A number in a document. -/
inductive Numeral where
  | whole (n : Int)
  | real (x : Binary)
  deriving DecidableEq, Repr, Inhabited

/-- The written form of a number in a document. -/
def Numeral.text : Numeral → String
  | .whole n => toString n
  | .real x => Spelling.document.write .double x

/-- A structured value. -/
inductive Document where
  | null
  | boolean (b : Bool)
  | number (n : Numeral)
  | text (s : String)
  | list (items : List Document)
  | object (fields : List (String × Document))
  deriving Repr, Inhabited

namespace Document

/-- The object with the given fields, the last value of a key counting. -/
def ofFields (fields : List (String × Document)) : Document :=
  .object (fields.foldl (fun fs f => insertEntry f.1 f.2 fs) [])

/-- A binary number as a document, which is null if the number is not finite. -/
def ofReal (x : Binary) : Document := if x.isFinite then .number (.real x) else .null

/-- The field of an object. -/
def field? (key : String) : Document → Option Document
  | .object fields => lookupEntry key fields
  | _ => none

/-- Whether a document is an object. -/
def isObject : Document → Bool
  | .object _ => true
  | _ => false

/-- Whether a document has no parts. -/
def isScalar : Document → Bool
  | .list _ | .object _ => false
  | _ => true

/-- The text that a scalar stands for as a property; null stands for none. -/
def scalarText? : Document → Option String
  | .text s => some s
  | .boolean b => some (if b then "true" else "false")
  | .number n => some n.text
  | _ => none

end Document

end Strata
