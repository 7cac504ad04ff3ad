import Strata.Config.Misfit
import Strata.Number.Integer

/-!
Reading records of settings from structured data. Data comes in several notations, each of which
is a dialect: it says what its nodes can stand for. A record is read from a map by the names of
its fields, in the order of the map and with unknown names passed over, or from a sequence by
their positions. A field that does not occur keeps its value from the blank record unless it is
required.
-/

namespace Strata.Config

open Number

/-- The parts of a node that stands for a record. -/
inductive Parts (ν : Type) where
  | named (fields : List (String × ν))
  | placed (items : List ν)

/-- What the nodes of a notation can stand for. `surplus` is asked when a sequence has more items
than the record has fields, and `skip` when a field is not one of the record's. -/
structure Dialect (ν : Type) where
  text : ν → Except Misfit String
  integer : IntegerType → ν → Except Misfit Int
  items : ν → Except Misfit (List ν)
  parts : String → ν → Except Misfit (Parts ν)
  document : ν → Except Misfit Document
  skip : ν → Except Misfit Unit
  surplus : Nat → Except Misfit Unit
  distinct : Bool

/-- A field of a record: how a node sets it. -/
structure Field (ν ρ : Type) where
  name : String
  required : Bool
  set : ν → ρ → Except Misfit ρ

/-- A record: its title, its fields in order, and the record before any field is set. -/
structure Shape (ν ρ : Type) where
  title : String
  fields : List (Field ν ρ)
  blank : ρ

namespace Shape

variable {ν ρ : Type}

/-- Sets the field of the given name. Where names have to be distinct, one met before is
refused. -/
def setNamed (D : Dialect ν) (sh : Shape ν ρ) (seen : List String) (name : String) (v : ν)
    (r : ρ) : Except Misfit ρ :=
  match sh.fields.find? (·.name == name) with
  | none => (D.skip v).map fun _ => r
  | some f => if D.distinct && seen.contains name then .error (.duplicateField name) else f.set v r

/-- Sets fields by name, one after the other. -/
def setAll (D : Dialect ν) (sh : Shape ν ρ) :
    List String → List (String × ν) → ρ → Except Misfit ρ
  | _, [], r => .ok r
  | seen, (name, v) :: rest, r =>
    match sh.setNamed D seen name v r with
    | .error e => .error e
    | .ok r => setAll D sh (name :: seen) rest r

/-- Sets fields by position. A required field beyond the last item is refused by its position. -/
def setPlaced (title : String) (count : Nat) :
    Nat → List (Field ν ρ) → List ν → ρ → Except Misfit ρ
  | _, [], _, r => .ok r
  | i, f :: fields, [], r =>
    if f.required then
      .error (.invalidLength i (title ++ " with " ++ toString count ++ " elements"))
    else setPlaced title count (i + 1) fields [] r
  | i, f :: fields, v :: items, r =>
    match f.set v r with
    | .error e => .error e
    | .ok r => setPlaced title count (i + 1) fields items r

/-- The record that a node stands for. -/
def read (D : Dialect ν) (sh : Shape ν ρ) (v : ν) : Except Misfit ρ := do
  match ← D.parts sh.title v with
  | .named fields =>
    let r ← sh.setAll D [] fields sh.blank
    match sh.fields.find? fun f => f.required && !(fields.any (·.1 == f.name)) with
    | some f => .error (.missingField f.name)
    | none => .ok r
  | .placed items =>
    let r ← setPlaced sh.title sh.fields.length 0 sh.fields items sh.blank
    if sh.fields.length < items.length then D.surplus items.length
    .ok r

end Shape

/-! ### Documents -/

/-- The text that a document stands for. -/
def readText : Document → Except Misfit String
  | .text s => .ok s
  | d => .error (.invalidType (.ofDocument d) "a string")

/-- The truth value that a document stands for. -/
def readBoolean : Document → Except Misfit Bool
  | .boolean b => .ok b
  | d => .error (.invalidType (.ofDocument d) "a boolean")

/-- The text that a document stands for, null standing for none. -/
def readOptional : Document → Except Misfit (Option String)
  | .null => .ok none
  | d => (readText d).map some

/-- The span of time that a document stands for. -/
def readTimespan (d : Document) : Except Misfit Timespan := do
  (Timespan.parse (← readText d)).mapError .timespan

/-- The integer that a document stands for. -/
def readInteger (t : IntegerType) : Document → Except Misfit Int
  | .number (.whole n) =>
    if t.holds n then .ok n else .error (.invalidValue (.number (.whole n)) t.name)
  | d => .error (.invalidType (.ofDocument d) t.name)

/-- The table of texts that a document stands for. -/
def readTable : Document → Except Misfit (Table String)
  | .object fields => do
    let entries ← fields.mapM fun f => (readText f.2).map fun s => (f.1, s)
    .ok (.ofList entries)
  | d => .error (.invalidType (.ofDocument d) "a map")

/-- The items that a document stands for. -/
def readItems : Document → Except Misfit (List Document)
  | .list items => .ok items
  | d => .error (.invalidType (.ofDocument d) "a sequence")

/-- The parts of the record that a document stands for. -/
def readParts (title : String) : Document → Except Misfit (Parts Document)
  | .object fields => .ok (.named fields)
  | .list items => .ok (.placed items)
  | d => .error (.invalidType (.ofDocument d) title)

/-- Documents as a notation: what they do not stand for is explained, and a sequence has to end
with the last field. -/
def documents : Dialect Document :=
  { text := readText
    integer := readInteger
    items := readItems
    parts := readParts
    document := .ok
    skip := fun _ => .ok ()
    surplus := fun n => .error (.invalidLength n "fewer elements in array")
    distinct := false }

end Strata.Config
