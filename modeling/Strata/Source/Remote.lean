import Strata.Config.Sources
import Strata.Document.Flatten
import Strata.Document.Json
import Strata.Document.Pointer
import Strata.Failure
import Strata.Host
import Strata.Host.Status

/-!
Sources of properties that a server holds as one document. Nothing is asked when the source is
made. A snapshot fetches the document; a lookup fetches it only as long as there is none. A fetch
that fails leaves what was there before.
-/

namespace Strata

/-- A source of properties that a server holds. -/
structure RemoteSource where
  name : String
  address : Address
  pointer : Option String
  headers : Table String
  data : Option (Table String) := none

namespace RemoteSource

/-- The source that settings describe. A given address stands in for the one in the settings. -/
def ofSettings (c : Config.RemoteSource) (address : Option Address) :
    Except Failure RemoteSource :=
  if address.isNone && c.url.isEmpty then .error (.config .emptyUrl)
  else if c.timeout.isZero then .error (.config .zeroTimeout)
  else .ok
    { name := c.name
      address := address.getD (.elsewhere c.url)
      pointer := c.pointer
      headers := c.headers }

/-- The failure to make sense of a body. -/
def malformed (s : RemoteSource) (cause : Malformation) : Failure :=
  .parse s.address.url 0 cause

/-- The part of a document that holds the properties. -/
def select (s : RemoteSource) (d : Document) : Except Failure Document :=
  match s.pointer with
  | none => .ok d
  | some pointer =>
    match d.pointer? pointer with
    | some part => .ok part
    | none => .error (s.malformed (.pointerNotFound pointer))

/-- The properties that an answer brings. -/
def interpret (s : RemoteSource) (status : Nat) (body : Content) :
    Except Failure (Table String) := do
  if !Status.isSuccess status then
    throw (.unavailable s.name (.unexpectedStatus (Status.text status)))
  let .text text := body | throw (s.malformed .malformed)
  let .ok d := Json.parse text | throw (s.malformed .malformed)
  let part ← s.select d
  if part.isObject then return part.flatten else throw (s.malformed .expectedObject)

/-- Fetches the properties. -/
def fetch (s : RemoteSource) (n : Network) : Except Failure (Table String) × Network :=
  let (answer, n) := n.send s.address s.headers
  match answer with
  | none => (.error (.unavailable s.name .transport), n)
  | some (status, body) => (s.interpret status body, n)

/-- Fetches the properties and keeps them. -/
def refetch (s : RemoteSource) (n : Network) :
    Except Failure (Table String) × RemoteSource × Network :=
  match s.fetch n with
  | (.ok data, n) => (.ok data, { s with data := some data }, n)
  | (.error e, n) => (.error e, s, n)

/-- The properties as they are known, which are fetched if there are none. -/
def known (s : RemoteSource) (n : Network) :
    Except Failure (Table String) × RemoteSource × Network :=
  match s.data with
  | some data => (.ok data, s, n)
  | none => s.refetch n

end RemoteSource

end Strata
