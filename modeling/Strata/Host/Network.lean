import Strata.Host.Files

/-!
Servers as sources see them. A server is asked for one document, answers in the way it is set to,
and keeps every request that reaches it.
-/

namespace Strata

/-- What a server does about a request. -/
inductive Reply where
  | answer (status : Nat) (body : Content)
  | dropped
  | silent
  deriving DecidableEq, Repr

/-- A request that reached a server: its first line, and the headers that were asked for, their
names in small letters. -/
structure Request where
  line : String
  headers : Table String

/-- A server, with the requests so far, the last one first. -/
structure Server where
  path : String
  reply : Reply
  requests : List Request := []

/-- Where a document is fetched from: one of the known servers, or an address where nothing
answers. -/
inductive Address where
  | server (number : Nat) (path : String)
  | elsewhere (url : String)
  deriving DecidableEq, Repr

/-- The text of an address. -/
def Address.url : Address → String
  | .server _ path => "http://server" ++ path
  | .elsewhere url => url

namespace Request

/-- Whether a text can be the name of a header. -/
def isHeaderName (name : String) : Bool :=
  !name.isEmpty && name.toList.all fun c => c.isAlphanum || "!#$%&'*+-.^_`|~".toList.contains c

/-- Whether a text can be the value of a header. -/
def isHeaderValue (value : String) : Bool :=
  value.toList.all fun c => c = '\t' || (32 ≤ c.toNat && c.toNat ≠ 127)

/-- Whether a request can be made with headers. -/
def canCarry (headers : Table String) : Bool :=
  headers.entries.all fun e => isHeaderName e.1 && isHeaderValue e.2

/-- The request for a path. -/
def get (path : String) (headers : Table String) : Request :=
  ⟨"GET " ++ path ++ " HTTP/1.1",
    .ofList (headers.entries.map fun e => (String.ofList (e.1.toList.map Char.toLower), e.2))⟩

end Request

/-- The servers, and whether they can be reached. -/
structure Network where
  servers : List Server := []
  isUp : Bool := true

namespace Network

/-- Sends a request. A status and a body come back if the request can be made, reaches a server,
and is answered. -/
def send (n : Network) (address : Address) (headers : Table String) :
    Option (Nat × Content) × Network :=
  match address with
  | .elsewhere _ => (none, n)
  | .server i path =>
    match n.servers[i]? with
    | none => (none, n)
    | some s =>
      if !n.isUp || !Request.canCarry headers then (none, n)
      else
        let answer := match s.reply with
          | .answer status body => some (status, body)
          | .dropped | .silent => none
        let s := { s with requests := .get path headers :: s.requests }
        (answer, { n with servers := n.servers.set i s })

end Network

end Strata
