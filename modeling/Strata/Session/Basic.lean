import Strata.Registry.Basic
import Strata.Reload.FileWatch
import Strata.Reload.Scheduler
import Strata.Session.Command
import Strata.Source

/-!
Sessions: registries with all that surrounds them. A session holds the sources, whether they are
registered or not, the handles on keys, the listeners, what refreshes registries in the background,
the host, and the events so far. Everything is known by a number, and the latest thing that was
given an id is found by it.
-/

namespace Strata

/-- The number of a registry. -/
abbrev RegistryId := Nat

/-- The number of a source. -/
abbrev SourceId := Nat

/-- The number of a handle. -/
abbrev HandleId := Nat

/-- Commands that are carried out on behalf of an owner. -/
structure Script where
  owner : String
  commands : List Command

/-- The parts of a session that provide properties. -/
inductive Provider where
  | builtin (s : Source)
  | scripted (s : ScriptedSource Command)

namespace Provider

/-- The name under which a provider is registered. -/
def name : Provider → String
  | .builtin s => s.name
  | .scripted s => s.name

/-- Whether the data of a provider may change. -/
def isMutable : Provider → Bool
  | .builtin s => s.isMutable
  | .scripted s => s.isMutable

end Provider

/-! ### Handles and listeners -/

/-- A typed view of a key, with a default in place of an absent value. If it falls back, the
default also stands in for a value that cannot be decoded. -/
structure Binding where
  number : HandleId
  registry : RegistryId
  key : String
  converter : Converter Value
  default : Value
  fallsBack : Bool

/-- What decoding gives. -/
inductive Decoded where
  | found (v : Value)
  | absent
  | failed (e : Failure)

/-- A handle, with what was decoded last and the generation of the cache entry that it was decoded
from. -/
structure Handle where
  binding : Binding
  kept : Option (Nat × Decoded) := none

/-- What is called when a key resolves differently: a script, or a function of the decoded value
that goes with a handle. -/
inductive Listener where
  | script (s : Script)
  | follower (id : String) (converter : Converter Value) (default : Value)

/-! ### Results -/

/-- What a command gives. -/
inductive Outcome where
  | nothing
  | flag (b : Bool)
  | text (s : Option String)
  | value (v : Option Value)
  | values (vs : List Value)
  | table (t : Table String)
  | source (name : String) (isMutable : Bool)
  | sources (infos : List SourceInfo)
  | file (path : String) (kind : FileKind)
  | counts (lookups snapshots : Nat)
  | requests (rs : List Request)
  | resolved (r : Option Resolved)
  | report (r : RefreshReport)
  | binding (key : String) (default : Value)
  | failure (e : Failure)
  | misfit (m : Config.Misfit)
  | unreadable
  | unknownId (id : String)

namespace Outcome

/-- The outcome of what may fail. -/
def ofExcept {α : Type} (f : α → Outcome) : Except Failure α → Outcome
  | .ok a => f a
  | .error e => .failure e

/-- The outcome of what needs settings. -/
def ofSettings {α : Type} (f : α → Outcome) : Except Config.Misfit α → Outcome
  | .ok a => f a
  | .error e => .misfit e

end Outcome

/-- What happens in a session besides the outcomes of its commands. A call of a listener tells of
its number and of the id that it goes by. -/
inductive Event where
  | observed (circumstance : Circumstance) (failure : Failure)
  | delivered (listener : Nat) (id : String) (resolved : Option Resolved)
  | updated (listener : Nat) (id : String) (value : Value)
  | refused (listener : Nat) (id : String) (failure : Failure)
  | finished (owner command : String) (outcome : Outcome)

/-! ### Sessions -/

/-- A scheduler and the registry that it refreshes. -/
structure ScheduledRefresh where
  registry : RegistryId
  scheduler : Scheduler := {}

/-- A watch, the registry that it refreshes, and the directory of the file. -/
structure WatchedFile where
  registry : RegistryId
  directory : List String
  watch : FileWatch

/-- The numbers of things by their ids. -/
structure Ids where
  sources : Table SourceId := .empty
  servers : Table Nat := .empty
  handles : Table HandleId := .empty
  schedulers : Table Nat := .empty
  watches : Table Nat := .empty

/-- The state of a session. There is always a registry, and commands refer to the current one. The
last event comes first. -/
structure Session where
  host : Host := {}
  sources : List Provider := []
  registries : List Registry := [{}]
  current : RegistryId := 0
  handles : List Handle := []
  listeners : List Listener := []
  schedulers : List ScheduledRefresh := []
  watches : List WatchedFile := []
  events : List Event := []
  ids : Ids := {}

namespace Session

/-- The current registry. -/
def registry (s : Session) : Registry := (s.registries[s.current]?).getD {}

/-- Adds an event. -/
def emit (s : Session) (e : Event) : Session := { s with events := e :: s.events }

/-- The number that an id stands for, and the source of that number. -/
def source? (s : Session) (id : String) : Option (SourceId × Provider) :=
  (s.ids.sources.get? id).bind fun n => (s.sources[n]?).map fun p => (n, p)

/-- The handle of an id. -/
def handle? (s : Session) (id : String) : Option Handle :=
  (s.ids.handles.get? id).bind fun n => s.handles[n]?

/-- Sets the state of a source. -/
def setSource (s : Session) (n : SourceId) (p : Provider) : Session :=
  { s with sources := s.sources.set n p }

/-- Adds a source under an id. -/
def addSource (s : Session) (id : String) (p : Provider) : Session :=
  { s with
    sources := s.sources ++ [p]
    ids := { s.ids with sources := s.ids.sources.insert id s.sources.length } }

/-- Adds a listener for a key to a registry. -/
def addListener (s : Session) (r : RegistryId) (key : String) (l : Listener) : Session :=
  { s with
    listeners := s.listeners ++ [l]
    registries := s.registries.modify r (·.subscribe key s.listeners.length) }

end Session

end Strata
