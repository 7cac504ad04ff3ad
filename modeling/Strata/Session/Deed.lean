import Strata.Session.Basic

/-!
Deeds: the commands that a session carries out in one instant. They write to sources and to the
host, make handles and listeners, and look after schedulers and watches.
-/

namespace Strata.Session

/-! ### Sources -/

/-- Changes the map of an id, the value of a key before the change being the outcome. -/
def changeMap (s : Session) (id : String) (outcome : MapSource → Outcome)
    (f : MapSource → MapSource) : Outcome × Session :=
  match s.source? id with
  | some (n, .builtin (.map m)) => (outcome m, s.setSource n (.builtin (.map (f m))))
  | _ => (.unknownId id, s)

/-- What is told of the file of a source. -/
def fileInfo (s : Session) (id : String) : Outcome :=
  match s.source? id with
  | some (_, .builtin (.file f)) => .file f.path f.kind
  | _ => .unknownId id

/-- Changes a scripted source. -/
def changeScript (s : Session) (id : String) (c : ScriptChange Command) : Outcome × Session :=
  match s.source? id with
  | some (n, .scripted p) => (.nothing, s.setSource n (.scripted (p.change c)))
  | _ => (.unknownId id, s)

/-- How often a scripted source has been asked. -/
def counts (s : Session) (id : String) : Outcome :=
  match s.source? id with
  | some (_, .scripted p) => .counts p.lookups p.snapshots
  | _ => .unknownId id

/-- Makes the source that an order is for; a remote source comes with a server of its own. -/
def build (s : Session) (id : String) :
    SourceOrder Command → Except Outcome Provider × Session
  | .map c => (.ok (.builtin (.map (.ofSettings c))), s)
  | .environment settings values =>
    match Config.EnvironmentSource.read settings with
    | .error e => (.error (.misfit e), s)
    | .ok c => (.ok (.builtin (.environment (.ofSettings c values))), s)
  | .system settings =>
    match Config.SystemSource.read settings with
    | .error e => (.error (.misfit e), s)
    | .ok c => (.ok (.builtin (.system (.ofSettings c))), s)
  | .file settings =>
    match Config.FileSource.read settings with
    | .error e => (.error (.misfit e), s)
    | .ok c =>
      match FileSource.ofSettings c s.host.files with
      | .error e => (.error (.failure e), s)
      | .ok f => (.ok (.builtin (.file f)), s)
  | .declared declaration =>
    match Config.TypeOptions.read Config.documents declaration with
    | .error e => (.error (.misfit e), s)
    | .ok t =>
      match Source.create t s.host with
      | .error e => (.error (.failure e), s)
      | .ok source => (.ok (.builtin source), s)
  | .remote settings path reply =>
    let network := s.host.network
    let number := network.servers.length
    let network := { network with servers := network.servers ++ [{ path := path, reply := reply }] }
    let s := { s with
      host := { s.host with network := network }
      ids := { s.ids with servers := s.ids.servers.insert id number } }
    match Config.RemoteSource.read settings with
    | .error e => (.error (.misfit e), s)
    | .ok c =>
      let address := if (settings.field? "url").isSome then none else some (.server number path)
      match RemoteSource.ofSettings c address with
      | .error e => (.error (.failure e), s)
      | .ok r => (.ok (.builtin (.remote r)), s)
  | .scripted name isMutable c =>
    let blank : ScriptedSource Command := { id := id, name := name, isMutable := isMutable }
    (.ok (.scripted (blank.change c)), s)

/-! ### Servers and files -/

/-- Sets what the server of an id does about requests. -/
def setReply (s : Session) (id : String) (reply : Reply) : Outcome × Session :=
  match s.ids.servers.get? id with
  | none => (.unknownId id, s)
  | some n =>
    let network := s.host.network
    let servers := network.servers.modify n fun server => { server with reply := reply }
    (.nothing, { s with host := { s.host with network := { network with servers := servers } } })

/-- The requests to the server of an id. -/
def requests (s : Session) (id : String) : Outcome :=
  match (s.ids.servers.get? id).bind fun n => s.host.network.servers[n]? with
  | none => .unknownId id
  | some server => .requests server.requests.reverse

/-- Tells the watches on a directory what has happened to what stands at a path. -/
def touch (s : Session) (path : String) (kind : WatchEventKind) : Session :=
  let place := Files.place path
  { s with
    watches := s.watches.map fun w =>
      if w.directory = place.dropLast then
        { w with watch := w.watch.announce (.event kind ["/".intercalate place]) }
      else w }

/-- Changes what stands at a path. -/
def changeFiles (s : Session) (path : String) (kind : WatchEventKind) (f : Files → Files) :
    Outcome × Session :=
  (.nothing, { s with host := { s.host with files := f s.host.files } }.touch path kind)

/-- Sets the table of system properties. -/
def setProperties (s : Session) (properties : Table String) : Session :=
  { s with host := { s.host with properties := properties } }

/-- Sets the property that an argument of the form `key=value` names. -/
def assignProperty (s : Session) (argument : String) : Outcome × Session :=
  match SystemSource.assignment argument with
  | .error e => (.failure e, s)
  | .ok (key, value) => (.nothing, s.setProperties (s.host.properties.insert key value))

/-! ### Handles and listeners -/

/-- Makes a handle on a key of the current registry. -/
def bind (s : Session) (id key : String) (kind : Kind) (default : String) (fallsBack : Bool) :
    Outcome × Session :=
  match kind.converter.decode default with
  | .error e => (.failure e, s)
  | .ok value =>
    if key.isEmpty then (.failure (.invalidKey key), s)
    else
      let number := s.handles.length
      let binding : Binding := ⟨number, s.current, key, kind.converter, value, fallsBack⟩
      (.binding key value,
        { s with
          handles := s.handles ++ [{ binding := binding }]
          ids := { s.ids with handles := s.ids.handles.insert id number } })

/-- The text of a value as the handle of an id writes it. -/
def encode (s : Session) (id : String) (kind : Kind) (raw : String) : Outcome :=
  match s.handle? id, kind.converter.decode raw with
  | none, _ => .unknownId id
  | _, .error e => .failure e
  | some h, .ok v => .text (some (h.binding.converter.encode v))

/-- Makes a listener that decodes for the handle of an id. -/
def follow (s : Session) (id : String) : Outcome × Session :=
  match s.handle? id with
  | none => (.unknownId id, s)
  | some ⟨b, _⟩ => (.nothing, s.addListener b.registry b.key (.follower id b.converter b.default))

/-! ### Schedulers and watches -/

/-- The scheduler of an id. -/
def scheduler? (s : Session) (id : String) : Option (Nat × ScheduledRefresh) :=
  (s.ids.schedulers.get? id).bind fun n => (s.schedulers[n]?).map fun r => (n, r)

/-- Changes a scheduler. -/
def changeScheduler (s : Session) (n : Nat) (f : Scheduler → Scheduler) : Session :=
  { s with
    schedulers := s.schedulers.modify n fun r => { r with scheduler := f r.scheduler } }

/-- Changes the scheduler of an id, if there is one. -/
def withScheduler (s : Session) (id : String) (f : Scheduler → Scheduler) : Session :=
  match s.ids.schedulers.get? id with
  | none => s
  | some n => s.changeScheduler n f

/-- Adds a scheduler for the current registry under an id, in place of the one before, which is
dropped. -/
def addScheduler (s : Session) (id : String) (scheduler : Scheduler) : Session :=
  let s := s.withScheduler id Scheduler.drop
  { s with
    schedulers := s.schedulers ++ [⟨s.current, scheduler⟩]
    ids := { s.ids with schedulers := s.ids.schedulers.insert id s.schedulers.length } }

/-- Refuses an empty interval. -/
def withInterval (s : Session) (interval : Timespan) (f : Session) : Outcome × Session :=
  if interval.isZero then (.failure (.config .zeroInterval), s) else (.nothing, f)

/-- Starts the scheduler of an id. -/
def startScheduler (s : Session) (id interval : String) : Outcome × Session :=
  match s.scheduler? id, Timespan.parse interval with
  | none, _ => (.unknownId id, s)
  | _, .error e => (.misfit (.timespan e), s)
  | some (n, _), .ok interval => s.withInterval interval (s.changeScheduler n (·.start interval))

/-- Makes a scheduler from settings, and starts it. -/
def schedule (s : Session) (id : String) (settings : Document) : Outcome × Session :=
  match Config.Scheduler.read settings with
  | .error e => (.misfit e, s)
  | .ok c => s.withInterval c.interval (s.addScheduler id (Scheduler.start {} c.interval))

/-- Ends the watch of an id, if there is one. -/
def unwatch (s : Session) (id : String) : Session :=
  match s.ids.watches.get? id with
  | none => s
  | some n =>
    { s with watches := s.watches.modify n fun w => { w with watch := w.watch.stop } }

/-- The directory and the name of a file to be watched. -/
def watchedPlace (files : Files) (path : String) : Except Failure (List String × String) :=
  if path.isEmpty then .error (.config .emptyWatchPath)
  else
    match Path.fileName? path with
    | none => .error (.config (.notAFilePath path))
    | some name =>
      let directory := Path.directory path
      match files.find directory with
      | .error cause => .error (.file directory cause)
      | .ok _ => .ok (Files.place directory, name)

/-- Makes a watch for the current registry under an id, in place of the one before. -/
def watch (s : Session) (id : String) (settings : Document) : Outcome × Session :=
  match Config.FileWatch.read settings with
  | .error e => (.misfit e, s)
  | .ok c =>
    match watchedPlace s.host.files c.path with
    | .error e => (.failure e, s)
    | .ok (directory, name) =>
      let s := s.unwatch id
      (.text (some c.path),
        { s with
          watches := s.watches ++ [⟨s.current, directory, { path := c.path, name := name }⟩]
          ids := { s.ids with watches := s.ids.watches.insert id s.watches.length } })

/-! ### All deeds -/

/-- Carries out a deed. -/
def carryOut (s : Session) : Deed Command → Outcome × Session
  | .put id key value => s.changeMap id (fun m => .text (m.values.get? key)) (·.put key value)
  | .remove id key => s.changeMap id (fun m => .text (m.values.get? key)) (·.remove key)
  | .extend id values => s.changeMap id (fun _ => .nothing) (·.extend values)
  | .setProperty key value =>
    (.text (s.host.properties.get? key), s.setProperties (s.host.properties.insert key value))
  | .removeProperty key =>
    (.text (s.host.properties.get? key), s.setProperties (s.host.properties.erase key))
  | .property key => (.text (s.host.properties.get? key), s)
  | .assignProperty argument => s.assignProperty argument
  | .clearProperties => (.nothing, s.setProperties .empty)
  | .fileInfo id => (s.fileInfo id, s)
  | .write path content | .replace path content => s.changeFiles path .modify (·.write path content)
  | .delete path => s.changeFiles path .remove (·.delete path)
  | .makeDirectory path => s.changeFiles path .create (·.makeDirectory path)
  | .script id c => s.changeScript id c
  | .counts id => (s.counts id, s)
  | .setReply id reply => s.setReply id reply
  | .requests id => (s.requests id, s)
  | .sources => (.sources (s.registry.layers.map Layer.info), s)
  | .summary => (.text (some s.registry.summary), s)
  | .subscribe id key reaction =>
    (.nothing, s.addListener s.current key (.script ⟨id, reaction⟩))
  | .bind id key kind default fallsBack => s.bind id key kind default fallsBack
  | .encode id kind raw => (s.encode id kind raw, s)
  | .follow id => s.follow id
  | .newScheduler id => (.nothing, s.addScheduler id {})
  | .schedule id settings => s.schedule id settings
  | .startScheduler id interval => s.startScheduler id interval
  | .stopScheduler id => (.nothing, s.withScheduler id Scheduler.stop)
  | .isRunning id =>
    match s.scheduler? id with
    | none => (.unknownId id, s)
    | some (_, r) => (.flag r.scheduler.isRunning, s)
  | .dropScheduler id =>
    let s := s.withScheduler id Scheduler.drop
    (.nothing, { s with ids := { s.ids with schedulers := s.ids.schedulers.erase id } })
  | .watch id settings => s.watch id settings
  | .unwatch id => (.nothing, s.unwatch id)

end Strata.Session
