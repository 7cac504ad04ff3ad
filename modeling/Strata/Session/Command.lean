import Strata.Config.Notation
import Strata.Converter
import Strata.Host
import Strata.Source.Memory

/-!
Commands: what can be asked of a session. Things that were made earlier are named by the id that
was given to them. A command may bring further commands, which are carried out whenever a listener
is called or a scripted source is asked.
-/

namespace Strata

/-- Commands that are carried out as long as a count lasts. -/
structure Hook (γ : Type) where
  commands : List γ := []
  remaining : Nat := 0

/-- A source that fails on demand and carries out commands when it is asked. It counts how often it
is asked. -/
structure ScriptedSource (γ : Type) where
  id : String
  name : String
  isMutable : Bool := true
  values : Table String := .empty
  lookupFails : Bool := false
  snapshotFails : Bool := false
  onLookup : Hook γ := {}
  onSnapshot : Hook γ := {}
  lookups : Nat := 0
  snapshots : Nat := 0

/-- What is to be different about a scripted source. -/
structure ScriptChange (γ : Type) where
  values : Option (Table String) := none
  lookupFails : Option Bool := none
  snapshotFails : Option Bool := none
  onLookup : Option (List γ) := none
  onSnapshot : Option (List γ) := none
  times : Nat := 1

/-- The commands of a hook as long as its count lasts, and the hook after that. -/
def Hook.fire {γ : Type} (h : Hook γ) : List γ × Hook γ :=
  match h.remaining with
  | 0 => ([], h)
  | n + 1 => (h.commands, { h with remaining := n })

namespace ScriptedSource

variable {γ : Type}

/-- The failure of a source that is to fail. -/
def outage (s : ScriptedSource γ) : Failure := .unavailable s.name (.stated "scripted")

/-- The value of a key, and the commands to be carried out before it is given. -/
def lookup (s : ScriptedSource γ) (key : String) :
    Except Failure (Option String) × List γ × ScriptedSource γ :=
  let (commands, hook) := s.onLookup.fire
  (if s.lookupFails then .error s.outage else .ok (s.values.get? key), commands,
    { s with onLookup := hook, lookups := s.lookups + 1 })

/-- All values, and the commands to be carried out before they are given. -/
def snapshot (s : ScriptedSource γ) :
    Except Failure (Table String) × List γ × ScriptedSource γ :=
  let (commands, hook) := s.onSnapshot.fire
  (if s.snapshotFails then .error s.outage else .ok s.values, commands,
    { s with onSnapshot := hook, snapshots := s.snapshots + 1 })

/-- A hook that runs as often as a change says, or the one from before. -/
def rehook (times : Nat) (commands : Option (List γ)) (before : Hook γ) : Hook γ :=
  match commands with
  | some commands => ⟨commands, times⟩
  | none => before

/-- Changes a scripted source. -/
def change (s : ScriptedSource γ) (c : ScriptChange γ) : ScriptedSource γ :=
  { s with
    values := c.values.getD s.values
    lookupFails := c.lookupFails.getD s.lookupFails
    snapshotFails := c.snapshotFails.getD s.snapshotFails
    onLookup := rehook c.times c.onLookup s.onLookup
    onSnapshot := rehook c.times c.onSnapshot s.onSnapshot }

end ScriptedSource

/-- What a source is to be made from. -/
inductive SourceOrder (γ : Type) where
  | map (settings : Config.MapSource)
  | environment (settings : Document) (values : List (String × String))
  | system (settings : Document)
  | file (settings : Document)
  | declared (declaration : Document)
  | remote (settings : Document) (path : String) (reply : Reply)
  | scripted (name : String) (isMutable : Bool) (change : ScriptChange γ)

/-- What a handle can be asked for. -/
inductive HandleQuery where
  | get
  | orDefault
  | required
  | value
  | resolved
  deriving DecidableEq, Repr

/-- Commands that are carried out in one instant. -/
inductive Deed (γ : Type) where
  | put (id key value : String)
  | remove (id key : String)
  | extend (id : String) (values : Table String)
  | setProperty (key value : String)
  | removeProperty (key : String)
  | property (key : String)
  | assignProperty (argument : String)
  | clearProperties
  | fileInfo (id : String)
  | write (path : String) (content : Content)
  | replace (path : String) (content : Content)
  | delete (path : String)
  | makeDirectory (path : String)
  | script (id : String) (change : ScriptChange γ)
  | counts (id : String)
  | setReply (id : String) (reply : Reply)
  | requests (id : String)
  | sources
  | summary
  | subscribe (id key : String) (reaction : List γ)
  | bind (id key : String) (kind : Kind) (default : String) (fallsBack : Bool)
  | encode (id : String) (kind : Kind) (raw : String)
  | follow (id : String)
  | newScheduler (id : String)
  | schedule (id : String) (settings : Document)
  | startScheduler (id interval : String)
  | stopScheduler (id : String)
  | isRunning (id : String)
  | dropScheduler (id : String)
  | watch (id : String) (settings : Document)
  | unwatch (id : String)

/-- What can be asked of a session. -/
inductive Command where
  | deed (d : Deed Command)
  | make (id : String) (order : SourceOrder Command) (priority : Option Int)
  | lookup (id key : String)
  | snapshot (id : String)
  | register (id : String) (priority : Int)
  | configure (form : Config.Notation) (text : String)
  | resolve (key : String)
  | resolveRequired (key : String)
  | getText (key : String)
  | get (key : String) (kind : Kind)
  | invalidate (key : Option String)
  | refresh
  | handle (id : String) (query : HandleQuery)
  | readGroup (ids : List String)
  | renderGroup (ids : List String) (template : String)
  | await (key : String) (value : Option String)
  | awaitStop (id : String)
  | awaitEvents (count : Nat)

instance : Inhabited Command := ⟨.refresh⟩

/-- The name of the kind of source that an order is for. -/
def SourceOrder.name {γ : Type} : SourceOrder γ → String
  | .map _ => "map"
  | .environment .. => "env"
  | .system _ => "sys"
  | .file _ => "file"
  | .declared _ => "create"
  | .remote .. => "remote"
  | .scripted .. => "scripted"

/-- The name of a question to a handle. -/
def HandleQuery.name : HandleQuery → String
  | .get => "h_get"
  | .orDefault => "h_or_default"
  | .required => "h_required"
  | .value => "h_value"
  | .resolved => "h_resolved"

/-- The name of a deed. -/
def Deed.name {γ : Type} : Deed γ → String
  | .put .. => "put"
  | .remove .. => "remove"
  | .extend .. => "extend"
  | .setProperty .. => "sys_set"
  | .removeProperty _ => "sys_remove"
  | .property _ => "sys_get"
  | .assignProperty _ => "sys_arg"
  | .clearProperties => "sys_clear"
  | .fileInfo _ => "file_info"
  | .write .. => "write"
  | .replace .. => "replace"
  | .delete _ => "delete"
  | .makeDirectory _ => "mkdir"
  | .script .. => "script"
  | .counts _ => "counts"
  | .setReply .. => "remote_set"
  | .requests _ => "remote_log"
  | .sources => "sources"
  | .summary => "debug"
  | .subscribe .. => "subscribe"
  | .bind .. => "bind"
  | .encode .. => "h_encode"
  | .follow _ => "h_subscribe"
  | .newScheduler _ => "sched_new"
  | .schedule .. => "sched_from_config"
  | .startScheduler .. => "sched_start"
  | .stopScheduler _ => "sched_stop"
  | .isRunning _ => "sched_running"
  | .dropScheduler _ => "sched_drop"
  | .watch .. => "watch"
  | .unwatch _ => "watch_stop"

/-- The name of a command. -/
def Command.name : Command → String
  | .deed d => d.name
  | .make _ order _ => order.name
  | .lookup .. => "lookup"
  | .snapshot _ => "snapshot"
  | .register .. => "register"
  | .configure .. => "config"
  | .resolve _ => "resolve"
  | .resolveRequired _ => "resolve_required"
  | .getText _ => "get_str"
  | .get .. => "get"
  | .invalidate _ => "invalidate"
  | .refresh => "refresh"
  | .handle _ query => query.name
  | .readGroup _ => "g_get"
  | .renderGroup .. => "g_render"
  | .await .. => "wait"
  | .awaitStop _ => "wait_stopped"
  | .awaitEvents _ => "wait_events"

end Strata
