import Strata.Program
import Strata.Session.Deed

/-!
Actions: what can happen in a session in one instant. A task is a program that takes actions and
runs scripts; all that takes more than an instant is a task.
-/

namespace Strata

/-- What refreshes a registry in the background. -/
inductive Refresher where
  | scheduler (number : Nat)
  | watch (number : Nat)
  deriving DecidableEq, Repr

/-- What can happen in a session in one instant. A handle decodes a text that was read with a
generation, or without one. -/
inductive Action where
  | registry (r : RegistryId) (a : RegistryAction)
  | current
  | addRegistry
  | use (r : RegistryId)
  | build (id : String) (order : SourceOrder Command)
  | create (t : Config.TypeOptions)
  | source (id : String)
  | describe (source : SourceId)
  | lookup (source : SourceId) (key : String)
  | snapshot (source : SourceId)
  | observe (circumstance : Circumstance) (failure : Failure)
  | deliver (listener : Nat) (resolved : Option Resolved)
  | binding (id : String)
  | decode (binding : Binding) (raw : String) (generation : Option Nat)
  | kept (handle : HandleId) (generation : Nat)
  | keep (handle : HandleId) (generation : Nat) (d : Decoded)
  | deed (d : Deed Command)
  | finished (owner command : String) (outcome : Outcome)
  | due
  | beginRefresh (r : Refresher)
  | endRefresh (r : Refresher)
  | eventCount

namespace Action

/-- What an action answers. The answers of sources and listeners come with a script that is to be
run next. -/
@[reducible] def Answer : Action → Type
  | registry _ a => a.Answer
  | current | addRegistry => RegistryId
  | build .. => Except Outcome SourceId
  | create _ => Except Failure SourceId
  | source _ => Option SourceId
  | describe _ => String × Bool
  | lookup .. => Except Failure (Option String) × Script
  | snapshot _ => Except Failure Snapshot × Script
  | deliver .. => Script
  | binding _ => Option Binding
  | decode .. => Except Failure Value
  | kept .. => Option Decoded
  | deed _ => Outcome
  | due => List Refresher
  | beginRefresh _ => Option RegistryId
  | eventCount => Nat
  | use _ | observe .. | keep .. | finished .. | endRefresh _ => Unit

end Action

namespace Session

/-- A script without commands. -/
def silence : Script := ⟨"", []⟩

/-- Asks a source for the value of a key. -/
def lookup (s : Session) (n : SourceId) (key : String) :
    (Except Failure (Option String) × Script) × Session :=
  match s.sources[n]? with
  | none => ((.ok none, silence), s)
  | some (.builtin p) =>
    let (result, p, host) := p.lookup s.host key
    ((result, silence), { s.setSource n (.builtin p) with host := host })
  | some (.scripted p) =>
    let (result, commands, p) := p.lookup key
    ((result, ⟨p.id ++ ":lookup", commands⟩), s.setSource n (.scripted p))

/-- Asks a source for all that it has. -/
def snapshot (s : Session) (n : SourceId) :
    (Except Failure Snapshot × Script) × Session :=
  match s.sources[n]? with
  | none => ((.ok .empty, silence), s)
  | some (.builtin p) =>
    let (result, p, host) := p.snapshot s.host
    ((result, silence), { s.setSource n (.builtin p) with host := host })
  | some (.scripted p) =>
    let (result, commands, p) := p.snapshot
    ((result, ⟨p.id ++ ":snapshot", commands⟩), s.setSource n (.scripted p))

/-- Calls a listener. -/
def deliver (s : Session) (n : Nat) (resolved : Option Resolved) : Script × Session :=
  match s.listeners[n]? with
  | none => (silence, s)
  | some (.script script) => (script, s.emit (.delivered n script.owner resolved))
  | some (.follower id converter default) =>
    (silence, s.emit <|
      match resolved with
      | none => .updated n id default
      | some r =>
        match converter.decode r.value with
        | .ok v => .updated n id v
        | .error e => .refused n id e)

/-- What a handle keeps from a generation. -/
def kept? (s : Session) (n : HandleId) (generation : Nat) : Option Decoded :=
  match (s.handles[n]?).bind (·.kept) with
  | some (g, d) => if g = generation then some d else none
  | none => none

/-- Lets a handle keep what was decoded from a generation, unless it keeps something later. -/
def keep (s : Session) (n : HandleId) (generation : Nat) (d : Decoded) : Session :=
  { s with
    handles := s.handles.modify n fun h =>
      match h.kept with
      | some (g, _) => if g < generation then { h with kept := some (generation, d) } else h
      | none => { h with kept := some (generation, d) } }

/-- The longest time that anything is waited for. -/
def patience : Timespan := .ofSecs 4

/-- What refreshes a registry if it is waited for. -/
def due (s : Session) : List Refresher :=
  ((List.range s.schedulers.length).filter fun n =>
    (s.schedulers[n]?).any (·.scheduler.isDue patience)).map .scheduler ++
  ((List.range s.watches.length).filter fun n => (s.watches[n]?).any (·.watch.isDue)).map .watch

/-- A refresh in the background begins, if it is still to be. -/
def beginRefresh (s : Session) : Refresher → Option RegistryId × Session
  | .scheduler n =>
    match s.schedulers[n]? with
    | none => (none, s)
    | some r =>
      if r.scheduler.isDue patience then (some r.registry, s.changeScheduler n Scheduler.begin)
      else (none, s)
  | .watch n =>
    match s.watches[n]? with
    | none => (none, s)
    | some w =>
      if w.watch.isDue then
        (some w.registry,
          { s with watches := s.watches.modify n fun w => { w with watch := w.watch.begin } })
      else (none, s)

/-- A refresh in the background is over. -/
def endRefresh (s : Session) : Refresher → Session
  | .scheduler n => s.changeScheduler n Scheduler.finish
  | .watch n =>
    { s with watches := s.watches.modify n fun w => { w with watch := w.watch.finish } }

/-- Takes an action, if it can be taken. -/
def take : (a : Action) → Session → Option (a.Answer × Session)
  | .registry n a, s =>
    match s.registries[n]? with
    | none => none
    | some r =>
      (r.take a).map fun (answer, r) => (answer, { s with registries := s.registries.set n r })
  | .current, s => some (s.current, s)
  | .addRegistry, s =>
    some (s.registries.length, { s with registries := s.registries ++ [{}] })
  | .use n, s => some ((), { s with current := n })
  | .build id order, s =>
    match s.build id order with
    | (.error outcome, s) => some (.error outcome, s)
    | (.ok p, s) => some (.ok s.sources.length, s.addSource id p)
  | .create t, s =>
    match Source.create t s.host with
    | .error e => some (.error e, s)
    | .ok p =>
      some (.ok s.sources.length, { s with sources := s.sources ++ [.builtin p] })
  | .source id, s => some ((s.source? id).map (·.1), s)
  | .describe n, s =>
    some (((s.sources[n]?).map fun p => (p.name, p.isMutable)).getD ("", false), s)
  | .lookup n key, s => some (s.lookup n key)
  | .snapshot n, s => some (s.snapshot n)
  | .observe c e, s => some ((), s.emit (.observed c e))
  | .deliver n resolved, s => some (s.deliver n resolved)
  | .binding id, s => some ((s.handle? id).map (·.binding), s)
  | .decode b raw _, s => some (b.converter.decode raw, s)
  | .kept n generation, s => some (s.kept? n generation, s)
  | .keep n generation d, s => some ((), s.keep n generation d)
  | .deed d, s => some (s.carryOut d)
  | .finished owner command outcome, s =>
    some ((), s.emit (.finished owner command outcome))
  | .due, s => some (s.due, s)
  | .beginRefresh r, s => some (s.beginRefresh r)
  | .endRefresh r, s => some ((), s.endRefresh r)
  | .eventCount, s => some (s.events.length, s)

end Session

/-! ### Tasks -/

/-- A step of a task. -/
inductive TaskStep where
  | act (a : Action)
  | run (script : Script)

/-- What a step of a task answers. -/
@[reducible] def TaskStep.Answer : TaskStep → Type
  | .act a => a.Answer
  | .run _ => Unit

/-- A program of actions in a session. -/
abbrev Task (α : Type) := Program TaskStep.Answer α

/-- The task of one action. -/
def act (a : Action) : Task a.Answer := Program.act (TaskStep.act a)

/-- The task of one action on a registry. -/
def ask (r : RegistryId) (a : RegistryAction) : Task a.Answer := act (.registry r a)

/-- The task to run a script, if there is anything in it. -/
def run (script : Script) : Task Unit :=
  if script.commands.isEmpty then .done () else Program.act (TaskStep.run script)

end Strata
