import Strata.Operation.Build
import Strata.Operation.Group

/-!
The tasks of commands, and how a session runs them. A script that an action brings up is run before
the task goes on; scripts within scripts are run up to a given depth.
-/

namespace Strata

namespace Command

/-- Goes on with the source of an id. -/
def withSource (id : String) (f : SourceId → Task Outcome) : Task Outcome := do
  match ← act (.source id) with
  | none => return .unknownId id
  | some source => f source

/-- Goes on with the handle of an id. -/
def withBinding (id : String) (f : Binding → Task Outcome) : Task Outcome := do
  match ← act (.binding id) with
  | none => return .unknownId id
  | some b => f b

/-- Goes on with the handles of ids. -/
def withBindings (ids : List String) (f : List Binding → Task Outcome) : Task Outcome :=
  match ids with
  | [] => f []
  | id :: rest => withBinding id fun b => withBindings rest fun bs => f (b :: bs)

/-- Registers a source in the current registry. The outcome is given if that succeeds. -/
def registerCurrent (source : SourceId) (priority : Int) (outcome : Outcome) : Task Outcome := do
  let r : RegistryId ← act .current
  return .ofExcept (fun _ => outcome) (← r.register source priority)

/-- Makes a source, and registers it if it has a priority. -/
def makeSource (id : String) (order : SourceOrder Command) (priority : Option Int) :
    Task Outcome := do
  match ← act (.build id order) with
  | .error outcome => return outcome
  | .ok source => do
    let (name, isMutable) ← act (.describe source)
    match priority with
    | some priority => registerCurrent source priority (.source name isMutable)
    | none => return .source name isMutable

/-- Replaces the current registry by one that a text declares. -/
def replaceRegistry (form : Config.Notation) (text : String) : Task Outcome :=
  match Config.Registry.parse form text with
  | none => return .unreadable
  | some c => do
    match ← RegistryId.build c with
    | .error e => return .failure e
    | .ok r => do
      act (.use r)
      return .nothing

/-- Asks a handle. -/
def askHandle (b : Binding) : HandleQuery → Task Outcome
  | .get => return .ofExcept (fun v => .value (some v)) (← b.get)
  | .orDefault => return .value (some (← b.getOrDefault))
  | .required => return .ofExcept (fun v => .value (some v)) (← b.getRequired)
  | .value => return .ofExcept .value (← b.value)
  | .resolved => return .resolved (← b.resolved)

/-! ### Waiting -/

/-- Lets everything that is due in the background refresh its registry. -/
def refreshDue : List Refresher → Task Unit :=
  Program.forAll fun x => do
    match ← act (.beginRefresh x) with
    | none => return ()
    | some r => do
      let _ ← RegistryId.refresh r
      act (.endRefresh x)

/-- Waits for what is due in the background, and then asks a question. -/
def afterDue (question : Task Outcome) : Task Outcome := do
  refreshDue (← act .due)
  question

/-- Whether the current registry resolves a key to a text. -/
def holds (key : String) (value : Option String) : Task Outcome := do
  let r : RegistryId ← act .current
  return .flag ((← r.getText key) = value)

/-- Whether a scheduler has stopped. -/
def hasStopped (id : String) : Task Outcome := do
  match ← act (.deed (.isRunning id)) with
  | .flag b => return .flag !b
  | outcome => return outcome

/-! ### All commands -/

/-- The task of a command. -/
def task : Command → Task Outcome
  | .deed d => act (.deed d)
  | .make id order priority => makeSource id order priority
  | .lookup id key => withSource id fun source => do
    return .ofExcept .text (← lookUp source key)
  | .snapshot id => withSource id fun source => do
    return .ofExcept .table (← takeSnapshot source)
  | .register id priority => withSource id fun source => registerCurrent source priority .nothing
  | .configure form text => replaceRegistry form text
  | .resolve key => do
    let r : RegistryId ← act .current
    return .resolved (← r.resolve key)
  | .resolveRequired key => do
    let r : RegistryId ← act .current
    return .ofExcept (fun x => .resolved (some x)) (← r.resolveRequired key)
  | .getText key => do
    let r : RegistryId ← act .current
    return .text (← r.getText key)
  | .get key kind => do
    let r : RegistryId ← act .current
    return .ofExcept .value (← r.get key kind.converter)
  | .invalidate key => do
    let r : RegistryId ← act .current
    ask r (.invalidate key)
    return .nothing
  | .refresh => do
    let r : RegistryId ← act .current
    return .report (← r.refresh)
  | .handle id query => withBinding id fun b => askHandle b query
  | .readGroup ids => withBindings ids fun bs => do
    return .ofExcept .values (← Binding.getGroup bs)
  | .renderGroup ids template => withBindings ids fun bs => do
    return .ofExcept (fun s => .text (some s)) (← Binding.renderGroup bs template)
  | .await key value => afterDue (holds key value)
  | .awaitStop id => afterDue (hasStopped id)
  | .awaitEvents count => afterDue do return .flag (count ≤ (← act .eventCount))

end Command

/-- The task of a script: its commands in order, each of them told of when it is finished. -/
def Script.task (s : Script) : Task Unit :=
  Program.forAll (fun c => do
    let outcome ← Command.task c
    act (.finished s.owner c.name outcome)) s.commands

/-! ### Running -/

namespace Task

variable {α : Type}

/-- Runs a task, given how scripts are run. There is no result if an action cannot be taken. -/
def runWith (runScript : Script → Session → Option Session) :
    Task α → Session → Option (α × Session)
  | .done a, s => some (a, s)
  | .step (.act action) next, s =>
    match s.take action with
    | none => none
    | some (answer, s) => runWith runScript (next answer) s
  | .step (.run script) next, s =>
    match runScript script s with
    | none => none
    | some s => runWith runScript (next ()) s

@[simp] theorem runWith_done (runScript : Script → Session → Option Session) (a : α)
    (s : Session) : runWith runScript (.done a) s = some (a, s) := rfl

/-- A program runs like its first part, and then like what follows on the result. -/
theorem runWith_bind {β : Type} (runScript : Script → Session → Option Session) (t : Task α)
    (f : α → Task β) : ∀ s : Session, runWith runScript (t.bind f) s =
      (runWith runScript t s).bind fun r => runWith runScript (f r.1) r.2 := by
  induction t with
  | done a => exact fun s => rfl
  | step step next ih =>
    intro s
    cases step with
    | act action =>
      cases h : s.take action with
      | none => simp [runWith, h]
      | some r => simp [runWith, h, ih]
    | run script =>
      cases h : runScript script s with
      | none => simp [runWith, h]
      | some s' => simp [runWith, h, ih]

end Task

namespace Session

/-- Runs a script in which scripts are nested to less than the given depth. -/
def runScript : Nat → Script → Session → Option Session
  | 0, _, _ => none
  | n + 1, script, s => (script.task.runWith (runScript n) s).map (·.2)

/-- The depth to which scripts are nested. -/
def maxDepth : Nat := 1000

/-- Runs a task. There is no result if the task waits for a lock that it holds itself, or if
scripts nest too deeply. -/
def run {α : Type} (s : Session) (t : Task α) : Option (α × Session) :=
  t.runWith (runScript maxDepth) s

/-- What is seen of a command: its outcome, the events in order, the epoch of the cache and the
number of keys in it. -/
structure Step where
  outcome : Outcome
  events : List Event
  epoch : Nat
  cached : Nat

/-- Carries out commands. The events of each are those since the one before. -/
def perform (s : Session) : List Command → Option (List Step × Session)
  | [] => some ([], s)
  | c :: rest => do
    let (outcome, s') ← s.run c.task
    let cache := s'.registry.cache
    let events := (s'.events.take (s'.events.length - s.events.length)).reverse
    let (steps, last) ← perform s' rest
    return (⟨outcome, events, cache.epoch, cache.entries.size⟩ :: steps, last)

end Session

end Strata
