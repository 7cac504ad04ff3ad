import Strata.Failure
import Strata.Host.Files

/-!
Watches on files: a thread refreshes a registry after the file has changed. For each change in the
directory of the file the host sends a message, and messages that have come wait in a queue. When
the thread receives one that concerns the file it sleeps for a while, throws away all messages that
have come in the meantime, and refreshes. `FileWatch.step` says what can happen next.
-/

namespace Strata

/-! ### Messages -/

/-- What a message says has happened. -/
inductive WatchEventKind where
  | any
  | access
  | create
  | modify
  | remove
  | other
  deriving DecidableEq, Repr

/-- Whether something may be different after what has happened. -/
def WatchEventKind.isChange : WatchEventKind → Bool
  | .create | .modify | .remove => true
  | .any | .access | .other => false

/-- What the host sends: that something has happened at paths, or that it cannot watch. -/
inductive WatchMessage where
  | event (kind : WatchEventKind) (paths : List String)
  | failure (reason : String)
  deriving DecidableEq, Repr

/-- Whether a message says that a file of a name has been created, changed or removed. -/
def WatchMessage.concerns (m : WatchMessage) (name : String) : Bool :=
  match m with
  | .event kind paths => kind.isChange && paths.any fun p => Path.fileName? p = some name
  | .failure _ => false

/-! ### Watches -/

/-- What the thread of a watch does. When it reports it tells the observer of the registry of a
failure. -/
inductive WatchPhase where
  | waiting
  | reporting (circumstance : Circumstance) (failure : Failure)
  | sleeping
  | draining
  | ready
  | refreshing
  | exited
  deriving DecidableEq, Repr

/-- Whether the thread has received a message that concerns the file and has yet to refresh. -/
def WatchPhase.isDebouncing : WatchPhase → Bool
  | .sleeping | .draining | .ready => true
  | .waiting | .reporting .. | .refreshing | .exited => false

/-- The state of a watch on the file of a path, which has a name: the messages that are under way
and those in the queue, the phase of the thread, whether the thread has been told to stop, and
whether there are no more messages to come. -/
structure FileWatch where
  path : String
  name : String
  underway : List WatchMessage := []
  queue : List WatchMessage := []
  phase : WatchPhase := .waiting
  isTold : Bool := false
  isClosed : Bool := false
  deriving DecidableEq, Repr

namespace FileWatch

/-- What the thread does about a message. -/
def reaction (w : FileWatch) (m : WatchMessage) : WatchPhase :=
  match m with
  | .event .. => if m.concerns w.name then .sleeping else .waiting
  | .failure reason => .reporting (.watch w.path) (.file w.path (.stated reason))

/-- What can happen to a watch in one instant. Of what happens to it from outside, a change sets a
message under way, a message arrives, the thread is told to stop, or the host gives up. -/
inductive Step where
  | change (m : WatchMessage)
  | arrive (m : WatchMessage)
  | tell
  | close
  | receive
  | report
  | wake
  | drain
  | begin
  | finish
  | quit
  deriving DecidableEq, Repr

/-- The watch after a step, if the step can happen. Messages arrive in the order of the changes. The
thread may exit when it waits and has been told to stop, or has nothing to wait for. -/
def step (w : FileWatch) : Step → Option FileWatch
  | .change m => some { w with underway := w.underway ++ [m] }
  | .arrive m =>
    match w.underway with
    | next :: rest =>
      if w.isClosed || next ≠ m then none
      else some { w with underway := rest, queue := w.queue ++ [m] }
    | [] => none
  | .tell => some { w with isTold := true }
  | .close => some { w with isClosed := true }
  | .receive =>
    match w.phase, w.queue with
    | .waiting, m :: rest => some { w with queue := rest, phase := w.reaction m }
    | _, _ => none
  | .report =>
    match w.phase with
    | .reporting .. => some { w with phase := .waiting }
    | _ => none
  | .wake => if w.phase = .sleeping then some { w with phase := .draining } else none
  | .drain =>
    if w.phase ≠ .draining then none
    else
      match w.queue with
      | _ :: rest => some { w with queue := rest }
      | [] => some { w with phase := .ready }
  | .begin => if w.phase = .ready then some { w with phase := .refreshing } else none
  | .finish => if w.phase = .refreshing then some { w with phase := .waiting } else none
  | .quit =>
    if w.phase = .waiting && (w.isTold || (w.isClosed && w.queue.isEmpty)) then
      some { w with phase := .exited, isClosed := true }
    else none

/-- The watch after steps, if they can happen one after the other. -/
def steps (w : FileWatch) : List Step → Option FileWatch
  | [] => some w
  | e :: rest => (w.step e).bind fun w => steps w rest

/-! ### The thread on its own -/

/-- The steps of the thread that empty a queue and begin a refresh. -/
def untilEmpty (queue : List WatchMessage) : List Step :=
  List.replicate (queue.length + 1) .drain ++ [.begin]

/-- The steps of the thread, from waiting on, up to the refresh for the first message in a queue
that concerns the file of a name. -/
def untilReceived (name : String) : List WatchMessage → List Step
  | [] => []
  | .event kind paths :: rest =>
    if (WatchMessage.event kind paths).concerns name then .receive :: .wake :: untilEmpty rest
    else .receive :: untilReceived name rest
  | .failure _ :: rest => .receive :: .report :: untilReceived name rest

/-- The steps of the thread up to its next refresh if nothing happens from outside. -/
def untilRefresh (w : FileWatch) : List Step :=
  match w.phase with
  | .waiting => untilReceived w.name w.queue
  | .reporting .. => .report :: untilReceived w.name w.queue
  | .sleeping => .wake :: untilEmpty w.queue
  | .draining => untilEmpty w.queue
  | .ready => [.begin]
  | .refreshing => .finish :: untilReceived w.name w.queue
  | .exited => []

/-- Whether the thread is about to refresh. -/
def isDue (w : FileWatch) : Bool := w.phase = .waiting && w.queue.any (·.concerns w.name)

/-- Something changes, and all messages arrive. -/
def announce (w : FileWatch) (m : WatchMessage) : FileWatch :=
  (w.steps (.change m :: (w.underway ++ [m]).map .arrive)).getD w

/-- The thread goes on until it begins a refresh. -/
def begin (w : FileWatch) : FileWatch := (w.steps w.untilRefresh).getD w

/-- The thread exits if it can. -/
def settle (w : FileWatch) : FileWatch := (w.step .quit).getD w

/-- The refresh is over, and the thread exits if it has been told to. -/
def finish (w : FileWatch) : FileWatch := ((w.step .finish).getD w).settle

/-- The thread is told to stop, and exits when it waits. -/
def stop (w : FileWatch) : FileWatch := ((w.step .tell).getD w).settle

end FileWatch

end Strata
