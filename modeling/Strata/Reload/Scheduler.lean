import Strata.Timespan

/-!
Schedulers: a worker refreshes a registry at regular intervals until it is told to stop. The worker
that counts is kept in a slot. To stop means to take the worker out of the slot, to tell it, and to
wait for its end, unless the call is made on that worker's own thread, by a listener of a refresh.
To start means to stop, to spawn a worker and to place it in the slot; a worker that another call
has placed there in the meantime is told to stop as well. To drop a scheduler means to stop it for
good.

Calls are made of moves, each of them one instant, and the moves of several calls and the steps of
workers happen in any order. `Scheduler.step` says what can happen next.
-/

namespace Strata

/-- What a worker does. -/
inductive WorkerPhase where
  | waiting
  | refreshing
  | exited
  deriving DecidableEq, Repr

/-- A worker: the time between its refreshes, and whether it has been told to stop. -/
structure Worker where
  interval : Timespan
  isTold : Bool := false
  phase : WorkerPhase := .waiting
  deriving DecidableEq, Repr

/-- A part of a call that happens in one instant. Workers are known by their numbers. -/
inductive SchedulerMove where
  | take
  | tell (worker : Nat)
  | join (worker : Nat)
  | spawn (interval : Timespan)
  | place (worker : Nat)
  deriving DecidableEq, Repr

/-- A call: the worker on whose thread it is made, if it is one, and the moves that are left. -/
structure SchedulerCall where
  caller : Option Nat
  moves : List SchedulerMove
  deriving DecidableEq, Repr

/-- The state of a scheduler. Workers are numbered in the order of their beginning, and calls in
the order in which they were made. -/
structure Scheduler where
  slot : Option Nat := none
  workers : List Worker := []
  calls : List SchedulerCall := []
  isDropped : Bool := false
  deriving DecidableEq, Repr

namespace Scheduler

/-- Whether the scheduler is at work. -/
def isRunning (s : Scheduler) : Bool := s.slot.isSome

/-- The phase of a worker. -/
def phase? (s : Scheduler) (worker : Nat) : Option WorkerPhase :=
  s.workers[worker]?.map (·.phase)

/-- Changes a worker. -/
def update (s : Scheduler) (worker : Nat) (f : Worker → Worker) : Scheduler :=
  { s with workers := s.workers.modify worker f }

/-- Sets the phase of a worker. -/
def enter (s : Scheduler) (worker : Nat) (phase : WorkerPhase) : Scheduler :=
  s.update worker fun w => { w with phase := phase }

/-! ### Calls -/

/-- The moves of a call to stop. -/
def stopMoves : List SchedulerMove := [.take]

/-- The moves of a call to start. -/
def startMoves (interval : Timespan) : List SchedulerMove := [.take, .spawn interval]

/-- The moves that shut a worker down. -/
def shutDown : Option Nat → List SchedulerMove
  | none => []
  | some worker => [.tell worker, .join worker]

/-- Makes a move, which may bring further moves with it. To join a worker means to wait for its
exit. -/
def make (s : Scheduler) (caller : Option Nat) :
    SchedulerMove → Option (List SchedulerMove × Scheduler)
  | .take => some (shutDown s.slot, { s with slot := none })
  | .tell worker => some ([], s.update worker fun w => { w with isTold := true })
  | .join worker =>
    if caller = some worker ∨ s.phase? worker = some .exited then some ([], s) else none
  | .spawn interval =>
    some ([.place s.workers.length], { s with workers := s.workers ++ [{ interval := interval }] })
  | .place worker => some (shutDown s.slot, { s with slot := some worker })

/-- Whether a call is being made on the thread of a worker. -/
def isCalling (s : Scheduler) (worker : Nat) : Bool :=
  s.calls.any fun c => c.caller = some worker && !c.moves.isEmpty

/-- Whether no call is in progress. -/
def isQuiet (s : Scheduler) : Bool := s.calls.all fun c => c.moves.isEmpty

/-! ### What can happen -/

/-- What can happen to a scheduler in one instant: a call is made, a call makes its next move or is
refused a thread for a worker, or a worker begins a refresh, finishes it, or exits. -/
inductive Step where
  | start (caller : Option Nat) (interval : Timespan)
  | stop (caller : Option Nat)
  | drop (caller : Option Nat)
  | move (call : Nat)
  | refuse (call : Nat)
  | begin (worker : Nat)
  | finish (worker : Nat)
  | quit (worker : Nat)
  deriving DecidableEq, Repr

/-- Whether a thread can make a call. A worker's thread can do so in the midst of a refresh. Nobody
can who calls a scheduler that has been dropped. -/
def canCall (s : Scheduler) : Option Nat → Bool
  | none => !s.isDropped
  | some worker =>
    !s.isDropped && s.phase? worker = some .refreshing && !s.isCalling worker

/-- Enters a call. -/
def enterCall (s : Scheduler) (caller : Option Nat) (moves : List SchedulerMove) : Scheduler :=
  { s with calls := s.calls ++ [⟨caller, moves⟩] }

/-- The scheduler after a step, if the step can happen. A call to start with an empty interval is
refused at once, and one that gets no thread for its worker has no worker to place. A scheduler is
dropped when no call is in progress. A worker that is told to stop exits when it waits, but it may
begin another refresh before. -/
def step (s : Scheduler) : Step → Option Scheduler
  | .start caller interval =>
    if !s.canCall caller then none
    else if interval.isZero then some s
    else some (s.enterCall caller (startMoves interval))
  | .stop caller => if s.canCall caller then some (s.enterCall caller stopMoves) else none
  | .drop caller =>
    if s.canCall caller && s.isQuiet then
      some ({ s with isDropped := true }.enterCall caller stopMoves)
    else none
  | .move i =>
    match s.calls[i]? with
    | some ⟨caller, move :: rest⟩ =>
      (s.make caller move).map fun (more, s) =>
        { s with calls := s.calls.set i ⟨caller, more ++ rest⟩ }
    | _ => none
  | .refuse i =>
    match s.calls[i]? with
    | some ⟨caller, .spawn _ :: rest⟩ => some { s with calls := s.calls.set i ⟨caller, rest⟩ }
    | _ => none
  | .begin worker =>
    if s.phase? worker = some .waiting then some (s.enter worker .refreshing) else none
  | .finish worker =>
    if s.phase? worker = some .refreshing && !s.isCalling worker then some (s.enter worker .waiting)
    else none
  | .quit worker =>
    match s.workers[worker]? with
    | some w => if w.phase = .waiting && w.isTold then some (s.enter worker .exited) else none
    | none => none

/-- The scheduler after steps, if they can happen one after the other. -/
def steps (s : Scheduler) : List Step → Option Scheduler
  | [] => some s
  | e :: rest => (s.step e).bind fun s => steps s rest

/-! ### Calls without interruption -/

/-- The steps that bring the last call to its end when nothing else happens but the exit of a
worker that is waited for. -/
def settleLast (s : Scheduler) : Nat → Scheduler
  | 0 => s
  | n + 1 =>
    match s.calls.getLast? with
    | some ⟨caller, .join worker :: _⟩ =>
      let s := if caller = some worker then s else (s.step (.quit worker)).getD s
      ((s.step (.move (s.calls.length - 1))).getD s).settleLast n
    | some ⟨_, _ :: _⟩ => ((s.step (.move (s.calls.length - 1))).getD s).settleLast n
    | _ => s

/-- The greatest number of moves that a call has when nothing interrupts it. -/
def maxMoves : Nat := 7

/-- The worker in the midst of a refresh, if there is one. -/
def active? (s : Scheduler) : Option Nat :=
  s.workers.findIdx? (·.phase = .refreshing)

/-- A whole call to start. It is made on the thread of the worker that is refreshing, if one is. -/
def start (s : Scheduler) (interval : Timespan) : Scheduler :=
  ((s.step (.start s.active? interval)).map (·.settleLast maxMoves)).getD s

/-- A whole call to stop. It is made on the thread of the worker that is refreshing, if one is. -/
def stop (s : Scheduler) : Scheduler :=
  ((s.step (.stop s.active?)).map (·.settleLast maxMoves)).getD s

/-- A whole call that drops the scheduler. It is made on the thread of the worker that is
refreshing, if one is. -/
def drop (s : Scheduler) : Scheduler :=
  ((s.step (.drop s.active?)).map (·.settleLast maxMoves)).getD s

/-- Whether the worker that counts refreshes within a time. -/
def isDue (s : Scheduler) (time : Timespan) : Bool :=
  match s.slot.bind fun worker => s.workers[worker]? with
  | some w => w.phase = .waiting && !w.isTold && w.interval.totalNanos < time.totalNanos
  | none => false

/-- The worker that counts begins a refresh. -/
def begin (s : Scheduler) : Scheduler :=
  (s.slot.bind fun worker => s.step (.begin worker)).getD s

/-- The refresh is over, and its worker exits if it has been told to. -/
def finish (s : Scheduler) : Scheduler :=
  match s.active? with
  | none => s
  | some worker =>
    let s := (s.step (.finish worker)).getD s
    (s.step (.quit worker)).getD s

end Scheduler

end Strata
