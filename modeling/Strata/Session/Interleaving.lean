import Strata.Session.Perform

/-!
Tasks that take turns. Several tasks work in one session; in each instant one of them takes its
next action, and the others stay as they are. A script is taken up in place: its task is put in
front of what the task does next.
-/

namespace Strata

/-- A session and the tasks that work in it. -/
structure Machine (α : Type) where
  session : Session
  tasks : List (Task α)

namespace Task

variable {α : Type}

/-- What is left of a task after its next step, and the session after it. -/
def advance (s : Session) : Task α → Option (Task α × Session)
  | .done _ => none
  | .step (.act action) next => (s.take action).map fun (answer, s) => (next answer, s)
  | .step (.run script) next => some (script.task.bind next, s)

end Task

/-- The next step of a task that is not done. -/
def Task.pending? {α : Type} : Task α → Option TaskStep
  | .done _ => none
  | .step step _ => some step

namespace Machine

variable {α : Type}

/-- The next step of the task of the given number. -/
def advance (m : Machine α) (i : Nat) : Option (Machine α) :=
  match m.tasks[i]? with
  | none => none
  | some t => (t.advance m.session).map fun (t, s) => ⟨s, m.tasks.set i t⟩

/-- A step that is taken: by which task, and in which session. -/
structure Moment where
  task : Nat
  step : TaskStep
  session : Session

/-- A run from one machine to another, with what happens on the way, the last moment first. -/
inductive Run (m : Machine α) : List Moment → Machine α → Prop where
  | start : Run m [] m
  | step {moments : List Moment} {m₁ m₂ : Machine α} {i : Nat} {step : TaskStep} :
    Run m moments m₁ → (m₁.tasks[i]?).bind Task.pending? = some step →
    m₁.advance i = some m₂ →
    Run m (⟨i, step, m₁.session⟩ :: moments) m₂

end Machine

end Strata
