/-!
Programs of atomic actions. A program is finished with a result, or it takes an action and goes on
with the answer. What an action does is left to those who run programs, so that several programs
may be run in turns, one action at a time.
-/

namespace Strata

/-- A program whose actions have answers of the given types. -/
inductive Program {Action : Type} (Answer : Action → Type) (α : Type) where
  | done (a : α)
  | step (action : Action) (next : Answer action → Program Answer α)

namespace Program

variable {Action : Type} {Answer : Action → Type} {α β γ : Type}

/-- The program of one action. -/
def act (action : Action) : Program Answer (Answer action) := .step action .done

/-- Goes on with a program that depends on the result of another one. -/
def bind : Program Answer α → (α → Program Answer β) → Program Answer β
  | .done a, f => f a
  | .step action next, f => .step action fun answer => (next answer).bind f

instance : Monad (Program Answer) where
  pure := .done
  bind := bind

@[simp] theorem pure_eq_done (a : α) : (pure a : Program Answer α) = done a := rfl

@[simp] theorem bind_eq_bind (p : Program Answer α) (f : α → Program Answer β) :
    (p >>= f) = p.bind f := rfl

@[simp] theorem done_bind (a : α) (f : α → Program Answer β) : (done a).bind f = f a := rfl

@[simp] theorem step_bind (action : Action) (next : Answer action → Program Answer α)
    (f : α → Program Answer β) :
    (step action next).bind f = .step action fun answer => (next answer).bind f := rfl

theorem bind_done (p : Program Answer α) : p.bind done = p := by
  induction p with
  | done a => rfl
  | step action next ih => exact congrArg (step action) (funext ih)

theorem bind_assoc (p : Program Answer α) (f : α → Program Answer β)
    (g : β → Program Answer γ) : (p.bind f).bind g = p.bind fun a => (f a).bind g := by
  induction p with
  | done a => rfl
  | step action next ih => exact congrArg (step action) (funext ih)

instance : LawfulMonad (Program Answer) :=
  LawfulMonad.mk' _ (fun p => bind_done p) (fun _ _ => rfl) (fun p f g => bind_assoc p f g)

/-- Takes the actions of a list of items one after the other. -/
def forAll {ι : Type} (f : ι → Program Answer Unit) : List ι → Program Answer Unit
  | [] => .done ()
  | i :: rest => (f i).bind fun _ => forAll f rest

end Program

end Strata
