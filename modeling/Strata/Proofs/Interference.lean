import Strata.Proofs.Exclusion
import Strata.Proofs.Runs

/-!
Runs of a task amid what else happens. A run is told by the steps that the task takes itself. Before
and after each of them the session may change, be it by scripts that the task runs or by other
tasks, as far as a relation allows.

Main statements: a run on its own is such a run if what scripts do is allowed (`amid_of_runs`), and
what a task of a machine does is such a run if everything is allowed (`goes_of_run`).
-/

namespace Strata

open Machine

namespace Task

variable {α β : Type} {E : Session → Session → Prop} {i : Nat}

/-- A task with a number runs from one session to another and gives a result, while the session
changes as a relation allows. Only its own steps are told, the last one first. -/
inductive Amid (E : Session → Session → Prop) (i : Nat) :
    Task α → Session → List Moment → α → Session → Prop where
  | done {s s' : Session} (a : α) : E s s' → Amid E i (.done a) s [] a s'
  | act {action : Action} {answer : action.Answer} {next : action.Answer → Task α}
    {s s₁ s₂ s' : Session} {a : α} {own : List Moment} :
    E s s₁ → s₁.take action = some (answer, s₂) → Amid E i (next answer) s₂ own a s' →
    Amid E i (.step (.act action) next) s (own ++ [⟨i, .act action, s₁⟩]) a s'
  | run {script : Script} {next : Unit → Task α} {s s₁ s' : Session} {a : α} {own : List Moment} :
    E s s₁ → Amid E i (next ()) s₁ own a s' → Amid E i (.step (.run script) next) s own a s'

/-! ### Parts of a run -/

theorem amid_done {a b : α} {s s' : Session} {own : List Moment} :
    Amid E i (.done a) s own b s' ↔ own = [] ∧ a = b ∧ E s s' := by
  constructor
  · rintro (⟨_, h⟩)
    exact ⟨rfl, rfl, h⟩
  · rintro ⟨rfl, rfl, h⟩
    exact .done a h

theorem amid_act {a : Action} {answer : a.Answer} {s s' : Session} {own : List Moment} :
    Amid E i (Strata.act a) s own answer s' ↔ ∃ s₁ s₂, E s s₁ ∧ s₁.take a = some (answer, s₂) ∧
      E s₂ s' ∧ own = [⟨i, .act a, s₁⟩] := by
  constructor
  · intro h
    cases h with
    | act h htake hdone =>
      obtain ⟨rfl, rfl, h'⟩ := amid_done.1 hdone
      exact ⟨_, _, h, htake, h', rfl⟩
  · rintro ⟨s₁, s₂, h, htake, h', rfl⟩
    exact .act h htake (.done answer h')

/-- An action on a registry is taken by the registry alone. -/
theorem amid_ask {r : RegistryId} {b : RegistryAction} {answer : b.Answer} {s s' : Session}
    {own : List Moment} :
    Amid E i (ask r b) s own answer s' ↔ ∃ s₁ reg reg', E s s₁ ∧ s₁.registries[r]? = some reg ∧
      reg.take b = some (answer, reg') ∧ E (s₁.setRegistry r reg') s' ∧
      own = [⟨i, .act (.registry r b), s₁⟩] := by
  rw [ask, amid_act]
  constructor
  · rintro ⟨s₁, _, h, htake, h', rfl⟩
    obtain ⟨reg, reg', hreg, hb, rfl⟩ := Session.exists_registry_take htake
    exact ⟨s₁, reg, reg', h, hreg, hb, h', rfl⟩
  · rintro ⟨s₁, reg, reg', h, hreg, hb, h', rfl⟩
    exact ⟨s₁, _, h, by rw [Session.take_registry hreg, hb]; rfl, h', rfl⟩

/-- Scripts that a task runs are not told. -/
theorem own_of_amid_run {script : Script} {u : Unit} {s s' : Session} {own : List Moment}
    (h : Amid E i (Strata.run script) s own u s') : own = [] := by
  rw [Strata.run] at h
  split at h
  · exact (amid_done.1 h).1
  · cases h with
    | run _ hdone => exact (amid_done.1 hdone).1

section Preorder

variable (hrefl : ∀ s, E s s) (htrans : ∀ s s₁ s₂, E s s₁ → E s₁ s₂ → E s s₂)

include hrefl in
/-- A sequence runs like its first part, and then like what follows on the result. -/
theorem exists_of_amid_bind {t : Task α} {f : α → Task β} {s s' : Session} {b : β}
    {own : List Moment} (h : Amid E i (t.bind f) s own b s') : ∃ a s₁ own₁ own₂,
      Amid E i t s own₁ a s₁ ∧ Amid E i (f a) s₁ own₂ b s' ∧ own = own₂ ++ own₁ := by
  induction t generalizing s own with
  | done a => exact ⟨a, s, [], own, .done a (hrefl s), h, (List.append_nil own).symm⟩
  | step step next ih =>
    cases step with
    | act action =>
      cases h with
      | act he htake hnext =>
        obtain ⟨a, s₁, own₁, own₂, h₁, h₂, rfl⟩ := ih _ hnext
        exact ⟨a, s₁, _, own₂, .act he htake h₁, h₂, List.append_assoc ..⟩
    | run script =>
      cases h with
      | run he hnext =>
        obtain ⟨a, s₁, own₁, own₂, h₁, h₂, rfl⟩ := ih _ hnext
        exact ⟨a, s₁, own₁, own₂, .run he h₁, h₂, rfl⟩

include htrans in
theorem Amid.after {t : Task α} {s s₁ s' : Session} {a : α} {own : List Moment} (he : E s s₁)
    (h : Amid E i t s₁ own a s') : Amid E i t s own a s' := by
  cases h with
  | done a h => exact .done a (htrans _ _ _ he h)
  | act h htake hnext => exact .act (htrans _ _ _ he h) htake hnext
  | run h hnext => exact .run (htrans _ _ _ he h) hnext

include htrans in
theorem Amid.bind {t : Task α} {f : α → Task β} {s s₁ s' : Session} {a : α} {b : β}
    {own₁ own₂ : List Moment} (h : Amid E i t s own₁ a s₁) (h' : Amid E i (f a) s₁ own₂ b s') :
    Amid E i (t.bind f) s (own₂ ++ own₁) b s' := by
  induction h with
  | done a he =>
    rw [List.append_nil]
    exact h'.after htrans he
  | act he htake _ ih =>
    rw [← List.append_assoc]
    exact .act he htake (ih h')
  | run he _ ih => exact .run he (ih h')

end Preorder

/-! ### What is a run amid others -/

/-- A run on its own, in which the scripts do what is allowed. -/
theorem amid_of_runs {S : ScriptRun} (hrefl : ∀ s, E s s)
    (hS : ∀ script s ms s', S script s ms s' → E s s') {t : Task α} {s s' : Session}
    {ms : List Moment} {a : α} (h : Runs S t s ms a s') :
    ∃ own, Amid E 0 t s own a s' ∧ own.Sublist ms := by
  induction h with
  | done a s => exact ⟨[], .done a (hrefl s), .slnil⟩
  | act htake _ ih =>
    obtain ⟨own, hown, hsub⟩ := ih
    exact ⟨_, .act (hrefl _) htake hown, hsub.append (.refl _)⟩
  | run hscript _ ih =>
    obtain ⟨own, hown, hsub⟩ := ih
    exact ⟨own, .run (hS _ _ _ _ hscript) hown, hsub.trans (List.sublist_append_left _ _)⟩

/-- The other tasks stay as they are when a task takes a step. -/
theorem tasks_advance_of_ne {m m' : Machine Unit} {j : Nat} {step : TaskStep}
    (hpend : (m.tasks[j]?).bind pending? = some step) (hadv : m.advance j = some m')
    (hj : j ≠ i) : m'.tasks[i]? = m.tasks[i]? := by
  rcases advance_cases hpend hadv with ⟨a, answer, next, s', -, -, -, rfl⟩ |
    ⟨script, next, -, -, rfl⟩
  · exact List.getElem?_set_ne hj
  · exact List.getElem?_set_ne hj

/-- After some moments of a machine a task is still at its first part, or it has come to what
follows on the result of that part. In the second case it has run the part amid whatever else
happened. -/
def Goes (i : Nat) (t : Task α) (f : α → Task Unit) (m : Machine Unit) (ms : List Moment)
    (m' : Machine Unit) : Prop :=
  (∃ t' : Task α, t'.pending?.isSome = true ∧ m'.tasks[i]? = some (t'.bind f)) ∨
  ∃ own a ms₁ m₁ ms₂, Amid (fun _ _ => True) i t m.session own a m₁.session ∧ own.Sublist ms₁ ∧
    m.Run ms₁ m₁ ∧ m₁.tasks[i]? = some (f a) ∧ m₁.Run ms₂ m' ∧ ms = ms₂ ++ ms₁

/-- What goes on after the first moments goes on from the beginning. -/
theorem Goes.ahead {t t' : Task α} {f : α → Task Unit} {m m₁ m' : Machine Unit}
    {first ms own₁ : List Moment} (h : Goes i t' f m₁ ms m') (hfirst : m.Run first m₁)
    (hsub : own₁.Sublist first)
    (hstep : ∀ own a s', Amid (fun _ _ => True) i t' m₁.session own a s' →
      Amid (fun _ _ => True) i t m.session (own ++ own₁) a s') : Goes i t f m (ms ++ first) m' := by
  rcases h with h | ⟨own, a, ms₁, m₂, ms₂, hown, hsub', hrun₁, ht, hrun₂, rfl⟩
  · exact .inl h
  · exact .inr ⟨_, a, ms₁ ++ first, m₂, ms₂, hstep _ _ _ hown, hsub'.append hsub,
      hfirst.trans hrun₁, ht, hrun₂, List.append_assoc ..⟩

/-- A task of a machine that begins with a part runs it amid whatever else happens. -/
theorem goes_of_run {α : Type} {m m' : Machine Unit} {ms : List Moment} {t : Task α}
    {f : α → Task Unit} (hrun : m.Run ms m') (ht : m.tasks[i]? = some (t.bind f)) :
    Goes i t f m ms m' := by
  cases t with
  | done a =>
    exact .inr ⟨[], a, [], m, ms, .done a trivial, .slnil, .start, ht, hrun,
      (List.append_nil ms).symm⟩
  | step step next =>
    rcases hrun.head with ⟨rfl, rfl⟩ | ⟨ms₀, j, step', m₁, rfl, hpend, hadv, hrest⟩
    · exact .inl ⟨_, rfl, ht⟩
    have hfirst : m.Run [⟨j, step', m.session⟩] m₁ := .step .start hpend hadv
    by_cases hj : i = j
    · subst hj
      obtain ⟨s, tasks⟩ := m
      obtain ⟨hlt, -⟩ := List.getElem?_eq_some_iff.1 ht
      rcases advance_cases hpend hadv with ⟨a, answer, next', s', htj, rfl, htake, rfl⟩ |
        ⟨script, next', htj, rfl, rfl⟩
      · cases htj.symm.trans ht
        have hgoes : Goes i (next answer) f _ ms₀ m' :=
          goes_of_run hrest (List.getElem?_set_self hlt)
        exact hgoes.ahead hfirst (.refl _) fun own a s'' hown => .act trivial htake hown
      · -- a script that is taken up is a part by itself
        cases htj.symm.trans ht
        have hscript : Goes i script.task (fun u => (next u).bind f) _ ms₀ m' :=
          goes_of_run hrest (List.getElem?_set_self hlt)
        rcases hscript with ⟨t', hpend', ht'⟩ |
            ⟨own, u, ms₁, m₂, ms₂, -, -, hrun₁, ht', hrun₂, rfl⟩
        · refine .inl ⟨t'.bind next, ?_, ?_⟩
          · cases t' with
            | done => cases hpend'
            | step => rfl
          · rw [Program.bind_assoc]
            exact ht'
        · have hgoes : Goes i (next u) f m₂ ms₂ m' := goes_of_run hrun₂ ht'
          have hahead := hgoes.ahead (t := .step (.run script) next) (hfirst.trans hrun₁)
            (List.nil_sublist _) fun own a s'' hown => by
              rw [List.append_nil]
              exact .run trivial hown
          rwa [← List.append_assoc] at hahead
    · have hgoes : Goes i (.step step next) f m₁ ms₀ m' :=
        goes_of_run hrest ((tasks_advance_of_ne hpend hadv (Ne.symm hj)).trans ht)
      refine hgoes.ahead hfirst (List.nil_sublist _) fun own a s' hown => ?_
      rw [List.append_nil]
      exact hown.after (fun _ _ _ _ _ => trivial) trivial
termination_by ms.length

end Task

end Strata
