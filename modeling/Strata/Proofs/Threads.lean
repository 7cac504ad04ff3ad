import Strata.Proofs.Exclusion

/-!
What one task does while others take turns with it. In a run of a machine the task of a number takes
the steps that are its own (`Task.Becomes`); a part of the task is carried out from one machine to
another (`Machine.Carries`), and the parts of a sequence are carried out one after the other
(`carries_bind`).
-/

namespace Strata

open Machine

variable {α β γ : Type} {i j : Nat}

/-- Moments at which the task of a number does nothing. -/
def Idle (i : Nat) (ms : List Moment) : Prop := ∀ e ∈ ms, e.task ≠ i

theorem idle_nil (i : Nat) : Idle i [] := fun _ he => absurd he List.not_mem_nil

theorem Idle.cons {ms : List Moment} {e : Moment} (h : Idle i ms) (he : e.task ≠ i) :
    Idle i (e :: ms) :=
  List.forall_mem_cons.2 ⟨he, h⟩

theorem Idle.append {ms ms' : List Moment} (h : Idle i ms) (h' : Idle i ms') :
    Idle i (ms' ++ ms) := fun e he =>
  (List.mem_append.1 he).elim (h' e) (h e)

theorem Idle.history_append {ms : List Moment} (h : Idle i ms) (earlier : List Moment) :
    history i (ms ++ earlier) = history i earlier := by
  have hfilter : ms.filter (·.task = i) = [] :=
    List.filter_eq_nil_iff.2 fun e he => by simpa using h e he
  rw [history, List.filter_append, hfilter, List.nil_append, history]

/-! ### What becomes of a task -/

namespace Task

/-- What becomes of a task in the moments of a run, the last of which comes first: it takes those
steps that are its own. -/
inductive Becomes (i : Nat) (t : Task α) : List Moment → Task α → Prop where
  | start : Becomes i t [] t
  | pass {ms : List Moment} {t' : Task α} {e : Moment} :
    Becomes i t ms t' → e.task ≠ i → Becomes i t (e :: ms) t'
  | step {ms : List Moment} {t' t'' : Task α} {step : TaskStep} {s s' : Session} :
    Becomes i t ms t' → t'.pending? = some step → t'.advance s = some (t'', s') →
    Becomes i t (⟨i, step, s⟩ :: ms) t''

variable {t t' t'' : Task α} {ms ms' : List Moment}

theorem becomes_of_idle (h : Idle i ms) : Becomes i t ms t := by
  induction ms with
  | nil => exact .start
  | cons e ms ih =>
    exact .pass (ih fun e he => h e (List.mem_cons_of_mem _ he)) (h e List.mem_cons_self)

theorem Becomes.trans (h : Becomes i t ms t') (h' : Becomes i t' ms' t'') :
    Becomes i t (ms' ++ ms) t'' := by
  induction h' with
  | start => exact h
  | pass _ he ih => exact .pass ih he
  | step _ hpend hadv ih => exact .step ih hpend hadv

theorem Becomes.split (h : Becomes i t (ms' ++ ms) t'') :
    ∃ t', Becomes i t ms t' ∧ Becomes i t' ms' t'' := by
  induction ms' generalizing t'' with
  | nil => exact ⟨t'', h, .start⟩
  | cons e ms' ih =>
    cases h with
    | pass h he =>
      obtain ⟨t', h₁, h₂⟩ := ih h
      exact ⟨t', h₁, .pass h₂ he⟩
    | step h hpend hadv =>
      obtain ⟨t', h₁, h₂⟩ := ih h
      exact ⟨t', h₁, .step h₂ hpend hadv⟩

/-- A task that is done takes no step. -/
theorem Becomes.of_done {a : α} (h : Becomes i (.done a) ms t') : t' = .done a ∧ Idle i ms := by
  induction h with
  | start => exact ⟨rfl, idle_nil i⟩
  | pass _ he ih => exact ⟨ih.1, ih.2.cons he⟩
  | step _ hpend _ ih =>
    rw [ih.1] at hpend
    cases hpend

/-- A task becomes one thing only. -/
theorem Becomes.unique {t₁ t₂ : Task α} (h₁ : Becomes i t ms t₁)
    (h₂ : Becomes i t ms t₂) : t₁ = t₂ := by
  induction h₁ generalizing t₂ with
  | start =>
    cases h₂
    rfl
  | pass _ he ih =>
    cases h₂ with
    | pass h₂ _ => exact ih h₂
    | step _ _ _ => exact absurd rfl he
  | step _ _ hadv ih =>
    cases h₂ with
    | pass _ he => exact absurd rfl he
    | step h₂ _ hadv' =>
      rw [← ih h₂, hadv] at hadv'
      exact (Prod.mk.inj (Option.some.inj hadv')).1

/-- The first part of a sequence is under way, or it has been carried out and what follows is. -/
theorem Becomes.bind_cases {f : α → Task β} {u : Task β} (h : Becomes i (t.bind f) ms u) :
    (∃ t', Becomes i t ms t' ∧ u = t'.bind f) ∨
      ∃ a ms₁ ms₂, ms = ms₂ ++ ms₁ ∧ Becomes i t ms₁ (.done a) ∧ Becomes i (f a) ms₂ u := by
  induction h with
  | start => exact .inl ⟨t, .start, rfl⟩
  | pass _ he ih =>
    rcases ih with ⟨t', h, rfl⟩ | ⟨a, ms₁, ms₂, rfl, h₁, h₂⟩
    · exact .inl ⟨t', .pass h he, rfl⟩
    · exact .inr ⟨a, ms₁, _ :: ms₂, rfl, h₁, .pass h₂ he⟩
  | @step ms u₁ u₂ step s s' _ hpend hadv ih =>
    rcases ih with ⟨t', h, rfl⟩ | ⟨a, ms₁, ms₂, rfl, h₁, h₂⟩
    · cases t' with
      | done a => exact .inr ⟨a, ms, [_], rfl, h, .step .start hpend hadv⟩
      | step step' next =>
        cases hpend
        left
        cases step with
        | act action =>
          simp only [Program.step_bind, advance, Option.map_eq_some_iff, Prod.mk.injEq] at hadv
          obtain ⟨⟨answer, s₁⟩, htake, rfl, rfl⟩ := hadv
          have hstep : advance s (.step (.act action) next) = some (next answer, s₁) := by
            simp [advance, htake]
          exact ⟨next answer, .step h rfl hstep, rfl⟩
        | run script =>
          simp only [Program.step_bind, advance, Option.some.injEq, Prod.mk.injEq] at hadv
          obtain ⟨rfl, rfl⟩ := hadv
          exact ⟨script.task.bind next, .step h rfl rfl, by rw [Program.bind_assoc]⟩
    · exact .inr ⟨a, ms₁, _ :: ms₂, rfl, h₁, .step h₂ hpend hadv⟩

theorem Becomes.of_bind_done {f : α → Task β} {b : β} (h : Becomes i (t.bind f) ms (.done b)) :
    ∃ a ms₁ ms₂, ms = ms₂ ++ ms₁ ∧ Becomes i t ms₁ (.done a) ∧ Becomes i (f a) ms₂ (.done b) := by
  rcases h.bind_cases with ⟨t', h, heq⟩ | h
  · cases t' with
    | done a => exact ⟨a, ms, [], rfl, h, by rw [Program.done_bind] at heq; rw [heq]; exact .start⟩
    | step step next => cases heq
  · exact h

theorem Becomes.bind (f : α → Task β) (h : Becomes i t ms t') :
    Becomes i (t.bind f) ms (t'.bind f) := by
  induction h with
  | start => exact .start
  | pass _ he ih => exact .pass ih he
  | @step ms u₁ u₂ step s s' _ hpend hadv ih =>
    cases u₁ with
    | done a => cases hpend
    | step step' next =>
      cases hpend
      have hbind : advance s ((Program.step step next).bind f) = some (u₂.bind f, s') := by
        cases step with
        | act action =>
          simp only [advance, Option.map_eq_some_iff, Prod.mk.injEq] at hadv
          obtain ⟨⟨answer, s₁⟩, htake, rfl, rfl⟩ := hadv
          simp [advance, htake]
        | run script =>
          simp only [advance, Option.some.injEq, Prod.mk.injEq] at hadv
          obtain ⟨rfl, rfl⟩ := hadv
          simp [advance, Program.bind_assoc]
      exact .step ih rfl hbind

/-- An action is still to be taken, or it was taken at a moment before which the task was idle. -/
theorem Becomes.act_cases {a : Action} {next : a.Answer → Task α}
    (h : Becomes i (.step (.act a) next) ms t') :
    (Idle i ms ∧ t' = .step (.act a) next) ∨ ∃ before after s answer s',
      ms = after ++ ⟨i, .act a, s⟩ :: before ∧ Idle i before ∧ s.take a = some (answer, s') ∧
      Becomes i (next answer) after t' := by
  induction h with
  | start => exact .inl ⟨idle_nil i, rfl⟩
  | pass _ he ih =>
    rcases ih with ⟨hidle, rfl⟩ | ⟨before, after, s, answer, s', rfl, hidle, htake, h⟩
    · exact .inl ⟨hidle.cons he, rfl⟩
    · exact .inr ⟨before, _ :: after, s, answer, s', rfl, hidle, htake, .pass h he⟩
  | @step ms u₁ u₂ step s s' _ hpend hadv ih =>
    rcases ih with ⟨hidle, rfl⟩ | ⟨before, after, s₁, answer, s₂, rfl, hidle, htake, h⟩
    · cases hpend
      simp only [advance, Option.map_eq_some_iff, Prod.mk.injEq] at hadv
      obtain ⟨⟨answer, s₁⟩, htake, rfl, rfl⟩ := hadv
      exact .inr ⟨ms, [], s, answer, s₁, rfl, hidle, htake, .start⟩
    · exact .inr ⟨before, _ :: after, s₁, answer, s₂, rfl, hidle, htake, .step h hpend hadv⟩

/-- What becomes of a task in the moments of a run is computed. There is nothing if it is done
before. -/
def after (i : Nat) (t : Task α) : List Moment → Option (Task α)
  | [] => some t
  | e :: ms => (t.after i ms).bind fun t' =>
    if e.task = i then (t'.advance e.session).map (·.1) else some t'

theorem Becomes.after_eq (h : Becomes i t ms t') : t.after i ms = some t' := by
  induction h with
  | start => rfl
  | pass _ he ih => rw [after, ih, Option.bind_some, if_neg he]
  | step _ _ hadv ih => rw [after, ih, Option.bind_some, if_pos rfl, hadv, Option.map_some]

theorem after_append (t : Task α) (ms ms' : List Moment) :
    t.after i (ms' ++ ms) = (t.after i ms).bind fun t' => t'.after i ms' := by
  induction ms' with
  | nil => simp [after]
  | cons e ms' ih => simp only [List.cons_append, after, ih, Option.bind_assoc]

theorem idle_of_after_done {a : α} (h : after i (.done a) ms = some t) :
    Idle i ms ∧ t = .done a := by
  induction ms generalizing t with
  | nil =>
    cases h
    exact ⟨idle_nil i, rfl⟩
  | cons e ms ih =>
    obtain ⟨t', ht', h⟩ := Option.bind_eq_some_iff.1 h
    obtain ⟨hidle, rfl⟩ := ih ht'
    split at h
    · simp [advance] at h
    · cases h
      exact ⟨hidle.cons ‹_›, rfl⟩

end Task

/-! ### Parts of runs -/

namespace Machine

open Strata.Task

variable {m m' m'' : Machine γ} {ms ms' part : List Moment}

theorem Run.split (h : m.Run (ms' ++ ms) m'') : ∃ m', m.Run ms m' ∧ m'.Run ms' m'' := by
  induction ms' generalizing m'' with
  | nil => exact ⟨m'', h, .start⟩
  | cons e ms' ih =>
    cases h with
    | step h hpend hadv =>
      obtain ⟨m', h₁, h₂⟩ := ih h
      exact ⟨m', h₁, .step h₂ hpend hadv⟩

/-- A moment of a run is a step of a machine that the run comes to. -/
theorem Run.moment {e : Moment} (h : m.Run (e :: ms) m') : ∃ m₁, m.Run ms m₁ ∧
    e.session = m₁.session ∧ (m₁.tasks[e.task]?).bind Task.pending? = some e.step ∧
    m₁.advance e.task = some m' := by
  cases h with
  | step h hpend hadv => exact ⟨_, h, rfl, hpend, hadv⟩

theorem advance_eq_some {e : Nat} (h : m.advance e = some m') : ∃ t t' s',
    m.tasks[e]? = some t ∧ t.advance m.session = some (t', s') ∧ m' = ⟨s', m.tasks.set e t'⟩ := by
  rw [advance] at h
  split at h
  · cases h
  · rename_i t ht
    obtain ⟨⟨t', s'⟩, hadv, rfl⟩ := Option.map_eq_some_iff.1 h
    exact ⟨t, t', s', ht, hadv, rfl⟩

/-- What becomes of a task in a run is what the machine has of it then. -/
theorem Run.becomes {t : Task γ} (h : m.Run ms m') (ht : m.tasks[i]? = some t) :
    ∃ t', m'.tasks[i]? = some t' ∧ Becomes i t ms t' := by
  induction h with
  | start => exact ⟨t, ht, .start⟩
  | @step ms m₁ m₂ j step _ hpend hadv ih =>
    obtain ⟨t₁, ht₁, hbecomes⟩ := ih
    obtain ⟨u, u', s', hu, huadv, rfl⟩ := advance_eq_some hadv
    by_cases hj : j = i
    · subst hj
      obtain rfl := Option.some.inj (ht₁.symm.trans hu)
      obtain ⟨hlt, -⟩ := List.getElem?_eq_some_iff.1 hu
      refine ⟨u', List.getElem?_set_self hlt, .step hbecomes ?_ huadv⟩
      rwa [hu, Option.bind_some] at hpend
    · exact ⟨t₁, by rw [List.getElem?_set_ne hj, ht₁], .pass hbecomes hj⟩

/-- In a part of a run the task of a number carries out what it begins with, and gets a result. -/
structure Carries (m : Machine γ) (i : Nat) (t : Task α) (part : List Moment) (a : α)
    (m' : Machine γ) : Prop where
  run : m.Run part m'
  task : ∃ next, m.tasks[i]? = some (t.bind next)
  becomes : Becomes i t part (.done a)

/-- Whether a part of a run carries something out is computed. -/
theorem Run.carries {t : Task α} {next : α → Task γ} {a : α} (h : m.Run part m')
    (ht : m.tasks[i]? = some (t.bind next))
    (hresult : (t.after i part).bind Task.result? = some a) : m.Carries i t part a m' := by
  obtain ⟨t₁, hafter, hdone⟩ := Option.bind_eq_some_iff.1 hresult
  cases t₁ with
  | step step next => cases hdone
  | done b =>
    cases hdone
    refine ⟨h, ⟨next, ht⟩, ?_⟩
    obtain ⟨u, -, hbecomes⟩ := h.becomes ht
    rcases hbecomes.bind_cases with ⟨t', hb, -⟩ | ⟨b, ms₁, ms₂, rfl, hb, -⟩
    · rw [hb.after_eq, Option.some.injEq] at hafter
      rwa [hafter] at hb
    · rw [after_append, hb.after_eq, Option.bind_some] at hafter
      obtain ⟨hidle, heq⟩ := idle_of_after_done hafter
      cases heq
      exact hb.trans (becomes_of_idle hidle)

/-- A sequence is carried out by carrying out its parts. -/
theorem carries_bind {t : Task α} {f : α → Task β} {b : β}
    (h : m.Carries i (t.bind f) part b m') : ∃ a m₁ first second, part = second ++ first ∧
      m.Carries i t first a m₁ ∧ m₁.Carries i (f a) second b m' := by
  obtain ⟨next, htask⟩ := h.task
  obtain ⟨a, first, second, rfl, h₁, h₂⟩ := h.becomes.of_bind_done
  obtain ⟨m₁, hrun₁, hrun₂⟩ := h.run.split
  rw [Program.bind_assoc] at htask
  refine ⟨a, m₁, first, second, rfl, ⟨hrun₁, ⟨_, htask⟩, h₁⟩, hrun₂, ⟨next, ?_⟩, h₂⟩
  obtain ⟨t', ht', hbecomes⟩ := hrun₁.becomes htask
  rw [ht', hbecomes.unique (h₁.bind _)]
  rfl

/-- What happens after a task is done with a part does not concern that part. -/
theorem Carries.wait {t : Task α} {a : α} {idle : List Moment} (h : m.Carries i t part a m')
    (hrun : m'.Run idle m'') (hidle : Idle i idle) : m.Carries i t (idle ++ part) a m'' :=
  ⟨h.run.trans hrun, h.task, h.becomes.trans (becomes_of_idle hidle)⟩

/-- A sequence that ends with a pure result. -/
theorem carries_map {t : Task α} {f : α → β} {b : β}
    (h : m.Carries i (t.bind fun a => .done (f a)) part b m') :
    ∃ a, b = f a ∧ m.Carries i t part a m' := by
  obtain ⟨a, m₁, first, second, rfl, h₁, h₂⟩ := carries_bind h
  obtain ⟨heq, hidle⟩ := h₂.becomes.of_done
  cases heq
  exact ⟨a, rfl, h₁.wait h₂.run hidle⟩

/-- In a part of a run a task takes one action and nothing else. -/
structure Takes (m : Machine γ) (i : Nat) (a : Action) (x : a.Answer) (before after : List Moment)
    (m₁ m₂ m' : Machine γ) : Prop where
  waits : m.Run before m₁
  idle_before : Idle i before
  take : m₁.session.take a = some (x, m₂.session)
  step : m₁.Run [⟨i, .act a, m₁.session⟩] m₂
  rests : m₂.Run after m'
  idle_after : Idle i after

theorem carries_act {a : Action} {x : a.Answer} (h : m.Carries i (act a) part x m') :
    ∃ before after m₁ m₂, part = after ++ ⟨i, .act a, m₁.session⟩ :: before ∧
      m.Takes i a x before after m₁ m₂ m' := by
  rcases h.becomes.act_cases with ⟨-, heq⟩ | ⟨before, after, s, answer, s', rfl, hidle, htake, hdone⟩
  · cases heq
  obtain ⟨heq, hidle'⟩ := hdone.of_done
  cases heq
  obtain ⟨m₂, hfirst, hrest⟩ := h.run.split
  obtain ⟨m₁, hwait, rfl, hpend, hadv⟩ := hfirst.moment
  refine ⟨before, after, m₁, m₂, rfl, hwait, hidle, ?_, .step .start hpend hadv, hrest, hidle'⟩
  obtain ⟨t, t', s₂, ht, hstep, rfl⟩ := advance_eq_some hadv
  rw [ht, Option.bind_some] at hpend
  cases t with
  | done u => cases hpend
  | step step next =>
    cases hpend
    rw [Task.advance, htake] at hstep
    cases hstep
    exact htake

/-- What an action that a task takes adds to its history. -/
theorem Takes.history_eq {a : Action} {x : a.Answer} {before after : List Moment}
    {m₁ m₂ : Machine γ} (h : m.Takes i a x before after m₁ m₂ m') (earlier : List Moment) :
    history i (after ++ ⟨i, .act a, m₁.session⟩ :: before ++ earlier) =
      ⟨a, x⟩ :: history i earlier := by
  rw [List.append_assoc, h.idle_after.history_append, List.cons_append, history_cons_act h.take,
    h.idle_before.history_append]

end Machine

end Strata
