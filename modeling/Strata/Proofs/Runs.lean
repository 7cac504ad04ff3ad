import Strata.Proofs.Walks
import Strata.Session.Interleaving

/-!
Runs of a single task from its beginning to its end. A run is told by the sessions before and after
it, its result, and the moments on the way, the last one first. What scripts do is a parameter; with
`ScriptRuns n` scripts are nested to less than depth `n`, as in `Session.runScript`.

Main statements: the run of a sequence splits into the runs of its parts (`runs_bind`), what is
computed by running a task is such a run (`runs_of_run`), what a run comes to is computed
(`run_of_runs`), and a machine that has only one task runs it so (`runs_of_machine`).
-/

namespace Strata

/-- What it means for a script to lead from one session to another. -/
abbrev ScriptRun := Script → Session → List Machine.Moment → Session → Prop

namespace Session

/-- Sets the state of a registry. -/
def setRegistry (s : Session) (r : RegistryId) (reg : Registry) : Session :=
  { s with registries := s.registries.set r reg }

variable {s : Session} {r : RegistryId} {reg reg' : Registry}

theorem take_registry {a : RegistryAction} (h : s.registries[r]? = some reg) :
    s.take (.registry r a) = (reg.take a).map fun x => (x.1, s.setRegistry r x.2) := by
  simp only [take, h]
  rfl

theorem exists_registry_take {a : RegistryAction} {answer : a.Answer} {s' : Session}
    (h : s.take (.registry r a) = some (answer, s')) : ∃ reg reg', s.registries[r]? = some reg ∧
      reg.take a = some (answer, reg') ∧ s' = s.setRegistry r reg' := by
  cases hreg : s.registries[r]? with
  | none => simp [take, hreg] at h
  | some reg =>
    rw [take_registry hreg, Option.map_eq_some_iff] at h
    obtain ⟨⟨_, reg'⟩, htake, heq⟩ := h
    cases heq
    exact ⟨reg, reg', rfl, htake, rfl⟩

theorem setRegistry_self (h : s.registries[r]? = some reg) : s.setRegistry r reg = s := by
  obtain ⟨hlt, rfl⟩ := List.getElem?_eq_some_iff.1 h
  simp [setRegistry]

@[simp] theorem setRegistry_setRegistry :
    (s.setRegistry r reg).setRegistry r reg' = s.setRegistry r reg' := by
  simp [setRegistry]

theorem registries_setRegistry (h : s.registries[r]? = some reg) (reg' : Registry) :
    (s.setRegistry r reg').registries[r]? = some reg' := by
  obtain ⟨hlt, -⟩ := List.getElem?_eq_some_iff.1 h
  simp [setRegistry, hlt]

theorem registries_setRegistry_of_ne {r₁ : RegistryId} (h : r₁ ≠ r) :
    (s.setRegistry r reg).registries[r₁]? = s.registries[r₁]? :=
  List.getElem?_set_ne h.symm

end Session

namespace Task

variable {α β : Type} {S : ScriptRun}

/-- A task runs from one session to another and gives a result. -/
inductive Runs (S : ScriptRun) : Task α → Session → List Machine.Moment → α → Session → Prop where
  | done (a : α) (s : Session) : Runs S (.done a) s [] a s
  | act {action : Action} {answer : action.Answer} {next : action.Answer → Task α}
    {s s₁ s₂ : Session} {a : α} {ms : List Machine.Moment} :
    s.take action = some (answer, s₁) → Runs S (next answer) s₁ ms a s₂ →
    Runs S (.step (.act action) next) s (ms ++ [⟨0, .act action, s⟩]) a s₂
  | run {script : Script} {next : Unit → Task α} {s s₁ s₂ : Session} {a : α}
    {ms₁ ms₂ : List Machine.Moment} :
    S script s ms₁ s₁ → Runs S (next ()) s₁ ms₂ a s₂ →
    Runs S (.step (.run script) next) s (ms₂ ++ (ms₁ ++ [⟨0, .run script, s⟩])) a s₂

/-- Scripts run as tasks do, nested to less than a depth. -/
def ScriptRuns : Nat → ScriptRun
  | 0, _, _, _, _ => False
  | n + 1, script, s, ms, s' => Runs (ScriptRuns n) script.task s ms () s'

/-! ### Runs of the parts of a task -/

@[simp] theorem runs_done {a b : α} {s s' : Session} {ms : List Machine.Moment} :
    Runs S (.done a) s ms b s' ↔ ms = [] ∧ a = b ∧ s = s' := by
  constructor
  · rintro ⟨⟩
    exact ⟨rfl, rfl, rfl⟩
  · rintro ⟨rfl, rfl, rfl⟩
    exact .done a s

@[simp] theorem runs_act_step {action : Action} {next : action.Answer → Task α} {s s' : Session}
    {b : α} {ms : List Machine.Moment} :
    Runs S (.step (.act action) next) s ms b s' ↔ ∃ answer s₁ ms₁,
      s.take action = some (answer, s₁) ∧ Runs S (next answer) s₁ ms₁ b s' ∧
      ms = ms₁ ++ [⟨0, .act action, s⟩] := by
  constructor
  · intro h
    cases h with
    | act htake h => exact ⟨_, _, _, htake, h, rfl⟩
  · rintro ⟨answer, s₁, ms₁, htake, h, rfl⟩
    exact .act htake h

@[simp] theorem runs_run_step {script : Script} {next : Unit → Task α} {s s' : Session}
    {b : α} {ms : List Machine.Moment} :
    Runs S (.step (.run script) next) s ms b s' ↔ ∃ s₁ ms₁ ms₂,
      S script s ms₁ s₁ ∧ Runs S (next ()) s₁ ms₂ b s' ∧
      ms = ms₂ ++ (ms₁ ++ [⟨0, .run script, s⟩]) := by
  constructor
  · intro h
    cases h with
    | run hs h => exact ⟨_, _, _, hs, h, rfl⟩
  · rintro ⟨s₁, ms₁, ms₂, hs, h, rfl⟩
    exact .run hs h

/-- A sequence runs like its first part, and then like what follows on the result. -/
theorem runs_bind {t : Task α} {f : α → Task β} {s s' : Session} {b : β}
    {ms : List Machine.Moment} :
    Runs S (t.bind f) s ms b s' ↔ ∃ a s₁ ms₁ ms₂,
      Runs S t s ms₁ a s₁ ∧ Runs S (f a) s₁ ms₂ b s' ∧ ms = ms₂ ++ ms₁ := by
  induction t generalizing s ms with
  | done a =>
    simp only [Program.done_bind, runs_done]
    constructor
    · exact fun h => ⟨a, s, [], ms, ⟨rfl, rfl, rfl⟩, h, by simp⟩
    · rintro ⟨_, _, _, ms₂, ⟨rfl, rfl, rfl⟩, h, rfl⟩
      simpa using h
  | step step next ih =>
    cases step with
    | act action =>
      simp only [Program.step_bind, runs_act_step, ih]
      constructor
      · rintro ⟨answer, s₁, _, htake, ⟨a, s₂, ms₁, ms₂, h₁, h₂, rfl⟩, rfl⟩
        exact ⟨a, s₂, _, ms₂, ⟨answer, s₁, ms₁, htake, h₁, rfl⟩, h₂, by simp⟩
      · rintro ⟨a, s₂, _, ms₂, ⟨answer, s₁, ms₁, htake, h₁, rfl⟩, h₂, rfl⟩
        exact ⟨answer, s₁, _, htake, ⟨a, s₂, ms₁, ms₂, h₁, h₂, rfl⟩, by simp⟩
    | run script =>
      simp only [Program.step_bind, runs_run_step, ih]
      constructor
      · rintro ⟨s₁, ms₀, _, hs, ⟨a, s₂, ms₁, ms₂, h₁, h₂, rfl⟩, rfl⟩
        exact ⟨a, s₂, _, ms₂, ⟨s₁, ms₀, ms₁, hs, h₁, rfl⟩, h₂, by simp⟩
      · rintro ⟨a, s₂, _, ms₂, ⟨s₁, ms₀, ms₁, hs, h₁, rfl⟩, h₂, rfl⟩
        exact ⟨s₁, ms₀, _, hs, ⟨a, s₂, ms₁, ms₂, h₁, h₂, rfl⟩, by simp⟩

@[simp] theorem runs_act {action : Action} {answer : action.Answer} {s s' : Session}
    {ms : List Machine.Moment} :
    Runs S (Strata.act action) s ms answer s' ↔
      s.take action = some (answer, s') ∧ ms = [⟨0, .act action, s⟩] := by
  simp only [Strata.act, Program.act, runs_act_step, runs_done]
  constructor
  · rintro ⟨_, _, _, h, ⟨rfl, rfl, rfl⟩, rfl⟩
    exact ⟨h, rfl⟩
  · rintro ⟨h, rfl⟩
    exact ⟨_, _, _, h, ⟨rfl, rfl, rfl⟩, rfl⟩

theorem runs_run_silence {s s' : Session} {u : Unit} {ms : List Machine.Moment} :
    Runs S (Strata.run Session.silence) s ms u s' ↔ ms = [] ∧ s = s' := by
  rw [show Strata.run Session.silence = .done () from rfl, runs_done]
  exact ⟨fun h => ⟨h.1, h.2.2⟩, fun h => ⟨h.1, rfl, h.2⟩⟩

/-- An action whose answer comes with a script without commands. -/
theorem runs_silent (action : Action) {y : action.Answer} {f : action.Answer → α}
    {g : action.Answer → Script} {s s₁ s' : Session} {a : α} {ms : List Machine.Moment}
    (htake : s.take action = some (y, s₁)) (hg : g y = Session.silence) :
    Runs S ((Strata.act action).bind fun x => (Strata.run (g x)).bind fun _ => .done (f x))
      s ms a s' ↔ a = f y ∧ s' = s₁ ∧ ms = [⟨0, .act action, s⟩] := by
  constructor
  · intro h
    obtain ⟨x, s₂, ms₁, ms₂, hact, hrun, rfl⟩ := runs_bind.1 h
    obtain ⟨htake', rfl⟩ := runs_act.1 hact
    rw [htake] at htake'
    cases htake'
    obtain ⟨u, s₃, ms₃, ms₄, hscript, hdone, rfl⟩ := runs_bind.1 hrun
    rw [hg] at hscript
    obtain ⟨rfl, rfl⟩ := runs_run_silence.1 hscript
    obtain ⟨rfl, rfl, rfl⟩ := runs_done.1 hdone
    exact ⟨rfl, rfl, rfl⟩
  · rintro ⟨rfl, rfl, rfl⟩
    refine runs_bind.2 ⟨y, s', [_], [], runs_act.2 ⟨htake, rfl⟩, ?_, rfl⟩
    refine runs_bind.2 ⟨(), s', [], [], ?_, .done _ s', rfl⟩
    rw [hg]
    exact runs_run_silence.2 ⟨rfl, rfl⟩

/-- An action on a registry is taken by the registry alone. -/
theorem runs_ask {r : RegistryId} {a : RegistryAction} {answer : a.Answer} {s s' : Session}
    {ms : List Machine.Moment} :
    Runs S (ask r a) s ms answer s' ↔ ∃ reg reg', s.registries[r]? = some reg ∧
      reg.take a = some (answer, reg') ∧ s' = s.setRegistry r reg' ∧
      ms = [⟨0, .act (.registry r a), s⟩] := by
  rw [ask, runs_act]
  constructor
  · rintro ⟨h, rfl⟩
    obtain ⟨reg, reg', hreg, htake, rfl⟩ := Session.exists_registry_take h
    exact ⟨reg, reg', hreg, htake, rfl, rfl⟩
  · rintro ⟨reg, reg', hreg, htake, rfl, rfl⟩
    rw [Session.take_registry hreg, htake]
    exact ⟨rfl, rfl⟩

/-! ### Tasks that come to an end -/

/-- A task has a run, whatever happens on the way. -/
def Ends (S : ScriptRun) (t : Task α) (s : Session) (a : α) (s' : Session) : Prop :=
  ∃ ms, Runs S t s ms a s'

theorem Runs.ends {t : Task α} {s s' : Session} {ms : List Machine.Moment} {a : α}
    (h : Runs S t s ms a s') : Ends S t s a s' :=
  ⟨ms, h⟩

@[simp] theorem ends_done {a b : α} {s s' : Session} :
    Ends S (.done a) s b s' ↔ a = b ∧ s = s' := by
  simp [Ends]

theorem ends_bind {t : Task α} {f : α → Task β} {s s' : Session} {b : β} :
    Ends S (t.bind f) s b s' ↔ ∃ a s₁, Ends S t s a s₁ ∧ Ends S (f a) s₁ b s' := by
  simp only [Ends, runs_bind]
  constructor
  · rintro ⟨_, a, s₁, ms₁, ms₂, h₁, h₂, rfl⟩
    exact ⟨a, s₁, ⟨ms₁, h₁⟩, ms₂, h₂⟩
  · rintro ⟨a, s₁, ⟨ms₁, h₁⟩, ms₂, h₂⟩
    exact ⟨_, a, s₁, ms₁, ms₂, h₁, h₂, rfl⟩

theorem Ends.bind {t : Task α} {f : α → Task β} {s s₁ s' : Session} {a : α} {b : β}
    (h : Ends S t s a s₁) (h' : Ends S (f a) s₁ b s') : Ends S (t.bind f) s b s' :=
  ends_bind.2 ⟨a, s₁, h, h'⟩

@[simp] theorem ends_act {action : Action} {answer : action.Answer} {s s' : Session} :
    Ends S (Strata.act action) s answer s' ↔ s.take action = some (answer, s') := by
  simp [Ends]

theorem ends_ask {r : RegistryId} {a : RegistryAction} {answer : a.Answer} {s s' : Session}
    {reg : Registry} (hreg : s.registries[r]? = some reg) :
    Ends S (ask r a) s answer s' ↔
      ∃ reg', reg.take a = some (answer, reg') ∧ s' = s.setRegistry r reg' := by
  simp only [Ends, runs_ask]
  constructor
  · rintro ⟨_, reg₁, reg', hreg₁, htake, rfl, -⟩
    rw [hreg, Option.some.injEq] at hreg₁
    subst hreg₁
    exact ⟨reg', htake, rfl⟩
  · rintro ⟨reg', htake, rfl⟩
    exact ⟨_, reg, reg', hreg, htake, rfl, rfl⟩

/-- What follows on an action on a registry goes on with the answer. -/
theorem ends_ask_bind {r : RegistryId} {a : RegistryAction} {answer : a.Answer}
    {f : a.Answer → Task β} {b : β} {s s' : Session} {reg reg' : Registry}
    (hreg : s.registries[r]? = some reg) (htake : reg.take a = some (answer, reg')) :
    Ends S ((ask r a).bind f) s b s' ↔ Ends S (f answer) (s.setRegistry r reg') b s' := by
  rw [ends_bind]
  constructor
  · rintro ⟨answer', s₁, hask, h⟩
    obtain ⟨reg₁, htake', rfl⟩ := (ends_ask hreg).1 hask
    cases htake.symm.trans htake'
    exact h
  · exact fun h => ⟨answer, _, (ends_ask hreg).2 ⟨reg', htake, rfl⟩, h⟩

/-- Asking a registry for what it only tells changes nothing. -/
theorem ends_ask_self {r : RegistryId} {a : RegistryAction} {answer answer' : a.Answer}
    {s s' : Session} {reg : Registry} (hreg : s.registries[r]? = some reg)
    (htake : reg.take a = some (answer', reg)) :
    Ends S (ask r a) s answer s' ↔ answer' = answer ∧ s = s' := by
  rw [ends_ask hreg]
  constructor
  · rintro ⟨reg', htake', rfl⟩
    rw [htake, Option.some.injEq, Prod.mk.injEq] at htake'
    obtain ⟨rfl, rfl⟩ := htake'
    exact ⟨rfl, (Session.setRegistry_self hreg).symm⟩
  · rintro ⟨rfl, rfl⟩
    exact ⟨reg, htake, (Session.setRegistry_self hreg).symm⟩

theorem exists_registry_of_ends_ask {r : RegistryId} {a : RegistryAction} {answer : a.Answer}
    {s s' : Session} (h : Ends S (ask r a) s answer s') :
    ∃ reg, s.registries[r]? = some reg := by
  obtain ⟨ms, h⟩ := h
  obtain ⟨reg, _, hreg, _⟩ := runs_ask.1 h
  exact ⟨reg, hreg⟩

/-! ### What all runs of a task have in common -/

/-- A relation between the beginning and the end of a run that holds of a sequence if it holds of
its parts. -/
structure Composable (R : Session → List Machine.Moment → Session → Prop) : Prop where
  nil : ∀ s, R s [] s
  run : ∀ script s, R s [⟨0, .run script, s⟩] s
  append : ∀ {s s₁ s₂ ms ms'}, R s ms s₁ → R s₁ ms' s₂ → R s (ms' ++ ms) s₂

/-- A relation holds of all runs of a task. -/
def Always (S : ScriptRun) (R : Session → List Machine.Moment → Session → Prop) (t : Task α) :
    Prop :=
  ∀ s ms a s', Runs S t s ms a s' → R s ms s'

variable {R : Session → List Machine.Moment → Session → Prop}

theorem always_done (hR : Composable R) (a : α) : Always S R (.done a) := by
  intro s ms b s' h
  obtain ⟨rfl, rfl, rfl⟩ := runs_done.1 h
  exact hR.nil s

theorem always_bind (hR : Composable R) {t : Task α} {f : α → Task β} (ht : Always S R t)
    (hf : ∀ a, Always S R (f a)) : Always S R (t.bind f) := by
  intro s ms b s' h
  obtain ⟨a, s₁, ms₁, ms₂, h₁, h₂, rfl⟩ := runs_bind.1 h
  exact hR.append (ht _ _ _ _ h₁) (hf a _ _ _ _ h₂)

theorem always_act {a : Action}
    (ha : ∀ s answer s', s.take a = some (answer, s') → R s [⟨0, .act a, s⟩] s') :
    Always S R (Strata.act a) := by
  intro s ms answer s' h
  obtain ⟨htake, rfl⟩ := runs_act.1 h
  exact ha s answer s' htake

theorem always_run (hR : Composable R) {script : Script}
    (hscript : ∀ s ms s', S script s ms s' → R s ms s') : Always S R (Strata.run script) := by
  intro s ms u s' h
  rw [Strata.run] at h
  split at h
  · exact always_done hR () s ms u s' h
  · simp only [Program.act, runs_run_step, runs_done] at h
    obtain ⟨s₁, ms₁, ms₂, h₁, ⟨rfl, -, rfl⟩, rfl⟩ := h
    have hrun := hR.append (hR.run script s) (hscript _ _ _ h₁)
    exact hrun

/-- What all runs have in common passes from the parts of a sequence to the sequence. -/
theorem sequential_always (hR : Composable R) : Sequential fun _ t => Always S R t :=
  ⟨fun a => always_done hR a, fun ht hf => always_bind hR ht hf⟩

theorem always_forAll (hR : Composable R) {ι : Type} {f : ι → Task Unit} {is : List ι}
    (h : ∀ i ∈ is, Always S R (f i)) : Always S R (Program.forAll f is) :=
  (sequential_always hR).forAll h

/-- What the actions and the scripts that are run have in common all runs have in common. -/
theorem always_of_steps (hR : Composable R)
    (htake : ∀ {a : Action} {answer : a.Answer} {s s' : Session},
      s.take a = some (answer, s') → R s [⟨0, .act a, s⟩] s')
    (hscript : ∀ script s ms s', S script s ms s' → R s ms s') (t : Task α) : Always S R t := by
  intro s ms a s' h
  induction h with
  | done a s => exact hR.nil s
  | act h _ ih => exact hR.append (htake h) ih
  | run h _ ih => exact hR.append (hR.append (hR.run _ _) (hscript _ _ _ _ h)) ih

/-- What all actions have in common all runs have in common, however deep scripts are nested. -/
theorem always_of_take (hR : Composable R)
    (htake : ∀ {a : Action} {answer : a.Answer} {s s' : Session},
      s.take a = some (answer, s') → R s [⟨0, .act a, s⟩] s') (k : Nat) (t : Task α) :
    Always (ScriptRuns k) R t := by
  refine always_of_steps hR htake ?_ t
  induction k with
  | zero => exact fun _ _ _ _ h => h.elim
  | succ k ih => exact fun script s ms s' h => always_of_steps hR htake ih script.task s ms () s' h

/-! ### Runs that are computed -/

theorem exists_runs {run : Script → Session → Option Session}
    (hS : ∀ script s s', run script s = some s' → ∃ ms, S script s ms s') {t : Task α} :
    ∀ {s s' : Session} {a : α}, t.runWith run s = some (a, s') → ∃ ms, Runs S t s ms a s' := by
  induction t with
  | done b =>
    intro s s' a h
    simp only [runWith_done, Option.some.injEq, Prod.mk.injEq] at h
    exact ⟨[], by simp [h]⟩
  | step step next ih =>
    intro s s' a h
    cases step with
    | act action =>
      cases htake : s.take action with
      | none => simp [runWith, htake] at h
      | some r =>
        simp only [runWith, htake] at h
        obtain ⟨ms, hms⟩ := ih _ h
        exact ⟨_, .act htake hms⟩
    | run script =>
      cases hrun : run script s with
      | none => simp [runWith, hrun] at h
      | some s₁ =>
        simp only [runWith, hrun] at h
        obtain ⟨ms₁, hms₁⟩ := hS script s s₁ hrun
        obtain ⟨ms₂, hms₂⟩ := ih _ h
        exact ⟨_, .run hms₁ hms₂⟩

theorem scriptRuns_of_runScript : ∀ (n : Nat) (script : Script) (s s' : Session),
    s.runScript n script = some s' → ∃ ms, ScriptRuns n script s ms s'
  | 0, _, _, _, h => by simp [Session.runScript] at h
  | n + 1, script, s, s', h => by
    obtain ⟨r, hr, rfl⟩ := Option.map_eq_some_iff.1 h
    exact exists_runs (scriptRuns_of_runScript n) hr

/-- What is computed by running a task is a run. -/
theorem runs_of_run {t : Task α} {s s' : Session} {a : α} (h : s.run t = some (a, s')) :
    ∃ ms, Runs (ScriptRuns Session.maxDepth) t s ms a s' :=
  exists_runs (scriptRuns_of_runScript Session.maxDepth) h

theorem runWith_of_runs {run : Script → Session → Option Session}
    (hS : ∀ script s ms s', S script s ms s' → run script s = some s') {t : Task α}
    {s s' : Session} {ms : List Machine.Moment} {a : α} (h : Runs S t s ms a s') :
    t.runWith run s = some (a, s') := by
  induction h with
  | done a s => rfl
  | act htake _ ih => simp [runWith, htake, ih]
  | run hs _ ih => simp [runWith, hS _ _ _ _ hs, ih]

theorem runScript_of_scriptRuns : ∀ (n : Nat) (script : Script) (s : Session)
    (ms : List Machine.Moment) (s' : Session),
    ScriptRuns n script s ms s' → s.runScript n script = some s'
  | n + 1, script, s, ms, s', h => by
    simp [Session.runScript, runWith_of_runs (runScript_of_scriptRuns n) h]

/-- What a run of a task comes to is computed. -/
theorem run_of_runs {t : Task α} {s s' : Session} {ms : List Machine.Moment} {a : α}
    (h : Runs (ScriptRuns Session.maxDepth) t s ms a s') : s.run t = some (a, s') :=
  runWith_of_runs (runScript_of_scriptRuns Session.maxDepth) h

/-- A task comes to an end if this is what is computed by running it. -/
theorem ends_iff_run {t : Task α} {s s' : Session} {a : α} :
    Ends (ScriptRuns Session.maxDepth) t s a s' ↔ s.run t = some (a, s') :=
  ⟨fun ⟨_, h⟩ => run_of_runs h, runs_of_run⟩

/-- A task comes to one end only. -/
theorem Ends.unique {k : Nat} {t : Task α} {s s₁ s₂ : Session} {a b : α}
    (h : Ends (ScriptRuns k) t s a s₁) (h' : Ends (ScriptRuns k) t s b s₂) : a = b ∧ s₁ = s₂ := by
  obtain ⟨ms, h⟩ := h
  obtain ⟨ms', h'⟩ := h'
  have hscript := runScript_of_scriptRuns k
  exact Prod.mk.inj (Option.some.inj
    ((runWith_of_runs hscript h).symm.trans (runWith_of_runs hscript h')))

/-! ### Runs of machines with one task -/

theorem Runs.mono {S' : ScriptRun} (hS : ∀ script s ms s', S script s ms s' → S' script s ms s')
    {t : Task α} {s s' : Session} {ms : List Machine.Moment} {a : α} (h : Runs S t s ms a s') :
    Runs S' t s ms a s' := by
  induction h with
  | done a s => exact .done a s
  | act htake _ ih => exact .act htake ih
  | run hs _ ih => exact .run (hS _ _ _ _ hs) ih

theorem scriptRuns_succ : ∀ (n : Nat) (script : Script) (s : Session) (ms : List Machine.Moment)
    (s' : Session), ScriptRuns n script s ms s' → ScriptRuns (n + 1) script s ms s'
  | n + 1, _, _, _, _, h => Runs.mono (scriptRuns_succ n) h

end Task

namespace Machine

variable {α : Type}

/-- A run is empty or begins with a step. -/
theorem Run.head {m m' : Machine α} {ms : List Moment} (h : m.Run ms m') :
    (ms = [] ∧ m = m') ∨ ∃ ms₀ i step m₁, ms = ms₀ ++ [⟨i, step, m.session⟩] ∧
      (m.tasks[i]?).bind Task.pending? = some step ∧ m.advance i = some m₁ ∧ m₁.Run ms₀ m' := by
  induction h with
  | start => exact .inl ⟨rfl, rfl⟩
  | @step ms m₁ m₂ i step _ hpend hadv ih =>
    rcases ih with ⟨rfl, rfl⟩ | ⟨ms₀, j, step', m₀, rfl, hpend', hadv', hrun⟩
    · exact .inr ⟨[], i, step, m₂, rfl, hpend, hadv, .start⟩
    · exact .inr ⟨_, j, step', m₀, rfl, hpend', hadv', .step hrun hpend hadv⟩

theorem Run.trans {m m₁ m₂ : Machine α} {ms ms' : List Moment} (h : m.Run ms m₁)
    (h' : m₁.Run ms' m₂) : m.Run (ms' ++ ms) m₂ := by
  induction h' with
  | start => exact h
  | step _ hpend hadv ih => exact .step ih hpend hadv

/-- Lets tasks take steps in turns, and passes over those that cannot. The moments come before those
that are given. -/
def follow (m : Machine α) (ms : List Moment) : List Nat → List Moment × Machine α
  | [] => (ms, m)
  | i :: turns =>
    match (m.tasks[i]?).bind Task.pending?, m.advance i with
    | some step, some m' => m'.follow (⟨i, step, m.session⟩ :: ms) turns
    | _, _ => m.follow ms turns

theorem run_follow {m₀ : Machine α} : ∀ (turns : List Nat) {m : Machine α} {ms : List Moment},
    m₀.Run ms m → m₀.Run (m.follow ms turns).1 (m.follow ms turns).2
  | [], _, _, h => h
  | i :: turns, m, ms, h => by
    rw [follow]
    split
    · rename_i step m' hpend hadv
      exact run_follow turns (.step h hpend hadv)
    · exact run_follow turns h

theorem length_follow : ∀ (turns : List Nat) (m : Machine α) (ms : List Moment),
    (m.follow ms turns).1.length ≤ ms.length + turns.length
  | [], _, _ => Nat.le_refl _
  | i :: turns, m, ms => by
    rw [follow]
    split
    · rename_i step m' _ _
      have h := length_follow turns m' (⟨i, step, m.session⟩ :: ms)
      simp only [List.length_cons] at h ⊢
      omega
    · have h := length_follow turns m ms
      simp only [List.length_cons]
      omega

theorem Run.length_tasks {m m' : Machine α} {ms : List Moment} (h : m.Run ms m') :
    m'.tasks.length = m.tasks.length := by
  induction h with
  | start => rfl
  | @step _ m₁ _ i _ _ _ hadv ih =>
    rw [← ih]
    simp only [advance] at hadv
    split at hadv
    · cases hadv
    · obtain ⟨x, -, rfl⟩ := Option.map_eq_some_iff.1 hadv
      exact List.length_set

/-- Whether no task is left to do. -/
def isOver (m : Machine α) : Bool := m.tasks.all fun t => t.pending?.isNone

theorem tasks_of_isOver {m : Machine Unit} (h : m.isOver = true) (hone : m.tasks.length = 1) :
    m = ⟨m.session, [.done ()]⟩ := by
  obtain ⟨s, tasks⟩ := m
  obtain ⟨t, rfl⟩ := List.length_eq_one_iff.1 hone
  cases t with
  | done u => rfl
  | step step next => simp [isOver, Task.pending?] at h

end Machine

namespace Task

variable {α : Type}

/-- A machine with one task that comes to its end has run that task. -/
theorem runs_of_machine : ∀ (n : Nat) {t : Task α} {s s' : Session} {ms : List Machine.Moment}
    {a : α}, ms.length ≤ n → Machine.Run ⟨s, [t]⟩ ms ⟨s', [.done a]⟩ →
    Runs (ScriptRuns n) t s ms a s' := by
  intro n
  induction n with
  | zero =>
    intro t s s' ms a hlen h
    rcases h.head with ⟨rfl, heq⟩ | ⟨ms₀, i, step, m₁, rfl, _⟩
    · cases heq
      exact .done a s
    · simp at hlen
  | succ n ih =>
    intro t s s' ms a hlen h
    rcases h.head with ⟨rfl, heq⟩ | ⟨ms₀, i, step, m₁, rfl, hpend, hadv, hrun⟩
    · cases heq
      exact .done a s
    · have hlen₀ : ms₀.length ≤ n := by simpa using hlen
      have hi : i = 0 := by
        rcases i with _ | i
        · rfl
        · simp at hpend
      subst hi
      cases t with
      | done b => simp [pending?] at hpend
      | step step' next =>
        obtain rfl : step' = step := by simpa [pending?] using hpend
        cases step' with
        | act action =>
          simp only [Machine.advance, advance, List.getElem?_cons_zero, Option.map_map,
            Option.map_eq_some_iff, Function.comp_apply] at hadv
          obtain ⟨⟨answer, s₁⟩, htake, rfl⟩ := hadv
          exact .act htake ((ih hlen₀ hrun).mono (scriptRuns_succ n))
        | run script =>
          simp only [Machine.advance, advance, List.getElem?_cons_zero, Option.map_some,
            Option.some.injEq] at hadv
          subst hadv
          obtain ⟨_, s₁, ms₁, ms₂, h₁, h₂, rfl⟩ := runs_bind.1 (ih hlen₀ hrun)
          simpa using Runs.run (S := ScriptRuns (n + 1)) h₁ (h₂.mono (scriptRuns_succ n))

/-- The result of a task that is done. -/
def result? : Task α → Option α
  | .done a => some a
  | .step _ _ => none

/-- A task that is done when it has been followed on its own has run. -/
theorem runs_of_follow {t : Task α} {s : Session} {a : α} {n : Nat}
    {x : List Machine.Moment × Machine α}
    (hx : x = Machine.follow ⟨s, [t]⟩ [] (List.replicate n 0))
    (h : (x.2.tasks[0]?).bind result? = some a) :
    Runs (ScriptRuns n) t s x.1 a x.2.session := by
  have hlength := Machine.length_follow (List.replicate n 0) (⟨s, [t]⟩ : Machine α) []
  have hrun := Machine.run_follow (List.replicate n 0) (Machine.Run.start (m := ⟨s, [t]⟩))
  rw [← hx] at hlength hrun
  obtain ⟨ms, s', tasks⟩ := x
  obtain ⟨t', rfl⟩ := List.length_eq_one_iff.1 hrun.length_tasks
  cases t' with
  | step => cases h
  | done b =>
    cases h
    exact runs_of_machine n (by simpa using hlength) hrun

end Task

end Strata
