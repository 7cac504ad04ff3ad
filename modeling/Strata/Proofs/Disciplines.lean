import Strata.Proofs.Threads

/-!
Disciplines: what tasks do only after they have done something else, and what they can rely on to be
answered. What counts of the past is a parameter. It may be all that a task has done (`Conduct`), and
the contract of `Obeys` is a discipline of this kind. Main statement: a task that heeds such a
discipline goes on doing so while others take turns with it, as long as it is answered what is
possible (`Heeds.becomes`); so what is known of the result and the history of a part of a task is
true whenever it has been carried out (`Heeds.carried`).
-/

namespace Strata

open Machine

variable {α β W : Type} {i : Nat}

/-- What has to be past before an action is taken, what is past after an action and its answer, when
a script may be run, and what is past after it. -/
structure Discipline (W : Type) where
  lawful : W → Action → Prop
  after : W → Fact → W → Prop
  ready : W → Prop
  grown : W → W → Prop

/-- A task keeps to a discipline as long as its answers are possible, and leaves a past of a certain
kind behind when it is done. -/
def Heeds (D : Discipline W) : Task α → W → (α → W → Prop) → Prop
  | .done a, w, Q => Q a w
  | .step (.act a) next, w, Q => D.lawful w a ∧ ∀ answer w', D.after w ⟨a, answer⟩ w' →
      Heeds D (next answer) w' Q
  | .step (.run _) next, w, Q => D.ready w ∧ ∀ w', D.grown w w' → Heeds D (next ()) w' Q

section Past

variable {D : Discipline W} {w : W}

theorem Heeds.mono {t : Task α} {Q Q' : α → W → Prop} (hQ : ∀ a w, Q a w → Q' a w)
    (ht : Heeds D t w Q) : Heeds D t w Q' := by
  induction t generalizing w with
  | done a => exact hQ a w ht
  | step step next ih =>
    cases step with
    | act a => exact ⟨ht.1, fun answer w' hw => ih answer (ht.2 answer w' hw)⟩
    | run script => exact ⟨ht.1, fun w' hw => ih () (ht.2 w' hw)⟩

/-- A sequence, of whose first part a specification is known. -/
theorem Heeds.andThen {t : Task α} {f : α → Task β} {P : α → W → Prop} {Q : β → W → Prop}
    (ht : Heeds D t w P) (hf : ∀ a w', P a w' → Heeds D (f a) w' Q) : Heeds D (t.bind f) w Q := by
  induction t generalizing w with
  | done a => exact hf a w ht
  | step step next ih =>
    cases step with
    | act a => exact ⟨ht.1, fun answer w' hw => ih answer (ht.2 answer w' hw)⟩
    | run script => exact ⟨ht.1, fun w' hw => ih () (ht.2 w' hw)⟩

/-- A task leads from every past that a script may be run with to one that a script may lead to. -/
def Discipline.Governs (D : Discipline W) (t : Task α) : Prop :=
  ∀ w, D.ready w → Heeds D t w fun _ w' => D.grown w w'

/-- The discipline is one that passes from the parts of a sequence to the sequence. -/
structure Discipline.Passes (D : Discipline W) : Prop where
  refl : ∀ w, D.ready w → D.grown w w
  ready : ∀ w w', D.ready w → D.grown w w' → D.ready w'
  trans : ∀ w w' w'', D.grown w w' → D.grown w' w'' → D.grown w w''

/-- A sequence, of whose first part it is known that it may follow on what has made a script ready. -/
theorem Discipline.Governs.andThen {t : Task α} {f : α → Task β} {Q : β → W → Prop}
    (ht : D.Governs t) (hD : D.Passes) (hw : D.ready w)
    (hf : ∀ a w', D.ready w' → D.grown w w' → Heeds D (f a) w' Q) : Heeds D (t.bind f) w Q :=
  (ht w hw).andThen fun a w' hg => hf a w' (hD.ready w w' hw hg) hg

theorem Discipline.Passes.sequential (hD : D.Passes) : Sequential fun _ t => D.Governs t :=
  ⟨fun _ w hw => hD.refl w hw, fun ht hf w hw => (ht w hw).andThen fun a w' hg =>
    (hf a w' (hD.ready w w' hw hg)).mono fun _ w'' hg' => hD.trans w w' w'' hg hg'⟩

theorem Discipline.Passes.run (hD : D.Passes) (script : Script) : D.Governs (run script) := by
  intro w hw
  rw [Strata.run]
  split
  · exact hD.refl w hw
  · exact ⟨hw, fun w' hg => hg⟩

end Past

/-! ### Histories -/

/-- What has to have happened before an action is taken, what can be answered, when a script may be
run, and what a script makes of a history. -/
structure Conduct where
  lawful : History → Action → Prop
  possible : History → Fact → Prop
  ready : History → Prop
  grown : History → History → Prop

/-- The discipline by which a task acts on all that it has done. -/
def Conduct.discipline (C : Conduct) : Discipline History :=
  ⟨C.lawful, fun h f h' => C.possible h f ∧ h' = f :: h, C.ready, C.grown⟩

/-- The conduct of all tasks when they change registries. -/
def changeContract : Conduct := ⟨fun h a => Lawful h a ∧ Due h a, Possible, IsClear, Grown⟩

variable {C : Conduct} {h : History}

theorem heeds_act {a : Action} {Q : a.Answer → History → Prop} (hlaw : C.lawful h a)
    (hQ : ∀ answer, C.possible h ⟨a, answer⟩ → Q answer (⟨a, answer⟩ :: h)) :
    Heeds C.discipline (act a) h Q :=
  ⟨hlaw, fun answer _ ⟨hp, heq⟩ => heq ▸ hQ answer hp⟩

/-- An action, and what follows on its answer. -/
theorem heeds_act_bind {a : Action} {f : a.Answer → Task β} {Q : β → History → Prop}
    (hlaw : C.lawful h a) (hf : ∀ answer, C.possible h ⟨a, answer⟩ →
      Heeds C.discipline (f answer) (⟨a, answer⟩ :: h) Q) :
    Heeds C.discipline ((act a).bind f) h Q :=
  ⟨hlaw, fun answer _ ⟨hp, heq⟩ => heq ▸ hf answer hp⟩

theorem obeys_iff {t : Task α} {Q : α → History → Prop} :
    Obeys t h Q ↔ Heeds changeContract.discipline t h Q := by
  induction t generalizing h with
  | done a => exact Iff.rfl
  | step step next ih =>
    cases step with
    | act a =>
      constructor
      · rintro ⟨hlaw, hdue, hnext⟩
        refine ⟨⟨hlaw, hdue⟩, ?_⟩
        rintro answer _ ⟨hp, rfl⟩
        exact (ih answer).1 (hnext answer hp)
      · rintro ⟨⟨hlaw, hdue⟩, hnext⟩
        exact ⟨hlaw, hdue, fun answer hp => (ih answer).2 (hnext answer _ ⟨hp, rfl⟩)⟩
    | run script =>
      exact and_congr_right fun _ => forall_congr' fun h' => imp_congr_right fun _ => ih ()

theorem governs_changeContract (script : Script) :
    changeContract.discipline.Governs script.task := fun h hh =>
  obeys_iff.1 (growing_script script h hh)

/-! ### Runs -/

/-- In a part of a run a task is only answered what is possible. -/
def Answered (C : Conduct) (i : Nat) (earlier part : List Moment) : Prop :=
  ∀ after before s a answer s', part = after ++ ⟨i, .act a, s⟩ :: before →
    s.take a = some (answer, s') → C.possible (history i (before ++ earlier)) ⟨a, answer⟩

theorem Answered.tail {earlier part : List Moment} {e : Moment}
    (h : Answered C i earlier (e :: part)) : Answered C i earlier part :=
  fun after before s a answer s' heq => h (e :: after) before s a answer s' (by rw [heq]; rfl)

/-- If machines answer only what is possible, so does a part of a run. -/
theorem Machine.Run.answered {γ : Type} {m m' : Machine γ} {earlier part : List Moment}
    (hrun : m.Run part m') (hp : ∀ {before m₁ a answer s'}, m.Run before m₁ →
      m₁.session.take a = some (answer, s') →
      C.possible (history i (before ++ earlier)) ⟨a, answer⟩) : Answered C i earlier part := by
  rintro after before s a answer s' rfl htake
  obtain ⟨m₁, hrun₁, -⟩ := hrun.split
  obtain ⟨m₂, hrun₂, hs, -⟩ := hrun₁.moment
  cases hs
  exact hp hrun₂ htake

/-- A task goes on heeding a discipline. -/
theorem Heeds.becomes {t t' : Task α} {earlier part : List Moment} {Q : α → History → Prop}
    (hC : ∀ script : Script, C.discipline.Governs script.task)
    (ht : Heeds C.discipline t (history i earlier) Q)
    (hb : Task.Becomes i t part t') (hp : Answered C i earlier part) :
    Heeds C.discipline t' (history i (part ++ earlier)) Q := by
  induction hb with
  | start => exact ht
  | pass _ he ih =>
    rw [List.cons_append, history_cons_of_ne he]
    exact ih hp.tail
  | @step ms t₁ t₂ step s s' _ hpend hadv ih =>
    have hheeds := ih hp.tail
    cases t₁ with
    | done a => cases hpend
    | step step' next =>
      cases hpend
      cases step with
      | act a =>
        simp only [Task.advance, Option.map_eq_some_iff, Prod.mk.injEq] at hadv
        obtain ⟨⟨answer, s₁⟩, htake, rfl, rfl⟩ := hadv
        rw [List.cons_append, history_cons_act htake]
        exact hheeds.2 answer _ ⟨hp [] ms s a answer s₁ rfl htake, rfl⟩
      | run script =>
        simp only [Task.advance, Option.some.injEq, Prod.mk.injEq] at hadv
        obtain ⟨rfl, rfl⟩ := hadv
        rw [List.cons_append, history_cons_run]
        exact (hC script _ hheeds.1).andThen fun _ h' hg => hheeds.2 h' hg

/-- What is known of the result and the history of a part of a task is true when it has been
carried out. -/
theorem Heeds.carried {γ : Type} {m m' : Machine γ} {t : Task α} {earlier part : List Moment}
    {Q : α → History → Prop} {a : α} (hC : ∀ script : Script, C.discipline.Governs script.task)
    (ht : Heeds C.discipline t (history i earlier) Q) (hc : m.Carries i t part a m')
    (hp : Answered C i earlier part) : Q a (history i (part ++ earlier)) :=
  ht.becomes hC hc.becomes hp

namespace Machine

/-- All tasks of a machine keep to a discipline. -/
def Abides (C : Conduct) (ms : List Moment) (m : Machine Unit) : Prop :=
  ∀ i t, m.tasks[i]? = some t → Heeds C.discipline t (history i ms) fun _ _ => True

theorem Abides.lawful {ms : List Moment} {m : Machine Unit} {a : Action}
    {next : a.Answer → Task Unit} (h : Abides C ms m)
    (ht : m.tasks[i]? = some (.step (.act a) next)) : C.lawful (history i ms) a :=
  (h i _ ht).1

theorem Abides.step {ms : List Moment} {m m' : Machine Unit} {step : TaskStep}
    (hC : ∀ script : Script, C.discipline.Governs script.task) (h : Abides C ms m)
    (hpend : (m.tasks[i]?).bind Task.pending? = some step) (hadv : m.advance i = some m')
    (hp : ∀ a answer s', step = .act a → m.session.take a = some (answer, s') →
      C.possible (history i ms) ⟨a, answer⟩) : Abides C (⟨i, step, m.session⟩ :: ms) m' := by
  intro j t' ht'
  have hrun : m.Run [⟨i, step, m.session⟩] m' := .step .start hpend hadv
  obtain ⟨t, ht⟩ : ∃ t, m.tasks[j]? = some t := by
    obtain ⟨u, u', s', -, -, rfl⟩ := advance_eq_some hadv
    obtain ⟨hlt, -⟩ := List.getElem?_eq_some_iff.1 ht'
    rw [List.length_set] at hlt
    exact ⟨m.tasks[j], List.getElem?_eq_getElem hlt⟩
  obtain ⟨t₁, ht₁, hb⟩ := hrun.becomes ht
  obtain rfl := Option.some.inj (ht'.symm.trans ht₁)
  refine (h j t ht).becomes hC hb fun after before s a answer s' heq htake => ?_
  cases after with
  | nil =>
    cases heq
    exact hp a answer s' rfl htake
  | cons e after => simp at heq

end Machine

/-! ### The contract in runs -/

namespace Machine

variable {ms part : List Moment} {m m' : Machine Unit}

theorem Sound.run_append (h : Sound ms m) (hrun : m.Run part m') : Sound (part ++ ms) m' := by
  induction hrun with
  | start => exact h
  | step _ hpend hadv ih => exact ih.step hpend hadv

/-- What the contract says of the result and the history of a part of a task is true when it has
been carried out. -/
theorem Sound.carried {t : Task α} {a : α} {Q : α → History → Prop} (h : Sound ms m)
    (hc : m.Carries i t part a m') (ht : Obeys t (history i ms) Q) : Q a (history i (part ++ ms)) :=
  (obeys_iff.1 ht).carried governs_changeContract hc
    (hc.run.answered fun hrun htake => (h.run_append hrun).possible htake)

end Machine

end Strata
