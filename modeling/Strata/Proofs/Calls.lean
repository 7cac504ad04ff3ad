import Strata.Proofs.Ordering
import Strata.Proofs.Steady

/-!
Layers are put in for calls that register sources, and for nothing else. What a task does between
such calls publishes no layers (`PutsFor`); so every layer that is put in in a run of scripts has
the source and the priority of a call that a task has begun to make (`accounted_run`).
-/

namespace Strata

open Machine RegistryId

/-! ### Calls -/

/-- A call that registers a source in a registry. -/
structure RegisterCall where
  registry : RegistryId
  source : SourceId
  priority : Int

/-- The task of a call. -/
def RegisterCall.task (c : RegisterCall) : Task (Except Failure Unit) :=
  c.registry.register c.source c.priority

/-- A task puts in layers for calls of a set and for calls that it goes on to make, and for nothing
else. A layer has the number that was drawn right before it is put in. -/
inductive PutsFor (C : RegisterCall → Prop) {α : Type} : Task α → History → Prop where
  | done (a : α) (h : History) : PutsFor C (.done a) h
  | act {a : Action} {next : a.Answer → Task α} {h : History} :
    (∀ r new, a ≠ .registry r (.setLayers new)) → (∀ x, PutsFor C (next x) (⟨a, x⟩ :: h)) →
    PutsFor C (.step (.act a) next) h
  | put {r : RegistryId} {l : Layer} {old : List Layer} {next : Unit → Task α} {h : History} :
    C ⟨r, l.source, l.priority⟩ → (∀ u h', PutsFor C (next u) h') →
    PutsFor C (.step (.act (.registry r (.setLayers (Layer.insert l old)))) next)
      (⟨.registry r .takeSeq, l.seq⟩ :: h)
  | run {script : Script} {next : Unit → Task α} {h : History} :
    (∀ u h', PutsFor C (next u) h') → PutsFor C (.step (.run script) next) h
  | call {c : RegisterCall} {f : Except Failure Unit → Task α} {h : History} :
    (∀ x h', PutsFor C (f x) h') → PutsFor C (c.task.bind f) h

namespace PutsFor

variable {C C' : RegisterCall → Prop} {α β : Type} {h : History}

theorem mono (hC : ∀ c, C c → C' c) {t : Task α} (ht : PutsFor C t h) : PutsFor C' t h := by
  induction ht with
  | done a h => exact .done a h
  | act ha _ ih => exact .act ha ih
  | put hc _ ih => exact .put (hC _ hc) ih
  | run _ ih => exact .run ih
  | call _ ih => exact .call ih

theorem bind {t : Task α} {f : α → Task β} (ht : PutsFor C t h)
    (hf : ∀ a h', PutsFor C (f a) h') : PutsFor C (t.bind f) h := by
  induction ht with
  | done a h => exact hf a h
  | act ha _ ih => exact .act ha ih
  | put hc _ ih => exact .put hc ih
  | run _ ih => exact .run ih
  | call _ ih =>
    rw [Program.bind_assoc]
    exact .call ih

/-- Actions other than publishing layers put in none. -/
theorem of_act {a : Action} (ha : ∀ r new, a ≠ .registry r (.setLayers new)) (h : History) :
    PutsFor C (Strata.act a) h :=
  .act ha fun x => .done x _

theorem of_ask {r : RegistryId} {b : RegistryAction} (hb : ∀ new, b ≠ .setLayers new)
    (h : History) : PutsFor C (ask r b) h :=
  of_act (fun r' new heq => hb new (by cases heq; rfl)) h

theorem steady (C : RegisterCall → Prop) : Steady fun _ t => ∀ h, PutsFor C t h where
  done := fun a h => .done a h
  bind := fun ht hf h => (ht h).bind hf
  act := fun a ha h => of_act (fun r new heq => by rw [heq] at ha; cases ha) h
  run := fun script h => by
    rw [Strata.run]
    split
    · exact .done _ _
    · exact .run fun u h' => .done u h'

/-- A call puts in a layer for itself once it is under way. -/
theorem exists_rest {c : RegisterCall} (hc : C c) :
    ∃ rest, c.task = .step (.act (.describe c.source)) rest ∧ ∀ x h, PutsFor C (rest x) h := by
  have hs := steady C
  have hask : ∀ b : RegistryAction, (∀ new, b ≠ .setLayers new) →
      ∀ h, PutsFor C (ask c.registry b) h := fun b hb => of_ask hb
  have hact : ∀ {α : Type} (f : String × Bool → Task α), (Strata.act (.describe c.source)).bind f =
      .step (.act (.describe c.source)) f := fun _ => rfl
  rw [RegisterCall.task, register_eq, registration, Program.bind_eq_bind, Program.bind_assoc, hact]
  refine ⟨_, rfl, fun p h => ?_⟩
  obtain ⟨name, isMutable⟩ := p
  refine bind ?_ fun x h' => ?_
  · refine bind (hask .lock (by simp) _) fun _ h₂ => bind (hask .layers (by simp) _) fun old h₃ => ?_
    split
    · exact bind (hs.act (.observe (.registration name) _) rfl _) fun _ h₄ =>
        bind (hask .unlock (by simp) _) fun _ h₅ => .done _ _
    · refine bind (hask .beginChange (by simp) _) fun _ h₄ => bind ?_ fun changes h₅ =>
        bind (hask .endChange (by simp) _) fun _ h₆ => bind (hask .unlock (by simp) _) fun _ h₇ => .done _ _
      rw [insertLayer_eq]
      refine bind (hs.firstSnapshot c.source name _) fun x h₅ => .act (by simp) fun seq => ?_
      refine .put hc fun u h₆ => ?_
      exact (hs.bind (hs.evictFor c.registry x.1.keys _ x.2) fun _ => hs.done _) h₆
  · cases x with
    | error e => exact .done _ _
    | ok changes => exact bind (hs.notify _ _ _) fun _ h₁ => .done _ _

/-- An action that a task takes. It may be the first one of a call. -/
theorem next {a : Action} {next : a.Answer → Task α} (ht : PutsFor C (.step (.act a) next) h)
    (hC : ∀ c, C c → C' c) (hcall : ∀ c f, (.step (.act a) next : Task α) = c.task.bind f → C' c)
    (x : a.Answer) : PutsFor C' (next x) (⟨a, x⟩ :: h) := by
  generalize hu : (Program.step (TaskStep.act a) next : Task α) = u at ht
  cases ht with
  | done a h => cases hu
  | act ha hnext =>
    cases hu
    exact (hnext x).mono hC
  | put hc hnext =>
    cases hu
    exact (hnext x _).mono hC
  | run _ => cases hu
  | call hf =>
    obtain ⟨rest, hrest, hputs⟩ := exists_rest (hcall _ _ hu)
    rw [hrest, Program.step_bind] at hu
    cases hu
    exact bind (hputs x _) fun y h' => (hf y h').mono hC

/-- A script that a task runs. -/
theorem next_script {script : Script} {next : Unit → Task α}
    (ht : PutsFor C (.step (.run script) next) h) : ∀ u h', PutsFor C (next u) h' := by
  generalize hu : (Program.step (TaskStep.run script) next : Task α) = u at ht
  cases ht with
  | done a h => cases hu
  | act ha hnext => cases hu
  | put hc hnext => cases hu
  | run hnext =>
    cases hu
    exact hnext
  | @call c f h hf =>
    obtain ⟨rest, hrest, -⟩ := exists_rest (C := fun _ => True) (c := c) trivial
    rw [hrest, Program.step_bind] at hu
    cases hu

/-- Layers that a task publishes have one more among them, for a call. -/
theorem exists_call {r : RegistryId} {new : List Layer} {next : Unit → Task α}
    (ht : PutsFor C (.step (.act (.registry r (.setLayers new))) next) h) :
    ∃ l old h', new = Layer.insert l old ∧ h = ⟨.registry r .takeSeq, l.seq⟩ :: h' ∧
      C ⟨r, l.source, l.priority⟩ := by
  generalize hu :
    (Program.step (TaskStep.act (.registry r (.setLayers new))) next : Task α) = u at ht
  cases ht with
  | done a h => cases hu
  | act ha hnext =>
    cases hu
    exact absurd rfl (ha r new)
  | put hc hnext =>
    cases hu
    exact ⟨_, _, _, rfl, rfl, hc⟩
  | run hnext => cases hu
  | @call c f h hf =>
    obtain ⟨rest, hrest, -⟩ := exists_rest (C := fun _ => True) (c := c) trivial
    rw [hrest, Program.step_bind] at hu
    cases hu

theorem operations (C : RegisterCall → Prop) :
    Operations fun _ _ t => ∀ h, PutsFor C t h := by
  have hs := steady C
  have hparts : Parts fun _ t => ∀ h, PutsFor C t h := { hs.toSequential with
    passive := fun a ha => of_act fun r new heq => by rw [heq] at ha; cases ha
    read := hs.read
    lookUp := hs.lookUp
    invalidate := fun r key => of_ask nofun
    refresh := hs.refresh fun r b hb => of_ask hb }
  refine ⟨hparts.walk, fun a ha => ?_, hs.takeSnapshot, fun r n priority h => ?_⟩
  · exact of_act fun r new heq => by rw [heq] at ha; cases ha
  · have hcall : PutsFor C (RegisterCall.task ⟨r, n, priority⟩) h := by
      rw [← Program.bind_done (RegisterCall.task _)]
      exact .call fun x h' => .done x h'
    exact hcall

/-- Scripts put in layers for nothing but the calls that they make. -/
theorem of_script (script : Script) (h : History) : PutsFor C script.task h :=
  (operations C).script [] script h

end PutsFor

/-! ### Calls in runs -/

namespace Machine

variable {s s' : Session} {tasks : List (Task Unit)} {i : Nat} {r : RegistryId} {ms : List Moment}
  {m₀ m m' : Machine Unit}

/-- In a run a task has begun to make a call. -/
def HasCalled (m₀ : Machine Unit) (ms : List Moment) (i : Nat) (c : RegisterCall) : Prop :=
  ∃ later earlier m next, ms = later ++ earlier ∧ m₀.Run earlier m ∧
    m.tasks[i]? = some (c.task.bind next)

theorem HasCalled.cons {c : RegisterCall} (h : HasCalled m₀ ms i c) (e : Moment) :
    HasCalled m₀ (e :: ms) i c := by
  obtain ⟨later, earlier, m, next, rfl, hrun, ht⟩ := h
  exact ⟨e :: later, earlier, m, next, rfl, hrun, ht⟩

/-- What was put in was put in for calls, and tasks go on like that. -/
structure Accounted (m₀ : Machine Unit) (ms : List Moment) (m : Machine Unit) : Prop where
  puts : ∀ i t, m.tasks[i]? = some t → PutsFor (m₀.HasCalled ms i) t (history i ms)
  possible : ∀ i f h, history i ms = f :: h → Possible h f
  called : ∀ r, ∀ l ∈ registrations r ms, ∃ i, m₀.HasCalled ms i ⟨r, l.source, l.priority⟩

namespace Accounted

/-- The layer that a task puts in is one that it was called for. -/
theorem hasCalled_of_putIn (h : Accounted m₀ ms ⟨s, tasks⟩) (hsound : Sound ms ⟨s, tasks⟩)
    {new : List Layer} {next : Unit → Task Unit}
    (hpend : tasks[i]? = some (.step (.act (.registry r (.setLayers new))) next))
    (htake : s.take (.registry r (.setLayers new)) = some ((), s')) :
    ∀ l ∈ Moment.putIn r ⟨i, .act (.registry r (.setLayers new)), s⟩,
      m₀.HasCalled ms i ⟨r, l.source, l.priority⟩ := by
  obtain ⟨l, old, earlier, rfl, hhistory, hcalled⟩ := (h.puts i _ hpend).exists_call
  rw [hsound.putIn_eq hpend htake hhistory (h.possible i _ _ hhistory)]
  intro x hx
  rwa [List.mem_singleton.1 hx]

theorem step {step : TaskStep} (h : Accounted m₀ ms m) (hsound : Sound ms m)
    (hrun : m₀.Run ms m) (hpend : (m.tasks[i]?).bind Task.pending? = some step)
    (hadv : m.advance i = some m') : Accounted m₀ (⟨i, step, m.session⟩ :: ms) m' := by
  have hcons : ∀ j c, m₀.HasCalled ms j c → m₀.HasCalled (⟨i, step, m.session⟩ :: ms) j c :=
    fun _ _ hc => hc.cons _
  have hother : ∀ {j t}, i ≠ j → m.tasks[j]? = some t →
      PutsFor (m₀.HasCalled (⟨i, step, m.session⟩ :: ms) j) t
        (history j (⟨i, step, m.session⟩ :: ms)) := by
    intro j t hj ht
    rw [history_cons_of_ne hj]
    exact (h.puts j t ht).mono (hcons j)
  obtain ⟨s, tasks⟩ := m
  rcases advance_cases hpend hadv with ⟨a, answer, next, s', ht, rfl, htake, rfl⟩ |
    ⟨script, next, ht, rfl, rfl⟩
  · refine ⟨fun j t hj => ?_, fun j f hist hj => ?_, fun r l hl => ?_⟩
    · by_cases hij : i = j
      · subst hij
        obtain ⟨hlt, -⟩ := List.getElem?_eq_some_iff.1 ht
        rw [List.getElem?_set_self hlt] at hj
        cases hj
        rw [history_cons_act htake]
        refine (h.puts i _ ht).next (hcons i) (fun c f heq => ?_) answer
        exact ⟨[_], ms, ⟨s, tasks⟩, f, rfl, hrun, by rw [ht, heq]⟩
      · rw [List.getElem?_set_ne hij] at hj
        exact hother hij hj
    · rw [history_cons htake] at hj
      split at hj
      · cases hj
        exact hsound.possible htake
      · exact h.possible j f hist hj
    · rw [registrations] at hl
      rcases List.mem_append.1 hl with hl | hl
      · obtain ⟨j, hj⟩ := h.called r l hl
        exact ⟨j, hj.cons _⟩
      · by_cases ha : ∀ new, a ≠ .registry r (.setLayers new)
        · rw [putIn_eq_nil fun new heq => ha new (by cases heq; rfl)] at hl
          exact absurd hl List.not_mem_nil
        · push Not at ha
          obtain ⟨new, rfl⟩ := ha
          exact ⟨i, (h.hasCalled_of_putIn hsound ht htake l hl).cons _⟩
  · refine ⟨fun j t hj => ?_, fun j f hist hj => ?_, fun r l hl => ?_⟩
    · by_cases hij : i = j
      · subst hij
        obtain ⟨hlt, -⟩ := List.getElem?_eq_some_iff.1 ht
        rw [List.getElem?_set_self hlt] at hj
        cases hj
        exact (PutsFor.of_script script _).bind fun u h' =>
          ((h.puts i _ ht).next_script u h').mono (hcons i)
      · rw [List.getElem?_set_ne hij] at hj
        exact hother hij hj
    · rw [history_cons_run] at hj
      exact h.possible j f hist hj
    · have hnone : registrations r (⟨i, .run script, s⟩ :: ms) = registrations r ms :=
        List.append_nil _
      rw [hnone] at hl
      obtain ⟨j, hj⟩ := h.called r l hl
      exact ⟨j, hj.cons _⟩

end Accounted

/-- Whatever is put in in a run of scripts is put in for calls. -/
theorem accounted_run {scripts : List Script} (hs : ∀ reg ∈ s.registries, reg.IsNumbered)
    (h : Machine.Run ⟨s, scripts.map Script.task⟩ ms m) :
    Accounted ⟨s, scripts.map Script.task⟩ ms m := by
  induction h with
  | start =>
    refine ⟨fun i t ht => ?_, fun i f h hf => ?_, fun r l hl => ?_⟩
    · rw [List.getElem?_map, Option.map_eq_some_iff] at ht
      obtain ⟨script, -, rfl⟩ := ht
      exact PutsFor.of_script script _
    · cases hf
    · exact absurd hl List.not_mem_nil
  | step hrun hpend hadv ih => exact ih.step (sound_run hs hrun) hrun hpend hadv

end Machine

end Strata
