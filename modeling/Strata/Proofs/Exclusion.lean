import Strata.Proofs.Contracts
import Strata.Proofs.Frames

/-!
Tasks that take turns exclude each other from registries. In every run of scripts at most one task
has locked a registry, and what it knows of the layers is what they are (`sound_run`). So a task is
only answered what is possible, and keeps to its contract.
-/

namespace Strata

open Machine RegistryId

/-! ### The histories of a run -/

namespace Machine

/-- What a moment was for its task. -/
def Moment.fact? (m : Moment) : Option Fact :=
  match m.step with
  | .act a => (m.session.take a).map fun x => ⟨a, x.1⟩
  | .run _ => none

/-- What a task has done in a run. -/
def history (i : Nat) (ms : List Moment) : History :=
  (ms.filter (·.task = i)).filterMap Moment.fact?

variable {i j : Nat} {ms : List Moment} {s s' : Session}

theorem history_cons_act {a : Action} {answer : a.Answer} (h : s.take a = some (answer, s')) :
    history i (⟨i, .act a, s⟩ :: ms) = ⟨a, answer⟩ :: history i ms := by
  simp [history, Moment.fact?, h]

theorem history_cons_of_ne {step : TaskStep} (h : j ≠ i) :
    history i (⟨j, step, s⟩ :: ms) = history i ms := by
  simp [history, h]

theorem history_cons {a : Action} {answer : a.Answer} (h : s.take a = some (answer, s')) :
    history j (⟨i, .act a, s⟩ :: ms) =
      if i = j then ⟨a, answer⟩ :: history j ms else history j ms := by
  split
  · rename_i hij
    subst hij
    exact history_cons_act h
  · exact history_cons_of_ne ‹_›

theorem mem_history_cons {a : Action} {answer : a.Answer} {f : Fact}
    (h : s.take a = some (answer, s')) (hmem : f ∈ history j (⟨i, .act a, s⟩ :: ms)) :
    (i = j ∧ f = ⟨a, answer⟩) ∨ f ∈ history j ms := by
  rw [history_cons h] at hmem
  split at hmem
  · exact (List.mem_cons.1 hmem).imp_left fun heq => ⟨‹_›, heq⟩
  · exact .inr hmem

/-- What is known of a registry does not change by an action on another one. -/
theorem hold_history_of_ne {r r₁ : RegistryId} {b : RegistryAction} {answer : b.Answer}
    (h : s.take (.registry r b) = some (answer, s')) (hr : r₁ ≠ r) :
    hold r₁ (history j (⟨i, .act (.registry r b), s⟩ :: ms)) = hold r₁ (history j ms) := by
  rw [history_cons h]
  split
  · rw [hold_cons, know_of_ne hr.symm]
  · rfl

/-- What is known of a registry changes for the task that acts on it only. -/
theorem hold_history_cases {r : RegistryId} {b : RegistryAction} {answer : b.Answer}
    {x : Option (List Layer)} (h : s.take (.registry r b) = some (answer, s'))
    (hx : hold r (history j (⟨i, .act (.registry r b), s⟩ :: ms)) = some x) :
    (i = j ∧ b.know answer (hold r (history i ms)) = some x) ∨
      (i ≠ j ∧ hold r (history j ms) = some x) := by
  rw [history_cons h] at hx
  split at hx
  · rename_i hj
    subst hj
    rw [hold_cons, know_self] at hx
    exact .inl ⟨rfl, hx⟩
  · exact .inr ⟨‹_›, hx⟩

theorem history_cons_run {script : Script} :
    history i (⟨j, .run script, s⟩ :: ms) = history i ms := by
  by_cases h : j = i
  · subst h
    simp [history, List.filterMap_cons, Moment.fact?]
  · simp [history, h]

/-- What a step of a machine is. -/
theorem advance_cases {tasks : List (Task Unit)} {m' : Machine Unit} {step : TaskStep}
    (hpend : (tasks[i]?).bind Task.pending? = some step)
    (hadv : Machine.advance ⟨s, tasks⟩ i = some m') :
    (∃ (a : Action) (answer : a.Answer) (next : a.Answer → Task Unit) (s' : Session),
      tasks[i]? = some (.step (.act a) next) ∧ step = .act a ∧ s.take a = some (answer, s') ∧
      m' = ⟨s', tasks.set i (next answer)⟩) ∨
    ∃ script next, tasks[i]? = some (.step (.run script) next) ∧ step = .run script ∧
      m' = ⟨s, tasks.set i (script.task.bind next)⟩ := by
  obtain ⟨t, ht, hpend⟩ := Option.bind_eq_some_iff.1 hpend
  cases t with
  | done u => cases hpend
  | step step' next =>
    cases hpend
    simp only [Machine.advance, ht] at hadv
    cases step with
    | act a =>
      simp only [Task.advance, Option.map_map, Option.map_eq_some_iff, Function.comp_apply] at hadv
      obtain ⟨⟨answer, s'⟩, htake, rfl⟩ := hadv
      exact .inl ⟨a, answer, next, s', ht, rfl, htake, rfl⟩
    | run script =>
      simp only [Task.advance, Option.map_some, Option.some.injEq] at hadv
      exact .inr ⟨script, next, ht, rfl, hadv.symm⟩

end Machine

/-! ### Actions that are not on registries -/

/-- Sessions whose registries differ in their listeners only, but for new registries. Listeners come
behind those that are there. -/
structure SameRegistries (s s' : Session) : Prop where
  kept : ∀ (r : RegistryId) reg, s.registries[r]? = some reg →
    ∃ listeners, s'.registries[r]? = some { reg with listeners := reg.listeners ++ listeners }
  known : ∀ (r : RegistryId) reg', s'.registries[r]? = some reg' →
    (s.registries[r]? = none ∧ reg' = {}) ∨
      ∃ reg listeners, s.registries[r]? = some reg ∧ reg' = { reg with listeners := listeners }

theorem SameRegistries.of_eq {s s' : Session} (h : s'.registries = s.registries) :
    SameRegistries s s' := by
  refine ⟨fun r reg hreg => ⟨[], by rw [h, hreg, List.append_nil]⟩, fun r reg' hreg' => .inr ?_⟩
  rw [h] at hreg'
  exact ⟨reg', reg'.listeners, hreg', rfl⟩

theorem sameRegistries_addListener (s : Session) (r : RegistryId) (key : String) (l : Listener) :
    SameRegistries s (s.addListener r key l) := by
  have hsame : ∀ r₁ (reg : Registry), ∃ listeners,
      (if r = r₁ then reg.subscribe key s.listeners.length else reg) =
        { reg with listeners := reg.listeners ++ listeners } := by
    intro r₁ reg
    split
    · exact ⟨_, rfl⟩
    · exact ⟨[], by rw [List.append_nil]⟩
  refine ⟨fun r₁ reg hreg => ?_, fun r₁ reg' hreg' => .inr ?_⟩
  · obtain ⟨listeners, hl⟩ := hsame r₁ reg
    exact ⟨listeners, by rw [s.registries_addListener, hreg, Option.map_some, hl]⟩
  · rw [s.registries_addListener, Option.map_eq_some_iff] at hreg'
    obtain ⟨reg, hreg, rfl⟩ := hreg'
    obtain ⟨listeners, hl⟩ := hsame r₁ reg
    exact ⟨reg, _, hreg, hl⟩

/-- Actions that are not on a registry change listeners at most. -/
theorem sameRegistries_take {s s' : Session} {a : Action} {answer : a.Answer}
    (ha : ∀ r b, a ≠ .registry r b) (h : s.take a = some (answer, s')) : SameRegistries s s' := by
  cases helse : a.isElsewhere with
  | true => exact .of_eq (Session.take_elsewhere helse h).1
  | false =>
    cases a with
    | registry r b => exact absurd rfl (ha r b)
    | addRegistry =>
      cases h
      refine ⟨fun r reg hreg => ⟨[], ?_⟩, fun r reg' hreg' => ?_⟩
      · obtain ⟨hlt, -⟩ := List.getElem?_eq_some_iff.1 hreg
        rw [List.getElem?_append_left hlt, hreg, List.append_nil]
      · by_cases hlt : r < s.registries.length
        · rw [List.getElem?_append_left hlt] at hreg'
          exact .inr ⟨reg', reg'.listeners, hreg', rfl⟩
        · have hle := Nat.le_of_not_lt hlt
          rw [List.getElem?_append_right hle] at hreg'
          exact .inl ⟨List.getElem?_eq_none hle,
            List.mem_singleton.1 (List.mem_of_getElem? hreg')⟩
    | deed d =>
      cases d with
      | subscribe id key reaction =>
        cases h
        exact sameRegistries_addListener s _ _ _
      | follow id =>
        simp only [Session.take, Session.carryOut, Session.follow] at h
        split at h
        · cases h
          exact .of_eq rfl
        · cases h
          exact sameRegistries_addListener s _ _ _
      | _ => simp [Action.isElsewhere] at helse
    | _ => simp [Action.isElsewhere] at helse

/-! ### Registries -/

/-- The layers of a registry have names and numbers of their own. -/
structure Registry.IsNumbered (reg : Registry) : Prop where
  names : (reg.layers.map (·.name)).Nodup
  seqs : (reg.layers.map (·.seq)).Nodup
  seq_lt : ∀ l ∈ reg.layers, l.seq < reg.nextSeq

theorem Registry.isNumbered_empty : ({} : Registry).IsNumbered :=
  ⟨.nil, .nil, fun _ hl => absurd hl List.not_mem_nil⟩

/-- What an action on a registry does not make less. -/
theorem Registry.take_mono {reg reg' : Registry} {b : RegistryAction} {answer : b.Answer}
    (h : reg.take b = some (answer, reg')) :
    reg.nextSeq ≤ reg'.nextSeq ∧ reg.cache.epoch ≤ reg'.cache.epoch := by
  cases b with
  | lock =>
    simp only [take] at h
    split at h <;> cases h
    exact ⟨Nat.le_refl _, Nat.le_refl _⟩
  | fill key x epoch =>
    cases h
    exact ⟨Nat.le_refl _, Nat.le_of_eq Cache.epoch_fill.symm⟩
  | invalidate key =>
    cases h
    refine ⟨Nat.le_refl _, ?_⟩
    cases key <;> exact Nat.le_succ _
  | takeSeq =>
    cases h
    exact ⟨Nat.le_succ _, Nat.le_refl _⟩
  | evictChanged | evictStale =>
    cases h
    exact ⟨Nat.le_refl _, Nat.le_succ _⟩
  | _ =>
    cases h
    exact ⟨Nat.le_refl _, Nat.le_refl _⟩

/-- An action on a registry does not make less what the registries count. -/
theorem Session.mono_setRegistry {s : Session} {r r₁ : RegistryId} {reg reg' reg₁ : Registry}
    {b : RegistryAction} {answer : b.Answer} (hreg : s.registries[r]? = some reg)
    (htake : reg.take b = some (answer, reg')) (hreg₁ : s.registries[r₁]? = some reg₁) :
    ∃ reg₂, (s.setRegistry r reg').registries[r₁]? = some reg₂ ∧ reg₁.nextSeq ≤ reg₂.nextSeq ∧
      reg₁.cache.epoch ≤ reg₂.cache.epoch := by
  by_cases hr₁ : r₁ = r
  · subst hr₁
    obtain rfl := Option.some.inj (hreg.symm.trans hreg₁)
    exact ⟨reg', registries_setRegistry hreg reg', Registry.take_mono htake⟩
  · exact ⟨reg₁, (registries_setRegistry_of_ne hr₁).trans hreg₁, Nat.le_refl _, Nat.le_refl _⟩

theorem Registry.layers_take {reg reg' : Registry} {b : RegistryAction} {answer : b.Answer}
    (hset : ∀ ls, b ≠ .setLayers ls) (hrecord : ∀ seq t, b ≠ .record seq t)
    (h : reg.take b = some (answer, reg')) : reg'.layers = reg.layers := by
  cases b with
  | lock =>
    simp only [take] at h
    split at h <;> cases h
    rfl
  | setLayers ls => exact absurd rfl (hset ls)
  | record seq t => exact absurd rfl (hrecord seq t)
  | _ =>
    cases h
    rfl

/-- Nothing about the layers changes but what is recorded, unless they are published. -/
theorem Registry.map_layers_take {reg reg' : Registry} {b : RegistryAction} {answer : b.Answer}
    (hset : ∀ ls, b ≠ .setLayers ls) (h : reg.take b = some (answer, reg')) {β : Type}
    {f : Layer → β} (hf : ∀ l t, f { l with recorded := t } = f l) :
    reg'.layers.map f = reg.layers.map f := by
  by_cases hrecord : ∃ seq t, b = .record seq t
  · obtain ⟨seq, t, rfl⟩ := hrecord
    cases h
    exact Layer.map_record hf seq t reg.layers
  · push Not at hrecord
    rw [layers_take hset hrecord h]

theorem Registry.take_keepsLayers {reg reg' : Registry} {b : RegistryAction} {answer : b.Answer}
    (hb : b.keepsLayers = true) (h : reg.take b = some (answer, reg')) :
    reg'.layers = reg.layers ∧ reg'.isLocked = reg.isLocked := by
  cases b with
  | lock | unlock | setLayers | record => simp [RegistryAction.keepsLayers] at hb
  | _ =>
    cases h
    exact ⟨rfl, rfl⟩

/-! ### Sound machines -/

namespace Machine

/-- Every task keeps to the contract, and what the tasks know of registries is true. -/
structure Sound (ms : List Moment) (m : Machine Unit) : Prop where
  obeys : ∀ i t, m.tasks[i]? = some t → Obeys t (history i ms) fun _ _ => True
  numbered : ∀ reg ∈ m.session.registries, reg.IsNumbered
  held : ∀ i r x, hold r (history i ms) = some x → ∃ reg,
    m.session.registries[r]? = some reg ∧ reg.isLocked = true ∧ ∀ ls, x = some ls → reg.layers = ls
  alone : ∀ i j r x y, hold r (history i ms) = some x → hold r (history j ms) = some y → i = j
  seq_lt : ∀ i r seq, (⟨.registry r .takeSeq, seq⟩ : Fact) ∈ history i ms → ∃ reg,
    m.session.registries[r]? = some reg ∧ seq < reg.nextSeq
  epoch_le : ∀ i r epoch, (⟨.registry r .epoch, epoch⟩ : Fact) ∈ history i ms → ∃ reg,
    m.session.registries[r]? = some reg ∧ epoch ≤ reg.cache.epoch

namespace Sound

variable {ms : List Moment} {s s' : Session} {tasks : List (Task Unit)} {i : Nat} {r : RegistryId}
  {reg reg' : Registry}

/-- What is known of a registry is true. -/
theorem true_of_hold (h : Sound ms ⟨s, tasks⟩) (hreg : s.registries[r]? = some reg)
    {x : Option (List Layer)} (hx : hold r (history i ms) = some x) :
    reg.isLocked = true ∧ ∀ ls, x = some ls → reg.layers = ls := by
  obtain ⟨reg₁, hreg₁, hheld⟩ := h.held i r x hx
  obtain rfl := Option.some.inj (hreg.symm.trans hreg₁)
  exact hheld

/-- Only what is possible is answered. -/
theorem possible (h : Sound ms ⟨s, tasks⟩) {a : Action} {answer : a.Answer}
    (htake : s.take a = some (answer, s')) : Possible (history i ms) ⟨a, answer⟩ := by
  cases a with
  | registry r b =>
    obtain ⟨reg, reg', hreg, hask, rfl⟩ := Session.exists_registry_take htake
    have hnumbered := h.numbered reg (List.mem_of_getElem? hreg)
    have hlayers : ∀ ls, hold r (history i ms) = some (some ls) → reg.layers = ls :=
      fun ls hhold => (h.true_of_hold hreg hhold).2 ls rfl
    cases b with
    | lock =>
      refine Option.eq_none_iff_forall_not_mem.2 fun x hx => ?_
      simp [Registry.take, (h.true_of_hold hreg hx).1] at hask
    | layers =>
      cases hask
      exact ⟨hnumbered.seqs, hlayers⟩
    | takeSeq =>
      cases hask
      intro ls hhold l hl
      rw [← hlayers ls hhold] at hl
      exact hnumbered.seq_lt l hl
    | _ => trivial
  | _ => trivial

/-- A task that takes an action. -/
theorem contract (h : Sound ms ⟨s, tasks⟩) {a : Action} {next : a.Answer → Task Unit}
    (hpend : tasks[i]? = some (.step (.act a) next)) :
    Lawful (history i ms) a ∧ Due (history i ms) a :=
  ⟨(h.obeys i _ hpend).1, (h.obeys i _ hpend).2.1⟩

/-- Every task goes on keeping to the contract when one of them takes an action. -/
theorem obeys_act (h : Sound ms ⟨s, tasks⟩) {a : Action} {answer : a.Answer}
    {next : a.Answer → Task Unit} (hpend : tasks[i]? = some (.step (.act a) next))
    (htake : s.take a = some (answer, s')) (j : Nat) (t : Task Unit)
    (ht : (tasks.set i (next answer))[j]? = some t) :
    Obeys t (history j (⟨i, .act a, s⟩ :: ms)) fun _ _ => True := by
  by_cases hj : i = j
  · subst hj
    obtain ⟨hlt, -⟩ := List.getElem?_eq_some_iff.1 hpend
    rw [List.getElem?_set_self hlt] at ht
    cases ht
    rw [history_cons_act htake]
    exact (h.obeys i _ hpend).2.2 answer (h.possible htake)
  · rw [List.getElem?_set_ne hj] at ht
    rw [history_cons_of_ne hj]
    exact h.obeys j t ht

/-- What a registry is like after an action that keeps to the contract. -/
theorem isNumbered_take {b : RegistryAction} {answer : b.Answer} {x : History}
    (hlaw : Lawful x (.registry r b)) (hreg : reg.IsNumbered)
    (hheld : ∀ ls, hold r x = some (some ls) → reg.layers = ls)
    (hseq : ∀ seq, (⟨.registry r .takeSeq, seq⟩ : Fact) ∈ x → seq < reg.nextSeq)
    (htake : reg.take b = some (answer, reg')) : reg'.IsNumbered := by
  by_cases hset : ∃ ls, b = .setLayers ls
  · obtain ⟨_, rfl⟩ := hset
    cases htake
    obtain ⟨l, ls, hhold, rfl, hnew, hmem, -⟩ := hlaw
    obtain rfl := hheld ls hhold
    have hperm := Layer.insert_perm l reg.layers
    refine ⟨?_, ?_, fun l' hl' => ?_⟩
    · rw [(hperm.map _).nodup_iff, List.map_cons, List.nodup_cons]
      refine ⟨fun hin => ?_, hreg.names⟩
      obtain ⟨l', hl', heq⟩ := List.mem_map.1 hin
      exact (hnew l' hl').1 heq
    · rw [(hperm.map _).nodup_iff, List.map_cons, List.nodup_cons]
      refine ⟨fun hin => ?_, hreg.seqs⟩
      obtain ⟨l', hl', heq⟩ := List.mem_map.1 hin
      exact absurd heq (Nat.ne_of_lt (hnew l' hl').2)
    · rcases Layer.mem_insert.1 hl' with rfl | hl'
      · exact hseq _ hmem
      · exact hreg.seq_lt l' hl'
  · push Not at hset
    have hnames : reg'.layers.map (·.name) = reg.layers.map (·.name) :=
      Registry.map_layers_take hset htake fun _ _ => rfl
    have hseqs : reg'.layers.map (·.seq) = reg.layers.map (·.seq) :=
      Registry.map_layers_take hset htake fun _ _ => rfl
    refine ⟨by rw [hnames]; exact hreg.names, by rw [hseqs]; exact hreg.seqs, fun l hl => ?_⟩
    have hmem : l.seq ∈ reg.layers.map (·.seq) := by
      rw [← hseqs]
      exact List.mem_map_of_mem hl
    obtain ⟨l', hl', heq⟩ := List.mem_map.1 hmem
    rw [← heq]
    exact Nat.lt_of_lt_of_le (hreg.seq_lt l' hl') (Registry.take_mono htake).1

/-- Nobody else changes a registry that a task has locked. -/
theorem keepsLayers_of_ne {j : Nat} (h : Sound ms ⟨s, tasks⟩) {b : RegistryAction}
    {answer : b.Answer} (hlaw : Lawful (history i ms) (.registry r b)) (hij : i ≠ j)
    (hreg : s.registries[r]? = some reg) (htake : reg.take b = some (answer, reg'))
    {x : Option (List Layer)} (hx : hold r (history j ms) = some x) : b.keepsLayers = true := by
  cases b with
  | lock => simp [Registry.take, (h.true_of_hold hreg hx).1] at htake
  | unlock =>
    obtain ⟨y, hy⟩ := hlaw
    exact absurd (h.alone i j r y x hy hx) hij
  | setLayers | record =>
    obtain ⟨l, ls, hy, -⟩ := hlaw
    exact absurd (h.alone i j r _ x hy hx) hij
  | _ => rfl

/-- What a task that does not act knows of a registry stays true. -/
theorem held_of_ne {j : Nat} (h : Sound ms ⟨s, tasks⟩) {b : RegistryAction} {answer : b.Answer}
    (hlaw : Lawful (history i ms) (.registry r b)) (hij : i ≠ j)
    (hreg : s.registries[r]? = some reg) (htake : reg.take b = some (answer, reg'))
    {x : Option (List Layer)} (hx : hold r (history j ms) = some x) :
    reg'.isLocked = true ∧ ∀ ls, x = some ls → reg'.layers = ls := by
  obtain ⟨hlayers, hlock⟩ :=
    Registry.take_keepsLayers (h.keepsLayers_of_ne hlaw hij hreg htake hx) htake
  rw [hlayers, hlock]
  exact h.true_of_hold hreg hx

/-- What the task that acts knows of the registry is true. -/
theorem held_self (h : Sound ms ⟨s, tasks⟩) {b : RegistryAction} {answer : b.Answer}
    (hreg : s.registries[r]? = some reg) (htake : reg.take b = some (answer, reg'))
    {x : Option (List Layer)} (hx : b.know answer (hold r (history i ms)) = some x) :
    reg'.isLocked = true ∧ ∀ ls, x = some ls → reg'.layers = ls := by
  have hheld : ∀ y, hold r (history i ms) = some y →
      reg.isLocked = true ∧ ∀ ls, y = some ls → reg.layers = ls :=
    fun _ hy => h.true_of_hold hreg hy
  cases b with
  | lock =>
    cases hx
    simp only [Registry.take] at htake
    split at htake <;> cases htake
    exact ⟨rfl, fun _ hls => by cases hls⟩
  | unlock => cases hx
  | layers =>
    obtain ⟨y, hy, rfl⟩ := Option.map_eq_some_iff.1 hx
    cases htake
    exact ⟨(hheld y hy).1, fun _ hls => Option.some.inj hls⟩
  | setLayers new =>
    obtain ⟨y, hy, rfl⟩ := Option.map_eq_some_iff.1 hx
    cases htake
    exact ⟨(hheld y hy).1, fun _ hls => Option.some.inj hls⟩
  | record seq t =>
    obtain ⟨y, hy, rfl⟩ := Option.map_eq_some_iff.1 hx
    cases htake
    refine ⟨(hheld y hy).1, fun ls hls => ?_⟩
    obtain ⟨ls', rfl, rfl⟩ := Option.map_eq_some_iff.1 hls
    rw [(hheld _ hy).2 ls' rfl]
  | _ =>
    obtain ⟨hlayers, hlock⟩ := Registry.take_keepsLayers rfl htake
    rw [hlayers, hlock]
    exact hheld x hx

/-- No other task has locked the registry that a task has locked after an action. -/
theorem alone_of_know {j : Nat} (h : Sound ms ⟨s, tasks⟩) {b : RegistryAction} {answer : b.Answer}
    (hreg : s.registries[r]? = some reg) (htake : reg.take b = some (answer, reg'))
    {x y : Option (List Layer)} (hx : b.know answer (hold r (history i ms)) = some x)
    (hy : hold r (history j ms) = some y) : i = j := by
  have hheld : ∀ z, hold r (history i ms) = some z → i = j := fun z hz => h.alone i j r z y hz hy
  cases b with
  | lock =>
    simp [Registry.take, (h.true_of_hold hreg hy).1] at htake
  | unlock => cases hx
  | layers | setLayers | record =>
    obtain ⟨z, hz, -⟩ := Option.map_eq_some_iff.1 hx
    exact hheld z hz
  | _ => exact hheld x hx

/-- An action on a registry. -/
theorem ask (h : Sound ms ⟨s, tasks⟩) {b : RegistryAction} {answer : b.Answer}
    {next : b.Answer → Task Unit} (hpend : tasks[i]? = some (.step (.act (.registry r b)) next))
    (hreg : s.registries[r]? = some reg) (htake : reg.take b = some (answer, reg')) :
    Sound (⟨i, .act (.registry r b), s⟩ :: ms)
      ⟨s.setRegistry r reg', tasks.set i (next answer)⟩ := by
  have htake' : s.take (.registry r b) = some (answer, s.setRegistry r reg') := by
    rw [Session.take_registry hreg, htake]
    rfl
  have hlaw := (h.contract hpend).1
  have hreg' := Session.registries_setRegistry hreg reg'
  refine ⟨h.obeys_act hpend htake', fun reg₁ hreg₁ => ?_, fun j r₁ x hx => ?_,
    fun j k r₁ x y hx hy => ?_, fun j r₁ seq hmem => ?_, fun j r₁ epoch hmem => ?_⟩
  · rcases List.mem_or_eq_of_mem_set hreg₁ with hreg₁ | rfl
    · exact h.numbered reg₁ hreg₁
    · refine isNumbered_take hlaw (h.numbered reg (List.mem_of_getElem? hreg)) ?_ ?_ htake
      · exact fun ls hhold => (h.true_of_hold hreg hhold).2 ls rfl
      · intro seq hmem
        obtain ⟨reg₂, hreg₂, hlt⟩ := h.seq_lt i r seq hmem
        obtain rfl := Option.some.inj (hreg.symm.trans hreg₂)
        exact hlt
  · by_cases hr₁ : r₁ = r
    · subst hr₁
      refine ⟨reg', hreg', ?_⟩
      rcases hold_history_cases htake' hx with ⟨rfl, hknow⟩ | ⟨hj, hold⟩
      · exact h.held_self hreg htake hknow
      · exact h.held_of_ne hlaw hj hreg htake hold
    · rw [hold_history_of_ne htake' hr₁] at hx
      obtain ⟨reg₁, hreg₁, hheld⟩ := h.held j r₁ x hx
      exact ⟨reg₁, (Session.registries_setRegistry_of_ne hr₁).trans hreg₁, hheld⟩
  · by_cases hr₁ : r₁ = r
    · subst hr₁
      rcases hold_history_cases htake' hx with ⟨hj, hknow⟩ | ⟨hj, hold⟩ <;>
        rcases hold_history_cases htake' hy with ⟨hk, hknow'⟩ | ⟨hk, hold'⟩
      · rw [← hj, ← hk]
      · rw [← hj, h.alone_of_know hreg htake hknow hold']
      · rw [← hk, h.alone_of_know hreg htake hknow' hold]
      · exact h.alone j k r₁ x y hold hold'
    · rw [hold_history_of_ne htake' hr₁] at hx hy
      exact h.alone j k r₁ x y hx hy
  · rcases mem_history_cons htake' hmem with ⟨-, heq⟩ | hmem
    · cases heq
      cases htake
      exact ⟨_, hreg', Nat.lt_succ_self _⟩
    · obtain ⟨reg₁, hreg₁, hlt⟩ := h.seq_lt j r₁ seq hmem
      obtain ⟨reg₂, hreg₂, hle, -⟩ := Session.mono_setRegistry hreg htake hreg₁
      exact ⟨reg₂, hreg₂, Nat.lt_of_lt_of_le hlt hle⟩
  · rcases mem_history_cons htake' hmem with ⟨-, heq⟩ | hmem
    · cases heq
      cases htake
      exact ⟨_, hreg', Nat.le_refl _⟩
    · obtain ⟨reg₁, hreg₁, hle⟩ := h.epoch_le j r₁ epoch hmem
      obtain ⟨reg₂, hreg₂, -, hle'⟩ := Session.mono_setRegistry hreg htake hreg₁
      exact ⟨reg₂, hreg₂, Nat.le_trans hle hle'⟩

/-- An action that is not on a registry. -/
theorem act (h : Sound ms ⟨s, tasks⟩) {a : Action} {answer : a.Answer}
    {next : a.Answer → Task Unit} (ha : ∀ r b, a ≠ .registry r b)
    (hpend : tasks[i]? = some (.step (.act a) next)) (htake : s.take a = some (answer, s')) :
    Sound (⟨i, .act a, s⟩ :: ms) ⟨s', tasks.set i (next answer)⟩ := by
  have hsame := sameRegistries_take ha htake
  have hhold : ∀ j r, hold r (history j (⟨i, .act a, s⟩ :: ms)) = hold r (history j ms) := by
    intro j r
    rw [history_cons htake]
    split
    · exact know_of_isElsewhere ha _
    · rfl
  have hmem : ∀ {j r b} {x : b.Answer}, (⟨.registry r b, x⟩ : Fact) ∈
      history j (⟨i, .act a, s⟩ :: ms) → (⟨.registry r b, x⟩ : Fact) ∈ history j ms := by
    intro j r b x hmem
    rcases mem_history_cons htake hmem with ⟨-, heq⟩ | hmem
    · exact absurd (congrArg Fact.action heq).symm (ha r b)
    · exact hmem
  refine ⟨h.obeys_act hpend htake, fun reg' hreg' => ?_, fun j r x hx => ?_,
    fun j k r x y hx hy => ?_, fun j r seq hseq => ?_, fun j r epoch hepoch => ?_⟩
  · obtain ⟨r, hr⟩ := List.mem_iff_getElem?.1 hreg'
    rcases hsame.known r reg' hr with ⟨-, rfl⟩ | ⟨reg, listeners, hreg, rfl⟩
    · exact Registry.isNumbered_empty
    · obtain ⟨hnames, hseqs, hlt⟩ := h.numbered reg (List.mem_of_getElem? hreg)
      exact ⟨hnames, hseqs, hlt⟩
  · rw [hhold] at hx
    obtain ⟨reg, hreg, hheld⟩ := h.held j r x hx
    obtain ⟨listeners, hreg'⟩ := hsame.kept r reg hreg
    exact ⟨_, hreg', hheld⟩
  · rw [hhold] at hx hy
    exact h.alone j k r x y hx hy
  · obtain ⟨reg, hreg, hlt⟩ := h.seq_lt j r seq (hmem hseq)
    obtain ⟨listeners, hreg'⟩ := hsame.kept r reg hreg
    exact ⟨_, hreg', hlt⟩
  · obtain ⟨reg, hreg, hle⟩ := h.epoch_le j r epoch (hmem hepoch)
    obtain ⟨listeners, hreg'⟩ := hsame.kept r reg hreg
    exact ⟨_, hreg', hle⟩

/-- A script that is taken up. -/
theorem run (h : Sound ms ⟨s, tasks⟩) {script : Script} {next : Unit → Task Unit}
    (hpend : tasks[i]? = some (.step (.run script) next)) :
    Sound (⟨i, .run script, s⟩ :: ms) ⟨s, tasks.set i (script.task.bind next)⟩ := by
  have hhistory : ∀ j, history j (⟨i, .run script, s⟩ :: ms) = history j ms := fun j =>
    history_cons_run
  refine ⟨fun j t ht => ?_, h.numbered, ?_, ?_, ?_, ?_⟩
  · rw [hhistory]
    by_cases hj : i = j
    · subst hj
      obtain ⟨hlt, -⟩ := List.getElem?_eq_some_iff.1 hpend
      rw [List.getElem?_set_self hlt] at ht
      cases ht
      obtain ⟨hclear, hnext⟩ := h.obeys i _ hpend
      exact (growing_script script _ hclear).andThen fun _ h' hg => hnext h' hg
    · rw [List.getElem?_set_ne hj] at ht
      exact h.obeys j t ht
  · simpa only [hhistory] using h.held
  · simpa only [hhistory] using h.alone
  · simpa only [hhistory] using h.seq_lt
  · simpa only [hhistory] using h.epoch_le

theorem step {m m' : Machine Unit} {step : TaskStep} (h : Sound ms m)
    (hpend : (m.tasks[i]?).bind Task.pending? = some step) (hadv : m.advance i = some m') :
    Sound (⟨i, step, m.session⟩ :: ms) m' := by
  obtain ⟨s, tasks⟩ := m
  rcases advance_cases hpend hadv with ⟨a, answer, next, s', ht, rfl, htake, rfl⟩ |
    ⟨script, next, ht, rfl, rfl⟩
  · by_cases ha : ∀ r b, a ≠ .registry r b
    · exact h.act ha ht htake
    · push Not at ha
      obtain ⟨r, b, rfl⟩ := ha
      obtain ⟨reg, reg', hreg, htake', rfl⟩ := Session.exists_registry_take htake
      exact h.ask ht hreg htake'
  · exact h.run ht

end Sound

/-- Machines that begin with tasks that let histories grow are sound. -/
theorem sound_of_growing {s : Session} {tasks : List (Task Unit)}
    (hs : ∀ reg ∈ s.registries, reg.IsNumbered) (ht : ∀ t ∈ tasks, Growing t) :
    Sound [] ⟨s, tasks⟩ := by
  refine ⟨fun i t hi => ?_, hs, ?_, ?_, ?_, ?_⟩
  · exact (ht t (List.mem_of_getElem? hi) [] isClear_nil).mono fun _ _ _ => trivial
  · exact fun _ _ _ hx => by cases hx
  · exact fun _ _ _ _ _ hx => by cases hx
  · exact fun _ _ _ hmem => absurd hmem List.not_mem_nil
  · exact fun _ _ _ hmem => absurd hmem List.not_mem_nil

/-- Machines that begin with scripts are sound, and so they stay. -/
theorem sound_run {s : Session} {scripts : List Script}
    (hs : ∀ reg ∈ s.registries, reg.IsNumbered) {ms : List Moment} {m : Machine Unit}
    (h : Machine.Run ⟨s, scripts.map Script.task⟩ ms m) : Sound ms m := by
  induction h with
  | start =>
    refine sound_of_growing hs fun t ht => ?_
    obtain ⟨script, -, rfl⟩ := List.mem_map.1 ht
    exact growing_script script
  | step _ hpend hadv ih => exact ih.step hpend hadv

end Machine

end Strata
