import Strata.Proofs.Insertions
import Strata.Proofs.Notification

/-!
Callbacks that leave a registry alone. Listeners and sources may run scripts when they are called or
asked. If nothing in such a script has to do with a registry (`Task.Aloof`), the registry stays
exactly as it is, whatever the script does elsewhere, and nobody is called but listeners of other
registries. So the layers are consulted and the listeners are called with the registry as it was
(`keeps_consult`, `keeps_notify`). Scripts whose commands use no registry at all are of this kind
(`aloof_of_outside`).
-/

namespace Strata

open Session RegistryId Machine Strata.Task

/-! ### Moments that have to do with a registry -/

/-- Whether a command uses no registry. -/
def Command.isOutside : Command → Bool
  | .deed (.subscribe ..) | .deed (.follow _) => false
  | .deed _ | .lookup .. | .snapshot _ => true
  | _ => false

theorem Command.isOutside_iff {c : Command} : c.isOutside = true ↔ c.IsOutside := by
  constructor
  · intro h
    cases c with
    | deed d =>
      refine .deed ?_ ?_
      · rintro id key reaction rfl
        cases h
      · rintro id rfl
        cases h
    | lookup id key => exact .lookup id key
    | snapshot id => exact .snapshot id
    | _ => cases h
  · rintro (⟨h, h'⟩ | _ | _)
    · rename_i d
      cases d with
      | subscribe id key reaction => exact absurd rfl (h id key reaction)
      | follow id => exact absurd rfl (h' id)
      | _ => rfl
    · rfl
    · rfl

namespace Machine

/-- The registry that a moment has to do with, if there is one: it is asked for something, or
somebody subscribes to it. -/
def Moment.registryOf? (m : Moment) : Option RegistryId :=
  match m.step with
  | .act (.registry r _) => some r
  | .act (.deed (.subscribe ..)) => some m.session.current
  | .act (.deed (.follow id)) => (m.session.handle? id).map (·.binding.registry)
  | _ => none

/-- No moment has to do with a registry. -/
def Untouched (r : RegistryId) (ms : List Moment) : Prop := ∀ m ∈ ms, m.registryOf? ≠ some r

/-- All scripts that are run have only commands that use no registry. -/
def OnlyOutside (ms : List Moment) : Prop :=
  ∀ m ∈ ms, ∀ script, m.step = .run script → ∀ c ∈ script.commands, c.IsOutside

instance (ms : List Moment) : Decidable (OnlyOutside ms) :=
  decidable_of_iff (∀ m ∈ ms, (match m.step with
      | .run script => script.commands.all (·.isOutside)
      | .act _ => true) = true) <| by
    refine forall₂_congr fun m _ => ?_
    rcases m with ⟨i, a | script, s⟩
    · exact iff_of_true rfl nofun
    · simp only [List.all_eq_true, Command.isOutside_iff, TaskStep.run.injEq, forall_eq']

variable {r : RegistryId} {ms ms' : List Moment}

theorem untouched_nil : Untouched r [] := fun _ hm => absurd hm List.not_mem_nil

theorem untouched_append : Untouched r (ms ++ ms') ↔ Untouched r ms ∧ Untouched r ms' :=
  List.forall_mem_append

theorem untouched_single {m : Moment} : Untouched r [m] ↔ m.registryOf? ≠ some r :=
  List.forall_mem_singleton

theorem registryOf?_outward {a : Action} (ha : a.isOutward = true) (i : Nat) (s : Session) :
    (⟨i, .act a, s⟩ : Moment).registryOf? = none := by
  cases a <;> first | rfl | cases ha

theorem onlyOutside_append :
    OnlyOutside (ms ++ ms') ↔ OnlyOutside ms ∧ OnlyOutside ms' :=
  List.forall_mem_append

end Machine

/-- Scripts run in which nothing has to do with a registry, however deep they are nested. -/
def Task.Aloof (r : RegistryId) (k : Nat) : ScriptRun := fun script s ms s' =>
  ScriptRuns k script s ms s' ∧ Untouched r ms

variable {α : Type} {S : ScriptRun} {s s₁ s' : Session} {r : RegistryId} {reg : Registry} {k : Nat}
  {ms ms' : List Moment}

theorem runs_of_aloof {t : Task α} {a : α} (h : Runs (Aloof r k) t s ms a s') :
    Runs (ScriptRuns k) t s ms a s' :=
  h.mono fun _ _ _ _ hscript => hscript.1

/-! ### Scripts that use no registry -/

/-- A script is run after it has been taken up. -/
theorem always_run_of {R : Session → List Moment → Session → Prop} (hR : Composable R)
    {script : Script} (h : ∀ s ms s', S script s ms s' → R s (ms ++ [⟨0, .run script, s⟩]) s') :
    Always S R (Strata.run script) := by
  intro s ms u s' hrun
  rw [Strata.run] at hrun
  split at hrun
  · exact always_done hR () s ms u s' hrun
  · simp only [Program.act, runs_run_step, runs_done] at hrun
    obtain ⟨s₁, ms₁, ms₂, h₁, ⟨rfl, -, rfl⟩, rfl⟩ := hrun
    exact h _ _ _ h₁

theorem composable_untouched (r : RegistryId) :
    Composable fun _ ms _ => OnlyOutside ms → Untouched r ms := by
  refine ⟨fun _ _ => untouched_nil, fun _ _ _ => untouched_single.2 nofun, fun h h' ho => ?_⟩
  obtain ⟨ho', ho⟩ := onlyOutside_append.1 ho
  exact untouched_append.2 ⟨h' ho', h ho⟩

/-- Scripts of commands that use no registry have to do with none, if those that are run within are
such scripts too. -/
theorem untouched_of_outside : ∀ (k : Nat) {script : Script} {s s' : Session} {ms : List Moment},
    ScriptRuns k script s ms s' → (∀ c ∈ script.commands, c.IsOutside) → OnlyOutside ms →
    Untouched r ms
  | 0, _, _, _, _, h, _, _ => h.elim
  | k + 1, script, s, s', ms, h, hscript, ho => by
    have hR := composable_untouched r
    have hact : ∀ a : Action, (∀ s : Session, (⟨0, .act a, s⟩ : Moment).registryOf? = none) →
        Always (ScriptRuns k) (fun _ ms _ => OnlyOutside ms → Untouched r ms) (act a) :=
      fun a ha => always_act fun s _ _ _ _ => untouched_single.2 (by rw [ha s]; nofun)
    have hrun : ∀ script : Script,
        Always (ScriptRuns k) (fun _ ms _ => OnlyOutside ms → Untouched r ms) (run script) := by
      intro script
      refine always_run_of hR fun s ms s' hrun ho => ?_
      obtain ⟨ho, hmark⟩ := onlyOutside_append.1 ho
      have hscript := hmark _ List.mem_cons_self script rfl
      exact untouched_append.2
        ⟨untouched_of_outside k hrun hscript ho, untouched_single.2 nofun⟩
    have houtward : Outward fun _ t =>
        Always (ScriptRuns k) (fun _ ms _ => OnlyOutside ms → Untouched r ms) t :=
      { sequential_always hR with
        act := fun a ha => hact a fun s => registryOf?_outward ha 0 s
        run := hrun }
    have hsource : ∀ {id : String} {f : SourceId → Task Outcome},
        (∀ n, Always (ScriptRuns k) (fun _ ms _ => OnlyOutside ms → Untouched r ms) (f n)) →
        Always (ScriptRuns k) (fun _ ms _ => OnlyOutside ms → Untouched r ms)
          (Command.withSource id f) := by
      intro id f hf
      refine always_bind hR (hact _ fun s => rfl) ?_
      rintro (_ | n)
      · exact always_done hR _
      · exact hf n
    refine always_forAll hR (fun c hc => always_bind hR ?_ fun o => hact _ fun s => rfl)
      s ms () s' h ho
    cases hscript c hc with
    | @deed d hd hd' =>
      refine hact _ fun s => ?_
      cases d with
      | subscribe id key reaction => exact absurd rfl (hd id key reaction)
      | follow id => exact absurd rfl (hd' id)
      | _ => rfl
    | lookup id key =>
      exact hsource fun n => always_bind hR (houtward.lookUp n key) fun _ => always_done hR _
    | snapshot id =>
      exact hsource fun n => always_bind hR (houtward.takeSnapshot n) fun _ => always_done hR _

/-- A run in which all scripts have only commands that use no registry leaves every registry to the
task itself. -/
theorem aloof_of_outside {t : Task α} {a : α} (h : Runs (ScriptRuns k) t s ms a s')
    (ho : OnlyOutside ms) : Runs (Aloof r k) t s ms a s' := by
  induction h with
  | done a s => exact .done a s
  | act htake _ ih => exact .act htake (ih (onlyOutside_append.1 ho).1)
  | run hs _ ih =>
    obtain ⟨hrest, ho⟩ := onlyOutside_append.1 ho
    obtain ⟨ho, hmark⟩ := onlyOutside_append.1 ho
    exact .run ⟨hs, untouched_of_outside k hs (hmark _ List.mem_cons_self _ rfl) ho⟩ (ih hrest)

/-! ### The registry stays as it is -/

/-- An action changes neither registries nor listeners, or is one on a registry, or adds a registry,
or adds a listener. -/
theorem take_cases {a : Action} {answer : a.Answer} (htake : s.take a = some (answer, s')) :
    (s'.registries = s.registries ∧ s'.listeners = s.listeners) ∨
    (∃ r b reg reg' x, a = .registry r b ∧ s.registries[r]? = some reg ∧
      reg.take b = some (x, reg') ∧ s' = s.setRegistry r reg') ∨
    (a = .addRegistry ∧ s' = { s with registries := s.registries ++ [{}] }) ∨
    ∃ r key l, (⟨0, .act a, s⟩ : Moment).registryOf? = some r ∧ s' = s.addListener r key l := by
  cases helse : a.isElsewhere with
  | true => exact .inl (take_elsewhere helse htake)
  | false =>
    cases a with
    | registry r b =>
      obtain ⟨reg, reg', hreg, hb, rfl⟩ := exists_registry_take htake
      exact .inr (.inl ⟨r, b, reg, reg', answer, rfl, hreg, hb, rfl⟩)
    | addRegistry =>
      cases htake
      exact .inr (.inr (.inl ⟨rfl, rfl⟩))
    | deed d =>
      cases d with
      | subscribe id key reaction =>
        cases htake
        exact .inr (.inr (.inr ⟨_, _, _, rfl, rfl⟩))
      | follow id =>
        simp only [take, carryOut, Session.follow] at htake
        split at htake
        · cases htake
          exact .inl ⟨rfl, rfl⟩
        · rename_i b kept hb
          cases htake
          exact .inr (.inr (.inr ⟨_, _, _, by simp [Moment.registryOf?, hb], rfl⟩))
      | _ => simp [Action.isElsewhere] at helse
    | _ => simp [Action.isElsewhere] at helse

/-- A registry stays as it is. One that does not exist may be added. -/
def Session.Keeps (r : RegistryId) (s s' : Session) : Prop :=
  s'.registries[r]? = s.registries[r]? ∨ s.registries[r]? = none ∧ s'.registries[r]? = some {}

theorem Session.Keeps.registry (h : Keeps r s s') (hreg : s.registries[r]? = some reg) :
    s'.registries[r]? = some reg := by
  rcases h with h | ⟨h, -⟩
  · rw [h, hreg]
  · cases hreg.symm.trans h

theorem Session.Keeps.trans (h : Keeps r s s₁) (h' : Keeps r s₁ s') : Keeps r s s' := by
  rcases h' with h' | ⟨h₁, h'⟩
  · exact h.imp h'.trans fun h => ⟨h.1, h'.trans h.2⟩
  · rcases h with h | ⟨-, h⟩
    · exact .inr ⟨h.symm.trans h₁, h'⟩
    · cases h.symm.trans h₁

/-- The state of a registry. One that does not exist is like one to which nothing has happened. -/
def Session.registryAt (s : Session) (r : RegistryId) : Registry := (s.registries[r]?).getD {}

theorem Session.registryAt_eq (hreg : s.registries[r]? = some reg) : s.registryAt r = reg := by
  rw [registryAt, hreg, Option.getD_some]

theorem Session.Keeps.registryAt (h : Keeps r s s') : s'.registryAt r = s.registryAt r := by
  rcases h with h | ⟨h, h'⟩
  · rw [Session.registryAt, h, Session.registryAt]
  · rw [Session.registryAt, h', Session.registryAt, h]
    rfl

theorem composable_keeps (r : RegistryId) : Composable fun s _ s' => Keeps r s s' :=
  ⟨fun _ => .inl rfl, fun _ _ => .inl rfl, Keeps.trans⟩

/-- What has nothing to do with a registry leaves it as it is. -/
theorem keeps_take {a : Action} {answer : a.Answer} (htake : s.take a = some (answer, s'))
    (ha : (⟨0, .act a, s⟩ : Moment).registryOf? ≠ some r) : Keeps r s s' := by
  rcases take_cases htake with ⟨hsame, -⟩ | ⟨r₁, b, reg₁, reg', x, rfl, hreg₁, -, rfl⟩ |
    ⟨-, rfl⟩ | ⟨r₁, key, l, hr₁, rfl⟩
  · exact .inl (by rw [hsame])
  · exact .inl (registries_setRegistry_of_ne fun heq => ha (by rw [heq]; rfl))
  · rcases Nat.lt_trichotomy r s.registries.length with hlt | rfl | hlt
    · exact .inl (List.getElem?_append_left hlt)
    · exact .inr ⟨List.getElem?_eq_none (Nat.le_refl _), List.getElem?_concat_length⟩
    · refine .inl ((List.getElem?_eq_none ?_).trans (List.getElem?_eq_none hlt.le).symm)
      rw [List.length_append, List.length_singleton]
      exact hlt
  · left
    rw [registries_addListener]
    simp only [if_neg fun heq : r₁ = r => ha (heq ▸ hr₁), Option.map_id_fun', id]

theorem keeps_of_untouched {t : Task α} {a : α} (h : Runs (ScriptRuns k) t s ms a s')
    (hms : Untouched r ms) : Keeps r s s' := by
  have hR : Composable fun s ms s' => Untouched r ms → Keeps r s s' :=
    ⟨fun _ _ => .inl rfl, fun _ _ _ => .inl rfl, fun h h' hms =>
      (h (untouched_append.1 hms).2).trans (h' (untouched_append.1 hms).1)⟩
  exact always_of_take hR (fun htake hms => keeps_take htake (untouched_single.1 hms)) k t
    s ms a s' h hms

theorem keeps_aloof {script : Script} (h : Aloof r k script s ms s') : Keeps r s s' := by
  obtain ⟨h, hms⟩ := h
  cases k with
  | zero => exact h.elim
  | succ k => exact keeps_of_untouched h hms

/-- All runs of a task leave a registry as it is. -/
abbrev KeepsAlways (S : ScriptRun) (r : RegistryId) (t : Task α) : Prop :=
  Always S (fun s _ s' => Keeps r s s') t

theorem keepsAlways_run (script : Script) : KeepsAlways (Aloof r k) r (run script) :=
  always_run (composable_keeps r) fun _ _ _ h => keeps_aloof h

theorem outward_keeps : Outward fun _ t => KeepsAlways (Aloof r k) r t :=
  { sequential_always (composable_keeps r) with
    act := fun a ha => always_act fun s _ _ htake => keeps_take htake (by
      rw [registryOf?_outward ha]
      nofun)
    run := keepsAlways_run }

/-- The listeners that are called leave the registry as it is. -/
theorem keeps_deliver (x : Option Resolved) (ns : List Nat) :
    KeepsAlways (Aloof r k) r (RegistryId.deliver x ns) := by
  refine outward_keeps.forAll fun n _ => outward_keeps.bind ?_ fun script => keepsAlways_run script
  exact always_act fun _ _ _ htake => keeps_take htake nofun

theorem keeps_notify (changes : List Change) : KeepsAlways (Aloof r k) r (r.notify changes) := by
  refine outward_keeps.forAll fun change _ => outward_keeps.bind ?_ fun ns =>
    keeps_deliver change.2 ns
  intro s ms ns s' h
  obtain ⟨reg, reg', hreg, htake, rfl, -⟩ := runs_ask.1 h
  cases htake
  exact .inl (by rw [setRegistry_self hreg])

/-! ### Who is called -/

/-- A part of a run in which nobody is called but listeners of other registries. Listeners stay
listeners. -/
structure Aside (r : RegistryId) (s : Session) (ms : List Moment) (s' : Session) : Prop where
  listens : ∀ n r' key, s.Listens n r' key → s'.Listens n r' key
  elsewhere : ∀ d ∈ deliveries ms, ∃ r' key, r' ≠ r ∧ s'.Listens d.1 r' key

theorem listens_of_stay {n : Nat} {key : String} (h : ListenersStay r s s')
    (hn : s.Listens n r key) : s'.Listens n r key := by
  obtain ⟨reg, hreg, hmem⟩ := hn
  obtain ⟨reg', hreg', hprefix⟩ := h reg hreg
  exact ⟨reg', hreg', hprefix.subset hmem⟩

theorem listens_take {a : Action} {answer : a.Answer} (htake : s.take a = some (answer, s'))
    {n : Nat} {key : String} (hn : s.Listens n r key) : s'.Listens n r key :=
  listens_of_stay (listenersStay_take htake) hn

theorem Aside.trans (h : Aside r s ms s₁) (h' : Aside r s₁ ms' s') : Aside r s (ms' ++ ms) s' := by
  refine ⟨fun n r' key hn => h'.listens n r' key (h.listens n r' key hn), fun d hd => ?_⟩
  rw [deliveries_append, List.mem_append] at hd
  rcases hd with hd | hd
  · exact h'.elsewhere d hd
  · obtain ⟨r', key, hne, hn⟩ := h.elsewhere d hd
    exact ⟨r', key, hne, h'.listens _ r' key hn⟩

theorem Aside.of_deliveries (hms : deliveries ms = [])
    (h : ∀ n r' key, s.Listens n r' key → s'.Listens n r' key) : Aside r s ms s' := by
  refine ⟨h, fun d hd => ?_⟩
  rw [hms] at hd
  exact absurd hd List.not_mem_nil

theorem composable_aside (r : RegistryId) : Composable (Aside r) :=
  ⟨fun _ => .of_deliveries rfl fun _ _ _ hn => hn, fun _ _ => .of_deliveries rfl fun _ _ _ hn => hn,
    Aside.trans⟩

theorem aside_act {a : Action} (ha : ∀ n x, a ≠ .deliver n x) : Always S (Aside r) (act a) :=
  always_act fun _ _ _ htake => .of_deliveries (deliveries_act ha) fun _ _ _ => listens_take htake

theorem aside_ask (r₁ : RegistryId) (b : RegistryAction) : Always S (Aside r) (ask r₁ b) :=
  aside_act nofun

/-- Listeners of another registry are called. -/
theorem aside_deliver {r₁ : RegistryId} {key : String} {x : Option Resolved} (hr : r₁ ≠ r)
    (hS : ∀ script s ms s', S script s ms s' → Aside r s ms s') : ∀ {ns : List Nat}
    {s s' : Session} {ms : List Moment}, (∀ n ∈ ns, s.Listens n r₁ key) →
    Runs S (RegistryId.deliver x ns) s ms () s' → Aside r s ms s'
  | [], s, s', ms, _, h => always_done (composable_aside r) () _ _ _ _ h
  | n :: ns, s, s', ms, hns, h => by
    obtain ⟨u, s₁, ms₁, ms₂, hcall, hrest, rfl⟩ := runs_bind.1 h
    obtain ⟨script, s₀, ms₃, ms₄, hact, hscript, rfl⟩ := runs_bind.1 hcall
    obtain ⟨htake, rfl⟩ := runs_act.1 hact
    have h₁ : Aside r s [⟨0, .act (.deliver n x), s⟩] s₀ :=
      ⟨fun _ _ _ => listens_take htake, fun d hd =>
        ⟨r₁, key, hr, by
          rw [List.mem_singleton.1 (show d ∈ [(n, x)] from hd)]
          exact listens_take htake (hns n List.mem_cons_self)⟩⟩
    have h₂ := h₁.trans (always_run (composable_aside r) (hS script) _ _ _ _ hscript)
    exact h₂.trans (aside_deliver hr hS
      (fun n' hn' => h₂.listens n' r₁ key (hns n' (List.mem_cons_of_mem n hn'))) hrest)

theorem aside_notify {r₁ : RegistryId} (hr : r₁ ≠ r)
    (hS : ∀ script s ms s', S script s ms s' → Aside r s ms s') (changes : List Change) :
    Always S (Aside r) (r₁.notify changes) := by
  refine always_forAll (composable_aside r) fun change _ s ms u s' h => ?_
  obtain ⟨ns, s₁, ms₁, ms₂, hask, hdeliver, rfl⟩ := runs_bind.1 h
  have hns : ∀ n ∈ ns, s₁.Listens n r₁ change.1 := by
    obtain ⟨reg, reg', hreg, htake, rfl, -⟩ := runs_ask.1 hask
    cases htake
    exact fun n hn => ⟨reg, registries_setRegistry hreg reg, Registry.mem_listenersOf.1 hn⟩
  exact (aside_ask r₁ _ _ _ _ _ hask).trans (aside_deliver hr hS hns hdeliver)

/-! ### Scripts that leave a registry alone -/

/-- A run that has nothing to do with a registry runs only scripts that have nothing to do with
it. -/
theorem aloof_of_untouched {t : Task α} {a : α} (h : Runs (ScriptRuns k) t s ms a s')
    (hms : Untouched r ms) : Runs (Aloof r k) t s ms a s' := by
  induction h with
  | done a s => exact .done a s
  | act htake _ ih => exact .act htake (ih (untouched_append.1 hms).1)
  | run hs _ ih =>
    obtain ⟨hrest, hms⟩ := untouched_append.1 hms
    exact .run ⟨hs, (untouched_append.1 hms).1⟩ (ih hrest)

/-- Whoever asks a registry has to do with it. -/
theorem not_untouched_ask {b : RegistryAction} {f : b.Answer → Task α} {a : α}
    (h : Runs S ((ask r b).bind f) s ms a s') : ¬ Untouched r ms := by
  obtain ⟨x, s₁, ms₁, ms₂, hask, -, rfl⟩ := runs_bind.1 h
  obtain ⟨reg, reg', -, -, -, rfl⟩ := runs_ask.1 hask
  exact fun hms => untouched_single.1 (untouched_append.1 hms).2 rfl

/-- In all runs of a task that have nothing to do with a registry nobody is called but listeners of
other registries. -/
abbrev AsideAlways (S : ScriptRun) (r : RegistryId) (t : Task α) : Prop :=
  Always S (fun s ms s' => Untouched r ms → Aside r s ms s') t

theorem composable_aside_untouched (r : RegistryId) :
    Composable fun s ms s' => Untouched r ms → Aside r s ms s' :=
  ⟨fun s _ => (composable_aside r).nil s, fun script s _ => (composable_aside r).run script s,
    fun h h' hms => (h (untouched_append.1 hms).2).trans (h' (untouched_append.1 hms).1)⟩

theorem AsideAlways.of_always {t : Task α} (h : Always S (Aside r) t) : AsideAlways S r t :=
  fun s ms a s' hrun _ => h s ms a s' hrun

theorem gentle_aside (hS : ∀ script s ms s', S script s ms s' → Aside r s ms s') :
    Gentle fun _ t => Always S (Aside r) t :=
  { sequential_always (composable_aside r) with
    act := fun a ha => aside_act fun n x heq => by
      subst heq
      cases ha
    run := fun script => always_run (composable_aside r) (hS script) }

theorem operations_aside (hS : ∀ script s ms s', S script s ms s' → Aside r s ms s') :
    Operations fun _ _ t => AsideAlways S r t := by
  have hgentle := gentle_aside hS
  have hact : ∀ a : Action, (∀ n x, a ≠ .deliver n x) → AsideAlways S r (act a) :=
    fun a ha => .of_always (aside_act ha)
  have hrefresh : ∀ r₁ : RegistryId, AsideAlways S r r₁.refresh := by
    intro r₁
    by_cases hr : r₁ = r
    · subst hr
      exact fun s ms x s' h hms => absurd hms (not_untouched_ask h)
    · rw [refresh_eq]
      exact .of_always <| hgentle.bind (hgentle.renewal fun b _ => aside_ask r₁ b) fun x =>
        hgentle.bind (aside_notify hr hS x.2) fun _ => hgentle.done _
  have hregister : ∀ (r₁ : RegistryId) n priority, AsideAlways S r (r₁.register n priority) := by
    intro r₁ n priority
    by_cases hr : r₁ = r
    · subst hr
      intro s ms x s' h hms
      obtain ⟨d, s₁, ms₁, ms₂, -, hrest, rfl⟩ := runs_bind.1 h
      exact absurd (untouched_append.1 hms).1 (not_untouched_ask hrest)
    · rw [register_eq]
      refine .of_always <| hgentle.bind (hgentle.registration (aside_ask r₁) n priority) ?_
      rintro (e | changes)
      · exact hgentle.done _
      · exact hgentle.bind (aside_notify hr hS changes) fun _ => hgentle.done _
  exact
    { toWalk := Parts.walk
        { sequential_always (composable_aside_untouched r) with
          passive := fun a ha => hact a fun n x heq => by
            subst heq
            cases ha
          read := fun r₁ key => .of_always (hgentle.read r₁ key)
          lookUp := fun n key => .of_always (hgentle.lookUp n key)
          invalidate := fun r₁ key => .of_always (aside_ask r₁ _)
          refresh := hrefresh }
      own := fun a ha => hact a fun n x heq => by
        subst heq
        cases ha
      takeSnapshot := fun n => .of_always (hgentle.takeSnapshot n)
      register := hregister }

/-- Scripts that have nothing to do with a registry call nobody but listeners of other
registries. -/
theorem aside_of_aloof : ∀ (k : Nat) (script : Script) (s : Session) (ms : List Moment)
    (s' : Session), Aloof r k script s ms s' → Aside r s ms s'
  | 0, _, _, _, _, h => h.1.elim
  | k + 1, script, s, ms, s', ⟨h, hms⟩ =>
    (operations_aside (aside_of_aloof k)).script [] script s ms () s' (aloof_of_untouched h hms) hms

end Strata
