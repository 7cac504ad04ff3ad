import Strata.Proofs.Exclusion
import Strata.Proofs.Steady
import Strata.Proofs.Telling

/-!
What goes on in a registry that is locked. Scripts may do anything, however deep they are nested,
but they leave the layers of a locked registry as they are (`spares_scriptRuns`): whoever would
change them asks for the lock first. So the layers that an operation has read under the lock are what
they are when it has heard the sources (`layers_of_takeSnapshots`).
-/

namespace Strata

open Session RegistryId Machine Strata.Task

variable {S : ScriptRun} {s s' : Session} {r : RegistryId}

/-! ### Actions -/

theorem SameRegistries.guarded (h : SameRegistries s s') : Guarded s s' r := by
  intro reg hreg hlocked
  obtain ⟨listeners, hreg'⟩ := h.kept r reg hreg
  exact ⟨_, hreg', hlocked, rfl, rfl⟩

/-- Only a few actions on a registry itself change its layers or its lock. -/
theorem guarded_take {a : Action} {answer : a.Answer}
    (ha : ∀ b, a = .registry r b → b.isMild = true) (htake : s.take a = some (answer, s')) :
    Guarded s s' r := by
  by_cases hask : ∃ r₁ b, a = .registry r₁ b
  · obtain ⟨r₁, b, rfl⟩ := hask
    obtain ⟨reg, reg', hreg, hb, rfl⟩ := exists_registry_take htake
    by_cases hr : r = r₁
    · subst hr
      obtain ⟨hlayers, hseq, -, hlock⟩ := Registry.take_mild (ha b rfl) hb
      intro reg₁ hreg₁ hlocked
      cases hreg.symm.trans hreg₁
      exact ⟨reg', registries_setRegistry hreg reg', hlock.trans hlocked, hlayers, hseq⟩
    · exact .of_registries (registries_setRegistry_of_ne hr)
  · exact (sameRegistries_take (fun r₁ b heq => hask ⟨r₁, b, heq⟩) htake).guarded

/-! ### Tasks -/

/-- All runs of a task leave the layers of a registry as they are if it is locked. -/
abbrev Spares {α : Type} (S : ScriptRun) (r : RegistryId) (t : Task α) : Prop :=
  Always S (fun s _ s' => Guarded s s' r) t

/-- All runs of scripts leave the layers of a registry as they are if it is locked. -/
def ScriptsSpare (S : ScriptRun) (r : RegistryId) : Prop :=
  ∀ script s ms s', S script s ms s' → Guarded s s' r

theorem composable_guarded (r : RegistryId) : Composable fun s _ s' => Guarded s s' r :=
  ⟨fun _ => .of_registries rfl, fun _ _ => .of_registries rfl, fun h h' => h.trans h'⟩

theorem spares_act {a : Action} (ha : ∀ b, a = .registry r b → b.isMild = true) :
    Spares S r (act a) :=
  always_act fun _ _ _ htake => guarded_take ha htake

theorem spares_ask_of_ne {r₁ : RegistryId} (h : r₁ ≠ r) (b : RegistryAction) :
    Spares S r (ask r₁ b) :=
  spares_act fun _ heq => absurd (Action.registry.inj heq).1 h

/-- Whoever asks for the lock of a registry that is locked goes no further. -/
theorem spares_lock {α : Type} (f : Unit → Task α) : Spares S r ((ask r .lock).bind f) := by
  intro s ms a s' h reg hreg hlocked
  obtain ⟨u, s₁, ms₁, ms₂, hlock, -, -⟩ := runs_bind.1 h
  rw [((ends_lock hreg).1 hlock.ends).1] at hlocked
  cases hlocked

theorem gentle_spares (hS : ScriptsSpare S r) : Gentle fun _ t => Spares S r t where
  toSequential := sequential_always (composable_guarded r)
  act := fun a ha => spares_act fun b heq => by
    subst heq
    cases b <;> first | rfl | cases ha
  run := fun _ => always_run (composable_guarded r) (hS _)

theorem spares_deliver (n : Nat) (x : Option Resolved) : Spares S r (act (.deliver n x)) :=
  spares_act fun _ heq => by cases heq

theorem spares_refresh (hS : ScriptsSpare S r) (r₁ : RegistryId) : Spares S r r₁.refresh := by
  by_cases h : r₁ = r
  · subst h
    exact spares_lock _
  · exact (gentle_spares hS).refresh spares_deliver fun b _ => spares_ask_of_ne h b

theorem spares_register (hS : ScriptsSpare S r) (r₁ : RegistryId) (n : SourceId)
    (priority : Int) : Spares S r (r₁.register n priority) := by
  by_cases h : r₁ = r
  · subst h
    exact (gentle_spares hS).bind ((gentle_spares hS).act (.describe n) rfl) fun _ => spares_lock _
  · exact (gentle_spares hS).register spares_deliver (spares_ask_of_ne h) n priority

theorem operations_spares (hS : ScriptsSpare S r) : Operations fun _ _ t => Spares S r t where
  toWalk := Parts.walk
    { (gentle_spares hS).toSequential with
      passive := fun a ha => spares_act fun b heq => by
        subst heq
        cases b <;> first | rfl | cases ha
      read := (gentle_spares hS).read
      lookUp := (gentle_spares hS).lookUp
      invalidate := fun r₁ key => (gentle_spares hS).act (.registry r₁ (.invalidate key)) rfl
      refresh := spares_refresh hS }
  own := fun a ha => spares_act fun b heq => by
    subst heq
    cases ha
  takeSnapshot := (gentle_spares hS).takeSnapshot
  register := spares_register hS

/-- Scripts leave the layers of a locked registry as they are, however deep they are nested. -/
theorem spares_scriptRuns (r : RegistryId) : ∀ k : Nat, ScriptsSpare (ScriptRuns k) r
  | 0 => fun _ _ _ _ h => h.elim
  | k + 1 => fun script _ _ _ h =>
    (operations_spares (spares_scriptRuns r k)).script [] script _ _ _ _ h

/-! ### Operations that hold the lock -/

variable {k : Nat} {reg : Registry}

theorem Spares.layers {α : Type} {t : Task α} {a : α} (ht : Spares S r t)
    (hreg : s.registries[r]? = some reg) (h : Ends S t (s.setRegistry r (busy reg)) a s') :
    ∃ reg', s'.registries[r]? = some reg' ∧ reg'.layers = reg.layers := by
  obtain ⟨ms, h⟩ := h
  obtain ⟨reg', hreg', -, hlayers, -⟩ :=
    ht _ _ _ _ h _ (registries_setRegistry hreg (busy reg)) rfl
  exact ⟨reg', hreg', hlayers⟩

/-- While sources are asked for their snapshots the layers of a registry that is locked stay. -/
theorem layers_of_takeSnapshots {ls : List Layer} {taken : List (Layer × Option Snapshot)}
    (hreg : s.registries[r]? = some reg)
    (h : Ends (ScriptRuns k) (takeSnapshots ls) (s.setRegistry r (busy reg)) taken s') :
    ∃ reg', s'.registries[r]? = some reg' ∧ reg'.layers = reg.layers :=
  Spares.layers ((gentle_spares (spares_scriptRuns r k)).takeSnapshots ls) hreg h

/-- While a source is asked for its first snapshot the layers of a registry that is locked stay. -/
theorem layers_of_firstSnapshot {n : SourceId} {name : String} {x : Snapshot × Bool}
    (hreg : s.registries[r]? = some reg)
    (h : Ends (ScriptRuns k) (firstSnapshot n name) (s.setRegistry r (busy reg)) x s') :
    ∃ reg', s'.registries[r]? = some reg' ∧ reg'.layers = reg.layers :=
  Spares.layers ((gentle_spares (spares_scriptRuns r k)).firstSnapshot n name) hreg h

end Strata
