import Strata.Operation.Change
import Strata.Session.Interleaving

/-!
What a task has done. A history tells the actions of a task and what they answered; what the task
knows of a registry that it has locked is read off it (`hold`). A part of a task lets a history
grow: it gives back the locks that it takes, and leaves alone what is known of registries that were
locked before (`Grown`).
-/

namespace Strata

open Machine

/-- Something that a task did, and what it was answered. -/
structure Fact where
  action : Action
  answer : action.Answer

/-- What a task did, the last thing first. -/
abbrev History := List Fact

/-- What is known of a registry: nothing unless it is locked, and its layers once they were read. -/
abbrev Knowledge := Option (Option (List Layer))

/-- What is known of a registry after an action on it. -/
def RegistryAction.know : (a : RegistryAction) → a.Answer → Knowledge → Knowledge
  | .lock, _, _ => some none
  | .unlock, _, _ => none
  | .layers, ls, x => x.map fun _ => some ls
  | .setLayers ls, _, x => x.map fun _ => some ls
  | .record seq t, _, x => x.map (Option.map (Layer.record seq t))
  | _, _, x => x

/-- What is known of a registry after a fact. -/
def Fact.know (r : RegistryId) : Fact → Knowledge → Knowledge
  | ⟨.registry r' a, answer⟩, x => if r' = r then a.know answer x else x
  | _, x => x

/-- Whether a fact is that a registry was locked. -/
def Fact.isLock (r : RegistryId) : Fact → Bool
  | ⟨.registry r' .lock, _⟩ => r' = r
  | _ => false

/-- What a task knows of a registry. -/
def hold (r : RegistryId) : History → Knowledge
  | [] => none
  | f :: h => f.know r (hold r h)

/-- What a task has done since it locked a registry. -/
def since (r : RegistryId) : History → History
  | [] => []
  | f :: h => if f.isLock r then [] else f :: since r h

variable {r r' : RegistryId} {f : Fact} {h h' h'' : History}

@[simp] theorem hold_cons : hold r (f :: h) = f.know r (hold r h) := rfl

theorem since_cons_of_not_isLock (hf : f.isLock r = false) : since r (f :: h) = f :: since r h := by
  rw [since, if_neg (by simp [hf])]

/-- Other registries are not what an action is about. -/
theorem know_of_ne {a : RegistryAction} {answer : a.Answer} (hr : r' ≠ r) (x : Knowledge) :
    Fact.know r ⟨.registry r' a, answer⟩ x = x :=
  if_neg hr

/-- Actions that are not on a registry tell nothing of registries. -/
theorem know_of_isElsewhere {a : Action} {answer : a.Answer} (ha : ∀ r b, a ≠ .registry r b)
    (x : Knowledge) : Fact.know r ⟨a, answer⟩ x = x := by
  cases a with
  | registry r' b => exact absurd rfl (ha r' b)
  | _ => rfl

/-- Only by locking it does a task come to know of a registry. -/
theorem exists_of_know {x : Knowledge} {y : Option (List Layer)} (hf : f.isLock r = false)
    (h : f.know r x = some y) : ∃ z, x = some z := by
  obtain ⟨a, answer⟩ := f
  by_cases ha : ∃ b, a = .registry r b
  · obtain ⟨b, rfl⟩ := ha
    rw [Fact.know, if_pos rfl] at h
    cases b with
    | lock => simp [Fact.isLock] at hf
    | unlock => cases h
    | layers | setLayers | record =>
      obtain ⟨z, hz, -⟩ := Option.map_eq_some_iff.1 h
      exact ⟨z, hz⟩
    | _ => exact ⟨y, h⟩
  · refine ⟨y, ?_⟩
    cases a with
    | registry r' b =>
      rwa [Fact.know, if_neg fun hr => ha ⟨b, by rw [hr]⟩] at h
    | _ => exact h

theorem know_self {a : RegistryAction} {answer : a.Answer} (x : Knowledge) :
    Fact.know r ⟨.registry r a, answer⟩ x = a.know answer x :=
  if_pos rfl

/-! ### Growth -/

/-- What is known of a registry that is locked stays known, and locks that were taken in between
were given back. -/
structure Kept (r : RegistryId) (h h' : History) : Prop where
  free : hold r h = none → hold r h' = none
  held : ∀ x, hold r h = some x → ∃ y, hold r h' = some y ∧ ∀ ls, x = some ls → y = some ls
  since : ∀ x, hold r h = some x → ∀ f ∈ since r h, f ∈ since r h'

theorem Kept.refl (r : RegistryId) (h : History) : Kept r h h :=
  ⟨id, fun x hx => ⟨x, hx, fun _ h => h⟩, fun _ _ _ hf => hf⟩

theorem Kept.trans (hk : Kept r h h') (hk' : Kept r h' h'') : Kept r h h'' := by
  refine ⟨hk'.free ∘ hk.free, fun x hx => ?_, fun x hx f hf => ?_⟩
  · obtain ⟨y, hy, hxy⟩ := hk.held x hx
    obtain ⟨z, hz, hyz⟩ := hk'.held y hy
    exact ⟨z, hz, fun ls hls => hyz ls (hxy ls hls)⟩
  · obtain ⟨y, hy, -⟩ := hk.held x hx
    exact hk'.since y hy f (hk.since x hx f hf)

/-- A layer that was published needs no eviction, or there is none. -/
def IsClear (h : History) : Prop :=
  ∀ r new h', h = ⟨.registry r (.setLayers new), ()⟩ :: h' → ∃ l ls,
    hold r h' = some (some ls) ∧ new = Layer.insert l ls ∧ l.recorded.keys = []

theorem isClear_nil : IsClear [] := fun _ _ _ h => by cases h

/-- Actions after which nothing has to be evicted. -/
theorem isClear_cons {a : Action} {answer : a.Answer}
    (ha : ∀ r new, a ≠ .registry r (.setLayers new)) : IsClear (⟨a, answer⟩ :: h) := by
  intro r new h' heq
  exact absurd (congrArg Fact.action (List.cons.inj heq).1) (ha r new)

/-- A part of a task makes a history longer. -/
structure Grown (h h' : History) : Prop where
  exists_append : ∃ new, h' = new ++ h
  clear : IsClear h'
  kept : ∀ r, Kept r h h'

theorem Grown.refl (hh : IsClear h) : Grown h h := ⟨⟨[], rfl⟩, hh, fun r => .refl r h⟩

theorem Grown.trans (hg : Grown h h') (hg' : Grown h' h'') : Grown h h'' := by
  obtain ⟨new, rfl⟩ := hg.exists_append
  obtain ⟨new', rfl⟩ := hg'.exists_append
  exact ⟨⟨new' ++ new, by simp⟩, hg'.clear, fun r => (hg.kept r).trans (hg'.kept r)⟩

/-- A part of a task that may change a registry. -/
structure GrownBut (r : RegistryId) (h h' : History) : Prop where
  exists_append : ∃ new, h' = new ++ h
  kept : ∀ r', r' ≠ r → Kept r' h h'

theorem Grown.but (hg : Grown h h') : GrownBut r h h' := ⟨hg.exists_append, fun r' _ => hg.kept r'⟩

theorem GrownBut.trans (hg : GrownBut r h h') (hg' : GrownBut r h' h'') : GrownBut r h h'' := by
  obtain ⟨new, rfl⟩ := hg.exists_append
  obtain ⟨new', rfl⟩ := hg'.exists_append
  exact ⟨⟨new' ++ new, by simp⟩, fun r' hr' => (hg.kept r' hr').trans (hg'.kept r' hr')⟩

theorem grownBut_registry {a : RegistryAction} {answer : a.Answer} :
    GrownBut r h (⟨.registry r a, answer⟩ :: h) := by
  refine ⟨⟨[_], rfl⟩, fun r' hr' => ⟨fun hx => ?_, fun x hx => ⟨x, ?_, fun _ h => h⟩, ?_⟩⟩
  · rw [hold_cons, know_of_ne hr'.symm, hx]
  · rw [hold_cons, know_of_ne hr'.symm, hx]
  · intro x _ f hf
    rw [since_cons_of_not_isLock]
    · exact List.mem_cons_of_mem _ hf
    · cases a with
      | lock => simpa [Fact.isLock] using hr'.symm
      | _ => rfl

/-- A registry that is free before and after an operation on it. -/
theorem GrownBut.grown (hg : GrownBut r h h') (hfree : hold r h = none) (hfree' : hold r h' = none)
    (hclear : IsClear h') : Grown h h' := by
  refine ⟨hg.exists_append, hclear, fun r' => ?_⟩
  by_cases hr' : r' = r
  · subst hr'
    refine ⟨fun _ => hfree', fun x hx => ?_, fun x hx => ?_⟩
    · rw [hfree] at hx
      cases hx
    · rw [hfree] at hx
      cases hx
  · exact hg.kept r' hr'

end Strata
