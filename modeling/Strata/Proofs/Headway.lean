import Strata.Proofs.Callbacks
import Strata.Proofs.Generations

/-!
How far handles have got. What a handle keeps is only replaced by something from a later generation,
so that earlier generations are past for it (`Session.nextOf`). No handle is ahead of the cache: the
entry of its key has a generation that is not past, but for the one it keeps (`Session.Abreast`).

Main statements: whatever happens, handles keep what they keep and new entries have new generations,
unless a handle keeps something (`advances_take`); so handles stay abreast (`Abreast.advance`), also
when one keeps what it has decoded from the entry that stands in the cache (`Abreast.keep`). What is
read with a generation stands in the cache (`entry_of_read`).
-/

namespace Strata

open RegistryId Strata.Task

/-! ### Caches -/

/-- New entries have generations that were not handed out before. -/
structure Cache.Advances (c c' : Cache) : Prop where
  next_le : c.nextGeneration ≤ c'.nextGeneration
  entry : ∀ {key e}, c'.entries.get? key = some e → c.entries.get? key = some e ∨
    c.nextGeneration ≤ e.generation ∧ e.generation < c'.nextGeneration

theorem Cache.Advances.refl (c : Cache) : Advances c c := ⟨Nat.le_refl _, .inl⟩

theorem Cache.advances_fill (c : Cache) (key : String) (x : Option Resolved) (n : Nat) :
    Advances c (c.fill key x n).2 := by
  rw [fill]
  split
  · exact .refl c
  split
  · exact .refl c
  · refine ⟨Nat.le_succ _, fun {k e} he => ?_⟩
    rw [Table.get?_insert] at he
    split at he
    · cases he
      exact .inr ⟨Nat.le_refl _, Nat.lt_succ_self _⟩
    · exact .inl he

/-- What is put in with a generation stands in the cache. -/
theorem Cache.entry_fill {c : Cache} {key : String} {x : Option Resolved} {n g : Nat}
    (hg : (c.fill key x n).1.generation = some g) :
    ∃ e, (c.fill key x n).2.entries.get? key = some e ∧ e.generation = g := by
  rw [fill] at hg ⊢
  cases he : c.entries.get? key with
  | some e =>
    rw [he] at hg
    exact ⟨e, he, Option.some.inj hg⟩
  | none =>
    rw [he] at hg
    dsimp only at hg ⊢
    split at hg
    · cases hg
    · rename_i hn
      rw [if_neg hn]
      exact ⟨_, by rw [Table.get?_insert, if_pos rfl], Option.some.inj hg⟩

theorem Registry.advances_take {reg reg' : Registry} {a : RegistryAction} {answer : a.Answer}
    (htake : reg.take a = some (answer, reg')) : Cache.Advances reg.cache reg'.cache := by
  by_cases hfill : ∃ key x n, a = .fill key x n
  · obtain ⟨key, x, n, rfl⟩ := hfill
    cases htake
    exact reg.cache.advances_fill key x n
  · push Not at hfill
    obtain ⟨hnext, hentries⟩ := Registry.cache_take hfill htake
    exact ⟨hnext.ge, fun he => .inl (hentries _ _ he)⟩

/-! ### Handles -/

variable {s s' : Session} {r : RegistryId} {n m : HandleId} {b : Binding} {g : Nat} {d : Decoded}

namespace Session

/-- The least generation that is not past for a handle. -/
def nextOf (s : Session) (n : HandleId) : Nat :=
  match (s.handles[n]?).bind (·.kept) with
  | some (g, _) => g + 1
  | none => 0

/-- A handle has been made. -/
def Knows (s : Session) (b : Binding) : Prop := ∃ h, s.handles[b.number]? = some h ∧ h.binding = b

/-- Handles are numbered in their order, entries of caches have generations that were handed out,
and no handle is ahead of the cache. -/
structure Abreast (s : Session) : Prop where
  number : ∀ {n : Nat} {h}, s.handles[n]? = some h → h.binding.number = n
  entry_lt : ∀ {r key e}, (s.registryAt r).cache.entries.get? key = some e →
    e.generation < (s.registryAt r).cache.nextGeneration
  next_le : ∀ {n : Nat} {h}, s.handles[n]? = some h →
    s.nextOf n ≤ (s.registryAt h.binding.registry).cache.nextGeneration
  next_le_entry : ∀ {n : Nat} {h e}, s.handles[n]? = some h →
    (s.registryAt h.binding.registry).cache.entries.get? h.binding.key = some e →
    s.nextOf n ≤ e.generation + 1

/-- Handles keep what they keep, new ones have kept nothing, and new entries of caches have new
generations. -/
structure Advances (s s' : Session) : Prop where
  handle : ∀ {n : Nat} {h}, s.handles[n]? = some h → s'.handles[n]? = some h
  new : ∀ {n : Nat} {h}, s'.handles[n]? = some h →
    s.handles[n]? = some h ∨ s.handles[n]? = none ∧ h.kept = none ∧ h.binding.number = n
  cache : ∀ r, Cache.Advances (s.registryAt r).cache (s'.registryAt r).cache

theorem nextOf_eq {h : Handle} (hn : s.handles[n]? = some h) :
    s.nextOf n = match h.kept with
      | some (g, _) => g + 1
      | none => 0 := by
  rw [nextOf, hn, Option.bind_some]

theorem nextOf_eq_zero (hn : s.handles[n]? = none) : s.nextOf n = 0 := by
  rw [nextOf, hn, Option.bind_none]

/-- A handle that keeps nothing from a generation is not at that generation. -/
theorem nextOf_ne (h : s.kept? n g = none) : s.nextOf n ≠ g + 1 := by
  rw [nextOf]
  cases hkept : (s.handles[n]?).bind (·.kept) with
  | none => exact (Nat.succ_ne_zero g).symm
  | some kept =>
    obtain ⟨g', d'⟩ := kept
    intro heq
    cases heq
    simp [kept?, hkept] at h

/-! ### Sessions that advance -/

theorem Advances.of_same (hhandles : s'.handles = s.handles)
    (hcache : ∀ r, (s'.registryAt r).cache = (s.registryAt r).cache) : Advances s s' := by
  refine ⟨fun h => ?_, fun h => .inl ?_, fun r => ?_⟩
  · rwa [hhandles]
  · rwa [hhandles] at h
  · rw [hcache]
    exact .refl _

theorem Advances.nextOf_eq (h : Advances s s') (n : HandleId) : s'.nextOf n = s.nextOf n := by
  cases hn : s.handles[n]? with
  | some x => rw [Session.nextOf_eq hn, Session.nextOf_eq (h.handle hn)]
  | none =>
    rw [nextOf_eq_zero hn]
    cases hn' : s'.handles[n]? with
    | none => exact nextOf_eq_zero hn'
    | some x =>
      rcases h.new hn' with hold | ⟨-, hkept, -⟩
      · cases hn.symm.trans hold
      · rw [Session.nextOf_eq hn', hkept]

theorem Advances.knows (h : Advances s s') (hb : s.Knows b) : s'.Knows b := by
  obtain ⟨x, hx, rfl⟩ := hb
  exact ⟨x, h.handle hx, rfl⟩

/-- Handles that have kept nothing are abreast of caches that are empty. -/
theorem IsUnread.abreast (h : s.IsUnread) : s.Abreast := by
  have hentry : ∀ r key e, (s.registryAt r).cache.entries.get? key ≠ some e := by
    intro r key e he
    rw [registryAt] at he
    cases hreg : s.registries[r]? with
    | some reg =>
      rw [hreg, Option.getD_some, h.entries reg (List.mem_of_getElem? hreg)] at he
      cases he
    | none =>
      rw [hreg] at he
      cases he
  refine ⟨h.number _ _, fun he => absurd he (hentry _ _ _), fun {n x} hn => ?_,
    fun _ he => absurd he (hentry _ _ _)⟩
  rw [nextOf_eq hn, h.kept x (List.mem_of_getElem? hn)]
  exact Nat.zero_le _

/-- Handles stay abreast as sessions advance. -/
theorem Abreast.advance (h : s.Abreast) (ha : Advances s s') : s'.Abreast where
  number := fun {n x} hx => by
    rcases ha.new hx with hold | ⟨-, -, hnumber⟩
    · exact h.number hold
    · exact hnumber
  entry_lt := fun {r key e} he => by
    rcases (ha.cache _).entry he with hold | ⟨-, hlt⟩
    · exact Nat.lt_of_lt_of_le (h.entry_lt hold) (ha.cache r).next_le
    · exact hlt
  next_le := fun {n x} hx => by
    rw [ha.nextOf_eq]
    rcases ha.new hx with hold | ⟨hnone, -, -⟩
    · exact (h.next_le hold).trans (ha.cache _).next_le
    · rw [nextOf_eq_zero hnone]
      exact Nat.zero_le _
  next_le_entry := fun {n x e} hx he => by
    rw [ha.nextOf_eq]
    rcases ha.new hx with hold | ⟨hnone, -, -⟩
    · rcases (ha.cache _).entry he with hentry | ⟨hle, -⟩
      · exact h.next_le_entry hold hentry
      · exact ((h.next_le hold).trans hle).trans (Nat.le_succ _)
    · rw [nextOf_eq_zero hnone]
      exact Nat.zero_le _

/-- Only what is done to registries changes what they have cached. -/
theorem cache_registryAt_take {a : Action} {answer : a.Answer} (ha : ∀ r b, a ≠ .registry r b)
    (htake : s.take a = some (answer, s')) (r : RegistryId) :
    (s'.registryAt r).cache = (s.registryAt r).cache := by
  have hsame := sameRegistries_take ha htake
  cases hreg : s.registries[r]? with
  | some reg =>
    obtain ⟨listeners, hreg'⟩ := hsame.kept r reg hreg
    rw [registryAt_eq hreg, registryAt_eq hreg']
  | none =>
    cases hreg' : s'.registries[r]? with
    | none => rw [registryAt, registryAt, hreg, hreg']
    | some reg' =>
      rcases hsame.known r reg' hreg' with ⟨-, rfl⟩ | ⟨reg, listeners, hsome, -⟩
      · rw [registryAt, registryAt, hreg, hreg']
        rfl
      · cases hreg.symm.trans hsome

/-- Making a handle puts one behind the others, or does nothing. -/
theorem handles_bind (s : Session) (id key : String) (kind : Kind) (default : String)
    (fallsBack : Bool) : (s.bind id key kind default fallsBack).2.handles = s.handles ∨
      ∃ b : Binding, b.number = s.handles.length ∧
        (s.bind id key kind default fallsBack).2.handles = s.handles ++ [{ binding := b }] := by
  simp only [Session.bind]
  split
  · exact .inl rfl
  split
  · exact .inl rfl
  · exact .inr ⟨_, rfl, rfl⟩

theorem advances_ask {a : RegistryAction} {answer : a.Answer}
    (htake : s.take (.registry r a) = some (answer, s')) : Advances s s' := by
  obtain ⟨reg, reg', hreg, hask, rfl⟩ := exists_registry_take htake
  refine ⟨id, .inl, fun r₁ => ?_⟩
  by_cases hr : r₁ = r
  · subst hr
    rw [registryAt_eq hreg, registryAt_eq (registries_setRegistry hreg reg')]
    exact Registry.advances_take hask
  · rw [registryAt, registryAt, registries_setRegistry_of_ne hr]
    exact .refl _

theorem advances_bind (s : Session) (id key : String) (kind : Kind) (default : String)
    (fallsBack : Bool) : Advances s (s.bind id key kind default fallsBack).2 := by
  have hcache : ∀ r, ((s.bind id key kind default fallsBack).2.registryAt r).cache =
      (s.registryAt r).cache :=
    cache_registryAt_take (a := .deed (.bind id key kind default fallsBack))
      (fun _ _ heq => by cases heq) rfl
  rcases s.handles_bind id key kind default fallsBack with hsame | ⟨b, hb, happend⟩
  · exact .of_same hsame hcache
  · refine ⟨fun {n h} hn => ?_, fun {n h} hn => ?_, fun r => by rw [hcache]; exact .refl _⟩
    · obtain ⟨hlt, -⟩ := List.getElem?_eq_some_iff.1 hn
      rwa [happend, List.getElem?_append_left hlt]
    · rw [happend] at hn
      rcases Nat.lt_trichotomy n s.handles.length with hlt | rfl | hlt
      · rw [List.getElem?_append_left hlt] at hn
        exact .inl hn
      · rw [List.getElem?_concat_length] at hn
        cases hn
        exact .inr ⟨List.getElem?_eq_none (Nat.le_refl _), rfl, hb⟩
      · rw [List.getElem?_eq_none (by rw [List.length_append]; exact hlt)] at hn
        cases hn

/-- Sessions advance unless a handle keeps something. -/
theorem advances_take {a : Action} {answer : a.Answer} (ha : ∀ n g d, a ≠ .keep n g d)
    (htake : s.take a = some (answer, s')) : Advances s s' := by
  by_cases hreg : ∃ r b, a = .registry r b
  · obtain ⟨r, b, rfl⟩ := hreg
    exact advances_ask htake
  push Not at hreg
  cases hon : a.isOnHandles with
  | false => exact .of_same (handles_take hon htake) (cache_registryAt_take hreg htake)
  | true =>
    cases a with
    | keep n g d => exact absurd rfl (ha n g d)
    | deed d =>
      cases d with
      | bind id key kind default fallsBack =>
        have hbind := s.advances_bind id key kind default fallsBack
        rwa [show (s.bind id key kind default fallsBack).2 = s' from
          congrArg Prod.snd (Option.some.inj htake)] at hbind
      | _ => cases hon
    | _ => cases hon

/-! ### Keeping what was decoded -/

theorem nextOf_keep_self {h : Handle} (hn : s.handles[n]? = some h) :
    (s.keep n g d).nextOf n = max (s.nextOf n) (g + 1) := by
  rw [nextOf_eq hn, nextOf, keep, List.getElem?_modify, hn, Option.map_eq_map, Option.map_some,
    Option.bind_some, if_pos rfl]
  cases hkept : h.kept with
  | none => exact (Nat.zero_max _).symm
  | some kept =>
    obtain ⟨g', d'⟩ := kept
    dsimp only
    by_cases hlt : g' < g
    · rw [if_pos hlt]
      exact (Nat.max_eq_right (Nat.succ_le_succ hlt.le)).symm
    · rw [if_neg hlt, hkept]
      exact (Nat.max_eq_left (Nat.succ_le_succ (Nat.le_of_not_lt hlt))).symm

theorem nextOf_keep_of_ne (hm : m ≠ n) : (s.keep n g d).nextOf m = s.nextOf m := by
  rw [nextOf, nextOf, keep, List.getElem?_modify]
  simp only [if_neg (Ne.symm hm), Option.map_eq_map, Option.map_id_fun', id]

/-- A handle stays abreast when it keeps what it has decoded from the entry of its key. -/
theorem Abreast.keep (h : s.Abreast) {e : CacheEntry} (hb : s.Knows b)
    (he : (s.registryAt b.registry).cache.entries.get? b.key = some e) :
    (s.keep b.number e.generation d).Abreast := by
  obtain ⟨h₀, hn₀, rfl⟩ := hb
  have hnext : ∀ {m x}, (s.keep h₀.binding.number e.generation d).handles[m]? = some x →
      ∃ x₀, s.handles[m]? = some x₀ ∧ x.binding = x₀.binding ∧
        ((s.keep h₀.binding.number e.generation d).nextOf m = s.nextOf m ∨
          x₀ = h₀ ∧ (s.keep h₀.binding.number e.generation d).nextOf m =
            max (s.nextOf m) (e.generation + 1)) := by
    intro m x hx
    obtain ⟨x₀, hx₀, hbinding, -⟩ := exists_of_keep hx
    refine ⟨x₀, hx₀, hbinding, ?_⟩
    by_cases hm : m = h₀.binding.number
    · subst hm
      cases hn₀.symm.trans hx₀
      exact .inr ⟨rfl, nextOf_keep_self hn₀⟩
    · exact .inl (nextOf_keep_of_ne hm)
  refine ⟨fun hx => ?_, h.entry_lt, fun hx => ?_, fun {m x e'} hx he' => ?_⟩
  · obtain ⟨x₀, hx₀, hbinding, -⟩ := hnext hx
    rw [hbinding]
    exact h.number hx₀
  · obtain ⟨x₀, hx₀, hbinding, heq | ⟨rfl, heq⟩⟩ := hnext hx
    · rw [heq, hbinding]
      exact h.next_le hx₀
    · rw [heq, hbinding]
      exact Nat.max_le.2 ⟨h.next_le hx₀, h.entry_lt he⟩
  · obtain ⟨x₀, hx₀, hbinding, heq | ⟨rfl, heq⟩⟩ := hnext hx
    · rw [heq]
      rw [hbinding] at he'
      exact h.next_le_entry hx₀ he'
    · rw [hbinding] at he'
      cases he.symm.trans he'
      rw [heq]
      exact Nat.max_le.2 ⟨h.next_le_entry hx₀ he', Nat.le_refl _⟩

end Session

/-- What is read with a generation stands in the cache. -/
theorem entry_of_read {S : ScriptRun} {key : String} {ms : List Machine.Moment} {x : Reading}
    (h : Runs S (r.read key) s ms x s') (hg : x.generation = some g) : ∃ e,
    (s'.registryAt r).cache.entries.get? key = some e ∧ e.generation = g := by
  rw [RegistryId.read] at h
  split at h
  · obtain ⟨-, rfl, -⟩ := runs_done.1 h
    cases hg
  obtain ⟨hit, s₁, ms₁, ms₂, hcached, hrest, -⟩ := runs_bind.1 h
  obtain ⟨reg, _, hreg, htake, rfl, -⟩ := runs_ask.1 hcached
  cases htake
  rw [Session.setRegistry_self hreg] at hrest
  cases hentry : reg.cache.entries.get? key with
  | some e =>
    rw [Cache.get?, hentry] at hrest
    obtain ⟨-, rfl, rfl⟩ := runs_done.1 hrest
    cases hg
    exact ⟨e, by rw [Session.registryAt_eq hreg, hentry], rfl⟩
  | none =>
    rw [Cache.get?, hentry] at hrest
    obtain ⟨epoch, s₂, ms₃, ms₄, -, hrest, -⟩ := runs_bind.1 hrest
    obtain ⟨layers, s₃, ms₅, ms₆, -, hrest, -⟩ := runs_bind.1 hrest
    obtain ⟨⟨y, d⟩, s₄, ms₇, ms₈, -, hrest, -⟩ := runs_bind.1 hrest
    cases d with
    | true =>
      obtain ⟨-, rfl, -⟩ := runs_done.1 hrest
      cases hg
    | false =>
      obtain ⟨reg₁, _, hreg₁, htake, rfl, -⟩ := runs_ask.1 hrest
      cases htake
      rw [Session.registryAt_eq (Session.registries_setRegistry hreg₁ _)]
      exact Cache.entry_fill hg

end Strata
