import Mathlib.Tactic.Common
import Strata.Registry.Basic

/-!
Which entries of a cache are there after an eviction or after something has been put in.
-/

namespace Strata

namespace Cache

variable {c : Cache} {key k : String} {e : CacheEntry} {x : Option Resolved} {n : Nat}

theorem get?_retain {keep : String → CacheEntry → Bool} :
    (c.retain keep).entries.get? key = some e ↔
      c.entries.get? key = some e ∧ keep key e = true := by
  rw [retain, Table.get?_filter, Option.filter_eq_some_iff]

theorem get?_invalidate_some :
    (c.invalidate (some k)).entries.get? key = some e ↔
      c.entries.get? key = some e ∧ key ≠ k := by
  rw [invalidate, get?_retain, bne_iff_ne]

theorem get?_invalidate_none : (c.invalidate none).entries.get? key = none := by
  cases h : (c.invalidate none).entries.get? key with
  | none => rfl
  | some e => exact absurd (get?_retain.1 h).2 (by simp)

/-- An eviction by changes keeps the entries that no change contradicts. -/
theorem get?_evictChanged {updates : List Change} :
    (c.evictChanged updates).entries.get? key = some e ↔
      c.entries.get? key = some e ∧ ∀ u ∈ updates, u.1 = key → u.2 = e.resolved := by
  rw [evictChanged, get?_retain]
  simp

/-- An eviction by a view keeps the entries that the view confirms. -/
theorem get?_evictStale {v : View} :
    (c.evictStale v).entries.get? key = some e ↔
      c.entries.get? key = some e ∧ e.resolved = v.resolve key := by
  rw [evictStale, get?_retain, decide_eq_true_eq]

/-- What is put in is the only thing that is new. -/
theorem get?_fill (h : (c.fill k x n).2.entries.get? key = some e) :
    c.entries.get? key = some e ∨
      (key = k ∧ e.resolved = x ∧ c.epoch = n ∧ c.entries.get? k = none) := by
  rw [fill] at h
  cases hk : c.entries.get? k with
  | some e' =>
    rw [hk] at h
    exact .inl h
  | none =>
    rw [hk] at h
    dsimp only at h
    split at h
    · exact .inl h
    · rename_i hn
      rw [Table.get?_insert] at h
      split at h
      · rename_i hkey
        cases h
        exact .inr ⟨hkey.symm, rfl, not_not.1 hn, rfl⟩
      · exact .inl h

/-- What is there stays when something is put in. -/
theorem get?_fill_of_some (h : c.entries.get? key = some e) :
    (c.fill k x n).2.entries.get? key = some e := by
  rw [fill]
  split
  · exact h
  · rename_i hk
    split
    · exact h
    · rw [Table.get?_insert, if_neg, h]
      rintro rfl
      cases hk.symm.trans h

/-- What has been found out in this epoch is put in under a new generation. -/
theorem fill_of_none (h : c.entries.get? key = none) : c.fill key x c.epoch =
    (hit ⟨x, c.nextGeneration⟩, { c with
      entries := c.entries.insert key ⟨x, c.nextGeneration⟩
      nextGeneration := c.nextGeneration + 1 }) := by
  rw [fill, h]
  exact if_neg (not_not.2 rfl)

theorem resolved_fill (h : c.entries.get? key = none) : (c.fill key x n).1.resolved = x := by
  rw [fill, h]
  dsimp only
  split <;> rfl

theorem epoch_fill : (c.fill k x n).2.epoch = c.epoch := by
  rw [fill]
  split
  · rfl
  · split <;> rfl

end Cache

/-- Only by filling is an entry put into the cache. -/
theorem Registry.cache_take {reg reg' : Registry} {b : RegistryAction} {answer : b.Answer}
    (hb : ∀ key x n, b ≠ .fill key x n) (h : reg.take b = some (answer, reg')) :
    reg'.cache.nextGeneration = reg.cache.nextGeneration ∧
      ∀ key e, reg'.cache.entries.get? key = some e → reg.cache.entries.get? key = some e := by
  cases b with
  | fill key x n => exact absurd rfl (hb key x n)
  | lock =>
    simp only [Registry.take] at h
    split at h <;> cases h
    exact ⟨rfl, fun _ _ he => he⟩
  | invalidate key =>
    cases h
    refine ⟨by cases key <;> rfl, fun k e he => ?_⟩
    cases key with
    | some key => exact (Cache.get?_invalidate_some.1 he).1
    | none =>
      rw [Cache.get?_invalidate_none] at he
      cases he
  | evictChanged updates =>
    cases h
    exact ⟨rfl, fun _ _ he => (Cache.get?_evictChanged.1 he).1⟩
  | evictStale view =>
    cases h
    exact ⟨rfl, fun _ _ he => (Cache.get?_evictStale.1 he).1⟩
  | _ =>
    cases h
    exact ⟨rfl, fun _ _ he => he⟩

end Strata
