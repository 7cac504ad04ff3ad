import Mathlib.Tactic.Common
import Strata.Registry.Layer

/-!
Keys of tables and sets of keys: which keys a table has after it was made from a list or joined
with another one. A table is what is made of its own entries (`Table.ofList_entries`).
-/

namespace Strata

namespace Table

variable {α : Type}

theorem mem_entries_keys {k : String} :
    ∀ {es : List (String × α)}, k ∈ es.map (·.1) ↔ (lookupEntry k es).isSome
  | [] => by simp [lookupEntry]
  | e :: rest => by
    by_cases h : e.1 = k
    · simp [lookupEntry, h]
    · have ih : k ∈ rest.map (·.1) ↔ (lookupEntry k rest).isSome := mem_entries_keys
      simp only [List.map_cons, List.mem_cons, lookupEntry, if_neg h, ih]
      exact or_iff_right fun he => h he.symm

/-- A key is in a table if it has a value. -/
theorem mem_keys {t : Table α} {k : String} : k ∈ t.keys ↔ (t.get? k).isSome := mem_entries_keys

theorem mem_keys_insert {t : Table α} {k k' : String} {v : α} :
    k ∈ (t.insert k' v).keys ↔ k = k' ∨ k ∈ t.keys := by
  simp only [mem_keys, get?_insert]
  by_cases h : k' = k
  · simp [h]
  · simp [h, Ne.symm h]

theorem mem_keys_insertAll {k : String} :
    ∀ {es : List (String × α)} {t : Table α},
      k ∈ (t.insertAll es).keys ↔ k ∈ es.map (·.1) ∨ k ∈ t.keys
  | [], t => by simp [insertAll]
  | e :: rest, t => by
    change k ∈ ((t.insert e.1 e.2).insertAll rest).keys ↔ _
    rw [mem_keys_insertAll, mem_keys_insert, List.map_cons, List.mem_cons]
    exact ⟨fun h => h.elim (.inl ∘ .inr) (·.imp_left .inl),
      fun h => h.elim (·.elim (.inr ∘ .inl) .inl) (.inr ∘ .inr)⟩

theorem lookupEntry_of_mem {e : String × α} :
    ∀ {es : List (String × α)}, Ascending es → e ∈ es → lookupEntry e.1 es = some e.2
  | x :: rest, h, hmem => by
    obtain ⟨hx, hrest⟩ := List.pairwise_cons.1 h
    rcases List.mem_cons.1 hmem with rfl | hmem
    · simp [lookupEntry]
    · have hne : x.1 ≠ e.1 := fun heq => Std.lt_irrefl (heq ▸ hx e hmem)
      rw [lookupEntry, if_neg hne]
      exact lookupEntry_of_mem hrest hmem

theorem nodup_entries (t : Table α) : t.entries.Nodup := by
  refine List.Pairwise.imp ?_ t.ascending
  rintro a b hlt rfl
  exact Std.lt_irrefl hlt

theorem mem_of_lookupEntry {k : String} {v : α} :
    ∀ {es : List (String × α)}, lookupEntry k es = some v → (k, v) ∈ es
  | e :: rest, h => by
    rw [lookupEntry] at h
    split at h
    · rename_i hk
      cases h
      exact hk ▸ List.mem_cons_self
    · exact List.mem_cons_of_mem _ (mem_of_lookupEntry h)

/-- A key has the value that an entry gives it. -/
theorem get?_eq_some {t : Table α} {k : String} {v : α} : t.get? k = some v ↔ (k, v) ∈ t.entries :=
  ⟨mem_of_lookupEntry, fun h => lookupEntry_of_mem t.ascending h⟩

/-- Nothing is set by the keys that a list does not have. -/
theorem get?_eq_none {t : Table α} {k : String} : t.get? k = none ↔ k ∉ t.keys := by
  rw [mem_keys, Option.not_isSome_iff_eq_none]

/-- What a list sets counts before what was there. -/
theorem get?_insertAll {k : String} : ∀ {es : List (String × α)} {t : Table α},
    (t.insertAll es).get? k = ((ofList es).get? k).or (t.get? k)
  | [], t => rfl
  | e :: rest, t => by
    have hcons : ∀ t : Table α, t.insertAll (e :: rest) = (t.insert e.1 e.2).insertAll rest :=
      fun _ => rfl
    rw [ofList, hcons, hcons, get?_insertAll, get?_insertAll, Option.or_assoc]
    simp only [get?_insert, get?_empty]
    split <;> rfl

theorem get?_ofList_append {es es' : List (String × α)} {k : String} :
    (ofList (es ++ es')).get? k = ((ofList es').get? k).or ((ofList es).get? k) := by
  have happend : ofList (es ++ es') = (ofList es).insertAll es' := List.foldl_append
  rw [happend, get?_insertAll]

theorem get?_ofList_eq_none {es : List (String × α)} {k : String} :
    (ofList es).get? k = none ↔ ∀ e ∈ es, e.1 ≠ k := by
  rw [get?_eq_none, ofList, mem_keys_insertAll, mem_keys, get?_empty, Option.isSome_none,
    List.mem_map, not_or, not_exists]
  exact ⟨fun h e he hk => h.1 e ⟨he, hk⟩,
    fun h => ⟨fun e he => h e he.1 he.2, Bool.false_ne_true⟩⟩

/-- In the table of a list a key has the last value that the list gives it. -/
theorem get?_ofList_eq_some {es : List (String × α)} {k : String} {v : α} :
    (ofList es).get? k = some v ↔
      ∃ before after, es = before ++ (k, v) :: after ∧ ∀ e ∈ after, e.1 ≠ k := by
  constructor
  · intro h
    induction es with
    | nil => cases h
    | cons e rest ih =>
      rw [← List.singleton_append, get?_ofList_append] at h
      cases hrest : (ofList rest).get? k with
      | some w =>
        rw [hrest] at h
        cases h
        obtain ⟨before, after, rfl, hafter⟩ := ih hrest
        exact ⟨e :: before, after, rfl, hafter⟩
      | none =>
        rw [hrest, Option.none_or] at h
        obtain ⟨he, hv⟩ : e.1 = k ∧ e.2 = v := by simpa [ofList, insertAll] using h
        exact ⟨[], rest, by rw [← he, ← hv]; rfl, get?_ofList_eq_none.1 hrest⟩
  · rintro ⟨before, after, rfl, hafter⟩
    rw [get?_ofList_append, ← List.singleton_append, get?_ofList_append,
      get?_ofList_eq_none.2 hafter]
    simp [ofList, insertAll]

/-- A list that gives no key two values is the table of its entries. -/
theorem get?_ofList_of_unique {es : List (String × α)} {k : String} {v : α}
    (h : ∀ k v w, (k, v) ∈ es → (k, w) ∈ es → v = w) :
    (ofList es).get? k = some v ↔ (k, v) ∈ es := by
  constructor
  · intro hv
    obtain ⟨before, after, rfl, -⟩ := get?_ofList_eq_some.1 hv
    simp
  · intro hmem
    cases hw : (ofList es).get? k with
    | none => exact absurd rfl (get?_ofList_eq_none.1 hw _ hmem)
    | some w =>
      obtain ⟨before, after, rfl, -⟩ := get?_ofList_eq_some.1 hw
      rw [h k v w hmem (by simp)]

theorem insertEntry_of_lt {k : String} {v : α} :
    ∀ {es : List (String × α)}, (∀ e ∈ es, e.1 < k) → insertEntry k v es = es ++ [(k, v)]
  | [], _ => rfl
  | e :: rest, h => by
    have he := h e List.mem_cons_self
    have hne : k ≠ e.1 := fun heq => Std.lt_irrefl (heq ▸ he)
    have hrest := insertEntry_of_lt (v := v) fun x hx => h x (List.mem_cons_of_mem e hx)
    have hle : ¬ k < e.1 := fun hlt => Std.lt_irrefl (Std.lt_trans hlt he)
    rw [insertEntry, if_neg hle, if_neg hne, hrest, List.cons_append]

theorem entries_insertAll : ∀ {es : List (String × α)} {t : Table α},
    Ascending (t.entries ++ es) → (t.insertAll es).entries = t.entries ++ es
  | [], t, _ => (List.append_nil t.entries).symm
  | e :: rest, t, h => by
    have hlt : ∀ x ∈ t.entries, x.1 < e.1 := fun x hx =>
      (List.pairwise_append.1 h).2.2 x hx e List.mem_cons_self
    have hinsert : (t.insert e.1 e.2).entries = t.entries ++ [e] := insertEntry_of_lt hlt
    have hrest : ((t.insert e.1 e.2).insertAll rest).entries = (t.insert e.1 e.2).entries ++ rest :=
      entries_insertAll (by rwa [hinsert, List.append_assoc])
    rw [hinsert, List.append_assoc] at hrest
    exact hrest

/-- A table is made of its own entries. -/
theorem ofList_entries (t : Table α) : ofList t.entries = t := by
  have h : (ofList t.entries).entries = t.entries := entries_insertAll t.ascending
  generalize ofList t.entries = t' at h
  cases t
  cases t'
  cases h
  rfl

end Table

namespace Keys

theorem mem_ofList {k : String} {ks : List String} : k ∈ (ofList ks).keys ↔ k ∈ ks := by
  rw [ofList, Table.ofList, Table.mem_keys_insertAll, List.map_map]
  simp [Table.mem_keys]

/-- The keys of a table are those of a set in the same order. -/
theorem keys_ofList {α : Type} (t : Table α) : (ofList t.keys).keys = t.keys := by
  have hascending : Ascending ((Table.empty : Keys).entries ++ t.keys.map fun k => (k, ())) := by
    rw [Table.empty, List.nil_append]
    exact List.pairwise_map.2 (List.pairwise_map.2 t.ascending)
  rw [ofList, Table.ofList, Table.keys, Table.entries_insertAll hascending, Table.empty,
    List.nil_append, List.map_map]
  exact List.map_id _

theorem mem_union {k : String} {a b : Keys} :
    k ∈ (union a b).keys ↔ k ∈ a.keys ∨ k ∈ b.keys := by
  rw [union, Table.mem_keys_insertAll, or_comm]
  rfl

end Keys

/-- The keys that change are those whose values differ. -/
theorem mem_changedKeys {old new : Snapshot} {k : String} :
    k ∈ (changedKeys old new).keys ↔ old.get? k ≠ new.get? k := by
  rw [changedKeys, Keys.mem_ofList, List.mem_filter, List.mem_append, decide_eq_true_eq,
    Table.mem_keys, Table.mem_keys, and_iff_right_iff_imp]
  intro h
  cases hold : old.get? k with
  | some v => exact .inl rfl
  | none =>
    cases hnew : new.get? k with
    | some v => exact .inr rfl
    | none => simp [hold, hnew] at h

theorem mem_changesBetween {keys : Keys} {old new : View} {k : String} {x : Option Resolved} :
    (k, x) ∈ changesBetween keys old new ↔
      k ∈ keys.keys ∧ old.resolve k ≠ new.resolve k ∧ x = new.resolve k := by
  simp only [changesBetween, List.mem_filterMap]
  constructor
  · rintro ⟨k', hk', h⟩
    by_cases heq : old.resolve k' = new.resolve k'
    · simp [heq] at h
    · simp only [if_neg heq, Option.some.injEq, Prod.mk.injEq] at h
      obtain ⟨rfl, rfl⟩ := h
      exact ⟨hk', heq, rfl⟩
  · rintro ⟨hk, hne, rfl⟩
    exact ⟨k, hk, by simp [hne]⟩

end Strata
