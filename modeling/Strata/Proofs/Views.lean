import Strata.Operation.Change
import Strata.Proofs.Tables

/-!
What keys resolve to through the recorded snapshots of layers, before and after a layer is put in
or snapshots are recorded. Main statements: a key that the change leaves out resolves as before
(`resolve_insert_of_none`, `resolve_recordAll_of_not_mem`), so the changes that are told of are
all there are (`mem_changes_of_insert`, `mem_changes_of_recordAll`).
-/

namespace Strata

namespace View

theorem resolve_cons (e : String × Snapshot) (v : View) (k : String) :
    resolve (e :: v) k = match e.2.get? k with
      | some value => some ⟨value, e.1⟩
      | none => resolve v k := by
  simp only [resolve, List.findSome?_cons]
  cases e.2.get? k <;> rfl

/-- A value comes from one of the sources of a view. -/
theorem source_mem_of_resolve {k : String} {x : Resolved} :
    ∀ {v : View}, resolve v k = some x → x.source ∈ v.map (·.1)
  | e :: v, h => by
    rw [resolve_cons] at h
    cases he : e.2.get? k with
    | some value =>
      rw [he] at h
      cases h
      simp
    | none =>
      rw [he] at h
      exact List.mem_cons_of_mem _ (source_mem_of_resolve h)

@[simp] theorem recorded_cons (l : Layer) (ls : List Layer) :
    recorded (l :: ls) = (l.name, l.recorded) :: recorded ls := rfl

@[simp] theorem recorded_append (ls ls' : List Layer) :
    recorded (ls ++ ls') = recorded ls ++ recorded ls' := List.map_append

@[simp] theorem map_fst_recorded (ls : List Layer) :
    (recorded ls).map (·.1) = ls.map (·.name) := by simp [recorded]

theorem resolve_append_cons_of_none {e : String × Snapshot} {k : String} (he : e.2.get? k = none) :
    ∀ v v' : View, resolve (v ++ e :: v') k = resolve (v ++ v') k
  | [], v' => by simp [resolve_cons, he]
  | x :: v, v' => by
    simp only [List.cons_append, resolve_cons, resolve_append_cons_of_none he v v']

/-- Layers that change neither their names nor what they have for a key resolve it as before. -/
theorem resolve_recorded_map {f : Layer → Layer} {k : String} :
    ∀ {ls : List Layer},
      (∀ l ∈ ls, (f l).name = l.name ∧ (f l).recorded.get? k = l.recorded.get? k) →
      resolve (recorded (ls.map f)) k = resolve (recorded ls) k
  | [], _ => rfl
  | l :: ls, h => by
    obtain ⟨hname, hget⟩ := h l List.mem_cons_self
    have ih := resolve_recorded_map fun l' hl' => h l' (List.mem_cons_of_mem l hl')
    simp only [List.map_cons, recorded_cons, resolve_cons, hname, hget, ih]

end View

/-! ### Putting in a layer -/

namespace Layer

/-- A layer is put somewhere between the others. -/
theorem exists_insert (l : Layer) (ls : List Layer) :
    ∃ pre post, ls = pre ++ post ∧ insert l ls = pre ++ l :: post :=
  ⟨_, _, (List.takeWhile_append_dropWhile ..).symm, rfl⟩

theorem insert_perm (l : Layer) (ls : List Layer) : (insert l ls).Perm (l :: ls) := by
  obtain ⟨pre, post, hls, hins⟩ := exists_insert l ls
  rw [hins, hls]
  exact List.perm_middle

/-- Recording changes nothing about layers but what is recorded. -/
theorem map_record {β : Type} {f : Layer → β} (hf : ∀ l t, f { l with recorded := t } = f l)
    (seq : Nat) (t : Snapshot) (ls : List Layer) : (record seq t ls).map f = ls.map f := by
  rw [record, List.map_map]
  refine List.map_congr_left fun l _ => ?_
  rw [Function.comp_apply]
  split
  · exact hf l t
  · rfl

theorem mem_insert {l x : Layer} {ls : List Layer} : x ∈ insert l ls ↔ x = l ∨ x ∈ ls := by
  rw [(insert_perm l ls).mem_iff, List.mem_cons]

end Layer

namespace View

theorem resolve_insert_of_none {l : Layer} {ls : List Layer} {k : String}
    (h : l.recorded.get? k = none) :
    resolve (recorded (Layer.insert l ls)) k = resolve (recorded ls) k := by
  obtain ⟨pre, post, hls, hins⟩ := Layer.exists_insert l ls
  rw [hins, hls, recorded_append, recorded_cons, recorded_append]
  exact resolve_append_cons_of_none h _ _

/-- What a new layer changes is among the changes that are told of. -/
theorem mem_changes_of_insert {l : Layer} {ls : List Layer} {k : String}
    (h : resolve (recorded ls) k ≠ resolve (recorded (Layer.insert l ls)) k) :
    (k, resolve (recorded (Layer.insert l ls)) k) ∈ changesBetween
      (Keys.ofList l.recorded.keys) (recorded ls) (recorded (Layer.insert l ls)) := by
  refine mem_changesBetween.2 ⟨Keys.mem_ofList.2 ?_, h, rfl⟩
  by_contra hk
  exact h (resolve_insert_of_none (Table.get?_eq_none.2 hk)).symm

end View

/-! ### Recording snapshots -/

namespace RegistryId

/-- A layer after snapshots have been recorded. -/
def updated (taken : List (Layer × Option Snapshot)) (l : Layer) : Layer :=
  taken.foldl (fun l t =>
    match t.2 with
    | some s => if l.seq = t.1.seq then { l with recorded := s } else l
    | none => l) l

variable {taken : List (Layer × Option Snapshot)} {l : Layer} {ls : List Layer}

theorem updated_cons (t : Layer × Option Snapshot) (taken : List (Layer × Option Snapshot))
    (l : Layer) : updated (t :: taken) l = updated taken (updated [t] l) := rfl

theorem updated_some (t l : Layer) (s : Snapshot) :
    updated [(t, some s)] l = if l.seq = t.seq then { l with recorded := s } else l := rfl

theorem updated_single (t : Layer × Option Snapshot) (l : Layer) :
    ∃ s, updated [t] l = { l with recorded := s } := by
  obtain ⟨t, _ | s⟩ := t
  · exact ⟨l.recorded, rfl⟩
  · rw [updated_some]
    split
    · exact ⟨s, rfl⟩
    · exact ⟨l.recorded, rfl⟩

/-- Nothing about a layer changes but what is recorded. -/
theorem exists_updated : ∀ (taken : List (Layer × Option Snapshot)) (l : Layer),
    ∃ s, updated taken l = { l with recorded := s }
  | [], l => ⟨l.recorded, rfl⟩
  | t :: taken, l => by
    obtain ⟨s, hs⟩ := updated_single t l
    obtain ⟨s', hs'⟩ := exists_updated taken { l with recorded := s }
    exact ⟨s', by rw [updated_cons, hs, hs']⟩

@[simp] theorem updated_name : (updated taken l).name = l.name := by
  obtain ⟨s, hs⟩ := exists_updated taken l
  rw [hs]

@[simp] theorem updated_source : (updated taken l).source = l.source := by
  obtain ⟨s, hs⟩ := exists_updated taken l
  rw [hs]

@[simp] theorem updated_seq : (updated taken l).seq = l.seq := by
  obtain ⟨s, hs⟩ := exists_updated taken l
  rw [hs]

@[simp] theorem updated_isMutable : (updated taken l).isMutable = l.isMutable := by
  obtain ⟨s, hs⟩ := exists_updated taken l
  rw [hs]

theorem recordAll_eq_map (taken : List (Layer × Option Snapshot)) (ls : List Layer) :
    recordAll taken ls = ls.map (updated taken) := by
  induction taken generalizing ls with
  | nil => simp [recordAll, show updated [] = id from rfl]
  | cons t taken ih =>
    have hcons : recordAll (t :: taken) ls = recordAll taken (ls.map (updated [t])) := by
      obtain ⟨t, _ | s⟩ := t
      · simp [recordAll, show updated [(t, none)] = id from rfl]
      · rfl
    rw [hcons, ih, List.map_map]
    rfl

theorem mem_recordAll {l' : Layer} :
    l' ∈ recordAll taken ls ↔ ∃ l ∈ ls, updated taken l = l' := by
  rw [recordAll_eq_map, List.mem_map]

theorem map_recordAll {β : Type} {f : Layer → β} (hf : ∀ l, f (updated taken l) = f l) :
    (recordAll taken ls).map f = ls.map f := by
  rw [recordAll_eq_map, List.map_map]
  exact List.map_congr_left fun l _ => hf l

/-- A layer whose snapshot was not to be had keeps what was recorded before. -/
theorem updated_of_forall (h : ∀ t ∈ taken, t.1.seq = l.seq → t.2 = none) :
    updated taken l = l := by
  induction taken with
  | nil => rfl
  | cons t taken ih =>
    have hone : updated [t] l = l := by
      obtain ⟨t, _ | s⟩ := t
      · rfl
      · rw [updated_some, if_neg]
        exact fun heq => by simpa using h _ List.mem_cons_self heq.symm
    rw [updated_cons, hone]
    exact ih fun t' ht' => h t' (List.mem_cons_of_mem t ht')

/-- The snapshot that was taken of a layer is recorded of it. -/
theorem recorded_updated {s : Snapshot} (hmem : (l, some s) ∈ taken)
    (hseq : (taken.map (·.1.seq)).Nodup) : (updated taken l).recorded = s := by
  induction taken with
  | nil => simp at hmem
  | cons t taken ih =>
    obtain ⟨hnot, hrest⟩ := List.nodup_cons.1 hseq
    rcases List.mem_cons.1 hmem with rfl | hmem
    · have hl : updated taken { l with recorded := s } = { l with recorded := s } :=
        updated_of_forall fun t' ht' heq => absurd (List.mem_map.2 ⟨t', ht', heq⟩) hnot
      rw [updated_cons, updated_some, if_pos rfl, hl]
    · have hne : l.seq ≠ t.1.seq := fun heq => hnot (List.mem_map.2 ⟨_, hmem, heq⟩)
      have hone : updated [t] l = l := updated_of_forall fun t' ht' heq => by
        rw [List.mem_singleton.1 ht'] at heq
        exact absurd heq.symm hne
      rw [updated_cons, hone]
      exact ih hmem hrest

/-- The layers whose snapshots were taken have numbers of their own if all layers have. -/
theorem nodup_seq_taken (hmap : taken.map (·.1) = ls.filter (·.isMutable))
    (hseqs : (ls.map (·.seq)).Nodup) : (taken.map (·.1.seq)).Nodup := by
  have heq : taken.map (·.1.seq) = (ls.filter (·.isMutable)).map (·.seq) := by
    rw [← hmap, List.map_map]
    rfl
  rw [heq]
  exact hseqs.sublist (List.filter_sublist.map _)

theorem mem_keysTaken {k : String} {l : Layer} {s : Snapshot} (hmem : (l, some s) ∈ taken)
    (hne : l.recorded.get? k ≠ s.get? k) : k ∈ (keysTaken taken).keys := by
  suffices h : ∀ (taken : List (Layer × Option Snapshot)) (keys : Keys),
      (k ∈ keys.keys ∨ (l, some s) ∈ taken) →
      k ∈ (taken.foldl (fun keys t =>
        match t.2 with
        | some s => keys.union (changedKeys t.1.recorded s)
        | none => keys) keys).keys by
    exact h taken .empty (.inr hmem)
  intro taken
  induction taken with
  | nil => exact fun keys h => h.elim id fun h => absurd h List.not_mem_nil
  | cons t taken ih =>
    intro keys h
    rw [List.foldl_cons]
    refine ih _ ?_
    rcases h with hk | hmem
    · left
      obtain ⟨t, _ | s'⟩ := t
      · exact hk
      · exact Keys.mem_union.2 (.inl hk)
    · rcases List.mem_cons.1 hmem with rfl | hmem
      · exact .inl (Keys.mem_union.2 (.inr (mem_changedKeys.2 hne)))
      · exact .inr hmem

/-- A key that differs in no snapshot keeps its value in every layer. -/
theorem get?_updated {k : String} (hk : k ∉ (keysTaken taken).keys)
    (huniq : ∀ t ∈ taken, t.1.seq = l.seq → t.1 = l) :
    (updated taken l).recorded.get? k = l.recorded.get? k := by
  by_cases h : ∃ s, (l, some s) ∈ taken
  · suffices hall : ∀ ts : List (Layer × Option Snapshot), (∀ t ∈ ts, t ∈ taken) →
        ∀ l' : Layer, l'.seq = l.seq → l'.recorded.get? k = l.recorded.get? k →
        (updated ts l').recorded.get? k = l.recorded.get? k from
      hall taken (fun _ ht => ht) l rfl rfl
    intro ts
    induction ts with
    | nil => exact fun _ l' _ hl' => hl'
    | cons t ts ih =>
      intro hsub l' hseq hget
      rw [updated_cons]
      refine ih (fun t' ht' => hsub t' (List.mem_cons_of_mem t ht')) _ (by simp [hseq]) ?_
      obtain ⟨t, _ | s⟩ := t
      · exact hget
      · have hmem := hsub _ List.mem_cons_self
        rw [updated_some]
        split
        · rename_i heq
          have hl : t = l := huniq _ hmem (by rw [← heq, hseq])
          by_contra hne
          exact hk (mem_keysTaken (hl ▸ hmem) fun h => hne h.symm)
        · exact hget
  · rw [updated_of_forall]
    intro t ht heq
    have hl := huniq t ht heq
    cases hs : t.2 with
    | none => rfl
    | some s => exact absurd ⟨s, by rw [← hl, ← hs]; exact ht⟩ h

end RegistryId

namespace View

open RegistryId

variable {taken : List (Layer × Option Snapshot)} {ls : List Layer}

theorem resolve_recordAll_of_not_mem {k : String} (hk : k ∉ (keysTaken taken).keys)
    (huniq : ∀ l ∈ ls, ∀ t ∈ taken, t.1.seq = l.seq → t.1 = l) :
    resolve (recorded (recordAll taken ls)) k = resolve (recorded ls) k := by
  rw [recordAll_eq_map]
  exact resolve_recorded_map fun l hl => ⟨updated_name, get?_updated hk (huniq l hl)⟩

/-- What new snapshots change is among the changes that are told of. -/
theorem mem_changes_of_recordAll {k : String}
    (huniq : ∀ l ∈ ls, ∀ t ∈ taken, t.1.seq = l.seq → t.1 = l)
    (h : resolve (recorded ls) k ≠ resolve (recorded (recordAll taken ls)) k) :
    (k, resolve (recorded (recordAll taken ls)) k) ∈
      changesBetween (keysTaken taken) (recorded ls) (recorded (recordAll taken ls)) := by
  refine mem_changesBetween.2 ⟨?_, h, rfl⟩
  by_contra hk
  exact h (resolve_recordAll_of_not_mem hk huniq).symm

end View

end Strata
