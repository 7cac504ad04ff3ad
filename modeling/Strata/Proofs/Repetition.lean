import Strata.Proofs.Callbacks
import Strata.Proofs.Delivery
import Strata.Proofs.Evictions

/-!
A refresh that is followed by another one. If the sources answer the second time as they did the
first time, the second refresh finds each layer with the snapshot that it has taken of it, and each
entry of the cache confirmed. So it has nothing to record, to evict or to tell (`returned_again`,
`reported_again`). Main statement: `refresh_again`.
-/

namespace Strata

open Session RegistryId Machine Strata.Task

/-! ### Evicting again -/

namespace Cache

variable {c : Cache} {v : View}

/-- What a view has confirmed it does not find stale. -/
theorem staleKeys_evictStale (c : Cache) (v : View) : (c.evictStale v).staleKeys v = [] := by
  refine List.eq_nil_iff_forall_not_mem.2 fun key hkey => ?_
  obtain ⟨e, he, hne⟩ := mem_staleKeys.1 hkey
  exact hne (get?_evictStale.1 he).2

/-- What a view has confirmed it confirms again. -/
theorem evictStale_evictStale (c : Cache) (v : View) :
    (c.evictStale v).evictStale v =
      { c.evictStale v with epoch := (c.evictStale v).epoch + 1 } := by
  simp only [evictStale, retain, Table.filter, List.filter_filter, Bool.and_self]

end Cache

namespace RegistryId

variable {taken : List (Layer × Option Snapshot)} {l : Layer} {ls : List Layer} {reg : Registry}

/-! ### Recording again -/

/-- The same results, of the layers as they are once the results have been recorded. -/
def again (taken : List (Layer × Option Snapshot)) : List (Layer × Option Snapshot) :=
  taken.map fun t => (updated taken t.1, t.2)

/-- If the layers are asked again and the results are the same, this is what was taken. -/
theorem eq_again {taken' : List (Layer × Option Snapshot)}
    (hmap : taken.map (·.1) = ls.filter (·.isMutable))
    (hmap' : taken'.map (·.1) = (recordAll taken ls).filter (·.isMutable))
    (hsame : taken'.map (·.2) = taken.map (·.2)) : taken' = again taken := by
  have hfst : taken'.map (·.1) = (again taken).map (·.1) := by
    have hmutable : (fun l => (updated taken l).isMutable) = (·.isMutable) :=
      funext fun l => updated_isMutable
    rw [hmap', recordAll_eq_map, List.filter_map, Function.comp_def, hmutable, ← hmap, again,
      List.map_map, List.map_map]
    rfl
  have hsnd : taken'.map (·.2) = (again taken).map (·.2) := by
    rw [hsame, again, List.map_map]
    rfl
  rw [← List.zip_unzip taken', ← List.zip_unzip (again taken), List.unzip_eq_map,
    List.unzip_eq_map, hfst, hsnd]

/-- A layer that has the snapshots to be recorded of it stays as it is. -/
theorem updated_of_agree (h : ∀ t ∈ taken, ∀ s, t.2 = some s → t.1.seq = l.seq → l.recorded = s) :
    updated taken l = l := by
  induction taken with
  | nil => rfl
  | cons t taken ih =>
    have hone : updated [t] l = l := by
      obtain ⟨t, _ | s⟩ := t
      · rfl
      · rw [updated_some]
        split
        · rename_i heq
          rw [← h _ List.mem_cons_self s rfl heq.symm]
        · rfl
    rw [updated_cons, hone]
    exact ih fun t' ht' => h t' (List.mem_cons_of_mem t ht')

/-- Snapshots that are those recorded bring no keys. -/
theorem keysTaken_of_agree (h : ∀ t ∈ taken, ∀ s, t.2 = some s → t.1.recorded = s) :
    keysTaken taken = .empty := by
  rw [keysTaken]
  generalize (Table.empty : Keys) = keys
  induction taken generalizing keys with
  | nil => rfl
  | cons t taken ih =>
    have hrest := ih fun t' ht' => h t' (List.mem_cons_of_mem t ht')
    rw [List.foldl_cons]
    obtain ⟨t, _ | s⟩ := t
    · exact hrest keys
    · have hs : t.recorded = s := h _ List.mem_cons_self s rfl
      simp only [hs, union_changedKeys_self]
      exact hrest keys

section Taken

variable (hmap : taken.map (·.1) = ls.filter (·.isMutable)) (hseqs : (ls.map (·.seq)).Nodup)
include hmap hseqs

/-- Once the results have been recorded, each layer has its own. -/
theorem recorded_of_mem_again {t : Layer × Option Snapshot} {s : Snapshot} (ht : t ∈ again taken)
    (hs : t.2 = some s) : t.1.recorded = s := by
  obtain ⟨⟨l, x⟩, hmem, rfl⟩ := List.mem_map.1 ht
  cases hs
  exact recorded_updated hmem (nodup_seq_taken hmap hseqs)

theorem keysTaken_again : keysTaken (again taken) = .empty :=
  keysTaken_of_agree fun _ ht _ hs => recorded_of_mem_again hmap hseqs ht hs

/-- Recording the same results again changes no layer. -/
theorem recordAll_again : recordAll (again taken) (recordAll taken ls) = recordAll taken ls := by
  suffices h : ∀ l' ∈ recordAll taken ls, updated (again taken) l' = l' by
    rw [recordAll_eq_map (again taken), List.map_congr_left h, List.map_id']
  intro l' hl'
  obtain ⟨l, hl, rfl⟩ := mem_recordAll.1 hl'
  refine updated_of_agree fun t ht s hs hseq => ?_
  have hrecorded := recorded_of_mem_again hmap hseqs ht hs
  obtain ⟨⟨l₁, x⟩, hmem, rfl⟩ := List.mem_map.1 ht
  have hl₁ : l₁ ∈ ls := by
    have hmem₁ : l₁ ∈ taken.map (·.1) := List.mem_map_of_mem hmem
    rw [hmap] at hmem₁
    exact (List.mem_filter.1 hmem₁).1
  obtain rfl : l₁ = l := List.inj_on_of_nodup_map hseqs hl₁ hl (by simpa using hseq)
  exact hrecorded

end Taken

/-! ### Refreshing again -/

/-- The registry is left as it is but for its counts. -/
theorem returned_again (hmap : taken.map (·.1) = reg.layers.filter (·.isMutable))
    (hseqs : (reg.layers.map (·.seq)).Nodup) :
    returned (busy (returned reg taken)) (again taken) = { returned reg taken with
      cache := { (returned reg taken).cache with epoch := (returned reg taken).cache.epoch + 1 }
      changeSeq := (returned reg taken).changeSeq + 2 } := by
  simp only [returned, busy, recordAll_again hmap hseqs, Cache.evictStale_evictStale]

/-- Nothing is told but which sources have given a snapshot and which have failed. -/
theorem reported_again (hmap : taken.map (·.1) = reg.layers.filter (·.isMutable))
    (hseqs : (reg.layers.map (·.seq)).Nodup) :
    reported (busy (returned reg taken)) (again taken) =
      ({ (reported reg taken).1 with changed := [], invalidated := [] }, []) := by
  have hnames : ∀ p : Option Snapshot → Bool,
      ((again taken).filter (p ·.2)).map (·.1.name) = (taken.filter (p ·.2)).map (·.1.name) := by
    intro p
    simp only [again, List.filter_map, List.map_map, Function.comp_def, updated_name]
  have hnone : ∀ v v' : View, changesBetween .empty v v' = [] := fun _ _ => rfl
  simp only [reported, returned, busy, keysTaken_again hmap hseqs, recordAll_again hmap hseqs,
    hnone, Cache.staleKeys_evictStale, hnames, List.map_nil]

theorem deliveries_closing {S : ScriptRun} {s s' : Session} {r : RegistryId} {ms : List Moment}
    {x : RefreshReport × List Change} (h : Runs S (r.closing ls taken) s ms x s') :
    deliveries ms = [] := by
  have hR : Composable fun _ ms _ => deliveries ms = [] :=
    ⟨fun _ => rfl, fun _ _ => rfl, fun h h' => by rw [deliveries_append, h, h', List.append_nil]⟩
  have hask : ∀ b, Always S (fun _ ms _ => deliveries ms = []) (ask r b) :=
    fun b => always_act fun _ _ _ _ => rfl
  refine always_bind hR (fun _ _ _ _ => deliveries_record) (fun _ => ?_) s ms x s' h
  exact always_bind hR (hask _) fun _ => always_bind hR (hask _) fun _ =>
    always_bind hR (hask _) fun _ => always_done hR _

/-- Once snapshots have been taken, a refresh records them and calls nobody by itself before it
notifies. -/
theorem exists_runs_renewal {S : ScriptRun} {s s₁ : Session} {r : RegistryId} {ms : List Moment}
    {reg₁ : Registry} (hreg : s.registries[r]? = some reg) (hfree : reg.isLocked = false)
    (htaken : Runs S (takeSnapshots reg.layers) (s.setRegistry r (busy reg)) ms taken s₁)
    (hreg₁ : s₁.registries[r]? = some reg₁) (hlayers : reg₁.layers = reg.layers) :
    ∃ ms', Runs S r.renewal s ms' (reported reg₁ taken) (s₁.setRegistry r (returned reg₁ taken)) ∧
      deliveries ms' = deliveries ms := by
  obtain ⟨ms₁, hclosing⟩ : Ends S (r.closing reg₁.layers taken) s₁ (reported reg₁ taken)
      (s₁.setRegistry r (returned reg₁ taken)) := (ends_closing hreg₁).2 ⟨rfl, rfl⟩
  have hlocked := registries_setRegistry hreg { reg with isLocked := true }
  have hbusy := registries_setRegistry hreg (busy reg)
  have hlock : Runs S (ask r .lock) s [⟨0, .act (.registry r .lock), s⟩] ()
      (s.setRegistry r { reg with isLocked := true }) :=
    runs_ask.2 ⟨reg, _, hreg, by simp [Registry.take, hfree], rfl, rfl⟩
  have hbegin : Runs S (ask r .beginChange) (s.setRegistry r { reg with isLocked := true })
      [⟨0, .act (.registry r .beginChange), s.setRegistry r { reg with isLocked := true }⟩] ()
      (s.setRegistry r (busy reg)) :=
    runs_ask.2 ⟨_, busy reg, hlocked, rfl, by rw [setRegistry_setRegistry], rfl⟩
  have hread : Runs S (ask r .layers) (s.setRegistry r (busy reg))
      [⟨0, .act (.registry r .layers), s.setRegistry r (busy reg)⟩] reg.layers
      (s.setRegistry r (busy reg)) :=
    runs_ask.2 ⟨_, busy reg, hbusy, rfl, (setRegistry_self hbusy).symm, rfl⟩
  rw [renewal_eq]
  rw [hlayers] at hclosing
  refine ⟨_, runs_bind.2 ⟨_, _, _, _, hlock, runs_bind.2 ⟨_, _, _, _, hbegin, runs_bind.2
    ⟨_, _, _, _, hread, runs_bind.2 ⟨_, _, _, _, htaken, hclosing, rfl⟩, rfl⟩, rfl⟩, rfl⟩, ?_⟩
  have hask : ∀ b s, deliveries [⟨0, .act (.registry r b), s⟩] = [] := fun _ _ => rfl
  simp only [deliveries_append, deliveries_closing hclosing, hask, List.nil_append, List.append_nil]

/-- If nothing has changed there is nobody to call. -/
theorem runs_refresh_of_unchanged {S : ScriptRun} {s s' : Session} {r : RegistryId}
    {ms : List Moment} {report : RefreshReport} (h : Runs S r.renewal s ms (report, []) s') :
    Runs S r.refresh s ms report s' := by
  rw [refresh_eq]
  exact runs_bind.2 ⟨_, _, ms, [], h, .done _ _, rfl⟩

end RegistryId

/-- A refresh that is followed at once by another one, in which each source gives the same snapshot
or fails again, while neither the sources nor the listeners use the registry. The second refresh
comes to its end. It reports nothing as changed or evicted, and the same sources as the first one.
It calls no listener; those that are called meanwhile are listeners of other registries, called by
what sources do there. All recorded snapshots and all entries of the cache stay with their
generations. -/
theorem refresh_again {s₀ s₁ s₂ σ : Session} {scripts : List Script} {m : Machine Unit} {k : Nat}
    {earlier ms ms₁ ms₂ : List Moment} {r : RegistryId} {reg reg₁ : Registry}
    {report : RefreshReport} {taken taken' : List (Layer × Option Snapshot)}
    (hs₀ : ∀ reg ∈ s₀.registries, reg.IsNumbered)
    (hrun : Machine.Run ⟨s₀, scripts.map Script.task⟩ earlier m)
    (hreg : m.session.registries[r]? = some reg)
    (hrefresh : Runs (Aloof r k) r.refresh m.session ms report s₁)
    (htaken : Runs (Aloof r k) (takeSnapshots reg.layers) (m.session.setRegistry r (busy reg)) ms₁
      taken σ)
    (hreg₁ : s₁.registries[r]? = some reg₁)
    (htaken' : Runs (Aloof r k) (takeSnapshots reg₁.layers) (s₁.setRegistry r (busy reg₁)) ms₂
      taken' s₂)
    (hsame : taken'.map (·.2) = taken.map (·.2)) :
    ∃ ms' s',
      Runs (Aloof r k) r.refresh s₁ ms' { report with changed := [], invalidated := [] } s' ∧
      deliveries ms' = deliveries ms₂ ∧ Aside r s₁ ms' s' ∧
      s'.registries[r]? = some { reg₁ with
        cache := { reg₁.cache with epoch := reg₁.cache.epoch + 1 }
        changeSeq := reg₁.changeSeq + 2 } := by
  have hseqs := ((Machine.sound_run hs₀ hrun).numbered reg (List.mem_of_getElem? hreg)).seqs
  -- the first refresh has recorded what was taken, and its listeners have left it at that
  rw [refresh_eq] at hrefresh
  obtain ⟨x, σ₁, ms₃, ms₄, hrenewal, hrest, rfl⟩ := runs_bind.1 hrefresh
  obtain ⟨u, σ₂, ms₅, ms₆, hnotify, hdone, rfl⟩ := runs_bind.1 hrest
  obtain ⟨rfl, rfl, rfl⟩ := runs_done.1 hdone
  obtain ⟨-, taken₁, s₃, reg₃, htaken₁, hreg₃, rfl, rfl⟩ := (ends_renewal hreg fun taken s₁ h =>
    layers_of_takeSnapshots hreg h).1 (runs_of_aloof hrenewal).ends
  obtain ⟨rfl, rfl⟩ := htaken₁.unique (runs_of_aloof htaken).ends
  obtain ⟨_, hreg₃', hlayers⟩ := layers_of_takeSnapshots hreg htaken₁
  cases hreg₃.symm.trans hreg₃'
  have hkept := (keeps_notify _ _ _ _ _ hnotify).registry (registries_setRegistry hreg₃ _)
  cases hreg₁.symm.trans hkept
  rw [← hlayers] at hseqs htaken
  have hmap := map_takeSnapshots htaken.ends
  -- so it is found by the second one
  obtain rfl := eq_again hmap (map_takeSnapshots htaken'.ends) hsame
  have hreg₂ := (outward_keeps.takeSnapshots _ _ _ _ _ htaken').registry
    (registries_setRegistry hreg₁ (busy _))
  obtain ⟨ms', hrenewal', hms'⟩ := exists_runs_renewal hreg₁ rfl htaken' hreg₂ rfl
  rw [reported_again hmap hseqs, returned_again hmap hseqs] at hrenewal'
  have haside := (gentle_aside (aside_of_aloof k)).renewal (fun b _ => aside_ask r b) _ _ _ _
    hrenewal'
  exact ⟨ms', _, runs_refresh_of_unchanged hrenewal', hms', haside, registries_setRegistry hreg₂ _⟩

/-- A source that is down, a map that has changed and one that is not to change, and a listener that
sets a property when it is called. -/
def heardOutage : Session :=
  { outageSession true with
    registries := (outageSession true).registries.map (·.subscribe "n" 0)
    listeners := [.script ⟨"x", [.deed (.setProperty "p" "1")]⟩] }

/-- The first refresh tells of a new value and evicts an entry, the second one does nothing. -/
theorem refresh_again_of_outage : ∃ ms s₁ reg₁ ms' s',
    Runs (Aloof 0 100) (RegistryId.refresh 0) heardOutage ms ⟨["n"], ["n"], ["b"], ["a"]⟩ s₁ ∧
    deliveries ms = [(0, some ⟨"3", "b"⟩)] ∧ s₁.registries[0]? = some reg₁ ∧
    (reg₁.cache.entries.get? "k").map (·.generation) = some 1 ∧
    Runs (Aloof 0 100) (RegistryId.refresh 0) s₁ ms' ⟨[], [], ["b"], ["a"]⟩ s' ∧
    deliveries ms' = [] ∧ s'.registries[0]? = some { reg₁ with
      cache := { reg₁.cache with epoch := reg₁.cache.epoch + 1 }
      changeSeq := reg₁.changeSeq + 2 } := by
  have hnumbered : ∀ reg ∈ heardOutage.registries, reg.IsNumbered := by
    intro reg hreg
    rw [List.mem_singleton.1 hreg]
    exact ⟨by decide, by decide, by decide⟩
  -- the first refresh, and the snapshots that it takes
  obtain ⟨x, hx⟩ : ∃ x, x = Machine.follow ⟨heardOutage, [RegistryId.refresh 0]⟩ []
    (List.replicate 100 0) := ⟨_, rfl⟩
  obtain ⟨y, hy⟩ : ∃ y, y = Machine.follow
    ⟨heardOutage.setRegistry 0 (busy heardOutage.registry),
      [takeSnapshots heardOutage.registry.layers]⟩
    [] (List.replicate 100 0) := ⟨_, rfl⟩
  -- the snapshots that the second one takes
  obtain ⟨z, hz⟩ : ∃ z, z = Machine.follow
    ⟨x.2.session.setRegistry 0 (busy x.2.session.registry),
      [takeSnapshots x.2.session.registry.layers]⟩
    [] (List.replicate 100 0) := ⟨_, rfl⟩
  have hreported : (x.2.tasks[0]?).bind Task.result? = some ⟨["n"], ["n"], ["b"], ["a"]⟩ := by
    rw [hx]
    decide +kernel
  have hsession : x.2.session.registries.length = 1 ∧ x.2.session.current = 0 ∧
      (x.2.session.registry.cache.entries.get? "k").map (·.generation) = some 1 ∧
      deliveries x.1 = [(0, some ⟨"3", "b"⟩)] := by
    rw [hx]
    decide +kernel
  have houtside : OnlyOutside x.1 ∧ OnlyOutside y.1 ∧ OnlyOutside z.1 := by
    rw [hz, hy, hx]
    decide +kernel
  have htaken : ((y.2.tasks[0]?).bind Task.result?).map (·.map (·.2)) =
      some [none, some (.ofList [("k", "2"), ("n", "3")])] := by
    rw [hy]
    decide +kernel
  have htaken' : ((z.2.tasks[0]?).bind Task.result?).map (·.map (·.2)) =
      some [none, some (.ofList [("k", "2"), ("n", "3")])] ∧ deliveries z.1 = [] := by
    rw [hz, hx]
    decide +kernel
  obtain ⟨hone, hcurrent, hentry, hcalls⟩ := hsession
  obtain ⟨htaken', hquiet⟩ := htaken'
  obtain ⟨taken, hy', htaken⟩ := Option.map_eq_some_iff.1 htaken
  obtain ⟨taken', hz', htaken'⟩ := Option.map_eq_some_iff.1 htaken'
  have hreg₁ : x.2.session.registries[0]? = some x.2.session.registry := by
    rw [Session.registry, hcurrent]
    obtain ⟨reg, hreg⟩ := List.length_eq_one_iff.1 hone
    rw [hreg]
    rfl
  have hrefresh : Runs (Aloof 0 100) _ _ _ _ _ :=
    aloof_of_outside (runs_of_follow hx hreported) houtside.1
  have hstart : Machine.Run ⟨heardOutage, [].map Script.task⟩ [] ⟨heardOutage, []⟩ := .start
  have hy := runs_of_follow hy hy'
  have hz := runs_of_follow hz hz'
  obtain ⟨ms', s', hagain, hcalls', -, hreg₂⟩ := refresh_again hnumbered hstart rfl hrefresh
    (aloof_of_outside hy houtside.2.1) hreg₁ (aloof_of_outside hz houtside.2.2)
    (htaken'.trans htaken.symm)
  exact ⟨x.1, x.2.session, _, ms', s', hrefresh, hcalls, hreg₁, hentry, hagain,
    hcalls'.trans hquiet, hreg₂⟩

end Strata
