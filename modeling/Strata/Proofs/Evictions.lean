import Strata.Proofs.Caches
import Strata.Proofs.Exclusion
import Strata.Proofs.Snapshots

/-!
What a refresh evicts. The entries of a cache come from lookups, and a refresh holds them against
the snapshots that are recorded of the layers. The two can be told apart only by a layer that is
reached in a lookup and answers otherwise than recorded of it (`resolve_recorded_iff`). Right after
a refresh such a layer is one that the refresh has not renewed, because its data are not to change
or because its snapshot has failed (`not_renewed_of_deviates`). So a refresh keeps the entries that
the layers confirm unless such a layer stands in between (`kept_of_refresh`), and it does evict them
then: `evicted_though_confirmed` shows it of a file that could not be read when it was registered,
and of a map that was written to although its data are not to change.
-/

namespace Strata

open Session RegistryId Strata.Task

/-! ### Layers that answer otherwise than recorded -/

/-- A layer that is reached in a lookup of a key, as nothing is recorded of the layers in front of
it and they answer so, and that answers otherwise than recorded of it. -/
def Session.Deviates (s : Session) (key : String) (ls : List Layer) (l : Layer) : Prop :=
  ∃ pre post, ls = pre ++ l :: post ∧
    (∀ p ∈ pre, p.recorded.get? key = none ∧ (s.lookup p.source key).1.1 = .ok none) ∧
    (s.lookup l.source key).1.1 ≠ .ok (l.recorded.get? key)

namespace Session

variable {s s' : Session} {key : String} {l l' : Layer} {ls : List Layer}

theorem mem_of_deviates (h : s.Deviates key ls l) : l ∈ ls := by
  obtain ⟨pre, post, rfl, -, -⟩ := h
  exact List.mem_append_right _ List.mem_cons_self

/-- Behind a first layer without a value those that deviate are the same. -/
theorem deviates_cons_of_none (hl : l.recorded.get? key = none)
    (hanswer : (s.lookup l.source key).1.1 = .ok none) :
    s.Deviates key (l :: ls) l' ↔ s.Deviates key ls l' := by
  constructor
  · rintro ⟨_ | ⟨p, pre⟩, post, heq, hpre, hl'⟩
    · obtain ⟨rfl, rfl⟩ := List.cons.inj heq
      exact absurd (hanswer.trans (by rw [hl])) hl'
    · obtain ⟨rfl, rfl⟩ := List.cons.inj heq
      exact ⟨pre, post, rfl, fun q hq => hpre q (List.mem_cons_of_mem _ hq), hl'⟩
  · rintro ⟨pre, post, rfl, hpre, hl'⟩
    refine ⟨l :: pre, post, rfl, fun p hp => ?_, hl'⟩
    rcases List.mem_cons.1 hp with rfl | hp
    · exact ⟨hl, hanswer⟩
    · exact hpre p hp

/-- A first layer that answers with the value recorded of it is the only one that is reached. -/
theorem not_deviates_cons_of_some {value : String} (hl : l.recorded.get? key = some value)
    (hanswer : (s.lookup l.source key).1.1 = .ok (some value)) :
    ¬ s.Deviates key (l :: ls) l' := by
  rintro ⟨_ | ⟨p, pre⟩, post, heq, hpre, hl'⟩
  · obtain ⟨rfl, rfl⟩ := List.cons.inj heq
    exact hl' (hanswer.trans (by rw [hl]))
  · obtain ⟨rfl, rfl⟩ := List.cons.inj heq
    rw [(hpre l List.mem_cons_self).1] at hl
    cases hl

theorem Fetched.deviates_iff (h : Fetched s s') :
    s'.Deviates key ls l ↔ s.Deviates key ls l := by
  simp only [Deviates, h.answer]

end Session

namespace RegistryId

variable {S : ScriptRun} {s s' : Session} {key : String} {ls : List Layer} {r : RegistryId}

/-- What is found without a failure is what is recorded exactly if no layer deviates. -/
theorem resolve_recorded_iff : ∀ {ls : List Layer} {s s' : Session} {x : Option Resolved},
    s.IsPlain → (ls.map (·.name)).Nodup → Ends S (consult key ls) s (x, false) s' →
    ((View.recorded ls).resolve key = x ↔ ¬ ∃ l, s.Deviates key ls l)
  | [], s, s', x, _, _, h => by
    obtain ⟨hx, -⟩ := ends_done.1 h
    cases hx
    refine iff_of_true rfl ?_
    rintro ⟨l, hl⟩
    exact absurd (mem_of_deviates hl) List.not_mem_nil
  | l :: ls, s, s', x, hs, hnames, h => by
    obtain ⟨hnot, hnames⟩ := List.nodup_cons.1 hnames
    obtain ⟨a, s₁, hlook, hnext⟩ := ends_bind.1 h
    obtain ⟨rfl, rfl⟩ := (ends_lookUp hs).1 hlook
    have hf := fetched_lookup s l.source key
    have hs₁ := hf.isPlain hs
    rw [View.recorded_cons, View.resolve_cons]
    rcases ha : (s.lookup l.source key).1.1 with e | _ | value
    · -- a failure cannot have gone unnoticed
      rw [ha] at hnext
      obtain ⟨u, s₂, -, hnext⟩ := ends_bind.1 hnext
      obtain ⟨y, s₃, -, hlast⟩ := ends_bind.1 hnext
      cases (ends_done.1 hlast).1
    · rw [ha] at hnext
      cases hl : l.recorded.get? key with
      | none =>
        refine (resolve_recorded_iff hs₁ hnames hnext).trans (not_congr (exists_congr fun l' => ?_))
        rw [hf.deviates_iff, deviates_cons_of_none hl ha]
      | some value =>
        refine iff_of_false (fun hx => ?_) (not_not.2 ⟨l, [], ls, rfl, by simp, ?_⟩)
        · have hlive := (consult_spec hs₁ hnext).2 rfl
          rw [← hx] at hlive
          exact hnot (source_mem_of_live hlive)
        · rw [ha, hl]
          simp
    · rw [ha] at hnext
      obtain ⟨hx, -⟩ := ends_done.1 hnext
      cases hx
      cases hl : l.recorded.get? key with
      | none =>
        refine iff_of_false (fun hx => ?_) (not_not.2 ⟨l, [], ls, rfl, by simp, ?_⟩)
        · have hmem := View.source_mem_of_resolve hx
          rw [View.map_fst_recorded] at hmem
          exact hnot hmem
        · rw [ha, hl]
          simp
      | some recorded =>
        by_cases hv : recorded = value
        · subst hv
          refine iff_of_true rfl ?_
          rintro ⟨l', hl'⟩
          exact not_deviates_cons_of_some hl ha hl'
        · refine iff_of_false (by simp [hv]) (not_not.2 ⟨l, [], ls, rfl, by simp, ?_⟩)
          rw [ha, hl]
          simp [Ne.symm hv]

/-! ### Layers that a refresh has renewed -/

/-- A refresh leaves no layer that deviates but those that it has not renewed. -/
theorem not_renewed_of_deviates {reg : Registry} {taken : List (Layer × Option Snapshot)}
    {l : Layer} (hs : s.IsPlain) (hnumbered : reg.IsNumbered)
    (htaken : Ends S (takeSnapshots reg.layers) s taken s') {s₁ : Session}
    (hcontents : s₁.contents = s'.contents) (hs₁ : s₁.IsPlain)
    (hl : s₁.Deviates key (recordAll taken reg.layers) l) :
    l.isMutable = false ∨ l.name ∈ (reported reg taken).1.failed := by
  obtain ⟨l₀, hl₀, rfl⟩ := mem_recordAll.1 (mem_of_deviates hl)
  rw [updated_isMutable, updated_name]
  refine or_iff_not_imp_left.2 fun hmutable => ?_
  have hmap := map_takeSnapshots htaken
  have hmem : l₀ ∈ taken.map (·.1) := by
    rw [hmap, List.mem_filter]
    exact ⟨hl₀, by simpa using hmutable⟩
  obtain ⟨⟨_, _ | t⟩, ht, rfl⟩ := List.mem_map.1 hmem
  · exact List.mem_map.2 ⟨_, List.mem_filter.2 ⟨ht, rfl⟩, rfl⟩
  · exfalso
    obtain ⟨pre, post, -, -, hl⟩ := hl
    have hheld := contents_of_mem_taken hs htaken ht
    rw [← hcontents] at hheld
    rw [updated_source, lookup_of_contents hs₁.isBuiltin hheld,
      recorded_updated ht (nodup_seq_taken hmap hnumbered.seqs)] at hl
    exact hl rfl

end RegistryId

theorem Cache.mem_staleKeys {c : Cache} {v : View} {key : String} :
    key ∈ c.staleKeys v ↔ ∃ e, c.entries.get? key = some e ∧ e.resolved ≠ v.resolve key := by
  rw [staleKeys, Table.mem_keys, Table.get?_filter]
  cases c.entries.get? key <;> simp [Option.filter]

/-! ### What is kept -/

/-- A refresh keeps the entries of the cache that the layers confirm once it is done, and does not
report them, unless a layer that is reached answers otherwise than recorded of it. That is a layer
that the refresh has not renewed, because it takes no part in refreshes or because its snapshot has
failed; and then the entry is evicted and reported. -/
theorem kept_of_refresh {s₀ s' : Session} {scripts : List Script} {ms : List Machine.Moment}
    {m : Machine Unit} {r : RegistryId} {reg : Registry} {report : RefreshReport}
    (hs₀ : ∀ reg ∈ s₀.registries, reg.IsNumbered)
    (hrun : Machine.Run ⟨s₀, scripts.map Script.task⟩ ms m) (hs : m.session.IsPlain)
    (hreg : m.session.registries[r]? = some reg)
    (hrefresh : m.session.run r.refresh = some (report, s')) :
    ∃ changes s₁ reg₁, m.session.run r.renewal = some ((report, changes), s₁) ∧
      s₁.run (r.notify changes) = some ((), s') ∧ s₁.registries[r]? = some reg₁ ∧
      ∀ key e s₂, reg.cache.entries.get? key = some e →
        s₁.run (consult key reg₁.layers) = some ((e.resolved, false), s₂) →
        ((¬ ∃ l, s₁.Deviates key reg₁.layers l) →
          reg₁.cache.entries.get? key = some e ∧ key ∉ report.invalidated) ∧
        ∀ l, s₁.Deviates key reg₁.layers l →
          (l.isMutable = false ∨ l.name ∈ report.failed) ∧
            reg₁.cache.entries.get? key = none ∧ key ∈ report.invalidated := by
  have hnumbered := (Machine.sound_run hs₀ hrun).numbered reg (List.mem_of_getElem? hreg)
  obtain ⟨ms', hruns⟩ := runs_of_run hrefresh
  rw [refresh_eq] at hruns
  obtain ⟨x, s₁, ms₁, ms₂, hrenewal, hrest, -⟩ := runs_bind.1 hruns
  obtain ⟨u, s₂, ms₃, ms₄, hnotify, hdone, -⟩ := runs_bind.1 hrest
  obtain ⟨-, rfl, rfl⟩ := runs_done.1 hdone
  obtain ⟨reg', taken, s₃, hreg', -, htaken, rfl, rfl⟩ := renewal_spec hs hrenewal.ends
  obtain rfl := Option.some.inj (hreg.symm.trans hreg')
  have hbusy : (m.session.setRegistry r (busy reg)).IsPlain := hs
  have hdata := sameButData_takeSnapshots hbusy htaken
  have hplain : (s₃.setRegistry r (renewed reg taken)).IsPlain := hdata.isPlain hbusy
  have hreg₁ : s₃.registries[r]? = some (busy reg) := by
    rw [hdata.registries, registries_setRegistry hreg _]
  refine ⟨(reported reg taken).2, _, renewed reg taken, run_of_runs hrenewal, run_of_runs hnotify,
    registries_setRegistry hreg₁ _, fun key e s₂ he hconsult => ?_⟩
  obtain ⟨ms₅, hconsult⟩ := runs_of_run hconsult
  have hnames : ((recordAll taken reg.layers).map (·.name)).Nodup := by
    rw [map_recordAll fun l => updated_name]
    exact hnumbered.names
  have hiff := resolve_recorded_iff hplain hnames hconsult.ends
  constructor
  · intro hnone
    have hsame := hiff.2 hnone
    refine ⟨Cache.get?_evictStale.2 ⟨he, hsame.symm⟩, fun hmem => ?_⟩
    obtain ⟨e', he', hne⟩ := Cache.mem_staleKeys.1 hmem
    obtain rfl := Option.some.inj (he.symm.trans he')
    exact hne hsame.symm
  · intro l hl
    have hne : e.resolved ≠ (View.recorded (recordAll taken reg.layers)).resolve key :=
      fun hsame => hiff.1 hsame.symm ⟨l, hl⟩
    have hcontents : (s₃.setRegistry r (renewed reg taken)).contents = s₃.contents := rfl
    refine ⟨not_renewed_of_deviates hbusy hnumbered htaken hcontents hplain hl, ?_,
      Cache.mem_staleKeys.2 ⟨e, he, hne⟩⟩
    refine Option.eq_none_iff_forall_ne_some.2 fun e' he' => ?_
    obtain ⟨hold, hsame⟩ := Cache.get?_evictStale.1 he'
    obtain rfl := Option.some.inj (he.symm.trans hold)
    exact hne hsame

/-- A map, and another one that was written to although its data are not to change. -/
def writtenSession : Session where
  sources := [
    .builtin (.map { name := "a", isMutable := true, values := .ofList [("k", "1")] }),
    .builtin (.map { name := "b", isMutable := false, values := .ofList [("n", "2")] })]
  registries := [{
    layers := [⟨0, "a", true, 0, 0, .ofList [("k", "1")]⟩,
      ⟨1, "b", false, 0, 1, .ofList [("n", "1")]⟩]
    nextSeq := 2 }]

/-- A task that resolves a key of each of the two maps. -/
def resolveBoth : List Script := [⟨"x", [.resolve "k", .resolve "n"]⟩]

/-- The key of the first map is kept, and the key of the other map is evicted. -/
theorem kept_of_refresh_of_maps : ∃ ms m report s' reg changes s₁ reg₁ e e',
    Machine.Run ⟨writtenSession, resolveBoth.map Script.task⟩ ms m ∧
    m.session.registries[0]? = some reg ∧
    reg.cache.entries.get? "k" = some e ∧ reg.cache.entries.get? "n" = some e' ∧
    m.session.run (RegistryId.refresh 0) = some (report, s') ∧
    m.session.run (RegistryId.renewal 0) = some ((report, changes), s₁) ∧
    s₁.run (RegistryId.notify 0 changes) = some ((), s') ∧ s₁.registries[0]? = some reg₁ ∧
    (s₁.run (consult "k" reg₁.layers)).map (·.1) = some (e.resolved, false) ∧
    (s₁.run (consult "n" reg₁.layers)).map (·.1) = some (e'.resolved, false) ∧
    reg₁.cache.entries.get? "k" = some e ∧ "k" ∉ report.invalidated ∧
    reg₁.cache.entries.get? "n" = none ∧ "n" ∈ report.invalidated := by
  let start : Machine Unit := ⟨writtenSession, resolveBoth.map Script.task⟩
  let x := start.follow [] (List.replicate 20 0)
  let e : CacheEntry := ⟨some ⟨"1", "a"⟩, 1⟩
  let e' : CacheEntry := ⟨some ⟨"2", "b"⟩, 2⟩
  have hx : start.Run x.1 x.2 := Machine.run_follow _ .start
  have hplain : x.2.session.IsPlain := List.all_eq_true.1 (by decide +kernel)
  have hcached : x.2.session.registries.map (fun reg =>
      (reg.cache.entries.get? "k", reg.cache.entries.get? "n")) = [(some e, some e')] := by
    decide +kernel
  have hrefreshed : (x.2.session.run (RegistryId.refresh 0)).map (·.1.failed) = some [] := by
    decide +kernel
  have hconsulted : (x.2.session.run (RegistryId.renewal 0)).map (fun y =>
      y.2.registries.map fun reg => ((y.2.run (consult "k" reg.layers)).map (·.1),
        (y.2.run (consult "n" reg.layers)).map (·.1))) =
      some [(some (e.resolved, false), some (e'.resolved, false))] := by
    decide +kernel
  let answers (key : String) (y : (RefreshReport × List Change) × Session) :=
    y.2.registries.map fun reg => reg.layers.map fun l =>
      (l.recorded.get? key, (y.2.lookup l.source key).1.1.toOption)
  have hk : (x.2.session.run (RegistryId.renewal 0)).map (answers "k") =
      some [[(some "1", some (some "1")), (none, some none)]] := by decide +kernel
  have hn : (x.2.session.run (RegistryId.renewal 0)).map (answers "n") =
      some [[(none, some none), (some "1", some (some "2"))]] := by decide +kernel
  have hnumbered : ∀ reg ∈ start.session.registries, reg.IsNumbered := by
    intro reg hreg
    rw [List.mem_singleton.1 hreg]
    exact ⟨by simp, by simp, by simp⟩
  obtain ⟨reg, hreg, hentries⟩ : ∃ reg, x.2.session.registries = [reg] ∧
      (reg.cache.entries.get? "k", reg.cache.entries.get? "n") = (some e, some e') :=
    List.map_eq_singleton_iff.1 hcached
  obtain ⟨hentry, hentry'⟩ := Prod.mk.inj hentries
  obtain ⟨⟨report, s'⟩, hrefresh, -⟩ := Option.map_eq_some_iff.1 hrefreshed
  obtain ⟨changes, s₁, reg₁, hrenewal, hnotify, hreg₁, hkept⟩ :=
    kept_of_refresh hnumbered hx hplain (by rw [hreg]; rfl) hrefresh
  rw [hrenewal, Option.map_some, Option.some.injEq] at hconsulted hk hn
  obtain ⟨reg₂, hregs, hconsults⟩ := List.map_eq_singleton_iff.1 hconsulted
  obtain rfl : reg₂ = reg₁ := by
    rw [hregs] at hreg₁
    exact Option.some.inj hreg₁
  obtain ⟨hconsult, hconsult'⟩ := Prod.mk.inj hconsults
  obtain ⟨_, hregs', hk⟩ := List.map_eq_singleton_iff.1 hk
  cases hregs.symm.trans hregs'
  obtain ⟨_, hregs', hn⟩ := List.map_eq_singleton_iff.1 hn
  cases hregs.symm.trans hregs'
  obtain ⟨l, ls, hlayers, hl, hrest⟩ := List.map_eq_cons_iff.1 hk
  obtain ⟨l', rfl, hl'⟩ := List.map_eq_singleton_iff.1 hrest
  rw [hlayers, List.map_cons, List.map_cons, List.map_nil, List.cons.injEq, List.cons.injEq] at hn
  have hok : ∀ {a : Except Failure (Option String)} {v}, a.toOption = some v → a = .ok v := by
    rintro (e | a) v h <;> cases h
    rfl
  obtain ⟨hlk, hlk'⟩ := Prod.mk.inj hl
  obtain ⟨hln, hln'⟩ := Prod.mk.inj hn.1
  obtain ⟨hl'n, hl'n'⟩ := Prod.mk.inj hn.2.1
  obtain ⟨⟨_, s₂⟩, hrun, rfl⟩ := Option.map_eq_some_iff.1 hconsult
  obtain ⟨⟨_, s₃⟩, hrun', rfl⟩ := Option.map_eq_some_iff.1 hconsult'
  have hkeep := (hkept "k" e s₂ hentry hrun).1 fun ⟨l'', hl''⟩ =>
    not_deviates_cons_of_some hlk (hok hlk') (hlayers ▸ hl'')
  have hevict := (hkept "n" e' s₃ hentry' hrun').2 l' ⟨[l], [], hlayers, by simp [hln, hok hln'], by
    rw [hok hl'n', hl'n]
    simp⟩
  exact ⟨x.1, x.2, report, s', reg, changes, s₁, reg₂, e, e', hx, by rw [hreg]; rfl, hentry,
    hentry', hrefresh, hrenewal, hnotify, hreg₁, hconsult, hconsult', hkeep.1, hkeep.2, hevict.2.1,
    hevict.2.2⟩

/-- A file that is gone when it is registered, and a key that is resolved. -/
def goneFile : List Command :=
  [.deed (.write "a.properties" (.text "k=1")),
    .make "f" (.file (.object [("path", .text "a.properties"), ("name", .text "f")])) none,
    .deed (.delete "a.properties"), .register "f" 0, .resolve "k"]

/-- A map that is written to although its data are not to change, and a key that is resolved. -/
def writtenMap : List Command :=
  [.make "m" (.map { name := "m", isMutable := false, values := .ofList [("k", "1")] }) (some 0),
    .deed (.put "m" "k" "2"), .resolve "k"]

/-- After some commands a registry holds an entry of `k` that its layers confirm before a refresh
and after it, and the refresh evicts the entry and reports it. -/
def EvictsConfirmed (commands : List Command) : Prop :=
  ∃ s reg e s₁ s' report reg' s₂,
    (({} : Session).perform commands).map (·.2) = some s ∧ s.IsPlain ∧ s.registries = [reg] ∧
    reg.cache.entries.get? "k" = some e ∧
    s.run (consult "k" reg.layers) = some ((e.resolved, false), s₁) ∧
    s.run (RegistryId.refresh 0) = some (report, s') ∧ s'.registries = [reg'] ∧
    s'.run (consult "k" reg'.layers) = some ((e.resolved, false), s₂) ∧
    reg'.cache.entries.get? "k" = none ∧ "k" ∈ report.invalidated

/-- What the registries of a session have cached of `k`, and what their layers say of it. -/
def Session.confirmed (s : Session) : List (Option CacheEntry × Option (Option Resolved × Bool)) :=
  s.registries.map fun reg =>
    (reg.cache.entries.get? "k", (s.run (consult "k" reg.layers)).map (·.1))

/-- A refresh after some commands. -/
def refreshAfter (commands : List Command) : Option (RefreshReport × Session) :=
  (({} : Session).perform commands).bind fun p => p.2.run (RegistryId.refresh 0)

/-- Whether an entry is evicted although it is confirmed can be computed. -/
theorem evictsConfirmed_of_computed {commands : List Command} {e : CacheEntry}
    (hplain : (({} : Session).perform commands).map (·.2.sources.all (·.isBuiltin)) = some true)
    (hbefore : (({} : Session).perform commands).map (·.2.confirmed) =
      some [(some e, some (e.resolved, false))])
    (hafter : (refreshAfter commands).map (·.2.confirmed) =
      some [(none, some (e.resolved, false))])
    (hinvalidated : (refreshAfter commands).map (·.1.invalidated) = some ["k"]) :
    EvictsConfirmed commands := by
  obtain ⟨⟨steps, s⟩, hperform, hplain⟩ := Option.map_eq_some_iff.1 hplain
  rw [hperform, Option.map_some, Option.some.injEq] at hbefore
  rw [refreshAfter, hperform, Option.bind_some] at hafter hinvalidated
  obtain ⟨⟨report, s'⟩, hrefresh, hafter⟩ := Option.map_eq_some_iff.1 hafter
  rw [hrefresh, Option.map_some, Option.some.injEq] at hinvalidated
  obtain ⟨reg, hreg, hbefore⟩ := List.map_eq_singleton_iff.1 hbefore
  obtain ⟨reg', hreg', hafter⟩ := List.map_eq_singleton_iff.1 hafter
  obtain ⟨hentry, hbefore⟩ := Prod.mk.inj hbefore
  obtain ⟨hnone, hafter⟩ := Prod.mk.inj hafter
  obtain ⟨⟨_, s₁⟩, hconsult, rfl⟩ := Option.map_eq_some_iff.1 hbefore
  obtain ⟨⟨_, s₂⟩, hconsult', rfl⟩ := Option.map_eq_some_iff.1 hafter
  refine ⟨s, reg, e, s₁, s', report, reg', s₂, by rw [hperform]; rfl, List.all_eq_true.1 hplain,
    hreg, hentry, hconsult, hrefresh, hreg', hconsult', hnone, ?_⟩
  rw [hinvalidated]
  exact List.mem_singleton_self _

/-- Entries of the cache may be evicted although the layers confirm them before the refresh and
after it: what is recorded of the layers does not confirm them. -/
theorem evicted_though_confirmed : EvictsConfirmed goneFile ∧ EvictsConfirmed writtenMap :=
  ⟨evictsConfirmed_of_computed (e := ⟨some ⟨"1", "f"⟩, 1⟩) (by decide +kernel) (by decide +kernel)
      (by decide +kernel) (by decide +kernel),
    evictsConfirmed_of_computed (e := ⟨some ⟨"2", "m"⟩, 1⟩) (by decide +kernel) (by decide +kernel)
      (by decide +kernel) (by decide +kernel)⟩

end Strata
