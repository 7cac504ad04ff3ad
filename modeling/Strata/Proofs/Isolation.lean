import Strata.Proofs.Guards
import Strata.Proofs.Snapshots

/-!
Refreshes in which sources fail. The sources of the mutable layers are asked one after the other; a
failure is observed once and keeps no other source from being asked (`Session.Asks`). What a refresh
makes of the answers is the same as if each source that failed had answered with the snapshot that
is recorded of it, but for the two lists of sources in the report (`reported_mended`,
`recordAll_mended`). Main statement: `refresh_of_asks`.
-/

namespace Strata

open Session RegistryId Strata.Task

/-- A layer and what its source has answered when it was asked for a snapshot. -/
abbrev LayerAnswer := Layer × Except Failure Snapshot

namespace LayerAnswer

/-- What a refresh takes from an answer. -/
def taken (x : LayerAnswer) : Layer × Option Snapshot := (x.1, x.2.toOption)

/-- The answer of a source that answers what is recorded of it instead of failing. -/
def mend (x : LayerAnswer) : LayerAnswer := (x.1, .ok (x.2.toOption.getD x.1.recorded))

/-- The failure that an answer is, as it is observed. -/
def failure? (x : LayerAnswer) : Option Event :=
  match x.2 with
  | .ok _ => none
  | .error e => some (.observed (.refresh x.1.name) e)

end LayerAnswer

/-- Observes the failure that an answer is, if it is one. -/
def Session.hear (s : Session) (x : LayerAnswer) : Session := (x.failure?.map s.emit).getD s

/-- The sources of the mutable layers are asked for snapshots in the order of the layers, and give
these answers. A failure is observed right when it is met. -/
inductive Session.Asks : Session → List Layer → List LayerAnswer → Session → Prop
  | nil (s : Session) : s.Asks [] [] s
  | pass {s s' : Session} {l : Layer} {ls : List Layer} {answers : List LayerAnswer} :
    l.isMutable = false → s.Asks ls answers s' → s.Asks (l :: ls) answers s'
  | ask {s s₁ s' : Session} {l : Layer} {ls : List Layer} {a : Except Failure Snapshot}
    {answers : List LayerAnswer} : l.isMutable = true →
    s.run (takeSnapshot l.source) = some (a, s₁) → (s₁.hear (l, a)).Asks ls answers s' →
    s.Asks (l :: ls) ((l, a) :: answers) s'

/-! ### Asking the sources -/

namespace Session

variable {s s' : Session} {ls : List Layer} {answers : List LayerAnswer}

theorem run_bind {α β : Type} (s : Session) (t : Task α) (f : α → Task β) :
    s.run (t.bind f) = (s.run t).bind fun x => x.2.run (f x.1) :=
  runWith_bind _ t f s

theorem run_nextSnapshot (s : Session) (l : Layer) : s.run (nextSnapshot l) =
    (s.run (takeSnapshot l.source)).map fun x => (x.1.toOption, x.2.hear (l, x.1)) := by
  rw [nextSnapshot, Program.bind_eq_bind, run_bind]
  rcases s.run (takeSnapshot l.source) with _ | ⟨e | t, s₁⟩ <;> rfl

/-- The mutable layers are asked in their order. -/
theorem Asks.map_fst (h : s.Asks ls answers s') :
    answers.map (·.1) = ls.filter (·.isMutable) := by
  induction h with
  | nil => rfl
  | pass hl _ ih => simpa [hl] using ih
  | ask hl _ _ ih => simpa [hl] using ih

/-- Taking snapshots comes to asking the sources. -/
theorem run_takeSnapshots : ∀ {ls : List Layer} {s s' : Session}
    {taken : List (Layer × Option Snapshot)}, s.run (takeSnapshots ls) = some (taken, s') ↔
      ∃ answers, s.Asks ls answers s' ∧ taken = answers.map (·.taken)
  | [], s, s', taken => by
    have hrun : s.run (takeSnapshots []) = some ([], s) := rfl
    rw [hrun, Option.some.injEq, Prod.mk.injEq]
    constructor
    · rintro ⟨rfl, rfl⟩
      exact ⟨[], .nil s, rfl⟩
    · rintro ⟨_, ⟨⟩, rfl⟩
      exact ⟨rfl, rfl⟩
  | l :: ls, s, s', taken => by
    rw [takeSnapshots_cons]
    by_cases hl : l.isMutable = true
    · rw [if_pos hl, run_bind, run_nextSnapshot, Option.bind_map, Option.bind_eq_some_iff]
      constructor
      · rintro ⟨⟨a, s₁⟩, hsnap, hnext⟩
        rw [Function.comp_apply, run_bind, Option.bind_eq_some_iff] at hnext
        obtain ⟨⟨rest, s₂⟩, hrest, hdone⟩ := hnext
        cases hdone
        obtain ⟨answers, hasks, rfl⟩ := run_takeSnapshots.1 hrest
        exact ⟨_, .ask hl hsnap hasks, rfl⟩
      · rintro ⟨_, hasks, rfl⟩
        cases hasks with
        | pass hl' => rw [hl] at hl'; cases hl'
        | ask _ hsnap hasks =>
          refine ⟨_, hsnap, ?_⟩
          rw [Function.comp_apply, run_bind, run_takeSnapshots.2 ⟨_, hasks, rfl⟩]
          rfl
    · rw [if_neg hl, run_takeSnapshots]
      refine exists_congr fun answers => and_congr_left fun _ => ⟨.pass (by simpa using hl), ?_⟩
      intro hasks
      cases hasks with
      | pass _ hasks => exact hasks
      | ask hl' => exact absurd hl' hl

/-! ### Sources without commands -/

/-- The snapshot of a source brings no commands. So it is with all sources but scripted ones. -/
def IsMute (s : Session) (n : SourceId) : Prop := (s.snapshot n).1.2.commands = []

theorem run_takeSnapshot {n : SourceId} (h : s.IsMute n) :
    s.run (takeSnapshot n) = some ((s.snapshot n).1.1, (s.snapshot n).2) := by
  have hrun : Strata.run (s.snapshot n).1.2 = .done () := by
    rw [Strata.run, h]
    rfl
  have htake : s.run (act (.snapshot n)) = some (s.snapshot n) := rfl
  rw [takeSnapshot, Program.bind_eq_bind, run_bind, htake]
  show (s.snapshot n).2.run ((Strata.run (s.snapshot n).1.2).bind _) = _
  rw [hrun]
  rfl

theorem registries_hear (s : Session) (x : LayerAnswer) :
    (s.hear x).registries = s.registries := by
  rw [hear]
  cases x.failure? <;> rfl

theorem events_hear (s : Session) (x : LayerAnswer) :
    (s.hear x).events = x.failure?.toList ++ s.events := by
  rw [hear]
  cases x.failure? <;> rfl

theorem snapshot_hear (s : Session) (x : LayerAnswer) (n : SourceId) :
    ((s.hear x).snapshot n).1 = (s.snapshot n).1 := by
  rw [hear]
  cases x.failure? with
  | none => rfl
  | some event => exact snapshot_emit s event n

/-- Sources without commands answer as they would have answered at first, change nothing of the
registries, and bring no events but their failures. -/
theorem Asks.of_mute (h : s.Asks ls answers s')
    (hmute : ∀ l ∈ ls, l.isMutable = true → s.IsMute l.source) :
    answers = (ls.filter (·.isMutable)).map (fun l => (l, (s.snapshot l.source).1.1)) ∧
      s'.registries = s.registries ∧
      s'.events = (answers.filterMap (·.failure?)).reverse ++ s.events := by
  induction h with
  | nil => exact ⟨rfl, rfl, rfl⟩
  | pass hl _ ih =>
    obtain ⟨hanswers, hrest⟩ := ih fun l' hl' => hmute l' (List.mem_cons_of_mem _ hl')
    exact ⟨by simpa [hl] using hanswers, hrest⟩
  | @ask s s₁ s' l ls a answers hl hsnap _ ih =>
    rw [run_takeSnapshot (hmute l List.mem_cons_self hl), Option.some.injEq, Prod.mk.injEq] at hsnap
    obtain ⟨hanswer, rfl⟩ := hsnap
    obtain ⟨hanswers, hregs, hevents⟩ := ih fun l' hl' hmutable => by
      rw [IsMute, snapshot_hear]
      exact commands_snapshot (hmute l' (List.mem_cons_of_mem _ hl') hmutable) l.source
    simp only [snapshot_hear, snapshot_snapshot] at hanswers
    refine ⟨by simp [hl, hanswer, hanswers], ?_, ?_⟩
    · rw [hregs, registries_hear, (sameButData_snapshot s l.source).registries]
    · rw [hevents, events_hear, events_snapshot, List.filterMap_cons]
      cases (LayerAnswer.failure? (l, a)) <;> simp

end Session

/-! ### What a refresh makes of the answers -/

namespace RegistryId

variable {answers : List LayerAnswer} {l : Layer} {ls : List Layer}

theorem union_changedKeys_self (keys : Keys) (t : Snapshot) :
    keys.union (changedKeys t t) = keys := by
  have hnone : changedKeys t t = .empty := by
    simp [changedKeys, Keys.ofList, Table.ofList, Table.insertAll]
  rw [hnone]
  rfl

/-- Snapshots that are the same as before bring no keys. -/
theorem keysTaken_mended (answers : List LayerAnswer) :
    keysTaken (answers.map fun x => x.mend.taken) = keysTaken (answers.map (·.taken)) := by
  rw [keysTaken, keysTaken]
  generalize (Table.empty : Keys) = keys
  induction answers generalizing keys with
  | nil => rfl
  | cons x answers ih =>
    obtain ⟨l, e | t⟩ := x
    · simp only [List.map_cons, List.foldl_cons, LayerAnswer.taken, LayerAnswer.mend,
        Except.toOption, Option.getD_none, union_changedKeys_self]
      exact ih keys
    · exact ih _

theorem refreshed_reported (reg : Registry) (answers : List LayerAnswer) :
    (reported reg (answers.map (·.taken))).1.refreshed =
      (answers.filter (·.2.isOk)).map (·.1.name) := by
  have hsome : ∀ x : LayerAnswer, x.taken.2.isSome = x.2.isOk := by
    rintro ⟨l, e | t⟩ <;> rfl
  simp only [reported, List.filter_map, List.map_map, Function.comp_def, hsome]
  rfl

theorem failed_reported (reg : Registry) (answers : List LayerAnswer) :
    (reported reg (answers.map (·.taken))).1.failed =
      (answers.filter (!·.2.isOk)).map (·.1.name) := by
  have hnone : ∀ x : LayerAnswer, x.taken.2.isNone = !x.2.isOk := by
    rintro ⟨l, e | t⟩ <;> rfl
  simp only [reported, List.filter_map, List.map_map, Function.comp_def, hnone]
  rfl

/-- If layers have different names, none is in both lists of a report. -/
theorem disjoint_reported (reg : Registry) (hmap : answers.map (·.1) = ls.filter (·.isMutable))
    (hnames : (ls.map (·.name)).Nodup) :
    (reported reg (answers.map (·.taken))).1.refreshed.Disjoint
      (reported reg (answers.map (·.taken))).1.failed := by
  have hnodup : (answers.map (·.1.name)).Nodup := by
    have heq : answers.map (·.1.name) = (ls.filter (·.isMutable)).map (·.name) := by
      rw [← hmap, List.map_map]
      rfl
    rw [heq]
    exact hnames.sublist (List.filter_sublist.map _)
  rw [refreshed_reported, failed_reported]
  intro name hok herror
  obtain ⟨x, hx, rfl⟩ := List.mem_map.1 hok
  obtain ⟨y, hy, heq⟩ := List.mem_map.1 herror
  obtain ⟨hx, hxok⟩ := List.mem_filter.1 hx
  obtain ⟨hy, hyerror⟩ := List.mem_filter.1 hy
  obtain rfl : y = x := List.inj_on_of_nodup_map hnodup hy hx heq
  rw [hxok] at hyerror
  cases hyerror

section Asked

variable (hmap : answers.map (·.1) = ls.filter (·.isMutable)) (hseqs : (ls.map (·.seq)).Nodup)

include hmap in
theorem mem_of_mem_answers {x : LayerAnswer} (hx : x ∈ answers) : x.1 ∈ ls :=
  (List.mem_filter.1 (hmap ▸ List.mem_map_of_mem hx)).1

include hmap hseqs

/-- What a source has answered is recorded of its layer. -/
theorem updated_of_ok {t : Snapshot} (h : (l, .ok t) ∈ answers) :
    updated (answers.map (·.taken)) l = { l with recorded := t } := by
  have hmap' : (answers.map (·.taken)).map (·.1) = ls.filter (·.isMutable) := by
    rw [List.map_map]
    exact hmap
  have hmem : (l, some t) ∈ answers.map (·.taken) := List.mem_map.2 ⟨_, h, rfl⟩
  obtain ⟨t', ht'⟩ := exists_updated (answers.map (·.taken)) l
  have hrecorded := recorded_updated hmem (nodup_seq_taken hmap' hseqs)
  rw [ht'] at hrecorded ⊢
  rw [← hrecorded]

/-- A layer whose source was not asked or has failed stays as it is. -/
theorem updated_of_not_ok (hl : l ∈ ls) (h : ∀ t, (l, .ok t) ∉ answers) :
    updated (answers.map (·.taken)) l = l := by
  refine updated_of_forall fun y hy hseq => ?_
  obtain ⟨⟨l', a⟩, hx, rfl⟩ := List.mem_map.1 hy
  obtain rfl : l' = l := List.inj_on_of_nodup_map hseqs (mem_of_mem_answers hmap hx) hl hseq
  cases a with
  | error e => rfl
  | ok t => exact absurd hx (h t)

/-- Each layer has what its source has answered, or is as it was. -/
theorem forall₂_recordAll :
    List.Forall₂ (fun l l' => (∃ t, (l, .ok t) ∈ answers ∧ l' = { l with recorded := t }) ∨
      (∀ t, (l, .ok t) ∉ answers) ∧ l' = l) ls (recordAll (answers.map (·.taken)) ls) := by
  rw [recordAll_eq_map, List.forall₂_map_right_iff, List.forall₂_same]
  intro l hl
  by_cases hok : ∃ t, (l, .ok t) ∈ answers
  · obtain ⟨t, ht⟩ := hok
    exact .inl ⟨t, ht, updated_of_ok hmap hseqs ht⟩
  · have hnot : ∀ t, (l, .ok t) ∉ answers := fun t ht => hok ⟨t, ht⟩
    exact .inr ⟨hnot, updated_of_not_ok hmap hseqs hl hnot⟩

/-- The layers are the same as if each source that failed had answered what is recorded of it. -/
theorem recordAll_mended :
    recordAll (answers.map fun x => x.mend.taken) ls = recordAll (answers.map (·.taken)) ls := by
  have hmap' : (answers.map (·.mend)).map (·.1) = ls.filter (·.isMutable) := by
    rw [List.map_map]
    exact hmap
  have heq : (answers.map fun x => x.mend.taken) = (answers.map (·.mend)).map (·.taken) := by
    rw [List.map_map]
    rfl
  rw [heq, recordAll_eq_map, recordAll_eq_map]
  refine List.map_congr_left fun l hl => ?_
  by_cases hok : ∃ t, (l, .ok t) ∈ answers
  · obtain ⟨t, ht⟩ := hok
    have hmended : (l, .ok t) ∈ answers.map (·.mend) := List.mem_map.2 ⟨_, ht, rfl⟩
    rw [updated_of_ok hmap hseqs ht, updated_of_ok hmap' hseqs hmended]
  · have hnot : ∀ t, (l, .ok t) ∉ answers := fun t ht => hok ⟨t, ht⟩
    rw [updated_of_not_ok hmap hseqs hl hnot]
    by_cases herror : ∃ e, (l, .error e) ∈ answers
    · obtain ⟨e, he⟩ := herror
      have hmended : (l, .ok l.recorded) ∈ answers.map (·.mend) := List.mem_map.2 ⟨_, he, rfl⟩
      rw [updated_of_ok hmap' hseqs hmended]
    · refine updated_of_not_ok hmap' hseqs hl fun t ht => ?_
      obtain ⟨⟨l', a⟩, hx, heq⟩ := List.mem_map.1 ht
      obtain rfl := (Prod.mk.inj heq).1
      cases a with
      | error e => exact herror ⟨e, hx⟩
      | ok t' => exact hnot t' hx

/-- The report is the same as if each source that failed had answered what is recorded of it, but
for the lists of sources. -/
theorem reported_mended {reg : Registry} (hls : reg.layers = ls) :
    reported reg (answers.map fun x => x.mend.taken) =
      ({ (reported reg (answers.map (·.taken))).1 with
          refreshed := (ls.filter (·.isMutable)).map (·.name)
          failed := [] },
        (reported reg (answers.map (·.taken))).2) := by
  have hrefreshed : ((answers.map fun x => x.mend.taken).filter (·.2.isSome)).map (·.1.name) =
      (ls.filter (·.isMutable)).map (·.name) := by
    rw [← hmap]
    simp [List.filter_map, LayerAnswer.taken, LayerAnswer.mend, Except.toOption, Function.comp_def]
  have hfailed : ((answers.map fun x => x.mend.taken).filter (·.2.isNone)).map (·.1.name) = [] := by
    simp [List.filter_map, LayerAnswer.taken, LayerAnswer.mend, Except.toOption, Function.comp_def]
  simp only [reported, keysTaken_mended, hls, recordAll_mended hmap hseqs, hrefreshed, hfailed]

end Asked

end RegistryId

/-- A refresh gives back its report once listeners have been called. -/
theorem Session.run_refresh {s s₁ : Session} {r : RegistryId} {report : RefreshReport}
    {changes : List Change} (h : s.run r.renewal = some ((report, changes), s₁)) :
    s.run r.refresh = (s₁.run (r.notify changes)).map fun x => (report, x.2) := by
  rw [refresh_eq, run_bind, h, Option.bind_some, run_bind]
  rcases s₁.run (r.notify changes) with _ | ⟨u, s₂⟩ <;> rfl

/-- A refresh that comes to an end has found the registry free and has had answers. -/
theorem Session.exists_asks_of_refresh {s s' : Session} {r : RegistryId} {reg : Registry}
    {report : RefreshReport} (hreg : s.registries[r]? = some reg)
    (h : s.run r.refresh = some (report, s')) : reg.isLocked = false ∧
      ∃ answers s₀, (s.setRegistry r (busy reg)).Asks reg.layers answers s₀ := by
  rw [refresh_eq, run_bind, Option.bind_eq_some_iff] at h
  obtain ⟨⟨x, s₁⟩, hrenewal, -⟩ := h
  obtain ⟨hfree, taken, s₀, _, htaken, -⟩ := (ends_renewal hreg fun taken s₁ h =>
    layers_of_takeSnapshots hreg h).1 (ends_iff_run.2 hrenewal)
  obtain ⟨answers, hasks, -⟩ := run_takeSnapshots.1 (ends_iff_run.1 htaken)
  exact ⟨hfree, answers, s₀, hasks⟩

/-- Once the sources have answered, whatever they have answered, a refresh records what it got, and
evicts what is not confirmed. -/
theorem Session.run_renewal_of_asks {s s₀ : Session} {r : RegistryId} {reg : Registry}
    {answers : List LayerAnswer} (hreg : s.registries[r]? = some reg) (hfree : reg.isLocked = false)
    (hasks : (s.setRegistry r (busy reg)).Asks reg.layers answers s₀) :
    ∃ reg₀, s₀.registries[r]? = some reg₀ ∧ reg₀.layers = reg.layers ∧
      s.run r.renewal = some (reported reg₀ (answers.map (·.taken)),
        s₀.setRegistry r (returned reg₀ (answers.map (·.taken)))) := by
  have htaken : Ends (ScriptRuns maxDepth) (takeSnapshots reg.layers) (s.setRegistry r (busy reg))
      (answers.map (·.taken)) s₀ := ends_iff_run.2 (run_takeSnapshots.2 ⟨answers, hasks, rfl⟩)
  -- the layers are those that were read under the lock, whatever sources have done in the meantime
  obtain ⟨reg₀, hreg₀, hlayers⟩ := layers_of_takeSnapshots hreg htaken
  refine ⟨reg₀, hreg₀, hlayers, ends_iff_run.1 ?_⟩
  exact (ends_renewal hreg fun taken s₁ h => layers_of_takeSnapshots hreg h).2
    ⟨hfree, _, s₀, reg₀, htaken, hreg₀, rfl, rfl⟩

/-- A refresh whatever sources fail. The report names the mutable layers whose sources gave a
snapshot and those whose sources failed, in the order of the layers and none in both lists; each
failure is observed once, in that order; each snapshot is recorded of its own layer, and all other
layers stay as they are. Moreover, let the registry of a session have the same layers, and let there
each source that failed answer what is recorded of it, with the same cache in the end. Then a
refresh records the same, leaves the same cache, finds the same changes and reports the same, but
for the two lists of names. -/
theorem refresh_of_asks {s s₀ : Session} {r : RegistryId} {reg : Registry}
    {answers : List LayerAnswer} (hreg : s.registries[r]? = some reg) (hnumbered : reg.IsNumbered)
    (hfree : reg.isLocked = false)
    (hasks : (s.setRegistry r (busy reg)).Asks reg.layers answers s₀) :
    ∃ reg₀ report changes reg₁, s₀.registries[r]? = some reg₀ ∧
      s.run r.renewal = some ((report, changes), s₀.setRegistry r reg₁) ∧
      s.run r.refresh =
        ((s₀.setRegistry r reg₁).run (r.notify changes)).map (fun x => (report, x.2)) ∧
      answers.map (·.1) = reg.layers.filter (·.isMutable) ∧
      report.refreshed = (answers.filter (·.2.isOk)).map (·.1.name) ∧
      report.failed = (answers.filter (!·.2.isOk)).map (·.1.name) ∧
      report.refreshed.Disjoint report.failed ∧
      List.Forall₂ (fun l l' => (∃ t, (l, .ok t) ∈ answers ∧ l' = { l with recorded := t }) ∨
        (∀ t, (l, .ok t) ∉ answers) ∧ l' = l) reg.layers reg₁.layers ∧
      ((∀ l ∈ reg.layers, l.isMutable = true → s.IsMute l.source) →
        answers = (reg.layers.filter (·.isMutable)).map
          (fun l => (l, (s.snapshot l.source).1.1)) ∧
        s₀.events = (answers.filterMap (·.failure?)).reverse ++ s.events ∧
        reg₀.cache = reg.cache) ∧
      ∀ (s₂ s₃ : Session) (reg₂ reg₃ : Registry), s₂.registries[r]? = some reg₂ →
        reg₂.isLocked = false → reg₂.layers = reg.layers →
        (s₂.setRegistry r (busy reg₂)).Asks reg.layers (answers.map (·.mend)) s₃ →
        s₃.registries[r]? = some reg₃ → reg₃.cache = reg₀.cache →
        ∃ reg₄, s₂.run r.renewal = some (({ report with
            refreshed := (reg.layers.filter (·.isMutable)).map (·.name)
            failed := [] }, changes), s₃.setRegistry r reg₄) ∧
          reg₄.layers = reg₁.layers ∧ reg₄.cache = reg₁.cache := by
  have hmap := hasks.map_fst
  obtain ⟨reg₀, hreg₀, hlayers, hrenewal⟩ := run_renewal_of_asks hreg hfree hasks
  obtain ⟨report, changes, hreport⟩ : ∃ report changes,
      reported reg₀ (answers.map (·.taken)) = (report, changes) := ⟨_, _, rfl⟩
  have hreported : report = (reported reg₀ (answers.map (·.taken))).1 := by rw [hreport]
  rw [hreport] at hrenewal
  refine ⟨reg₀, report, changes, returned reg₀ (answers.map (·.taken)), hreg₀, hrenewal,
    run_refresh hrenewal, hmap, ?_, ?_, ?_, ?_, ?_, ?_⟩
  · rw [hreported, refreshed_reported]
  · rw [hreported, failed_reported]
  · rw [hreported]
    exact disjoint_reported reg₀ hmap hnumbered.names
  · rw [returned, hlayers]
    exact forall₂_recordAll hmap hnumbered.seqs
  · intro hmute
    obtain ⟨hanswers, hregs, hevents⟩ := hasks.of_mute fun l hl hmutable => by
      rw [IsMute, snapshot_setRegistry]
      exact hmute l hl hmutable
    simp only [snapshot_setRegistry] at hanswers
    refine ⟨hanswers, hevents, ?_⟩
    rw [hregs, registries_setRegistry hreg] at hreg₀
    cases hreg₀
    rfl
  · intro s₂ s₃ reg₂ reg₃ hreg₂ hfree₂ hsame hasks₂ hreg₃ hcache
    rw [← hsame] at hasks₂
    obtain ⟨_, hreg', hlayers₃, hrenewal₂⟩ := run_renewal_of_asks hreg₂ hfree₂ hasks₂
    cases hreg₃.symm.trans hreg'
    have hlayers₃ : reg₃.layers = reg.layers := hlayers₃.trans hsame
    have htaken : (answers.map (·.mend)).map (·.taken) = answers.map fun x => x.mend.taken := by
      rw [List.map_map]
      rfl
    have hreport₃ : reported reg₃ (answers.map (·.taken)) = (report, changes) := by
      rw [← hreport]
      simp only [reported, hlayers, hlayers₃, hcache]
    rw [htaken, reported_mended hmap hnumbered.seqs hlayers₃, hreport₃] at hrenewal₂
    refine ⟨_, hrenewal₂, ?_, ?_⟩
    · simp only [returned, hlayers, hlayers₃, recordAll_mended hmap hnumbered.seqs]
    · simp only [returned, hlayers, hlayers₃, hcache, recordAll_mended hmap hnumbered.seqs]

/-- A source that fails or answers what is recorded of it, a map that has changed, and a map that is
not to change, with a key of each of the latter two in the cache. -/
def outageSession (isDown : Bool) : Session where
  sources := [
    .scripted { id := "a", name := "a", values := .ofList [("k", "1")], snapshotFails := isDown },
    .builtin (.map { name := "b", isMutable := true, values := .ofList [("k", "2"), ("n", "3")] }),
    .builtin (.map { name := "c", isMutable := false, values := .ofList [("n", "4")] })]
  registries := [{
    layers := [
      ⟨0, "a", true, 0, 0, .ofList [("k", "1")]⟩,
      ⟨1, "b", true, 0, 1, .ofList [("k", "5")]⟩,
      ⟨2, "c", false, 0, 2, .ofList [("n", "4")]⟩]
    cache := { entries := .ofList [("k", ⟨some ⟨"1", "a"⟩, 1⟩), ("n", ⟨some ⟨"4", "c"⟩, 2⟩)],
               nextGeneration := 3 }
    nextSeq := 3 }]

/-- The source fails, and the refresh does the same with the others as if it had answered. -/
theorem refresh_of_asks_of_outage : ∃ reg answers s₀ s₁ changes reg₁ s₂ reg₂,
    (outageSession true).registries[0]? = some reg ∧ reg.IsNumbered ∧ reg.isLocked = false ∧
    ((outageSession true).setRegistry 0 (busy reg)).Asks reg.layers answers s₀ ∧
    (outageSession true).run (RegistryId.renewal 0) =
      some ((⟨["n"], ["n"], ["b"], ["a"]⟩, changes), s₁) ∧
    s₁.registries[0]? = some reg₁ ∧
    s₁.events = [.observed (.refresh "a") (.unavailable "a" (.stated "scripted"))] ∧
    (outageSession false).run (RegistryId.renewal 0) =
      some ((⟨["n"], ["n"], ["a", "b"], []⟩, changes), s₂) ∧
    s₂.registries[0]? = some reg₂ ∧ s₂.events = [] ∧
    reg₂.layers = reg₁.layers ∧ reg₂.cache = reg₁.cache := by
  let reg : Registry := ((outageSession true).registries[0]?).getD {}
  have hreg : ∀ isDown, (outageSession isDown).registries[0]? = some reg := fun _ => rfl
  have hnumbered : reg.IsNumbered := ⟨by decide, by decide, by decide⟩
  have hmute : ∀ isDown, ∀ l ∈ reg.layers, l.isMutable = true →
      (outageSession isDown).IsMute l.source := by
    intro isDown l hl
    rcases List.mem_cons.1 hl with rfl | hl
    · exact fun _ => rfl
    rcases List.mem_cons.1 hl with rfl | hl
    · exact fun _ => rfl
    rcases List.mem_singleton.1 hl with rfl
    nofun
  have hasks : ∀ isDown, ∃ answers s₀,
      ((outageSession isDown).setRegistry 0 (busy reg)).Asks reg.layers answers s₀ := by
    intro isDown
    have hrun : ((outageSession isDown).run (RegistryId.refresh 0)).isSome = true := by
      revert isDown
      decide +kernel
    obtain ⟨⟨report, s'⟩, hrun⟩ := Option.isSome_iff_exists.1 hrun
    exact (exists_asks_of_refresh (hreg isDown) hrun).2
  have hreported : ((outageSession true).run (RegistryId.renewal 0)).map (·.1.1) =
      some ⟨["n"], ["n"], ["b"], ["a"]⟩ := by
    decide +kernel
  obtain ⟨answers, s₀, hdown⟩ := hasks true
  obtain ⟨answers₂, s₃, hup⟩ := hasks false
  obtain ⟨reg₀, report, changes, reg₁, hreg₀, hrenewal, -, -, -, -, -, -, hquiet, hsame⟩ :=
    refresh_of_asks (hreg true) hnumbered rfl hdown
  obtain ⟨reg₃, -, -, -, hreg₃, -, -, -, -, -, -, -, hquiet₂, -⟩ :=
    refresh_of_asks (hreg false) hnumbered rfl hup
  obtain ⟨rfl, hevents, hcache⟩ := hquiet (hmute true)
  obtain ⟨rfl, hevents₂, hcache₂⟩ := hquiet₂ (hmute false)
  obtain ⟨reg₂, hrenewal₂, hlayers, hcaches⟩ := hsame _ s₃ reg reg₃ (hreg false) rfl rfl hup
    hreg₃ (hcache₂.trans hcache.symm)
  rw [hrenewal, Option.map_some, Option.some.injEq] at hreported
  subst hreported
  exact ⟨reg, _, s₀, _, changes, reg₁, _, reg₂, hreg true, hnumbered, rfl, hdown, hrenewal,
    registries_setRegistry hreg₀ _, hevents, hrenewal₂, registries_setRegistry hreg₃ _, hevents₂,
    hlayers, hcaches⟩

end Strata
