import Strata.Proofs.Changing

/-!
Snapshots that are taken again. A source answers a snapshot as if none had been taken before, of it
or of any other source (`snapshot_snapshot`); so after the snapshots of a refresh every source that
gave one still has what it gave, even if it stands behind several layers
(`contents_of_mem_taken`).
-/

namespace Strata

/-! ### Sources and hosts -/

namespace Source

variable {s : Source} {h h' : Host}

theorem files_snapshot : (s.snapshot h).2.2.files = h.files := by
  cases s with
  | file f => rw [host_snapshot_file]
  | map _ | environment _ | system _ | remote _ => rfl

theorem sameAnswers_snapshot : Host.SameAnswers h (s.snapshot h).2.2 := by
  refine ⟨properties_snapshot, fun a headers => ?_⟩
  cases s with
  | file f => rw [host_snapshot_file]
  | remote r => simp only [snapshot, network_refetch, Network.send_send]
  | map _ | environment _ | system _ => rfl

/-- A snapshot depends on the files, on the properties and on what servers answer. -/
theorem snapshot_congr (hh : Host.SameAnswers h h') (hfiles : h'.files = h.files) :
    (s.snapshot h').1 = (s.snapshot h).1 := by
  cases s with
  | remote r => simp only [snapshot, refetch_congr r hh]
  | file f =>
    simp only [snapshot, hfiles]
    split
    · split <;> rfl
    · rfl
  | system _ => simp only [snapshot, hh.properties]
  | map _ | environment _ => rfl

theorem snapshot_snapshot_self :
    ((s.snapshot h).2.1.snapshot (s.snapshot h).2.2).1 = (s.snapshot h).1 := by
  rw [snapshot_congr sameAnswers_snapshot files_snapshot]
  cases s with
  | remote r =>
    rcases refetch_cases r h.network with ⟨data, hres, hr⟩ | ⟨e, hres, hr⟩
    · have hagain : (({ r with data := some data } : RemoteSource).refetch h.network).1 =
          (r.refetch h.network).1 := by
        have hfetch : ({ r with data := some data } : RemoteSource).fetch h.network =
            r.fetch h.network := rfl
        simp only [RemoteSource.refetch, hfetch]
        split <;> rfl
      simp only [snapshot, hr, hagain]
    · simp only [snapshot, hr]
  | file f =>
    by_cases hm : f.isMutable
    · cases hr : f.reload h.files with
      | error e => simp only [snapshot, hm, hr, if_true]
      | ok f' =>
        have hagain : f'.reload h.files = .ok f' := by
          rw [FileSource.reload] at hr ⊢
          cases hl : FileSource.load h.files f.path f.kind f.isOptional with
          | error e => rw [hl] at hr; cases hr
          | ok data =>
            rw [hl] at hr
            cases hr
            rw [hl]
            rfl
        have hm' : f'.isMutable = true := by rw [reload_eq hr]; exact hm
        simp only [snapshot, hm, hr, hm', hagain, if_true]
    · simp [snapshot, hm]
  | map _ | environment _ | system _ => rfl

end Source

/-- A hook without commands never brings any. -/
theorem ScriptedSource.commands_snapshot (p : ScriptedSource Command)
    (h : p.snapshot.2.1 = []) : p.snapshot.2.2.snapshot.2.1 = [] := by
  have hfire : p.onSnapshot.fire.1 = [] := h
  show p.onSnapshot.fire.2.fire.1 = []
  rw [Hook.fire] at hfire ⊢
  cases hr : p.onSnapshot.remaining with
  | zero => simp [Hook.fire, hr]
  | succ k =>
    rw [hr] at hfire
    cases k <;> simp_all [Hook.fire]

/-! ### The sources of a session -/

namespace Session

variable {s s' : Session} {n : SourceId}

/-- A snapshot of any source leaves alone what snapshots depend on. -/
theorem host_snapshot (s : Session) (n : SourceId) :
    Host.SameAnswers s.host (s.snapshot n).2.host ∧ (s.snapshot n).2.host.files = s.host.files := by
  cases hp : s.sources[n]? with
  | none =>
    have hself : (s.snapshot n).2 = s := by simp only [snapshot, hp]
    rw [hself]
    exact ⟨⟨rfl, fun _ _ => rfl⟩, rfl⟩
  | some p =>
    cases p with
    | builtin p =>
      simp only [snapshot, hp]
      exact ⟨Source.sameAnswers_snapshot, Source.files_snapshot⟩
    | scripted p =>
      simp only [snapshot, hp]
      exact ⟨⟨rfl, fun _ _ => rfl⟩, rfl⟩

theorem snapshot_answer {p : Source} (hp : s.sources[n]? = some (.builtin p)) :
    (s.snapshot n).1.1 = (p.snapshot s.host).1 := by
  simp only [snapshot, hp]

theorem snapshot_answer_of_none (hp : s.sources[n]? = none) : (s.snapshot n).1.1 = .ok .empty := by
  simp only [snapshot, hp]

theorem snapshot_of_scripted {p : ScriptedSource Command}
    (hp : s.sources[n]? = some (.scripted p)) :
    s.snapshot n = ((p.snapshot.1, ⟨p.id ++ ":snapshot", p.snapshot.2.1⟩),
      s.setSource n (.scripted p.snapshot.2.2)) := by
  simp only [snapshot, hp]
  rfl

/-- A source gives a snapshot as if none had been taken before. -/
theorem snapshot_snapshot (s : Session) (m n : SourceId) :
    ((s.snapshot m).2.snapshot n).1.1 = (s.snapshot n).1.1 := by
  cases hp : s.sources[n]? with
  | none =>
    have hp' : (s.snapshot m).2.sources[n]? = none := by
      have hnone := congrArg (·[n]?) (sameButData_snapshot s m).nature
      simp only [List.getElem?_map, hp, Option.map_none, Option.map_eq_none_iff] at hnone
      exact hnone
    rw [snapshot_answer_of_none hp, snapshot_answer_of_none hp']
  | some p =>
    by_cases hnm : n = m
    · subst hnm
      cases p with
      | scripted p =>
        have hp' : (s.snapshot n).2.sources[n]? = some (.scripted p.snapshot.2.2) := by
          rw [snapshot_of_scripted hp]
          exact sources_setSource_self hp
        rw [snapshot_of_scripted hp, snapshot_of_scripted (snapshot_of_scripted hp ▸ hp')]
        rfl
      | builtin p =>
        have hp' : (s.snapshot n).2.sources[n]? = some (.builtin (p.snapshot s.host).2.1) := by
          simp only [snapshot, hp]
          exact sources_setSource_self hp
        have hhost : (s.snapshot n).2.host = (p.snapshot s.host).2.2 := by
          simp only [snapshot, hp]
        rw [snapshot_answer hp, snapshot_answer hp', hhost, Source.snapshot_snapshot_self]
    · have hp' := (sources_snapshot_of_ne hnm).trans hp
      cases p with
      | scripted p => rw [snapshot_of_scripted hp, snapshot_of_scripted hp']
      | builtin p =>
        obtain ⟨hanswers, hfiles⟩ := host_snapshot s m
        rw [snapshot_answer hp, snapshot_answer hp', Source.snapshot_congr hanswers hfiles]

/-- What a snapshot gives depends on the sources and the host alone. -/
theorem snapshot_congr (hsources : s'.sources = s.sources) (hhost : s'.host = s.host)
    (n : SourceId) : (s'.snapshot n).1 = (s.snapshot n).1 := by
  rcases hp : s.sources[n]? with _ | ⟨p | p⟩ <;> simp only [snapshot, hsources, hhost, hp]

theorem snapshot_emit (s : Session) (e : Event) (n : SourceId) :
    ((s.emit e).snapshot n).1 = (s.snapshot n).1 := by
  have hsources : (s.emit e).sources = s.sources := rfl
  have hhost : (s.emit e).host = s.host := rfl
  exact snapshot_congr hsources hhost n

theorem snapshot_setRegistry (s : Session) (r : RegistryId) (reg : Registry) (n : SourceId) :
    ((s.setRegistry r reg).snapshot n).1 = (s.snapshot n).1 := by
  have hsources : (s.setRegistry r reg).sources = s.sources := rfl
  have hhost : (s.setRegistry r reg).host = s.host := rfl
  exact snapshot_congr hsources hhost n

theorem events_snapshot (s : Session) (n : SourceId) : (s.snapshot n).2.events = s.events := by
  rcases hp : s.sources[n]? with _ | ⟨p | p⟩ <;> simp only [snapshot, hp, setSource]

theorem commands_of_not_scripted (hp : ∀ p, s.sources[n]? ≠ some (.scripted p)) :
    (s.snapshot n).1.2.commands = [] := by
  rcases hs : s.sources[n]? with _ | ⟨p | p⟩
  · simp only [snapshot, hs]
    rfl
  · simp only [snapshot, hs]
    rfl
  · exact absurd hs (hp p)

/-- A source whose snapshot brings no commands brings none after any snapshot. -/
theorem commands_snapshot (h : (s.snapshot n).1.2.commands = []) (m : SourceId) :
    ((s.snapshot m).2.snapshot n).1.2.commands = [] := by
  by_cases hscripted : ∃ p, (s.snapshot m).2.sources[n]? = some (.scripted p)
  · obtain ⟨p', hp'⟩ := hscripted
    obtain ⟨q, hq, hnature⟩ := (sameButData_snapshot s m).exists_nature hp'
    cases q with
    | builtin q => cases congrArg Provider.Nature.isBuiltin hnature
    | scripted p =>
      rw [snapshot_of_scripted hq] at h
      by_cases hnm : n = m
      · subst hnm
        have hself : (s.snapshot n).2.sources[n]? = some (.scripted p.snapshot.2.2) := by
          rw [snapshot_of_scripted hq]
          exact sources_setSource_self hq
        rw [snapshot_of_scripted hself]
        exact p.commands_snapshot h
      · rw [snapshot_of_scripted ((sources_snapshot_of_ne hnm).trans hq)]
        exact h
  · exact commands_of_not_scripted fun p hp => hscripted ⟨p, hp⟩

end Session

/-! ### The snapshots of a refresh -/

namespace RegistryId

open Session Strata.Task

variable {S : ScriptRun} {s s' : Session} {n : SourceId}

/-- The next snapshot is what the source of the layer gives, and the sources give afterwards what
they gave before. -/
theorem snapshot_nextSnapshot (hs : s.IsPlain) {l : Layer} {x : Option Snapshot}
    (h : Ends S (nextSnapshot l) s x s') : x = (s.snapshot l.source).1.1.toOption ∧
      ∀ n, (s'.snapshot n).1.1 = (s.snapshot n).1.1 := by
  obtain ⟨a, s₁, hsnap, hnext⟩ := ends_bind.1 h
  obtain ⟨rfl, rfl⟩ := (ends_takeSnapshot hs).1 hsnap
  cases ha : (s.snapshot l.source).1.1 with
  | ok t =>
    rw [ha] at hnext
    obtain ⟨rfl, rfl⟩ := ends_done.1 hnext
    exact ⟨rfl, fun n => snapshot_snapshot s _ n⟩
  | error e =>
    rw [ha] at hnext
    obtain ⟨u, s₂, hobs, hdone⟩ := ends_bind.1 hnext
    cases ends_act.1 hobs
    obtain ⟨rfl, rfl⟩ := ends_done.1 hdone
    exact ⟨rfl, fun n =>
      (congrArg Prod.fst (snapshot_emit _ _ n)).trans (snapshot_snapshot s _ n)⟩

/-- A source that has what it gives keeps it while snapshots are taken. -/
theorem contents_takeSnapshots_of_snapshot {t : Snapshot} : ∀ {ls : List Layer} {s s' : Session}
    {taken : List (Layer × Option Snapshot)}, s.IsPlain → Ends S (takeSnapshots ls) s taken s' →
    (s.snapshot n).1.1 = .ok t → s.contents n = some t → s'.contents n = some t
  | [], s, s', taken, _, h, _, ht => by
    obtain ⟨-, rfl⟩ := ends_done.1 h
    exact ht
  | l :: ls, s, s', taken, hs, h, hsnap, ht => by
    rw [takeSnapshots_cons] at h
    by_cases hl : l.isMutable = true
    · rw [if_pos hl] at h
      obtain ⟨x, s₁, hfirst, hnext⟩ := ends_bind.1 h
      obtain ⟨taken, s₂, hrest, hdone⟩ := ends_bind.1 hnext
      obtain ⟨-, rfl⟩ := ends_done.1 hdone
      have hasked := nextSnapshot_spec hs hfirst
      obtain ⟨hx, hsame⟩ := snapshot_nextSnapshot hs hfirst
      refine contents_takeSnapshots_of_snapshot (hasked.isPlain hs) hrest
        ((hsame n).trans hsnap) ?_
      by_cases hn : n = l.source
      · subst hn
        rw [hsnap] at hx
        rw [hasked.contents_self, hx]
        rfl
      · rw [hasked.contents_of_ne n hn, ht]
    · rw [if_neg hl] at h
      exact contents_takeSnapshots_of_snapshot hs h hsnap ht

/-- After snapshots have been taken every source that gave one has what it gave. -/
theorem contents_of_mem_taken {l : Layer} {t : Snapshot} : ∀ {ls : List Layer} {s s' : Session}
    {taken : List (Layer × Option Snapshot)}, s.IsPlain → Ends S (takeSnapshots ls) s taken s' →
    (l, some t) ∈ taken → s'.contents l.source = some t
  | [], s, s', taken, _, h, hmem => by
    obtain ⟨rfl, -⟩ := ends_done.1 h
    exact absurd hmem List.not_mem_nil
  | l' :: ls, s, s', taken, hs, h, hmem => by
    rw [takeSnapshots_cons] at h
    by_cases hl : l'.isMutable = true
    · rw [if_pos hl] at h
      obtain ⟨x, s₁, hfirst, hnext⟩ := ends_bind.1 h
      obtain ⟨taken, s₂, hrest, hdone⟩ := ends_bind.1 hnext
      obtain ⟨rfl, rfl⟩ := ends_done.1 hdone
      have hasked := nextSnapshot_spec hs hfirst
      obtain ⟨hx, hsame⟩ := snapshot_nextSnapshot hs hfirst
      rcases List.mem_cons.1 hmem with heq | hmem
      · cases heq
        have hsnap : (s.snapshot l.source).1.1 = .ok t := by
          cases ha : (s.snapshot l.source).1.1 with
          | error e => rw [ha] at hx; cases hx
          | ok t' => rw [ha] at hx; cases hx; rfl
        exact contents_takeSnapshots_of_snapshot (hasked.isPlain hs) hrest
          ((hsame _).trans hsnap) (by rw [hasked.contents_self]; rfl)
      · exact contents_of_mem_taken (hasked.isPlain hs) hrest hmem
    · rw [if_neg hl] at h
      exact contents_of_mem_taken hs h hmem

end RegistryId

end Strata
