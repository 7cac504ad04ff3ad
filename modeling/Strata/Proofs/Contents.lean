import Mathlib.Tactic.Common
import Strata.Session.Action

/-!
What sources hold, and what asking them does. The contents of a source are the data that its next
lookup reads; a remote source has none before its first fetch. Main statements: contents stay when
any source is looked up (`contents_lookup`), and answer the lookup (`lookup_eq_ok`); a snapshot
that succeeds gives the contents that the source has from then on (`contents_snapshot_ok`), one that
fails leaves them (`contents_snapshot_error`), and other sources keep theirs
(`contents_snapshot_of_ne`).
-/

namespace Strata

/-- The data that the next lookup reads, if there are any. -/
def Source.contents (s : Source) (h : Host) : Option Snapshot :=
  match s with
  | .map m => some m.values
  | .environment e => some e.values
  | .system _ => some h.properties
  | .file f => some f.data
  | .remote r => r.data

/-- The data that the next lookup reads, if there are any. -/
def Provider.contents (p : Provider) (h : Host) : Option Snapshot :=
  match p with
  | .builtin s => s.contents h
  | .scripted s => some s.values

/-- Whether a provider is of one of the five kinds. -/
def Provider.isBuiltin : Provider → Bool
  | .builtin _ => true
  | .scripted _ => false

/-- Whether the data of a provider change only when it is asked. -/
def Provider.isSelfContained : Provider → Bool
  | .builtin (.system _) => false
  | .builtin _ => true
  | .scripted _ => false

/-- What does not change about a provider when it is asked. -/
structure Provider.Nature where
  name : String
  isMutable : Bool
  isBuiltin : Bool
  isSelfContained : Bool

/-- The nature of a provider. -/
def Provider.nature (p : Provider) : Provider.Nature :=
  ⟨p.name, p.isMutable, p.isBuiltin, p.isSelfContained⟩

theorem Provider.isBuiltin_of_isSelfContained {p : Provider} (h : p.isSelfContained) :
    p.isBuiltin := by
  cases p with
  | builtin s => rfl
  | scripted s => simp [isSelfContained] at h

namespace Session

variable {s : Session} {n m : SourceId} {p p' : Provider} {key : String} {t : Snapshot}

/-- The data that the next lookup of a source reads, if there are any. -/
def contents (s : Session) (n : SourceId) : Option Snapshot :=
  match s.sources[n]? with
  | none => some .empty
  | some p => p.contents s.host

theorem contents_of_source (h : s.sources[n]? = some p) : s.contents n = p.contents s.host := by
  simp [contents, h]

theorem setSource_self (h : s.sources[n]? = some p) : s.setSource n p = s := by
  obtain ⟨hlt, rfl⟩ := List.getElem?_eq_some_iff.1 h
  simp [setSource]

theorem sources_setSource_self (h : s.sources[n]? = some p) :
    (s.setSource n p').sources[n]? = some p' := by
  obtain ⟨hlt, -⟩ := List.getElem?_eq_some_iff.1 h
  simp [setSource, hlt]

theorem sources_setSource_of_ne (h : m ≠ n) :
    (s.setSource n p').sources[m]? = s.sources[m]? := by
  simp [setSource, List.getElem?_set_ne h.symm]

theorem map_nature_setSource (h : s.sources[n]? = some p) (hp : p'.nature = p.nature) :
    (s.setSource n p').sources.map Provider.nature = s.sources.map Provider.nature := by
  obtain ⟨hlt, rfl⟩ := List.getElem?_eq_some_iff.1 h
  have hself : (s.sources.map Provider.nature).set n _ = _ := List.set_getElem_self (by simpa)
  rw [List.getElem_map] at hself
  rw [setSource, List.map_set, hp, hself]

end Session

/-! ### Asking sources of the five kinds -/

namespace Source

variable {s : Source} {h : Host} {key : String} {t : Snapshot}

/-- Only the system properties of a host are read as they are. -/
theorem contents_congr {h' : Host} (hprops : h'.properties = h.properties) :
    s.contents h' = s.contents h := by
  cases s <;> simp only [contents, hprops]

/-- A source that has data answers from them, and nothing changes. -/
theorem lookup_of_contents (hc : s.contents h = some t) :
    s.lookup h key = (.ok (t.get? key), s, h) := by
  cases s with
  | remote r =>
    have hr : r.data = some t := hc
    simp [lookup, RemoteSource.known, hr, Except.map]
  | map _ | environment _ | system _ | file _ =>
    cases hc
    rfl

/-- A fetch keeps what it brings, or nothing changes about the source. -/
theorem refetch_cases (r : RemoteSource) (net : Network) :
    (∃ data, (r.refetch net).1 = .ok data ∧ (r.refetch net).2.1 = { r with data := some data }) ∨
      ∃ e, (r.refetch net).1 = .error e ∧ (r.refetch net).2.1 = r := by
  rcases hfetch : r.fetch net with ⟨e | data, net'⟩
  · exact .inr ⟨e, by simp [RemoteSource.refetch, hfetch]⟩
  · exact .inl ⟨data, by simp [RemoteSource.refetch, hfetch]⟩

theorem nature_lookup :
    (Provider.builtin (s.lookup h key).2.1).nature = (Provider.builtin s).nature := by
  cases s with
  | remote r =>
    cases hr : r.data with
    | some data => simp [lookup, RemoteSource.known, hr]
    | none =>
      rcases refetch_cases r h.network with ⟨data, _, hr'⟩ | ⟨e, _, hr'⟩ <;>
        simp [lookup, RemoteSource.known, hr, hr', Provider.nature, Provider.name, name,
          Provider.isMutable, isMutable, Provider.isBuiltin, Provider.isSelfContained]
  | map _ | environment _ | system _ | file _ => rfl

theorem properties_lookup : (s.lookup h key).2.2.properties = h.properties := by
  cases s <;> rfl

theorem lookup_ok {v : Option String} (hok : (s.lookup h key).1 = .ok v) :
    ∃ t, (s.lookup h key).2.1.contents (s.lookup h key).2.2 = some t ∧ v = t.get? key := by
  cases hc : s.contents h with
  | some t =>
    rw [lookup_of_contents hc] at hok ⊢
    cases hok
    exact ⟨t, hc, rfl⟩
  | none =>
    cases s with
    | remote r =>
      have hr : r.data = none := hc
      rcases refetch_cases r h.network with ⟨data, hres, hr'⟩ | ⟨e, hres, hr'⟩ <;>
        simp only [lookup, RemoteSource.known, hr, hres, hr', Except.map, contents] at hok ⊢
      · cases hok
        exact ⟨data, rfl, rfl⟩
      · cases hok
    | map _ | environment _ | system _ | file _ => cases hc

/-- A lookup that fails leaves the source. -/
theorem lookup_error {e : Failure} (herr : (s.lookup h key).1 = .error e) :
    (s.lookup h key).2.1 = s := by
  cases hc : s.contents h with
  | some t => rw [lookup_of_contents hc]
  | none =>
    cases s with
    | remote r =>
      have hr : r.data = none := hc
      rcases refetch_cases r h.network with ⟨data, hres, hr'⟩ | ⟨e, hres, hr'⟩ <;>
        simp only [lookup, RemoteSource.known, hr, hres, hr', Except.map] at herr ⊢
      cases herr
    | map _ | environment _ | system _ | file _ => cases hc

theorem reload_eq {f f' : FileSource} {files : Files} (h : f.reload files = .ok f') :
    f' = { f with data := f'.data } := by
  simp only [FileSource.reload] at h
  cases hl : FileSource.load files f.path f.kind f.isOptional with
  | error e => rw [hl] at h; cases h
  | ok data => rw [hl] at h; cases h; rfl

theorem nature_snapshot :
    (Provider.builtin (s.snapshot h).2.1).nature = (Provider.builtin s).nature := by
  cases s with
  | remote r =>
    rcases refetch_cases r h.network with ⟨data, _, hr'⟩ | ⟨e, _, hr'⟩ <;>
      simp [snapshot, hr', Provider.nature, Provider.name, name, Provider.isMutable, isMutable,
        Provider.isBuiltin, Provider.isSelfContained]
  | file f =>
    simp only [snapshot]
    split
    · split
      · rename_i hreload
        rw [reload_eq hreload]
        rfl
      · rfl
    · rfl
  | map _ | environment _ | system _ => rfl

/-- Files are read without a trace. -/
theorem host_snapshot_file {f : FileSource} : ((Source.file f).snapshot h).2.2 = h := by
  simp only [snapshot]
  split
  · split <;> rfl
  · rfl

theorem properties_snapshot : (s.snapshot h).2.2.properties = h.properties := by
  cases s with
  | file f => rw [host_snapshot_file]
  | map _ | environment _ | system _ | remote _ => rfl

theorem contents_snapshot_ok (hok : (s.snapshot h).1 = .ok t) :
    (s.snapshot h).2.1.contents (s.snapshot h).2.2 = some t := by
  cases s with
  | remote r =>
    rcases refetch_cases r h.network with ⟨data, hres, hr'⟩ | ⟨e, hres, hr'⟩ <;>
      simp only [snapshot, hres, hr', contents] at hok ⊢
    · cases hok
      rfl
    · cases hok
  | file f =>
    by_cases hm : f.isMutable
    · cases hr : f.reload h.files with
      | ok f' => simp_all [snapshot, contents]
      | error e => simp [snapshot, hm, hr] at hok
    · simp_all [snapshot, contents]
  | map _ | environment _ | system _ =>
    cases hok
    rfl

theorem snapshot_error {e : Failure} (herr : (s.snapshot h).1 = .error e) :
    (s.snapshot h).2.1 = s := by
  cases s with
  | remote r =>
    rcases refetch_cases r h.network with ⟨data, hres, hr'⟩ | ⟨e, hres, hr'⟩ <;>
      simp only [snapshot, hres, hr'] at herr ⊢
    cases herr
  | file f =>
    by_cases hm : f.isMutable
    · cases hr : f.reload h.files with
      | ok f' => simp [snapshot, hm, hr] at herr
      | error e => simp [snapshot, hm, hr]
    · simp [snapshot, hm] at herr
  | map _ | environment _ | system _ => rfl

end Source

/-! ### Lookups do not disturb each other -/

/-- A server answers a request as if none had come before. -/
theorem Network.send_send (net : Network) (a a' : Address) (headers headers' : Table String) :
    ((net.send a headers).2.send a' headers').1 = (net.send a' headers').1 := by
  rcases a with ⟨i, path⟩ | url
  · cases hi : net.servers[i]? with
    | none => simp [send, hi]
    | some server =>
      by_cases hup : (!net.isUp || !Request.canCarry headers) = true
      · simp [send, hi, hup]
      · rcases a' with ⟨j, path'⟩ | url'
        · obtain ⟨hlt, hget⟩ := List.getElem?_eq_some_iff.1 hi
          by_cases hij : i = j
          · subst hij
            simp only [send, hi, hup, Bool.false_eq_true, if_false, List.getElem?_set_self hlt]
            split <;> rfl
          · simp only [send, hi, hup, Bool.false_eq_true, if_false, List.getElem?_set_ne hij]
            cases net.servers[j]? with
            | none => rfl
            | some server' => dsimp only; split <;> rfl
        · rfl
  · rfl

/-- Hosts from which lookups get the same answers. -/
structure Host.SameAnswers (h h' : Host) : Prop where
  properties : h'.properties = h.properties
  answer : ∀ a headers, (h'.network.send a headers).1 = (h.network.send a headers).1

namespace Source

variable {s : Source} {h h' : Host} {key key' : String}

theorem fetch_congr (r : RemoteSource) (hh : Host.SameAnswers h h') :
    (r.fetch h'.network).1 = (r.fetch h.network).1 := by
  have ha := hh.answer r.address r.headers
  rcases hs : h.network.send r.address r.headers with ⟨answer, net⟩
  rcases hs' : h'.network.send r.address r.headers with ⟨answer', net'⟩
  rw [hs, hs'] at ha
  obtain rfl : answer' = answer := ha
  simp only [RemoteSource.fetch, hs, hs']
  cases answer' <;> rfl

theorem refetch_congr (r : RemoteSource) (hh : Host.SameAnswers h h') :
    (r.refetch h'.network).1 = (r.refetch h.network).1 := by
  have hf := fetch_congr r hh
  rcases hs : r.fetch h.network with ⟨result, net⟩
  rcases hs' : r.fetch h'.network with ⟨result', net'⟩
  rw [hs, hs'] at hf
  obtain rfl : result' = result := hf
  simp only [RemoteSource.refetch, hs, hs']
  cases result' <;> rfl

theorem lookup_congr (hh : Host.SameAnswers h h') : (s.lookup h' key).1 = (s.lookup h key).1 := by
  cases s with
  | remote r =>
    cases hr : r.data with
    | some data => simp [lookup, RemoteSource.known, hr]
    | none => simp [lookup, RemoteSource.known, hr, refetch_congr r hh]
  | system _ => simp [lookup, hh.properties]
  | map _ | environment _ | file _ => rfl

theorem network_refetch (r : RemoteSource) (net : Network) :
    (r.refetch net).2.2 = (net.send r.address r.headers).2 := by
  simp only [RemoteSource.refetch, RemoteSource.fetch]
  rcases net.send r.address r.headers with ⟨_ | ⟨status, body⟩, net'⟩
  · rfl
  · cases hi : r.interpret status body <;> simp [hi]

theorem sameAnswers_lookup : Host.SameAnswers h (s.lookup h key).2.2 := by
  cases s with
  | remote r =>
    refine ⟨rfl, fun a headers => ?_⟩
    cases hr : r.data with
    | some data => simp [lookup, RemoteSource.known, hr]
    | none => simp [lookup, RemoteSource.known, hr, network_refetch, Network.send_send]
  | map _ | environment _ | system _ | file _ => exact ⟨rfl, fun _ _ => rfl⟩

theorem lookup_lookup_self :
    ((s.lookup h key).2.1.lookup (s.lookup h key).2.2 key').1 = (s.lookup h key').1 := by
  rw [lookup_congr sameAnswers_lookup]
  cases s with
  | remote r =>
    cases hr : r.data with
    | some data => simp [lookup, RemoteSource.known, hr]
    | none =>
      rcases refetch_cases r h.network with ⟨data, hres, hr'⟩ | ⟨e, hres, hr'⟩
      · simp [lookup, RemoteSource.known, hr, hres, hr']
      · simp [lookup, RemoteSource.known, hr, hres, hr']
  | map _ | environment _ | system _ | file _ => rfl

end Source

/-- What a provider answers to a lookup. -/
def Provider.answer (p : Provider) (h : Host) (key : String) : Except Failure (Option String) :=
  match p with
  | .builtin s => (s.lookup h key).1
  | .scripted s => (s.lookup key).1

theorem Provider.answer_congr {p : Provider} {h h' : Host} {key : String}
    (hh : Host.SameAnswers h h') : p.answer h' key = p.answer h key := by
  cases p with
  | builtin s => exact Source.lookup_congr hh
  | scripted s => rfl

/-! ### Asking the sources of a session -/

namespace Session

variable {s : Session} {n m : SourceId} {p : Provider} {key : String} {t : Snapshot}

/-- Sessions that differ in their sources, in the host and in the events at most, and in the
sources only by what asking them may change. -/
structure SameButData (s s' : Session) : Prop where
  eq : s' = { s with sources := s'.sources, host := s'.host, events := s'.events }
  nature : s'.sources.map Provider.nature = s.sources.map Provider.nature
  properties : s'.host.properties = s.host.properties

theorem SameButData.refl (s : Session) : SameButData s s := ⟨rfl, rfl, rfl⟩

theorem SameButData.trans {s s' s'' : Session} (h : SameButData s s') (h' : SameButData s' s'') :
    SameButData s s'' :=
  ⟨by rw [h'.eq, h.eq], h'.nature.trans h.nature, h'.properties.trans h.properties⟩

theorem SameButData.registries {s s' : Session} (h : SameButData s s') :
    s'.registries = s.registries := by
  rw [h.eq]

theorem SameButData.listeners {s s' : Session} (h : SameButData s s') :
    s'.listeners = s.listeners := by
  rw [h.eq]

theorem sameButData_emit (s : Session) (e : Event) : SameButData s (s.emit e) := ⟨rfl, rfl, rfl⟩

theorem sameButData_lookup (s : Session) (n : SourceId) (key : String) :
    SameButData s (s.lookup n key).2 := by
  cases hp : s.sources[n]? with
  | none => simpa [lookup, hp] using SameButData.refl s
  | some p =>
    cases p with
    | builtin p =>
      simp only [lookup, hp]
      exact ⟨rfl, map_nature_setSource hp Source.nature_lookup, Source.properties_lookup⟩
    | scripted p =>
      simp only [lookup, hp]
      exact ⟨rfl, map_nature_setSource hp rfl, rfl⟩

theorem sameButData_snapshot (s : Session) (n : SourceId) :
    SameButData s (s.snapshot n).2 := by
  cases hp : s.sources[n]? with
  | none => simpa [snapshot, hp] using SameButData.refl s
  | some p =>
    cases p with
    | builtin p =>
      simp only [snapshot, hp]
      exact ⟨rfl, map_nature_setSource hp Source.nature_snapshot, Source.properties_snapshot⟩
    | scripted p =>
      simp only [snapshot, hp]
      exact ⟨rfl, map_nature_setSource hp rfl, rfl⟩

/-- A host with the same system properties leaves the contents of a source. -/
theorem contents_eq_of_properties {s' : Session} (hsources : s'.sources[n]? = s.sources[n]?)
    (hprops : s'.host.properties = s.host.properties) : s'.contents n = s.contents n := by
  rw [contents, contents, hsources]
  rcases s.sources[n]? with _ | ⟨p | p⟩
  · rfl
  · exact Source.contents_congr hprops
  · rfl

theorem sources_lookup_of_ne (h : m ≠ n) :
    (s.lookup n key).2.sources[m]? = s.sources[m]? := by
  cases hp : s.sources[n]? with
  | none => simp [lookup, hp]
  | some p => cases p <;> simp [lookup, hp, sources_setSource_of_ne h]

theorem sources_snapshot_of_ne (h : m ≠ n) :
    (s.snapshot n).2.sources[m]? = s.sources[m]? := by
  cases hp : s.sources[n]? with
  | none => simp [snapshot, hp]
  | some p => cases p <;> simp [snapshot, hp, sources_setSource_of_ne h]

/-- Other sources keep their contents when a snapshot is taken. -/
theorem contents_snapshot_of_ne (h : m ≠ n) : (s.snapshot n).2.contents m = s.contents m :=
  contents_eq_of_properties (sources_snapshot_of_ne h) (sameButData_snapshot s n).properties

/-- A source that has data keeps them when any source is looked up. -/
theorem contents_lookup (h : s.contents m = some t) :
    (s.lookup n key).2.contents m = some t := by
  by_cases hne : m = n
  · subst hne
    cases hp : s.sources[m]? with
    | none => simpa [lookup, hp] using h
    | some p =>
      rw [contents_of_source hp] at h
      cases p with
      | builtin p =>
        have hl : p.lookup s.host key = _ := Source.lookup_of_contents h
        simp only [lookup, hp, hl, setSource_self hp]
        rw [contents_of_source hp, h]
      | scripted p =>
        simp only [lookup, hp]
        rw [contents_of_source (sources_setSource_self hp)]
        exact h
  · rw [contents_eq_of_properties (sources_lookup_of_ne hne) (sameButData_lookup s n key).properties,
      h]

theorem lookup_answer (hp : s.sources[n]? = some p) :
    (s.lookup n key).1.1 = p.answer s.host key := by
  cases p <;> simp only [lookup, hp, Provider.answer]

theorem lookup_answer_of_none (hp : s.sources[n]? = none) : (s.lookup n key).1.1 = .ok none := by
  simp only [lookup, hp]

theorem sameAnswers_lookup (s : Session) (n : SourceId) (key : String) :
    Host.SameAnswers s.host (s.lookup n key).2.host := by
  cases hp : s.sources[n]? with
  | none =>
    simp only [lookup, hp]
    exact ⟨rfl, fun _ _ => rfl⟩
  | some p =>
    cases p with
    | builtin p =>
      simp only [lookup, hp]
      exact Source.sameAnswers_lookup
    | scripted p =>
      simp only [lookup, hp]
      exact ⟨rfl, fun _ _ => rfl⟩

theorem exists_source_lookup (hp : s.sources[n]? = some p) (key : String) :
    ∃ p', (s.lookup n key).2.sources[n]? = some p' ∧
      ∀ key', p'.answer (s.lookup n key).2.host key' = p.answer s.host key' := by
  cases p with
  | builtin p =>
    simp only [lookup, hp]
    exact ⟨_, sources_setSource_self hp, fun key' => Source.lookup_lookup_self⟩
  | scripted p =>
    simp only [lookup, hp]
    exact ⟨_, sources_setSource_self hp, fun key' => rfl⟩

/-- A source answers a lookup as if none had come before. -/
theorem lookup_lookup (s : Session) (m n : SourceId) (key key' : String) :
    ((s.lookup n key).2.lookup m key').1.1 = (s.lookup m key').1.1 := by
  cases hq : s.sources[m]? with
  | none =>
    have hq' : (s.lookup n key).2.sources[m]? = none := by
      have hnone := congrArg (·[m]?) (sameButData_lookup s n key).nature
      simp only [List.getElem?_map, hq, Option.map_none, Option.map_eq_none_iff] at hnone
      exact hnone
    rw [lookup_answer_of_none hq, lookup_answer_of_none hq']
  | some q =>
    rw [lookup_answer hq]
    by_cases hmn : m = n
    · subst hmn
      obtain ⟨p', hp', hanswer⟩ := exists_source_lookup hq key
      rw [lookup_answer hp', hanswer]
    · rw [lookup_answer ((sources_lookup_of_ne hmn).trans hq),
        Provider.answer_congr (sameAnswers_lookup s n key)]

/-- A source of the five kinds that has data answers from them, and nothing changes. -/
theorem lookup_of_contents (hb : ∀ p, s.sources[n]? = some p → p.isBuiltin)
    (h : s.contents n = some t) : s.lookup n key = ((.ok (t.get? key), silence), s) := by
  cases hp : s.sources[n]? with
  | none =>
    rw [contents, hp] at h
    cases h
    simp [lookup, hp]
  | some p =>
    cases p with
    | builtin p =>
      rw [contents_of_source hp] at h
      have hl : p.lookup s.host key = _ := Source.lookup_of_contents h
      simp only [lookup, hp, hl, setSource_self hp]
    | scripted p => exact absurd (hb _ hp) (by simp [Provider.isBuiltin])

/-- A lookup that succeeds answers from the contents of the source. -/
theorem lookup_eq_ok {v : Option String} (hok : (s.lookup n key).1.1 = .ok v) :
    ∃ t, (s.lookup n key).2.contents n = some t ∧ v = t.get? key := by
  cases hp : s.sources[n]? with
  | none =>
    simp only [lookup, hp] at hok ⊢
    cases hok
    exact ⟨.empty, by simp [contents, hp], rfl⟩
  | some p =>
    cases p with
    | builtin p =>
      simp only [lookup, hp] at hok ⊢
      obtain ⟨t, ht, rfl⟩ := Source.lookup_ok hok
      refine ⟨t, ?_, rfl⟩
      refine (contents_of_source (p := .builtin (p.lookup s.host key).2.1) ?_).trans ht
      exact sources_setSource_self hp
    | scripted p =>
      simp only [lookup, hp, ScriptedSource.lookup] at hok ⊢
      split at hok
      · cases hok
      · cases hok
        exact ⟨p.values, contents_of_source (sources_setSource_self hp), rfl⟩

/-- A snapshot that succeeds gives the contents that the source has from then on. -/
theorem contents_snapshot_ok (hok : (s.snapshot n).1.1 = .ok t) :
    (s.snapshot n).2.contents n = some t := by
  cases hp : s.sources[n]? with
  | none =>
    simp only [snapshot, hp] at hok ⊢
    cases hok
    simp [contents, hp]
  | some p =>
    cases p with
    | builtin p =>
      simp only [snapshot, hp] at hok ⊢
      refine (contents_of_source (p := .builtin (p.snapshot s.host).2.1) ?_).trans
        (Source.contents_snapshot_ok hok)
      exact sources_setSource_self hp
    | scripted p =>
      simp only [snapshot, hp, ScriptedSource.snapshot] at hok ⊢
      split at hok
      · cases hok
      · cases hok
        exact contents_of_source (sources_setSource_self hp)

/-- A snapshot that fails leaves the contents of the source. -/
theorem contents_snapshot_error {e : Failure} (herr : (s.snapshot n).1.1 = .error e) :
    (s.snapshot n).2.contents n = s.contents n := by
  cases hp : s.sources[n]? with
  | none => simp [snapshot, hp] at herr
  | some p =>
    cases p with
    | builtin p =>
      refine contents_eq_of_properties ?_ (sameButData_snapshot s n).properties
      simp only [snapshot, hp] at herr ⊢
      rw [Source.snapshot_error herr]
      exact sources_setSource_self hp
    | scripted p =>
      simp only [snapshot, hp]
      rw [contents_of_source (sources_setSource_self hp), contents_of_source hp]
      rfl

/-! ### Sources of the five kinds only -/

/-- All sources are of the five kinds. -/
def IsPlain (s : Session) : Prop := ∀ p ∈ s.sources, p.isBuiltin = true

theorem SameButData.exists_nature {s' : Session} (h : SameButData s s')
    (hp : s'.sources[n]? = some p) : ∃ q, s.sources[n]? = some q ∧ q.nature = p.nature := by
  have hn : (s.sources.map Provider.nature)[n]? = some p.nature := by
    rw [← h.nature, List.getElem?_map, hp, Option.map_some]
  rw [List.getElem?_map, Option.map_eq_some_iff] at hn
  exact hn

theorem SameButData.exists_source {s' : Session} (h : SameButData s s')
    (hp : s.sources[n]? = some p) : ∃ q, s'.sources[n]? = some q ∧ q.nature = p.nature := by
  have hn : (s'.sources.map Provider.nature)[n]? = some p.nature := by
    rw [h.nature, List.getElem?_map, hp, Option.map_some]
  rw [List.getElem?_map, Option.map_eq_some_iff] at hn
  exact hn

theorem SameButData.isPlain {s' : Session} (h : SameButData s s') (hs : s.IsPlain) :
    s'.IsPlain := by
  intro p hp
  obtain ⟨n, hn⟩ := List.getElem?_of_mem hp
  obtain ⟨q, hq, hqp⟩ := h.exists_nature hn
  have hb := hs q (List.mem_of_getElem? hq)
  exact (congrArg Provider.Nature.isBuiltin hqp).symm.trans hb

theorem IsPlain.isBuiltin (hs : s.IsPlain) (p : Provider) (hp : s.sources[n]? = some p) :
    p.isBuiltin = true :=
  hs p (List.mem_of_getElem? hp)

/-- The sources of the five kinds bring no scripts. -/
theorem IsPlain.lookup_script (hs : s.IsPlain) : (s.lookup n key).1.2 = silence := by
  cases hp : s.sources[n]? with
  | none => simp [lookup, hp]
  | some p =>
    cases p with
    | builtin p => simp [lookup, hp]
    | scripted p => exact absurd (hs.isBuiltin _ hp) (by simp [Provider.isBuiltin])

theorem IsPlain.snapshot_script (hs : s.IsPlain) : (s.snapshot n).1.2 = silence := by
  cases hp : s.sources[n]? with
  | none => simp [snapshot, hp]
  | some p =>
    cases p with
    | builtin p => simp [snapshot, hp]
    | scripted p => exact absurd (hs.isBuiltin _ hp) (by simp [Provider.isBuiltin])

end Session

end Strata
