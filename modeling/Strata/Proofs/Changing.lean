import Strata.Operation.Change
import Strata.Proofs.Caches
import Strata.Proofs.Reading

/-!
Registration and refresh. Each of them changes the registry first and calls listeners then
(`register_eq`, `refresh_eq`). Main statements: what the registry is like between the two, whatever
sources do as they are asked (`ends_registration`, `ends_renewal`), and what the sources are like as
well if they are of the five kinds (`registration_spec`, `renewal_spec`).
-/

namespace Strata

namespace RegistryId

open Session Strata.Task

variable {S : ScriptRun} {s s' : Session} {n : SourceId} {key : String} {r : RegistryId}
  {reg : Registry}

/-! ### The two parts of an operation -/

/-- A registration before listeners are called: a failure, or what has changed. -/
def registration (r : RegistryId) (source : SourceId) (priority : Int) :
    Task (Except Failure (List Change)) := do
  let (name, isMutable) ← act (.describe source)
  ask r .lock
  let old ← ask r .layers
  if old.any (·.name == name) then do
    let e := Failure.duplicateSource name
    act (.observe (.registration name) e)
    ask r .unlock
    return .error e
  else do
    ask r .beginChange
    let changes ← r.insertLayer old source name isMutable priority
    ask r .endChange
    ask r .unlock
    return .ok changes

/-- A refresh before listeners are called: the report, and what has changed. -/
def renewal (r : RegistryId) : Task (RefreshReport × List Change) := do
  ask r .lock
  ask r .beginChange
  let (report, changes) ← r.renew
  ask r .endChange
  ask r .unlock
  return (report, changes)

/-- What a refresh does once it has read the layers. -/
def renewFrom (r : RegistryId) (layers : List Layer) : Task (RefreshReport × List Change) := do
  let taken ← takeSnapshots layers
  let old := View.recorded layers
  let new := View.recorded (recordAll taken layers)
  r.record taken
  let changes := changesBetween (keysTaken taken) old new
  let invalidated ← ask r (.evictStale new)
  return (
    { changed := changes.map (·.1)
      invalidated := invalidated
      refreshed := (taken.filter (·.2.isSome)).map (·.1.name)
      failed := (taken.filter (·.2.isNone)).map (·.1.name) },
    changes)

theorem renew_eq (r : RegistryId) : r.renew = (ask r .layers).bind r.renewFrom := rfl

theorem register_eq (r : RegistryId) (source : SourceId) (priority : Int) :
    r.register source priority = (r.registration source priority).bind fun
      | .error e => .done (.error e)
      | .ok changes => (r.notify changes).bind fun _ => .done (.ok ()) := by
  simp only [register, registration, Program.bind_eq_bind, Program.pure_eq_done,
    Program.bind_assoc]
  congr 1
  funext ⟨name, isMutable⟩
  congr 1
  funext _
  congr 1
  funext old
  split
  · simp only [Program.bind_assoc, Program.done_bind]
  · simp only [Program.bind_assoc, Program.done_bind]

theorem refresh_eq (r : RegistryId) :
    r.refresh = r.renewal.bind fun x => (r.notify x.2).bind fun _ => .done x.1 := by
  simp only [refresh, renewal, Program.bind_eq_bind, Program.pure_eq_done, Program.bind_assoc,
    Program.done_bind]

/-! ### Taking snapshots -/

theorem runs_takeSnapshot (hs : s.IsPlain) {a : Except Failure Snapshot}
    {ms : List Machine.Moment} : Runs S (takeSnapshot n) s ms a s' ↔
      a = (s.snapshot n).1.1 ∧ s' = (s.snapshot n).2 ∧ ms = [⟨0, .act (.snapshot n), s⟩] :=
  runs_silent (.snapshot n) (f := (·.1)) (g := (·.2)) rfl hs.snapshot_script

theorem ends_takeSnapshot (hs : s.IsPlain) {a : Except Failure Snapshot} :
    Ends S (takeSnapshot n) s a s' ↔ a = (s.snapshot n).1.1 ∧ s' = (s.snapshot n).2 := by
  simp [Ends, runs_takeSnapshot hs]

/-- Asks the source of a layer for a snapshot. There is none if the source fails. -/
def nextSnapshot (l : Layer) : Task (Option Snapshot) := do
  match ← takeSnapshot l.source with
  | .ok s => pure (some s)
  | .error e => do
    act (.observe (.refresh l.name) e)
    pure none

theorem takeSnapshots_cons (l : Layer) (ls : List Layer) :
    takeSnapshots (l :: ls) =
      if l.isMutable then (nextSnapshot l).bind fun x =>
        (takeSnapshots ls).bind fun taken => .done ((l, x) :: taken)
      else takeSnapshots ls := by
  rw [takeSnapshots, nextSnapshot]
  simp only [Program.bind_eq_bind, Program.pure_eq_done, Program.bind_assoc]
  congr 2
  funext a
  cases a with
  | ok t => rfl
  | error e => simp only [Program.bind_assoc]

/-- A source that was asked for a snapshot has what it gave, or what it had before if it failed,
and nothing else has changed. -/
structure Asked (n : SourceId) (s : Session) (x : Option Snapshot) (s' : Session) : Prop
    extends SameButData s s' where
  contents_self : s'.contents n = x.or (s.contents n)
  contents_of_ne : ∀ m, m ≠ n → s'.contents m = s.contents m

theorem asked_snapshot_ok {t : Snapshot} (h : (s.snapshot n).1.1 = .ok t) :
    Asked n s (some t) (s.snapshot n).2 :=
  ⟨sameButData_snapshot s n, contents_snapshot_ok h, fun _ => contents_snapshot_of_ne⟩

theorem asked_snapshot_error {e : Failure} (h : (s.snapshot n).1.1 = .error e) (event : Event) :
    Asked n s none ((s.snapshot n).2.emit event) :=
  ⟨(sameButData_snapshot s n).trans (sameButData_emit _ event), contents_snapshot_error h,
    fun _ => contents_snapshot_of_ne⟩

theorem nextSnapshot_spec (hs : s.IsPlain) {l : Layer} {x : Option Snapshot}
    (h : Ends S (nextSnapshot l) s x s') : Asked l.source s x s' := by
  obtain ⟨a, s₁, hsnap, hnext⟩ := ends_bind.1 h
  obtain ⟨rfl, rfl⟩ := (ends_takeSnapshot hs).1 hsnap
  cases ha : (s.snapshot l.source).1.1 with
  | ok t =>
    rw [ha] at hnext
    obtain ⟨rfl, rfl⟩ := ends_done.1 hnext
    exact asked_snapshot_ok ha
  | error e =>
    rw [ha] at hnext
    obtain ⟨u, s₂, hobs, hdone⟩ := ends_bind.1 hnext
    cases ends_act.1 hobs
    obtain ⟨rfl, rfl⟩ := ends_done.1 hdone
    exact asked_snapshot_error ha _

/-- Snapshots are taken of the mutable layers in order. -/
theorem map_takeSnapshots : ∀ {ls : List Layer} {s s' : Session}
    {taken : List (Layer × Option Snapshot)}, Ends S (takeSnapshots ls) s taken s' →
    taken.map (·.1) = ls.filter (·.isMutable)
  | [], s, s', taken, h => by
    obtain ⟨rfl, -⟩ := ends_done.1 h
    rfl
  | l :: ls, s, s', taken, h => by
    rw [takeSnapshots_cons] at h
    by_cases hl : l.isMutable = true
    · rw [if_pos hl] at h
      obtain ⟨x, s₁, -, hnext⟩ := ends_bind.1 h
      obtain ⟨taken, s₂, hrest, hdone⟩ := ends_bind.1 hnext
      obtain ⟨rfl, -⟩ := ends_done.1 hdone
      simp [hl, map_takeSnapshots hrest]
    · rw [if_neg hl] at h
      simp [hl, map_takeSnapshots h]

/-- Taking snapshots changes nothing but data. -/
theorem sameButData_takeSnapshots : ∀ {ls : List Layer} {s s' : Session}
    {taken : List (Layer × Option Snapshot)}, s.IsPlain →
    Ends S (takeSnapshots ls) s taken s' → SameButData s s'
  | [], s, s', taken, _, h => by
    obtain ⟨-, rfl⟩ := ends_done.1 h
    exact .refl s
  | l :: ls, s, s', taken, hs, h => by
    rw [takeSnapshots_cons] at h
    by_cases hl : l.isMutable = true
    · rw [if_pos hl] at h
      obtain ⟨x, s₁, hsnap, hnext⟩ := ends_bind.1 h
      obtain ⟨taken, s₂, hrest, hdone⟩ := ends_bind.1 hnext
      obtain ⟨-, rfl⟩ := ends_done.1 hdone
      have hx := nextSnapshot_spec hs hsnap
      exact hx.toSameButData.trans (sameButData_takeSnapshots (hx.isPlain hs) hrest)
    · rw [if_neg hl] at h
      exact sameButData_takeSnapshots hs h

/-- Sources that are no layer's keep their contents while snapshots are taken. -/
theorem contents_takeSnapshots_of_ne : ∀ {ls : List Layer} {s s' : Session}
    {taken : List (Layer × Option Snapshot)}, s.IsPlain →
    Ends S (takeSnapshots ls) s taken s' → (∀ l ∈ ls, l.isMutable = true → l.source ≠ n) →
    s'.contents n = s.contents n
  | [], s, s', taken, _, h, _ => by
    obtain ⟨rfl, rfl⟩ := ends_done.1 h
    rfl
  | l :: ls, s, s', taken, hs, h, hne => by
    have hne' : ∀ l' ∈ ls, l'.isMutable = true → l'.source ≠ n :=
      fun l' hl' => hne l' (List.mem_cons_of_mem l hl')
    rw [takeSnapshots_cons] at h
    by_cases hl : l.isMutable = true
    · rw [if_pos hl] at h
      obtain ⟨x, s₁, hsnap, hnext⟩ := ends_bind.1 h
      obtain ⟨taken, s₂, hrest, hdone⟩ := ends_bind.1 hnext
      obtain ⟨rfl, rfl⟩ := ends_done.1 hdone
      have hx := nextSnapshot_spec hs hsnap
      rw [contents_takeSnapshots_of_ne (hx.isPlain hs) hrest hne']
      exact hx.contents_of_ne n (hne l List.mem_cons_self hl).symm
    · rw [if_neg hl] at h
      exact contents_takeSnapshots_of_ne hs h hne'

/-- After snapshots have been taken of different sources, each of them has what it gave, or what
it had before if it failed. -/
theorem contents_takeSnapshots : ∀ {ls : List Layer} {s s' : Session}
    {taken : List (Layer × Option Snapshot)}, s.IsPlain → (ls.map (·.source)).Nodup →
    Ends S (takeSnapshots ls) s taken s' →
    ∀ t ∈ taken, s'.contents t.1.source = t.2.or (s.contents t.1.source)
  | [], s, s', taken, _, _, h => by
    obtain ⟨rfl, rfl⟩ := ends_done.1 h
    simp
  | l :: ls, s, s', taken, hs, hnodup, h => by
    obtain ⟨hnot, hrestNodup⟩ := List.nodup_cons.1 hnodup
    rw [takeSnapshots_cons] at h
    by_cases hl : l.isMutable = true
    · rw [if_pos hl] at h
      obtain ⟨x, s₁, hsnap, hnext⟩ := ends_bind.1 h
      obtain ⟨taken, s₂, hrest, hdone⟩ := ends_bind.1 hnext
      obtain ⟨rfl, rfl⟩ := ends_done.1 hdone
      have hx := nextSnapshot_spec hs hsnap
      have hs₁ := hx.isPlain hs
      intro t ht
      rcases List.mem_cons.1 ht with rfl | ht
      · rw [contents_takeSnapshots_of_ne hs₁ hrest, hx.contents_self]
        rintro l' hl' - heq
        exact hnot (List.mem_map.2 ⟨l', hl', heq⟩)
      · rw [contents_takeSnapshots hs₁ hrestNodup hrest t ht, hx.contents_of_ne]
        intro heq
        have hmem : t.1 ∈ ls.filter (·.isMutable) := by
          rw [← map_takeSnapshots hrest]
          exact List.mem_map_of_mem ht
        exact hnot (List.mem_map.2 ⟨t.1, (List.mem_filter.1 hmem).1, heq⟩)
    · rw [if_neg hl] at h
      exact contents_takeSnapshots hs hrestNodup h

/-! ### Refresh before listeners are called -/

/-- Snapshots are recorded of the layers that have the numbers. -/
theorem ends_record : ∀ {taken : List (Layer × Option Snapshot)} {s s' : Session} {reg : Registry},
    s.registries[r]? = some reg → (Ends S (r.record taken) s () s' ↔
      s' = s.setRegistry r { reg with layers := recordAll taken reg.layers })
  | [], s, s', reg, hreg => by
    have hself : s.setRegistry r { reg with layers := recordAll [] reg.layers } = s :=
      setRegistry_self hreg
    rw [hself, record, Program.forAll, ends_done]
    exact ⟨fun h => h.2.symm, fun h => ⟨rfl, h.symm⟩⟩
  | (l, none) :: taken, s, s', reg, hreg => by
    rw [record, Program.forAll, Program.done_bind]
    exact ends_record hreg
  | (l, some t) :: taken, s, s', reg, hreg => by
    rw [record, Program.forAll, ends_bind]
    have hreg₁ := registries_setRegistry hreg
      { reg with layers := Layer.record l.seq t reg.layers }
    constructor
    · rintro ⟨u, s₁, hask, hrest⟩
      obtain ⟨reg', htake, rfl⟩ := (ends_ask hreg).1 hask
      cases htake
      obtain rfl := (ends_record hreg₁).1 hrest
      rw [setRegistry_setRegistry]
      rfl
    · rintro rfl
      refine ⟨(), _, (ends_ask hreg).2 ⟨_, rfl, rfl⟩, (ends_record hreg₁).2 ?_⟩
      rw [setRegistry_setRegistry]
      rfl

/-- A registry after a refresh in which snapshots were taken. -/
def renewed (reg : Registry) (taken : List (Layer × Option Snapshot)) : Registry :=
  { reg with
    layers := recordAll taken reg.layers
    cache := reg.cache.evictStale (View.recorded (recordAll taken reg.layers))
    changeSeq := reg.changeSeq + 2 }

/-- The registry while an operation is at work. -/
def busy (reg : Registry) : Registry :=
  { reg with isLocked := true, changeSeq := reg.changeSeq + 1 }

theorem ends_lock (hreg : s.registries[r]? = some reg) :
    Ends S (ask r .lock) s () s' ↔
      reg.isLocked = false ∧ s' = s.setRegistry r { reg with isLocked := true } := by
  rw [ends_ask hreg]
  cases hl : reg.isLocked with
  | false => simp [Registry.take, hl]
  | true => simp [Registry.take, hl]

theorem ends_lock_bind {β : Type} {f : Unit → Task β} {b : β}
    (hreg : s.registries[r]? = some reg) :
    Ends S ((ask r .lock).bind f) s b s' ↔
      reg.isLocked = false ∧
        Ends S (f ()) (s.setRegistry r { reg with isLocked := true }) b s' := by
  rw [ends_bind]
  constructor
  · rintro ⟨u, s₁, hlock, h⟩
    obtain ⟨hfree, rfl⟩ := (ends_lock hreg).1 hlock
    exact ⟨hfree, h⟩
  · exact fun ⟨hfree, h⟩ => ⟨(), _, (ends_lock hreg).2 ⟨hfree, rfl⟩, h⟩

/-- What a refresh in which snapshots were taken reports, and what has changed in it. -/
def reported (reg : Registry) (taken : List (Layer × Option Snapshot)) :
    RefreshReport × List Change :=
  let new := View.recorded (recordAll taken reg.layers)
  let changes := changesBetween (keysTaken taken) (View.recorded reg.layers) new
  ({ changed := changes.map (·.1)
     invalidated := reg.cache.staleKeys new
     refreshed := (taken.filter (·.2.isSome)).map (·.1.name)
     failed := (taken.filter (·.2.isNone)).map (·.1.name) },
    changes)

/-- A locked registry after snapshots that were taken have been recorded and what they do not
confirm has been evicted, when it is given back. -/
def returned (reg : Registry) (taken : List (Layer × Option Snapshot)) : Registry :=
  { reg with
    layers := recordAll taken reg.layers
    cache := reg.cache.evictStale (View.recorded (recordAll taken reg.layers))
    isLocked := false
    changeSeq := reg.changeSeq + 1 }

/-- What a refresh does once snapshots have been taken, up to giving back the registry. -/
def closing (r : RegistryId) (layers : List Layer) (taken : List (Layer × Option Snapshot)) :
    Task (RefreshReport × List Change) := do
  let new := View.recorded (recordAll taken layers)
  r.record taken
  let invalidated ← ask r (.evictStale new)
  ask r .endChange
  ask r .unlock
  let changes := changesBetween (keysTaken taken) (View.recorded layers) new
  return (
    { changed := changes.map (·.1)
      invalidated := invalidated
      refreshed := (taken.filter (·.2.isSome)).map (·.1.name)
      failed := (taken.filter (·.2.isNone)).map (·.1.name) },
    changes)

theorem renewal_eq (r : RegistryId) :
    r.renewal = (ask r .lock).bind fun _ => (ask r .beginChange).bind fun _ =>
      (ask r .layers).bind fun layers => (takeSnapshots layers).bind fun taken =>
        r.closing layers taken := by
  simp only [renewal, renew_eq, renewFrom, closing, Program.bind_eq_bind, Program.pure_eq_done,
    Program.bind_assoc, Program.done_bind]

theorem ends_closing (hreg : s.registries[r]? = some reg)
    {taken : List (Layer × Option Snapshot)} {x : RefreshReport × List Change} :
    Ends S (r.closing reg.layers taken) s x s' ↔
      s' = s.setRegistry r (returned reg taken) ∧ x = reported reg taken := by
  have hrecord : ∀ f : Unit → Task (RefreshReport × List Change),
      Ends S ((r.record taken).bind f) s x s' ↔
        Ends S (f ()) (s.setRegistry r { reg with layers := recordAll taken reg.layers }) x s' := by
    intro f
    rw [ends_bind]
    constructor
    · rintro ⟨u, s₁, h, hf⟩
      obtain rfl := (ends_record hreg).1 h
      exact hf
    · exact fun hf => ⟨(), _, (ends_record hreg).2 rfl, hf⟩
  simp only [closing, Program.bind_eq_bind, Program.pure_eq_done]
  rw [hrecord, ends_ask_bind (registries_setRegistry hreg _) rfl, setRegistry_setRegistry,
    ends_ask_bind (registries_setRegistry hreg _) rfl, setRegistry_setRegistry,
    ends_ask_bind (registries_setRegistry hreg _) rfl, setRegistry_setRegistry, ends_done]
  exact ⟨fun h => ⟨h.2.symm, h.1.symm⟩, fun h => ⟨h.2.symm, h.1.symm⟩⟩

/-- A refresh locks the registry, takes snapshots, records them, and evicts what they do not
confirm, whatever happens while they are taken as long as the layers stay. -/
theorem ends_renewal (hreg : s.registries[r]? = some reg)
    (hkept : ∀ taken s₁, Ends S (takeSnapshots reg.layers) (s.setRegistry r (busy reg)) taken s₁ →
      ∃ reg₁, s₁.registries[r]? = some reg₁ ∧ reg₁.layers = reg.layers)
    {x : RefreshReport × List Change} :
    Ends S r.renewal s x s' ↔ reg.isLocked = false ∧ ∃ taken s₁ reg₁,
      Ends S (takeSnapshots reg.layers) (s.setRegistry r (busy reg)) taken s₁ ∧
      s₁.registries[r]? = some reg₁ ∧ s' = s₁.setRegistry r (returned reg₁ taken) ∧
      x = reported reg₁ taken := by
  have hbusy := registries_setRegistry hreg (busy reg)
  have hbegin : ({ reg with isLocked := true } : Registry).take .beginChange =
      some ((), busy reg) := rfl
  have hread : (busy reg).take .layers = some (reg.layers, busy reg) := rfl
  rw [renewal_eq, ends_lock_bind hreg, ends_ask_bind (registries_setRegistry hreg _) hbegin,
    setRegistry_setRegistry, ends_ask_bind hbusy hread, setRegistry_self hbusy, ends_bind]
  refine and_congr_right fun _ => exists_congr fun taken => exists_congr fun s₁ => ⟨?_, ?_⟩
  · rintro ⟨htaken, h⟩
    obtain ⟨reg₁, hreg₁, hlayers⟩ := hkept taken s₁ htaken
    rw [← hlayers] at h
    exact ⟨reg₁, htaken, hreg₁, (ends_closing hreg₁).1 h⟩
  · rintro ⟨reg₁, htaken, hreg₁, h⟩
    obtain ⟨_, hreg₁', hlayers⟩ := hkept taken s₁ htaken
    cases hreg₁.symm.trans hreg₁'
    refine ⟨htaken, ?_⟩
    rw [← hlayers]
    exact (ends_closing hreg₁).2 h

/-- A refresh takes snapshots, records them, and evicts what they do not confirm. -/
theorem renewal_spec (hs : s.IsPlain) {x : RefreshReport × List Change}
    (h : Ends S r.renewal s x s') :
    ∃ reg taken s₁, s.registries[r]? = some reg ∧ reg.isLocked = false ∧
      Ends S (takeSnapshots reg.layers) (s.setRegistry r (busy reg)) taken s₁ ∧
      s' = s₁.setRegistry r (renewed reg taken) ∧ x = reported reg taken := by
  obtain ⟨u, s₁, hlock, -⟩ := ends_bind.1 h
  obtain ⟨reg, hreg⟩ := exists_registry_of_ends_ask hlock
  have hbusy := registries_setRegistry hreg (busy reg)
  have hsame : ∀ taken s₁, Ends S (takeSnapshots reg.layers) (s.setRegistry r (busy reg)) taken s₁ →
      s₁.registries[r]? = some (busy reg) := by
    intro taken s₁ htaken
    rw [(sameButData_takeSnapshots (s := s.setRegistry r (busy reg)) hs htaken).registries, hbusy]
  obtain ⟨hfree, taken, s₁, reg₁, htaken, hreg₁, rfl, rfl⟩ :=
    (ends_renewal hreg fun taken s₁ h => ⟨_, hsame taken s₁ h, rfl⟩).1 h
  cases hreg₁.symm.trans (hsame taken s₁ htaken)
  refine ⟨reg, taken, s₁, hreg, hfree, htaken, ?_, rfl⟩
  rw [returned, renewed, ← hfree]
  rfl

/-! ### Registration before listeners are called -/

/-- The name of a source, and whether its data may change. -/
def described (s : Session) (n : SourceId) : String × Bool :=
  ((s.sources[n]?).map fun p => (p.name, p.isMutable)).getD ("", false)

theorem firstSnapshot_spec (hs : s.IsPlain) {name : String} {x : Snapshot × Bool}
    (h : Ends S (firstSnapshot n name) s x s') :
    ∃ t : Option Snapshot, Asked n s t s' ∧ x = (t.getD .empty, t.isSome) := by
  obtain ⟨a, s₁, hsnap, hnext⟩ := ends_bind.1 h
  obtain ⟨rfl, rfl⟩ := (ends_takeSnapshot hs).1 hsnap
  cases ha : (s.snapshot n).1.1 with
  | ok t =>
    rw [ha] at hnext
    obtain ⟨rfl, rfl⟩ := ends_done.1 hnext
    exact ⟨some t, asked_snapshot_ok ha, rfl⟩
  | error e =>
    rw [ha] at hnext
    obtain ⟨u, s₂, hobs, hdone⟩ := ends_bind.1 hnext
    cases ends_act.1 hobs
    obtain ⟨rfl, rfl⟩ := ends_done.1 hdone
    exact ⟨none, asked_snapshot_error ha _, rfl⟩

/-- The cache after a layer with the given keys has been put in. -/
def evictedBy (c : Cache) (keys : List String) (view : View) (isComplete : Bool) : Cache :=
  let c := if keys.isEmpty then c else c.evictChanged (keys.map fun k => (k, view.resolve k))
  if isComplete then c else c.invalidate none

theorem get?_evictedBy {c : Cache} {keys : List String} {view : View} {e : CacheEntry} :
    (evictedBy c keys view true).entries.get? key = some e ↔
      c.entries.get? key = some e ∧ (key ∈ keys → view.resolve key = e.resolved) := by
  simp only [evictedBy, if_true]
  split
  · rename_i hk
    rw [List.isEmpty_iff.1 hk]
    exact (and_iff_left fun hkey => absurd hkey List.not_mem_nil).symm
  · rw [Cache.get?_evictChanged, List.forall_mem_map]
    refine and_congr_right fun _ => ⟨fun h hkey => h key hkey rfl, ?_⟩
    rintro h k hk rfl
    exact h hk

/-- Evicts what a layer with the given keys changes. -/
def evictFor (r : RegistryId) (keys : List String) (view : View) (isComplete : Bool) : Task Unit :=
  Program.bind
    (if keys.isEmpty then .done ()
      else ask r (.evictChanged (keys.map fun k => (k, view.resolve k))))
    fun _ => if isComplete then .done () else ask r (.invalidate none)

theorem insertLayer_eq (r : RegistryId) (old : List Layer) (source : SourceId) (name : String)
    (isMutable : Bool) (priority : Int) :
    r.insertLayer old source name isMutable priority =
      (firstSnapshot source name).bind fun x => (ask r .takeSeq).bind fun seq =>
        let new := Layer.insert ⟨source, name, isMutable, priority, seq, x.1⟩ old
        (ask r (.setLayers new)).bind fun _ =>
          (r.evictFor x.1.keys (View.recorded new) x.2).bind fun _ =>
            .done (changesBetween (Keys.ofList x.1.keys) (View.recorded old)
              (View.recorded new)) := by
  rw [insertLayer]
  simp only [evictFor, Program.bind_eq_bind, Program.pure_eq_done]
  congr 1
  funext x
  congr 1
  funext seq
  congr 1
  funext _
  cases x.1.keys.isEmpty <;> cases x.2 <;> rfl

theorem ends_evictFor (hreg : s.registries[r]? = some reg) {keys : List String} {view : View}
    {isComplete : Bool} : Ends S (r.evictFor keys view isComplete) s () s' ↔
      s' = s.setRegistry r { reg with cache := evictedBy reg.cache keys view isComplete } := by
  have hchanged : ∀ f : Unit → Task Unit,
      Ends S ((if keys.isEmpty then .done ()
        else ask r (.evictChanged (keys.map fun k => (k, view.resolve k)))).bind f) s () s' ↔
      Ends S (f ()) (s.setRegistry r { reg with cache := evictedBy reg.cache keys view true })
        () s' := by
    intro f
    cases hk : keys.isEmpty with
    | true => rw [if_pos rfl, Program.done_bind, evictedBy, hk, if_pos rfl, if_pos rfl,
        setRegistry_self hreg]
    | false =>
      rw [if_neg Bool.false_ne_true, ends_ask_bind hreg rfl, evictedBy, hk, if_pos rfl]
      rfl
  rw [evictFor, hchanged]
  cases isComplete with
  | true => exact (ends_done.trans (and_iff_right rfl)).trans eq_comm
  | false =>
    rw [if_neg Bool.false_ne_true, ends_ask (registries_setRegistry hreg _)]
    simp only [Registry.take, Option.some.injEq, Prod.mk.injEq, true_and, setRegistry_setRegistry,
      ↓existsAndEq, evictedBy, Bool.false_eq_true, if_false, if_true]

theorem ends_evictFor_bind {β : Type} {f : Unit → Task β} {b : β}
    (hreg : s.registries[r]? = some reg) {keys : List String} {view : View} {isComplete : Bool} :
    Ends S ((r.evictFor keys view isComplete).bind f) s b s' ↔ Ends S (f ())
      (s.setRegistry r { reg with cache := evictedBy reg.cache keys view isComplete }) b s' := by
  rw [ends_bind]
  constructor
  · rintro ⟨u, s₁, h, hf⟩
    obtain rfl := (ends_evictFor hreg).1 h
    exact hf
  · exact fun hf => ⟨(), _, (ends_evictFor hreg).2 rfl, hf⟩

/-- A registry after a registration. -/
def registered (reg : Registry) (l : Layer) (isComplete : Bool) : Registry :=
  { reg with
    layers := Layer.insert l reg.layers
    cache := evictedBy reg.cache l.recorded.keys (View.recorded (Layer.insert l reg.layers))
      isComplete
    changeSeq := reg.changeSeq + 2
    nextSeq := reg.nextSeq + 1 }

/-- A locked registry after a layer has been put in place among others and what it changes has been
evicted, when it is given back. -/
def enrolled (reg : Registry) (old : List Layer) (l : Layer) (isComplete : Bool) : Registry :=
  { reg with
    layers := Layer.insert l old
    cache := evictedBy reg.cache l.recorded.keys (View.recorded (Layer.insert l old)) isComplete
    isLocked := false
    changeSeq := reg.changeSeq + 1
    nextSeq := reg.nextSeq + 1 }

/-- What a new layer changes. -/
def changesOf (l : Layer) (old : List Layer) : List Change :=
  changesBetween (Keys.ofList l.recorded.keys) (View.recorded old)
    (View.recorded (Layer.insert l old))

/-- What a registration does once it has its first snapshot, up to giving back the registry. The
number of the layer is still to be known. -/
def enroll (r : RegistryId) (old : List Layer) (l : Nat → Layer) (isComplete : Bool) :
    Task (Except Failure (List Change)) := do
  let l := l (← ask r .takeSeq)
  let new := Layer.insert l old
  ask r (.setLayers new)
  r.evictFor l.recorded.keys (View.recorded new) isComplete
  ask r .endChange
  ask r .unlock
  return .ok (changesOf l old)

theorem registration_eq (r : RegistryId) (source : SourceId) (priority : Int) :
    r.registration source priority = (act (.describe source)).bind fun d =>
      (ask r .lock).bind fun _ => (ask r .layers).bind fun old =>
        if old.any (·.name == d.1) then
          (act (.observe (.registration d.1) (.duplicateSource d.1))).bind fun _ =>
            (ask r .unlock).bind fun _ => .done (.error (.duplicateSource d.1))
        else
          (ask r .beginChange).bind fun _ => (firstSnapshot source d.1).bind fun x =>
            r.enroll old (⟨source, d.1, d.2, priority, ·, x.1⟩) x.2 := by
  simp only [registration, insertLayer_eq, enroll, Program.bind_eq_bind, Program.pure_eq_done,
    Program.bind_assoc, Program.done_bind]
  rfl

theorem ends_enroll (hreg : s.registries[r]? = some reg) {old : List Layer} {l : Nat → Layer}
    {isComplete : Bool} {x : Except Failure (List Change)} :
    Ends S (r.enroll old l isComplete) s x s' ↔
      s' = s.setRegistry r (enrolled reg old (l reg.nextSeq) isComplete) ∧
        x = .ok (changesOf (l reg.nextSeq) old) := by
  simp only [enroll, Program.bind_eq_bind, Program.pure_eq_done]
  rw [ends_ask_bind hreg rfl, ends_ask_bind (registries_setRegistry hreg _) rfl,
    setRegistry_setRegistry, ends_evictFor_bind (registries_setRegistry hreg _),
    setRegistry_setRegistry, ends_ask_bind (registries_setRegistry hreg _) rfl,
    setRegistry_setRegistry, ends_ask_bind (registries_setRegistry hreg _) rfl,
    setRegistry_setRegistry, ends_done]
  exact ⟨fun h => ⟨h.2.symm, h.1.symm⟩, fun h => ⟨h.2.symm, h.1.symm⟩⟩

/-- A registration fails because of the name of the source, or takes its first snapshot, puts in a
layer and evicts what it changes, whatever happens while the snapshot is taken. -/
theorem ends_registration (hreg : s.registries[r]? = some reg)
    (hkept : ∀ x s₁, Ends S (firstSnapshot n (described s n).1) (s.setRegistry r (busy reg)) x s₁ →
      ∃ reg₁, s₁.registries[r]? = some reg₁) {priority : Int}
    {y : Except Failure (List Change)} (h : Ends S (r.registration n priority) s y s') :
    reg.isLocked = false ∧
      ((∃ l ∈ reg.layers, l.name = (described s n).1) ∧
          y = .error (.duplicateSource (described s n).1) ∧
          s' = s.emit (.observed (.registration (described s n).1)
            (.duplicateSource (described s n).1)) ∨
        (∀ l ∈ reg.layers, l.name ≠ (described s n).1) ∧ ∃ x s₁ reg₁ l,
          Ends S (firstSnapshot n (described s n).1) (s.setRegistry r (busy reg)) x s₁ ∧
          s₁.registries[r]? = some reg₁ ∧
          l = ⟨n, (described s n).1, (described s n).2, priority, reg₁.nextSeq, x.1⟩ ∧
          s' = s₁.setRegistry r (enrolled reg₁ reg.layers l x.2) ∧
          y = .ok (changesOf l reg.layers)) := by
  have hlocked := registries_setRegistry hreg { reg with isLocked := true }
  have hread : ({ reg with isLocked := true } : Registry).take .layers =
      some (reg.layers, { reg with isLocked := true }) := rfl
  have hbegin : ({ reg with isLocked := true } : Registry).take .beginChange =
      some ((), busy reg) := rfl
  rw [registration_eq] at h
  obtain ⟨d, s₁, hdescribe, h⟩ := ends_bind.1 h
  obtain ⟨rfl, rfl⟩ : described s n = d ∧ s = s₁ := by
    simpa [Session.take, described] using ends_act.1 hdescribe
  rw [ends_lock_bind hreg, ends_ask_bind hlocked hread, setRegistry_self hlocked] at h
  obtain ⟨hfree, h⟩ := h
  refine ⟨hfree, ?_⟩
  split at h
  · rename_i hany
    left
    refine ⟨by simpa using hany, ?_⟩
    obtain ⟨u, s₁, hobs, h⟩ := ends_bind.1 h
    cases ends_act.1 hobs
    rw [ends_ask_bind (s := (s.setRegistry r _).emit _) hlocked rfl, ends_done] at h
    refine ⟨h.1.symm, h.2.symm.trans ?_⟩
    have hsame : ({ reg with isLocked := false } : Registry) = reg := by rw [← hfree]
    exact (setRegistry_setRegistry (s := s.emit _)).trans
      ((congrArg (setRegistry (s.emit _) r) hsame).trans (setRegistry_self hreg))
  · rename_i hany
    right
    refine ⟨by simpa using hany, ?_⟩
    rw [ends_ask_bind hlocked hbegin, setRegistry_setRegistry] at h
    obtain ⟨x, s₁, hfirst, h⟩ := ends_bind.1 h
    obtain ⟨reg₁, hreg₁⟩ := hkept x s₁ hfirst
    exact ⟨x, s₁, reg₁, _, hfirst, hreg₁, rfl, (ends_enroll hreg₁).1 h⟩

theorem exists_registry_of_registration {priority : Int} {x : Except Failure (List Change)}
    (h : Ends S (r.registration n priority) s x s') : ∃ reg, s.registries[r]? = some reg := by
  obtain ⟨d, s₁, hdescribe, hlock⟩ := ends_bind.1 h
  obtain ⟨-, rfl⟩ : described s n = d ∧ s = s₁ := by
    simpa [Session.take, described] using ends_act.1 hdescribe
  obtain ⟨u, s₁, hlock, -⟩ := ends_bind.1 hlock
  exact exists_registry_of_ends_ask hlock

/-- A registration fails because of the name of the source, or puts in a layer. -/
theorem registration_spec (hs : s.IsPlain) {priority : Int} {x : Except Failure (List Change)}
    (h : Ends S (r.registration n priority) s x s') :
    ∃ reg, s.registries[r]? = some reg ∧ reg.isLocked = false ∧
      ((∃ e event, x = .error e ∧ s' = s.emit event) ∨
      ∃ t s₁ l, l = ⟨n, (described s n).1, (described s n).2, priority, reg.nextSeq,
          Option.getD t .empty⟩ ∧
        (∀ l' ∈ reg.layers, l'.name ≠ l.name) ∧
        Asked n (s.setRegistry r (busy reg)) t s₁ ∧
        s' = s₁.setRegistry r (registered reg l t.isSome) ∧
        x = .ok (changesBetween (Keys.ofList l.recorded.keys) (View.recorded reg.layers)
          (View.recorded (Layer.insert l reg.layers)))) := by
  obtain ⟨reg, hreg⟩ := exists_registry_of_registration h
  have hasked : ∀ {x s₁},
      Ends S (firstSnapshot n (described s n).1) (s.setRegistry r (busy reg)) x s₁ →
      ∃ t : Option Snapshot, Asked n (s.setRegistry r (busy reg)) t s₁ ∧
        x = (t.getD .empty, t.isSome) := firstSnapshot_spec (s := s.setRegistry r (busy reg)) hs
  have hsame : ∀ {t s₁}, Asked n (s.setRegistry r (busy reg)) t s₁ →
      s₁.registries[r]? = some (busy reg) := fun ht => by
    rw [ht.registries, registries_setRegistry hreg (busy reg)]
  obtain ⟨hfree, hrefused | ⟨hnew, y, s₁, reg₁, l, hfirst, hreg₁, rfl, rfl, rfl⟩⟩ :=
    ends_registration hreg (fun y s₁ hfirst => by
      obtain ⟨t, ht, -⟩ := hasked hfirst
      exact ⟨_, hsame ht⟩) h
  · exact ⟨reg, hreg, hfree, .inl ⟨_, _, hrefused.2⟩⟩
  · obtain ⟨t, ht, rfl⟩ := hasked hfirst
    cases hreg₁.symm.trans (hsame ht)
    refine ⟨reg, hreg, hfree, .inr ⟨t, s₁, _, rfl, hnew, ht, ?_, rfl⟩⟩
    rw [enrolled, registered, ← hfree]
    rfl

end RegistryId

end Strata
