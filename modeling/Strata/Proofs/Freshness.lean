import Strata.Proofs.Caches
import Strata.Proofs.Exclusion
import Strata.Proofs.Reading

/-!
No stale value is cached across a refresh. Readers, registrations, refreshes and evictions take
turns in any order; once a refresh has recorded the data of all sources, and while the sources keep
their data, every entry of the cache is what its key resolves to through these data
(`live_of_refresh`). Only a registration that has put in its layer and has not evicted anything yet
leaves entries as they were right before.
-/

namespace Strata

open Machine

/-! ### The data of sources -/

/-- The layers of a registry. -/
def Session.layersOf (s : Session) (r : RegistryId) : List Layer :=
  match s.registries[r]? with
  | some reg => reg.layers
  | none => []

theorem Session.layersOf_eq {s : Session} {r : RegistryId} {reg : Registry}
    (h : s.registries[r]? = some reg) : s.layersOf r = reg.layers := by
  rw [layersOf, h]

/-- Nothing about the layers of a registry changes but what is recorded, unless they are
published. -/
theorem Session.map_layersOf_take {s s' : Session} {r : RegistryId} {a : Action} {answer : a.Answer}
    {β : Type} {f : Layer → β} (hf : ∀ l t, f { l with recorded := t } = f l)
    (hset : ∀ new, a ≠ .registry r (.setLayers new)) (htake : s.take a = some (answer, s')) :
    (s'.layersOf r).map f = (s.layersOf r).map f := by
  by_cases hall : ∀ r b, a ≠ .registry r b
  · have hsame := sameRegistries_take hall htake
    rw [Session.layersOf, Session.layersOf]
    cases hreg : s.registries[r]? with
    | some reg =>
      obtain ⟨listeners, hreg'⟩ := hsame.kept r reg hreg
      rw [hreg']
    | none =>
      cases hreg' : s'.registries[r]? with
      | none => rfl
      | some reg' =>
        rcases hsame.known r reg' hreg' with ⟨-, rfl⟩ | ⟨reg, -, hreg₁, -⟩
        · rfl
        · rw [hreg] at hreg₁
          cases hreg₁
  · push Not at hall
    obtain ⟨r', b, rfl⟩ := hall
    obtain ⟨reg, reg', hreg, hask, rfl⟩ := Session.exists_registry_take htake
    by_cases hr : r = r'
    · subst hr
      rw [Session.layersOf_eq hreg, Session.layersOf_eq (Session.registries_setRegistry hreg reg')]
      exact Registry.map_layers_take (fun ls heq => hset ls (by rw [heq])) hask hf
    · rw [Session.layersOf, Session.layersOf, Session.registries_setRegistry_of_ne hr]

/-- The sources of layers hold data. -/
def Session.Holds (s : Session) (data : SourceId → Snapshot) (ls : List Layer) : Prop :=
  ∀ l ∈ ls, s.contents l.source = some (data l.source)

namespace View

variable {data : SourceId → Snapshot} {key : String} {ls : List Layer}

/-- The view that the data of sources give. -/
def ofData (data : SourceId → Snapshot) (ls : List Layer) : View :=
  ls.map fun l => (l.name, data l.source)

theorem recorded_eq_ofData (h : ∀ l ∈ ls, l.recorded = data l.source) :
    recorded ls = ofData data ls :=
  List.map_congr_left fun l hl => by rw [h l hl]

theorem live_of_holds {s : Session} :
    ∀ {ls : List Layer}, s.Holds data ls → s.live key ls = some ((ofData data ls).resolve key)
  | [], _ => rfl
  | l :: ls, h => by
    have ih := live_of_holds fun l' hl' => h l' (List.mem_cons_of_mem l hl')
    have hcons : ofData data (l :: ls) = (l.name, data l.source) :: ofData data ls := rfl
    rw [Session.live, h l List.mem_cons_self, hcons, resolve_cons]
    cases hv : (data l.source).get? key with
    | some value => simp only [hv]
    | none => simp only [hv, ih]

end View

/-- Layers that were consulted and have answered from the data have given what the data give. -/
theorem Consulted.eq_resolve {data : SourceId → Snapshot} {h : History} {key : String}
    {x : Option Resolved} : ∀ {ls : List Layer}, Consulted h key ls x →
      (∀ l ∈ ls, ∀ value script, (⟨.lookup l.source key, (.ok value, script)⟩ : Fact) ∈ h →
        value = (data l.source).get? key) →
      x = (View.ofData data ls).resolve key
  | [], hx, _ => hx
  | l :: ls, hx, hlookup => by
    have hcons : View.ofData data (l :: ls) = (l.name, data l.source) :: View.ofData data ls := rfl
    rw [hcons, View.resolve_cons]
    rcases hx with ⟨value, script, hmem, rfl⟩ | ⟨⟨script, hmem⟩, hx⟩
    · rw [← hlookup l List.mem_cons_self _ _ hmem]
    · rw [← hlookup l List.mem_cons_self _ _ hmem]
      exact hx.eq_resolve fun l' hl' => hlookup l' (List.mem_cons_of_mem l hl')

/-- What a source has answered when it was asked for snapshots. -/
def answers (n : SourceId) (h : History) : List (Except Failure Snapshot) :=
  h.filterMap fun
    | ⟨.snapshot m, (x, _)⟩ => if m = n then some x else none
    | _ => none

theorem mem_answers {n : SourceId} {h : History} {x : Except Failure Snapshot} {script : Script}
    (hmem : (⟨.snapshot n, (x, script)⟩ : Fact) ∈ h) : x ∈ answers n h :=
  List.mem_filterMap.2 ⟨_, hmem, if_pos rfl⟩

/-! ### Registrations in the midst of their change -/

/-- The last thing that a task did is that it put a layer between those of a registry. -/
def Publishes (r : RegistryId) (old : List Layer) (h : History) : Prop :=
  ∃ l before, h = ⟨.registry r (.setLayers (Layer.insert l old)), ()⟩ :: before ∧
    hold r before = some (some old)

theorem Publishes.hold {r : RegistryId} {old : List Layer} {h : History} (hp : Publishes r old h) :
    ∃ l, hold r h = some (some (Layer.insert l old)) := by
  obtain ⟨l, before, rfl, hold⟩ := hp
  exact ⟨l, by rw [hold_cons, know_self, hold]; rfl⟩

/-- A key resolves to something through the data of sources, or did so before a layer was put in
that is just being published. -/
def IsCurrent (data : SourceId → Snapshot) (r : RegistryId) (ms : List Moment) (ls : List Layer)
    (key : String) (x : Option Resolved) : Prop :=
  x = (View.ofData data ls).resolve key ∨
    ∃ i old, Publishes r old (history i ms) ∧ x = (View.ofData data old).resolve key

/-- What a task has read is what the sources hold. -/
structure Reads (data : SourceId → Snapshot) (r : RegistryId) (ms : List Moment)
    (current ls : List Layer) (new : History) : Prop where
  isCurrent : ∀ key, IsCurrent data r ms current key ((View.ofData data ls).resolve key)
  source : ∀ l ∈ ls, ∃ l' ∈ current, l'.source = l.source
  lookup : ∀ l ∈ ls, ∀ key value script,
    (⟨.lookup l.source key, (.ok value, script)⟩ : Fact) ∈ new → value = (data l.source).get? key

/-- What a registry has recorded and cached, and what tasks are about to record and to cache in it,
is what the sources hold. -/
structure Fresh (data : SourceId → Snapshot) (r : RegistryId) (ms : List Moment)
    (reg : Registry) : Prop where
  recorded : ∀ l ∈ reg.layers, l.recorded = data l.source
  taken : ∀ i x, hold r (history i ms) = some x → ∀ l ∈ reg.layers, l.isMutable = true →
    ∀ t script, (⟨.snapshot l.source, (.ok t, script)⟩ : Fact) ∈ since r (history i ms) →
    t = data l.source
  entry : ∀ key e, reg.cache.entries.get? key = some e →
    IsCurrent data r ms reg.layers key e.resolved
  reading : ∀ i new ls before, history i ms = new ++ ⟨.registry r .layers, ls⟩ ::
    ⟨.registry r .epoch, reg.cache.epoch⟩ :: before → Reads data r ms reg.layers ls new

/-- If a layer is put in at a moment, the snapshots of its source that were taken since the registry
was locked have succeeded and gave the data. -/
def Registers (data : SourceId → Snapshot) (r : RegistryId) (earlier : List Moment)
    (e : Moment) : Prop :=
  ∀ new, e.step = .act (.registry r (.setLayers new)) → ∀ l ∈ new, l ∉ e.session.layersOf r →
    ∀ x ∈ answers l.source (since r (history e.task earlier)), x = .ok (data l.source)

/-! ### One action -/

/-- A task takes an action in a session that has a registry. -/
structure Turn (r : RegistryId) (ms : List Moment) (i : Nat) (a : Action) (answer : a.Answer)
    (s s' : Session) (reg reg' : Registry) : Prop where
  sound : ∃ tasks, Sound ms ⟨s, tasks⟩
  lawful : Lawful (history i ms) a
  due : Due (history i ms) a
  take : s.take a = some (answer, s')
  before : s.registries[r]? = some reg
  after : s'.registries[r]? = some reg'

namespace Turn

variable {data : SourceId → Snapshot} {r : RegistryId} {ms : List Moment} {i j : Nat} {a : Action}
  {answer : a.Answer} {s s' : Session} {reg reg' : Registry} {key : String} {x : Option Resolved}

/-- An action on a registry is taken by that registry, and others stay as they are. -/
theorem cases (h : Turn r ms i a answer s s' reg reg') :
    ((∀ b, a ≠ .registry r b) ∧ reg'.layers = reg.layers ∧ reg'.cache = reg.cache) ∨
      ∃ (b : RegistryAction) (x : b.Answer), (⟨a, answer⟩ : Fact) = ⟨.registry r b, x⟩ ∧
        reg.take b = some (x, reg') := by
  have htake := h.take
  by_cases ha : ∀ r b, a ≠ .registry r b
  · obtain ⟨listeners, hreg'⟩ := (sameRegistries_take ha htake).kept r reg h.before
    obtain rfl := Option.some.inj (hreg'.symm.trans h.after)
    exact .inl ⟨ha r, rfl, rfl⟩
  · push Not at ha
    obtain ⟨r₁, b, rfl⟩ := ha
    obtain ⟨reg₁, reg₂, hreg₁, hask, rfl⟩ := Session.exists_registry_take htake
    by_cases hr : r₁ = r
    · subst hr
      obtain rfl := Option.some.inj (hreg₁.symm.trans h.before)
      obtain rfl := Option.some.inj
        ((Session.registries_setRegistry hreg₁ reg₂).symm.trans h.after)
      exact .inr ⟨b, answer, rfl, hask⟩
    · have hreg' := h.after
      rw [Session.registries_setRegistry_of_ne (Ne.symm hr), h.before] at hreg'
      cases hreg'
      refine .inl ⟨fun b' heq => hr ?_, rfl, rfl⟩
      cases heq
      rfl

theorem take_registry {b : RegistryAction} {x : b.Answer}
    (h : Turn r ms i (.registry r b) x s s' reg reg') : reg.take b = some (x, reg') := by
  rcases h.cases with ⟨hne, -⟩ | ⟨b', y, heq, hask⟩
  · exact absurd rfl (hne b)
  · cases heq
    exact hask

/-- The layers are what a task knows of them. -/
theorem layers_of_hold (h : Turn r ms i a answer s s' reg reg') {ls : List Layer}
    (hold : hold r (history j ms) = some (some ls)) : reg.layers = ls := by
  obtain ⟨tasks, hsound⟩ := h.sound
  exact (hsound.true_of_hold h.before hold).2 ls rfl

/-- What is current is so without a registration of the task that acts, provided that an eviction
spares it. -/
theorem settle (h : Turn r ms i a answer s s' reg reg')
    (hrec : ∀ l ∈ reg.layers, l.recorded = data l.source)
    (hspare : ∀ us, a = .registry r (.evictChanged us) → ∀ u ∈ us, u.1 = key → u.2 = x)
    (hx : IsCurrent data r ms reg.layers key x) :
    x = (View.ofData data reg.layers).resolve key ∨
      ∃ j old, j ≠ i ∧ Publishes r old (history j ms) ∧ x = (View.ofData data old).resolve key := by
  rcases hx with hx | ⟨j, old, hpub, hx⟩
  · exact .inl hx
  by_cases hj : j = i
  · subst hj
    left
    obtain ⟨_, before, heq, hold⟩ := hpub
    obtain ⟨l, ls, hold', hins, hevict⟩ := h.due r _ before heq
    obtain rfl : old = ls := by
      rw [hold] at hold'
      exact Option.some.inj (Option.some.inj hold')
    have hlayers : reg.layers = Layer.insert l old := by
      refine h.layers_of_hold (j := j) ?_
      rw [heq, hold_cons, know_self, hold, hins]
      rfl
    rw [hins] at hevict
    have hrec' : View.recorded old = View.ofData data old := View.recorded_eq_ofData
      fun l' hl' => hrec l' (by rw [hlayers]; exact Layer.mem_insert.2 (.inr hl'))
    rw [← View.recorded_eq_ofData hrec, hlayers]
    rw [← hrec'] at hx
    by_cases hkey : l.recorded.get? key = none
    · rw [View.resolve_insert_of_none hkey]
      exact hx
    · have hmem : key ∈ l.recorded.keys := by
        by_contra hmem
        exact hkey (Table.get?_eq_none.2 hmem)
      rcases hevict with hkeys | rfl
      · rw [hkeys] at hmem
        exact absurd hmem List.not_mem_nil
      · exact (hspare _ rfl _ (List.mem_map_of_mem hmem) rfl).symm
  · exact .inr ⟨j, old, hj, hpub, hx⟩

theorem map_layers (h : Turn r ms i a answer s s' reg reg')
    (hset : ∀ new, a ≠ .registry r (.setLayers new)) {β : Type} {f : Layer → β}
    (hf : ∀ l t, f { l with recorded := t } = f l) : reg'.layers.map f = reg.layers.map f := by
  rcases h.cases with ⟨-, hlayers, -⟩ | ⟨b, x, heq, hask⟩
  · rw [hlayers]
  · cases heq
    exact Registry.map_layers_take (fun ls heq => hset ls (by rw [heq])) hask hf

/-- What is current stays so, or the layer that makes it otherwise is just being published. -/
theorem isCurrent (h : Turn r ms i a answer s s' reg reg')
    (hrec : ∀ l ∈ reg.layers, l.recorded = data l.source)
    (hspare : ∀ us, a = .registry r (.evictChanged us) → ∀ u ∈ us, u.1 = key → u.2 = x)
    (hx : IsCurrent data r ms reg.layers key x) :
    IsCurrent data r (⟨i, .act a, s⟩ :: ms) reg'.layers key x := by
  by_cases hset : ∃ new, a = .registry r (.setLayers new)
  · obtain ⟨_, rfl⟩ := hset
    obtain ⟨l, ls, hold, rfl, -⟩ := h.lawful
    rcases h.settle hrec hspare hx with hx | ⟨j, old, hj, hpub, -⟩
    · refine .inr ⟨i, ls, ⟨l, history i ms, history_cons_act h.take, hold⟩, ?_⟩
      rw [hx, h.layers_of_hold hold]
    · obtain ⟨new, hold'⟩ := hpub.hold
      obtain ⟨tasks, hsound⟩ := h.sound
      exact absurd (hsound.alone j i r _ _ hold' hold) hj
  · push Not at hset
    rcases h.settle hrec hspare hx with hx | ⟨j, old, hj, hpub, hx⟩
    · left
      rw [hx, View.ofData, View.ofData, h.map_layers hset fun _ _ => rfl]
    · refine .inr ⟨j, old, ?_, hx⟩
      rw [history_cons_of_ne hj.symm]
      exact hpub

/-- A layer was there before, or it is just being published. -/
theorem mem_layers (h : Turn r ms i a answer s s' reg reg') {l' : Layer} (hl' : l' ∈ reg'.layers) :
    (∃ l ∈ reg.layers, l.source = l'.source ∧ l.isMutable = l'.isMutable) ∨
      ∃ new, a = .registry r (.setLayers new) ∧ l' ∈ new ∧ l' ∉ s.layersOf r := by
  rw [Session.layersOf_eq h.before]
  by_cases hset : ∃ new, a = .registry r (.setLayers new)
  · obtain ⟨new, rfl⟩ := hset
    cases h.take_registry
    by_cases hl : l' ∈ reg.layers
    · exact .inl ⟨l', hl, rfl, rfl⟩
    · exact .inr ⟨new, rfl, hl', hl⟩
  · push Not at hset
    left
    have hmem := List.mem_map_of_mem (f := fun l : Layer => (l.source, l.isMutable)) hl'
    rw [h.map_layers hset fun _ _ => rfl] at hmem
    obtain ⟨l, hl, heq⟩ := List.mem_map.1 hmem
    exact ⟨l, hl, congrArg Prod.fst heq, congrArg Prod.snd heq⟩

/-- No layer goes. -/
theorem exists_layer (h : Turn r ms i a answer s s' reg reg') {l : Layer} (hl : l ∈ reg.layers) :
    ∃ l' ∈ reg'.layers, l'.source = l.source := by
  by_cases hset : ∃ new, a = .registry r (.setLayers new)
  · obtain ⟨_, rfl⟩ := hset
    cases h.take_registry
    obtain ⟨l', ls, hold, rfl, -⟩ := h.lawful
    rw [h.layers_of_hold hold] at hl
    exact ⟨l, Layer.mem_insert.2 (.inr hl), rfl⟩
  · push Not at hset
    have hmem := List.mem_map_of_mem (f := Layer.source) hl
    rw [← h.map_layers hset fun _ _ => rfl] at hmem
    exact List.mem_map.1 hmem

theorem epoch_le (h : Turn r ms i a answer s s' reg reg') :
    reg.cache.epoch ≤ reg'.cache.epoch := by
  rcases h.cases with ⟨-, -, hcache⟩ | ⟨b, x, -, hask⟩
  · exact Nat.le_of_eq (congrArg Cache.epoch hcache).symm
  · exact (Registry.take_mono hask).2

/-- The epoch of a reading was begun before it was read. -/
theorem le_of_epoch (h : Turn r ms i a answer s s' reg reg') {n : Nat}
    (hmem : (⟨.registry r .epoch, n⟩ : Fact) ∈ history j ms) : n ≤ reg.cache.epoch := by
  obtain ⟨tasks, hsound⟩ := h.sound
  obtain ⟨reg₁, hreg₁, hle⟩ := hsound.epoch_le j r n hmem
  obtain rfl := Option.some.inj (h.before.symm.trans hreg₁)
  exact hle

/-- An epoch that has just begun was not read before any layers. -/
theorem le_of_reading (h : Turn r ms i a answer s s' reg reg') {n : Nat} {new before : History}
    {ls : List Layer} (heq : history j (⟨i, .act a, s⟩ :: ms) =
      new ++ ⟨.registry r .layers, ls⟩ :: ⟨.registry r .epoch, n⟩ :: before) :
    n ≤ reg.cache.epoch := by
  refine h.le_of_epoch (j := j) ?_
  by_cases hj : i = j
  · subst hj
    rw [history_cons_act h.take] at heq
    cases new with
    | nil =>
      rw [(List.cons.inj heq).2]
      exact List.mem_cons_self
    | cons f new =>
      rw [(List.cons.inj heq).2]
      exact List.mem_append_right _ (List.mem_cons_of_mem _ List.mem_cons_self)
  · rw [history_cons_of_ne hj] at heq
    rw [heq]
    exact List.mem_append_right _ (List.mem_cons_of_mem _ List.mem_cons_self)

/-- A lookup is answered from the data. -/
theorem lookup_eq {n : SourceId} {value : Option String} {script : Script}
    (h : Turn r ms i a answer s s' reg reg') (hdata : s'.Holds data reg'.layers)
    (hfact : (⟨.lookup n key, (.ok value, script)⟩ : Fact) = ⟨a, answer⟩)
    (hsource : ∃ l ∈ reg'.layers, l.source = n) : value = (data n).get? key := by
  cases hfact
  obtain ⟨l, hl, rfl⟩ := hsource
  have htake : s.lookup l.source key = ((.ok value, script), s') := Option.some.inj h.take
  obtain ⟨t, ht, hvalue⟩ := Session.lookup_eq_ok (s := s) (v := value)
    (congrArg (·.1.1) htake)
  rw [htake, hdata l hl, Option.some.injEq] at ht
  rw [hvalue, ht]

/-- A snapshot is of the data. -/
theorem snapshot_eq {n : SourceId} {t : Snapshot} {script : Script}
    (h : Turn r ms i a answer s s' reg reg') (hdata : s'.Holds data reg'.layers)
    (hfact : (⟨.snapshot n, (.ok t, script)⟩ : Fact) = ⟨a, answer⟩)
    (hsource : ∃ l ∈ reg'.layers, l.source = n) : t = data n := by
  cases hfact
  obtain ⟨l, hl, rfl⟩ := hsource
  have htake : s.snapshot l.source = ((.ok t, script), s') := Option.some.inj h.take
  have ht := Session.contents_snapshot_ok (s := s) (t := t) (congrArg (·.1.1) htake)
  rw [htake, hdata l hl, Option.some.injEq] at ht
  exact ht.symm

end Turn

/-! ### What an action preserves -/

/-- What a reader has found out stays current unless a registration evicts something. -/
theorem Reads.act {data : SourceId → Snapshot} {r : RegistryId} {ms : List Moment} {i : Nat}
    {a : Action} {answer : a.Answer} {s s' : Session} {reg reg' : Registry} {ls : List Layer}
    {new : History} (hreads : Reads data r ms reg.layers ls new)
    (h : Turn r ms i a answer s s' reg reg') (hrec : ∀ l ∈ reg.layers, l.recorded = data l.source)
    (hspare : ∀ us, a ≠ .registry r (.evictChanged us)) :
    Reads data r (⟨i, .act a, s⟩ :: ms) reg'.layers ls new := by
  refine ⟨fun key => ?_, fun l hl => ?_, hreads.lookup⟩
  · exact h.isCurrent hrec (fun us heq => absurd heq (hspare us)) (hreads.isCurrent key)
  · obtain ⟨l₁, hl₁, hsource⟩ := hreads.source l hl
    obtain ⟨l₂, hl₂, hsource'⟩ := h.exists_layer hl₁
    exact ⟨l₂, hl₂, hsource'.trans hsource⟩

namespace Fresh

variable {data : SourceId → Snapshot} {r : RegistryId} {ms : List Moment} {i : Nat} {a : Action}
  {answer : a.Answer} {s s' : Session} {reg reg' : Registry}

/-- Only data are recorded. -/
theorem recorded_act (hf : Fresh data r ms reg) (h : Turn r ms i a answer s s' reg reg')
    (hnew : Registers data r ms ⟨i, .act a, s⟩) :
    ∀ l ∈ reg'.layers, l.recorded = data l.source := by
  rcases h.cases with ⟨-, hlayers, -⟩ | ⟨b, x, heq, hask⟩
  · rw [hlayers]
    exact hf.recorded
  cases heq
  cases b with
  | setLayers new =>
    cases hask
    obtain ⟨l, ls, hold, rfl, hnames, -, y, script, hmem, hy⟩ := h.lawful
    have hlayers := h.layers_of_hold hold
    intro l' hl'
    rcases Layer.mem_insert.1 hl' with rfl | hl'
    · refine hy _ (hnew _ rfl l' hl' (fun hl => ?_) y (mem_answers hmem))
      rw [Session.layersOf_eq h.before, hlayers] at hl
      exact (hnames l' hl).1 rfl
    · exact hf.recorded l' (by rw [hlayers]; exact hl')
  | record seq t =>
    cases hask
    obtain ⟨l, ls, hold, hl, rfl, hmutable, y, script, hmem, hy⟩ := h.lawful
    have hlayers := h.layers_of_hold hold
    rw [← hlayers] at hl
    obtain rfl : y = .ok t := by
      cases y with
      | error e => cases hy
      | ok t' => rw [Option.some.inj hy]
    have ht := hf.taken i _ hold l hl hmutable t script hmem
    obtain ⟨tasks, hsound⟩ := h.sound
    have hseqs := (hsound.numbered reg (List.mem_of_getElem? h.before)).seqs
    intro l₁ hl₁
    obtain ⟨l₂, hl₂, rfl⟩ := List.mem_map.1 hl₁
    split
    · rename_i hseq
      obtain rfl := List.inj_on_of_nodup_map hseqs hl₂ hl hseq
      exact ht
    · exact hf.recorded l₂ hl₂
  | _ =>
    rw [Registry.layers_take (fun _ heq => by cases heq) (fun _ _ heq => by cases heq) hask]
    exact hf.recorded

/-- What is taken to be recorded are the data. -/
theorem taken_act (hf : Fresh data r ms reg) (h : Turn r ms i a answer s s' reg reg')
    (hnew : Registers data r ms ⟨i, .act a, s⟩)
    (hdata : s'.Holds data reg'.layers) (j : Nat) (x : Option (List Layer))
    (hold : hold r (history j (⟨i, .act a, s⟩ :: ms)) = some x) (l' : Layer)
    (hl' : l' ∈ reg'.layers) (hmutable : l'.isMutable = true) (t : Snapshot) (script : Script)
    (hmem : (⟨.snapshot l'.source, (.ok t, script)⟩ : Fact) ∈
      since r (history j (⟨i, .act a, s⟩ :: ms))) : t = data l'.source := by
  by_cases hj : i = j
  · subst hj
    rw [history_cons_act h.take] at hold hmem
    cases hlock : Fact.isLock r ⟨a, answer⟩ with
    | true =>
      rw [since, if_pos hlock] at hmem
      exact absurd hmem List.not_mem_nil
    | false =>
      rw [since_cons_of_not_isLock hlock] at hmem
      rcases List.mem_cons.1 hmem with hfact | hmem
      · exact h.snapshot_eq hdata hfact ⟨l', hl', rfl⟩
      · obtain ⟨y, hold⟩ := exists_of_know hlock hold
        rcases h.mem_layers hl' with ⟨l, hl, hsource, hmut⟩ | ⟨new, hset, hin, hnot⟩
        · rw [← hsource] at hmem ⊢
          exact hf.taken i y hold l hl (hmut.trans hmutable) t script hmem
        · exact Except.ok.inj (hnew new (by rw [hset]) l' hin hnot _ (mem_answers hmem))
  · rw [history_cons_of_ne hj] at hold hmem
    rcases h.mem_layers hl' with ⟨l, hl, hsource, hmut⟩ | ⟨new, hset, -⟩
    · rw [← hsource] at hmem ⊢
      exact hf.taken j x hold l hl (hmut.trans hmutable) t script hmem
    · subst hset
      obtain ⟨l, ls, hold', -⟩ := h.lawful
      obtain ⟨tasks, hsound⟩ := h.sound
      exact absurd (hsound.alone i j r _ x hold' hold) hj

/-- Only what is current is put into the cache. -/
theorem entry_act (hf : Fresh data r ms reg) (h : Turn r ms i a answer s s' reg reg')
    (key : String) (e : CacheEntry) (he : reg'.cache.entries.get? key = some e) :
    IsCurrent data r (⟨i, .act a, s⟩ :: ms) reg'.layers key e.resolved := by
  suffices hold : IsCurrent data r ms reg.layers key e.resolved ∧
      ∀ us, a = .registry r (.evictChanged us) → ∀ u ∈ us, u.1 = key → u.2 = e.resolved from
    h.isCurrent hf.recorded hold.2 hold.1
  rcases h.cases with ⟨hne, -, hcache⟩ | ⟨b, x, heq, hask⟩
  · rw [hcache] at he
    exact ⟨hf.entry key e he, fun us heq => absurd heq (hne _)⟩
  cases heq
  cases b with
  | fill k y n =>
    refine ⟨?_, fun us heq => by cases heq⟩
    cases hask
    rcases Cache.get?_fill he with he | ⟨rfl, hy, rfl, -⟩
    · exact hf.entry key e he
    · obtain ⟨new, ls, before, heq, hconsulted⟩ := h.lawful
      have hreads := hf.reading i new ls before heq
      rw [hy, hconsulted.eq_resolve fun l hl value script => hreads.lookup l hl key value script]
      exact hreads.isCurrent key
  | evictChanged us =>
    cases hask
    obtain ⟨he, hspare⟩ := Cache.get?_evictChanged.1 he
    refine ⟨hf.entry key e he, fun us' heq => ?_⟩
    cases heq
    exact hspare
  | evictStale v =>
    cases hask
    exact ⟨hf.entry key e (Cache.get?_evictStale.1 he).1, fun us heq => by cases heq⟩
  | invalidate k =>
    cases hask
    refine ⟨?_, fun us heq => by cases heq⟩
    cases k with
    | none => exact absurd (Cache.get?_invalidate_none.symm.trans he) (by simp)
    | some k => exact hf.entry key e (Cache.get?_invalidate_some.1 he).1
  | lock =>
    simp only [Registry.take] at hask
    split at hask <;> cases hask
    exact ⟨hf.entry key e he, fun us heq => by cases heq⟩
  | _ =>
    cases hask
    exact ⟨hf.entry key e he, fun us heq => by cases heq⟩

/-- What readers have found out in the present epoch is current. -/
theorem reading_act (hf : Fresh data r ms reg) (h : Turn r ms i a answer s s' reg reg')
    (hdata : s'.Holds data reg'.layers) (j : Nat) (new : History) (ls : List Layer)
    (before : History) (heq : history j (⟨i, .act a, s⟩ :: ms) = new ++ ⟨.registry r .layers, ls⟩ ::
      ⟨.registry r .epoch, reg'.cache.epoch⟩ :: before) :
    Reads data r (⟨i, .act a, s⟩ :: ms) reg'.layers ls new := by
  have hepoch := Nat.le_antisymm h.epoch_le (h.le_of_reading heq)
  have hspare : ∀ us, a ≠ .registry r (.evictChanged us) := by
    rintro us rfl
    cases h.take_registry
    exact absurd hepoch (Nat.ne_of_lt (Nat.lt_succ_self _))
  rw [← hepoch] at heq
  by_cases hj : i = j
  · subst hj
    rw [history_cons_act h.take] at heq
    cases new with
    | nil =>
      cases (List.cons.inj heq).1
      cases h.take_registry
      exact ⟨fun key => .inl rfl, fun l hl => ⟨l, hl, rfl⟩,
        fun _ _ _ _ _ hmem => absurd hmem List.not_mem_nil⟩
    | cons f new =>
      obtain ⟨hfact, hrest⟩ := List.cons.inj heq
      have hreads := (hf.reading i new ls before hrest).act h hf.recorded hspare
      refine ⟨hreads.isCurrent, hreads.source, fun l hl key value script hmem => ?_⟩
      rcases List.mem_cons.1 hmem with hmem | hmem
      · exact h.lookup_eq hdata (hmem.trans hfact.symm) (hreads.source l hl)
      · exact hreads.lookup l hl key value script hmem
  · rw [history_cons_of_ne hj] at heq
    exact (hf.reading j new ls before heq).act h hf.recorded hspare

theorem act (hf : Fresh data r ms reg) (h : Turn r ms i a answer s s' reg reg')
    (hnew : Registers data r ms ⟨i, .act a, s⟩)
    (hdata : s'.Holds data reg'.layers) : Fresh data r (⟨i, .act a, s⟩ :: ms) reg' :=
  ⟨hf.recorded_act h hnew, hf.taken_act h hnew hdata, hf.entry_act h, hf.reading_act h hdata⟩

theorem run (hf : Fresh data r ms reg) (script : Script) :
    Fresh data r (⟨i, .run script, s⟩ :: ms) reg := by
  have hhistory : ∀ j, history j (⟨i, .run script, s⟩ :: ms) = history j ms := fun j =>
    history_cons_run
  have hcurrent : ∀ {ls key x}, IsCurrent data r ms ls key x →
      IsCurrent data r (⟨i, .run script, s⟩ :: ms) ls key x := by
    simp only [IsCurrent, hhistory, imp_self, implies_true]
  refine ⟨hf.recorded, ?_, fun key e he => hcurrent (hf.entry key e he), ?_⟩
  · simpa only [hhistory] using hf.taken
  · intro j new ls before heq
    rw [hhistory] at heq
    have hreads := hf.reading j new ls before heq
    exact ⟨fun key => hcurrent (hreads.isCurrent key), hreads.source, hreads.lookup⟩

end Fresh

/-! ### Refreshes and what comes after them -/

/-- A moment at which a refresh evicts what it does not confirm. All snapshots that were taken since
it locked the registry have succeeded and gave the data; other sources were found to hold what is
recorded of them. -/
structure Refreshes (data : SourceId → Snapshot) (r : RegistryId) (earlier : List Moment)
    (e : Moment) : Prop where
  evicts : ∃ view, e.step = .act (.registry r (.evictStale view))
  answered : ∀ l ∈ e.session.layersOf r, l.isMutable = true →
    ∀ x ∈ answers l.source (since r (history e.task earlier)), x = .ok (data l.source)
  fixed : ∀ l ∈ e.session.layersOf r, l.isMutable = false → l.recorded = data l.source

section Refresh

variable {data : SourceId → Snapshot} {r : RegistryId} {ms : List Moment} {i : Nat}

/-- After the eviction of a refresh everything is fresh. -/
theorem Fresh.of_evictStale {s s' : Session} {reg reg' : Registry} {view : View}
    {answer : List String}
    (h : Turn r ms i (.registry r (.evictStale view)) answer s s' reg reg')
    (hrefresh : Refreshes data r ms ⟨i, .act (.registry r (.evictStale view)), s⟩) :
    Fresh data r (⟨i, .act (.registry r (.evictStale view)), s⟩ :: ms) reg' := by
  obtain ⟨ls, hold, rfl, hsnapped⟩ := h.lawful
  obtain rfl := h.layers_of_hold hold
  have hmutable := hrefresh.answered
  have hfixed := hrefresh.fixed
  simp only [Session.layersOf_eq h.before] at hmutable hfixed
  have hrec : ∀ l ∈ reg.layers, l.recorded = data l.source := by
    intro l hl
    cases hm : l.isMutable with
    | true =>
      obtain ⟨x, script, hmem, hx⟩ := hsnapped l hl hm
      exact hx _ (hmutable l hl hm x (mem_answers hmem))
    | false => exact hfixed l hl hm
  cases h.take_registry
  refine ⟨hrec, fun j y hold' l hl hm t script hmem => ?_, fun key e he => ?_,
    fun j new ls before heq => ?_⟩
  · by_cases hj : i = j
    · subst hj
      rw [history_cons_act h.take, since_cons_of_not_isLock rfl] at hmem
      rcases List.mem_cons.1 hmem with hfact | hmem
      · cases hfact
      · exact Except.ok.inj (hmutable l hl hm _ (mem_answers hmem))
    · rw [history_cons_of_ne hj] at hold'
      obtain ⟨tasks, hsound⟩ := h.sound
      exact absurd (hsound.alone i j r _ y hold hold') hj
  · left
    rw [← View.recorded_eq_ofData hrec]
    exact (Cache.get?_evictStale.1 he).2
  · exact absurd (h.le_of_reading heq) (Nat.not_succ_le_self _)

/-- A task takes its next action. -/
theorem exists_turn {s s' : Session} {tasks : List (Task Unit)} {a : Action} {answer : a.Answer}
    {next : a.Answer → Task Unit} {reg : Registry} (hsound : Sound ms ⟨s, tasks⟩)
    (ht : tasks[i]? = some (.step (.act a) next)) (htake : s.take a = some (answer, s'))
    (hreg : s.registries[r]? = some reg) : ∃ reg', Turn r ms i a answer s s' reg reg' := by
  obtain ⟨hlaw, hdue⟩ := hsound.contract ht
  suffices hreg' : ∃ reg', s'.registries[r]? = some reg' by
    obtain ⟨reg', hreg'⟩ := hreg'
    exact ⟨reg', ⟨tasks, hsound⟩, hlaw, hdue, htake, hreg, hreg'⟩
  by_cases ha : ∀ r b, a ≠ .registry r b
  · obtain ⟨listeners, hreg'⟩ := (sameRegistries_take ha htake).kept r reg hreg
    exact ⟨_, hreg'⟩
  · push Not at ha
    obtain ⟨r₁, b, rfl⟩ := ha
    obtain ⟨reg₁, reg₂, hreg₁, hask, rfl⟩ := Session.exists_registry_take htake
    obtain ⟨reg', hreg', -⟩ := Session.mono_setRegistry hreg₁ hask hreg
    exact ⟨reg', hreg'⟩

/-- What is fresh stays so, whatever happens, while the sources keep their data. -/
theorem Fresh.step {m m' : Machine Unit} {step : TaskStep} {reg : Registry}
    (hf : Fresh data r ms reg) (hsound : Sound ms m) (hreg : m.session.registries[r]? = some reg)
    (hpend : (m.tasks[i]?).bind Task.pending? = some step) (hadv : m.advance i = some m')
    (hnew : Registers data r ms ⟨i, step, m.session⟩)
    (hdata : m'.session.Holds data (m'.session.layersOf r)) :
    ∃ reg', m'.session.registries[r]? = some reg' ∧
      Fresh data r (⟨i, step, m.session⟩ :: ms) reg' := by
  obtain ⟨s, tasks⟩ := m
  rcases advance_cases hpend hadv with ⟨a, answer, next, s', ht, rfl, htake, rfl⟩ |
    ⟨script, next, ht, rfl, rfl⟩
  · obtain ⟨reg', hturn⟩ := exists_turn hsound ht htake hreg
    rw [Session.layersOf_eq hturn.after] at hdata
    exact ⟨reg', hturn.after, hf.act hturn hnew hdata⟩
  · exact ⟨reg, hreg, hf.run script⟩

variable {s : Session} {scripts : List Script} {earlier : List Moment} {e : Moment}

/-- From a refresh on everything is fresh. -/
theorem fresh_of_refresh (hs : ∀ reg ∈ s.registries, reg.IsNumbered)
    (hrefresh : Refreshes data r earlier e) : ∀ {later : List Moment} {m : Machine Unit},
    Machine.Run ⟨s, scripts.map Script.task⟩ (later ++ e :: earlier) m →
    (∀ after m' before, later = after ++ m' :: before →
      Registers data r (before ++ e :: earlier) m') →
    (∀ s' ∈ m.session :: later.map (·.session), s'.Holds data (s'.layersOf r)) →
    ∃ reg, m.session.registries[r]? = some reg ∧ Fresh data r (later ++ e :: earlier) reg
  | [], m, hrun, _, _ => by
    obtain ⟨view, hevicts⟩ := hrefresh.evicts
    cases hrun with
    | @step _ m₁ _ i step hrun hpend hadv =>
      obtain rfl : step = .act (.registry r (.evictStale view)) := hevicts
      have hsound := sound_run hs hrun
      obtain ⟨s₁, tasks⟩ := m₁
      rcases advance_cases hpend hadv with ⟨a, answer, next, s', ht, heq, htake, rfl⟩ |
        ⟨script, next, -, heq, -⟩
      · cases heq
        obtain ⟨reg, -, hreg, -⟩ := Session.exists_registry_take htake
        obtain ⟨reg', hturn⟩ := exists_turn hsound ht htake hreg
        exact ⟨reg', hturn.after, .of_evictStale hturn hrefresh⟩
      · cases heq
  | m' :: later, m, hrun, hlater, hdata => by
    cases hrun with
    | @step _ m₁ _ i step hrun hpend hadv =>
      have hdata' := fun s' hs' => hdata s' (List.mem_cons_of_mem _ hs')
      obtain ⟨reg, hreg, hf⟩ := fresh_of_refresh hs hrefresh hrun
        (fun after m' before heq => hlater (_ :: after) m' before (by rw [heq]; rfl)) hdata'
      exact hf.step (sound_run hs hrun) hreg hpend hadv (hlater [] _ later rfl)
        (hdata _ List.mem_cons_self)

end Refresh

/-- Tasks that run scripts take turns in any order, one action at a time. Once a refresh has evicted
what it does not confirm, and while the sources of the registry keep the data that it found, or that
their registrations found since, every entry of the cache is what its key resolves to by the data of
the sources, no matter when the reader began that has put it in. A registration takes effect with
its eviction: between putting in its layer and evicting what this changes, an entry may be what its
key resolves to without the layer. -/
theorem live_of_refresh {s : Session} {scripts : List Script} {earlier later : List Moment}
    {e : Moment} {m : Machine Unit} {r : RegistryId} {data : SourceId → Snapshot}
    (hs : ∀ reg ∈ s.registries, reg.IsNumbered)
    (hrun : Machine.Run ⟨s, scripts.map Script.task⟩ (later ++ e :: earlier) m)
    (hrefresh : Refreshes data r earlier e)
    (hlater : ∀ after m' before, later = after ++ m' :: before →
      Registers data r (before ++ e :: earlier) m')
    (hdata : ∀ s' ∈ m.session :: later.map (·.session), s'.Holds data (s'.layersOf r)) :
    ∃ reg, m.session.registries[r]? = some reg ∧ ∀ key entry,
      reg.cache.entries.get? key = some entry →
      m.session.live key reg.layers = some entry.resolved ∨
        ∃ i old, Publishes r old (history i (later ++ e :: earlier)) ∧
          m.session.live key old = some entry.resolved := by
  obtain ⟨reg, hreg, hf⟩ := fresh_of_refresh hs hrefresh hrun hlater hdata
  have hholds := hdata _ List.mem_cons_self
  rw [Session.layersOf_eq hreg] at hholds
  refine ⟨reg, hreg, fun key entry hentry => ?_⟩
  rcases hf.entry key entry hentry with hx | ⟨i, old, hpub, hx⟩
  · left
    rw [View.live_of_holds hholds, hx]
  · obtain ⟨l, hold⟩ := hpub.hold
    obtain ⟨-, hls⟩ := (sound_run hs hrun).true_of_hold hreg hold
    have hholds' : m.session.Holds data old := by
      intro l' hl'
      refine hholds l' ?_
      rw [hls _ rfl]
      exact Layer.mem_insert.2 (.inr hl')
    exact .inr ⟨i, old, hpub, by rw [View.live_of_holds hholds', hx]⟩

/-- Whether a step evicts what a refresh of a registry does not confirm. -/
def TaskStep.evictsStale (r : RegistryId) : TaskStep → Bool
  | .act (.registry r' (.evictStale _)) => r' = r
  | _ => false

theorem TaskStep.eq_of_evictsStale {r : RegistryId} {step : TaskStep}
    (h : step.evictsStale r = true) : ∃ view, step = .act (.registry r (.evictStale view)) := by
  unfold evictsStale at h
  split at h
  · rw [of_decide_eq_true h]
    exact ⟨_, rfl⟩
  · cases h

/-- Whether a step publishes layers of a registry. -/
def TaskStep.publishes (r : RegistryId) : TaskStep → Bool
  | .act (.registry r' (.setLayers _)) => r' = r
  | _ => false

/-- Whether a run ends with the eviction of a refresh that has renewed all layers is computed. -/
theorem exists_refreshes {data : SourceId → Snapshot} {r : RegistryId} {ms : List Moment} {i : Nat}
    {ns : List SourceId} (hhead : (ms.head?.map fun e => (e.step.evictsStale r, e.task,
      (e.session.layersOf r).map fun l => (l.source, l.isMutable))) =
      some (true, i, ns.map fun n => (n, true)))
    (htail : ∀ n ∈ ns, answers n (since r (history i ms.tail)) = [.ok (data n)]) :
    ∃ e earlier, ms = e :: earlier ∧ Refreshes data r earlier e := by
  obtain ⟨e, hhead', hmap⟩ := Option.map_eq_some_iff.1 hhead
  obtain ⟨earlier, rfl⟩ := List.head?_eq_some_iff.1 hhead'
  simp only [Prod.mk.injEq] at hmap
  obtain ⟨hevicts, rfl, hlayers⟩ := hmap
  have hmem : ∀ l ∈ e.session.layersOf r, l.source ∈ ns ∧ l.isMutable = true := by
    intro l hl
    have hl' := List.mem_map_of_mem (f := fun l : Layer => (l.source, l.isMutable)) hl
    rw [hlayers] at hl'
    obtain ⟨n, hn, heq⟩ := List.mem_map.1 hl'
    obtain ⟨rfl, hm⟩ := Prod.mk.inj heq
    exact ⟨hn, hm.symm⟩
  refine ⟨e, earlier, rfl, TaskStep.eq_of_evictsStale hevicts, fun l hl _ x hx => ?_,
    fun l hl hm => ?_⟩
  · rw [List.tail_cons] at htail
    rw [htail _ (hmem l hl).1, List.mem_singleton] at hx
    exact hx
  · rw [(hmem l hl).2] at hm
    cases hm

/-- A map that is registered, and a refresh. -/
def refreshedMap : Script :=
  ⟨"writer", [.make "m" (.map { name := "m", values := .ofList [("k", "v")] }) (some 0), .refresh]⟩

/-- A key that is resolved twice. -/
def twoReadings : Script := ⟨"reader", [.resolve "k", .resolve "k"]⟩

/-- A reader that has asked the map before the refresh evicts is left without an entry; it reads
once more, and the entry that it puts in is what the map holds. -/
theorem live_of_refresh_of_reader : ∃ later e earlier m reg entry,
    Machine.Run ⟨{}, [refreshedMap, twoReadings].map Script.task⟩ (later ++ e :: earlier) m ∧
    Refreshes (fun _ => .ofList [("k", "v")]) 0 earlier e ∧ (history 1 earlier).length = 5 ∧
    m.session.registries[0]? = some reg ∧ reg.cache.entries.get? "k" = some entry ∧
    entry.resolved = some ⟨"v", "m"⟩ ∧
    (m.session.live "k" reg.layers = some entry.resolved ∨
      ∃ i old, Publishes 0 old (history i (later ++ e :: earlier)) ∧
        m.session.live "k" old = some entry.resolved) := by
  let start : Machine Unit := ⟨{}, [refreshedMap, twoReadings].map Script.task⟩
  let t : Snapshot := .ofList [("k", "v")]
  let x := start.follow [] (List.replicate 15 0 ++ List.replicate 5 1 ++ List.replicate 7 0)
  let y := x.2.follow [] (List.replicate 8 1)
  have hhead : (x.1.head?.map fun e => (e.step.evictsStale 0, e.task,
      (e.session.layersOf 0).map fun l => (l.source, l.isMutable))) =
      some (true, 0, [(0, true)]) := by decide +kernel
  have htail : ∀ n ∈ [0], answers n (since 0 (history 0 x.1.tail)) = [.ok t] := by
    decide +kernel
  have hlength : (history 1 x.1.tail).length = 5 := by decide +kernel
  have hquiet : ∀ m' ∈ y.1, m'.step.publishes 0 = false := by decide +kernel
  have hdata : ∀ s' ∈ y.2.session :: y.1.map (·.session), ∀ l ∈ s'.layersOf 0,
      s'.contents l.source = some t := by decide +kernel
  have hentry : (y.2.session.registries[0]?).map (fun reg =>
      (reg.cache.entries.get? "k").map (·.resolved)) = some (some (some ⟨"v", "m"⟩)) := by
    decide +kernel
  have hx : start.Run x.1 x.2 := Machine.run_follow _ .start
  have hy : x.2.Run y.1 y.2 := Machine.run_follow _ .start
  generalize x.1 = ms at hhead htail hlength hx
  obtain ⟨e, earlier, rfl, hrefresh⟩ :
      ∃ e earlier, ms = e :: earlier ∧ Refreshes (fun _ => t) 0 earlier e :=
    exists_refreshes hhead htail
  have hlater : ∀ after m' before, y.1 = after ++ m' :: before →
      Registers (fun _ => t) 0 (before ++ e :: earlier) m' := by
    intro after m' before heq new hstep
    have hm' := hquiet m' (by rw [heq]; simp)
    rw [hstep] at hm'
    cases hm'
  have hnumbered : ∀ reg ∈ start.session.registries, reg.IsNumbered := by
    intro reg hreg
    rw [List.mem_singleton.1 hreg]
    exact Registry.isNumbered_empty
  obtain ⟨reg, hreg, hlive⟩ := live_of_refresh hnumbered (hx.trans hy) hrefresh hlater hdata
  rw [hreg, Option.map_some, Option.some.injEq, Option.map_eq_some_iff] at hentry
  obtain ⟨entry, hget, hresolved⟩ := hentry
  exact ⟨_, e, earlier, _, reg, entry, hx.trans hy, hrefresh, hlength, hreg, hget, hresolved,
    hlive "k" entry hget⟩

/-- A run of scripts with a refresh, after which the sources keep the data that it found, or that
their registrations found since. -/
def RunsAfterRefresh (data : SourceId → Snapshot) (r : RegistryId) (scripts : List Script)
    (m : Machine Unit) : Prop :=
  ∃ later e earlier, Machine.Run ⟨{}, scripts.map Script.task⟩ (later ++ e :: earlier) m ∧
    Refreshes data r earlier e ∧
    (∀ after m' before, later = after ++ m' :: before →
      Registers data r (before ++ e :: earlier) m') ∧
    ∀ s' ∈ m.session :: later.map (·.session), s'.Holds data (s'.layersOf r)

/-- A map that is registered and refreshed, a key of it that is resolved, and another map with that
key, which is registered in front of it. -/
def overtakenMap : Script :=
  ⟨"writer", [.make "m" (.map { name := "m", values := .ofList [("k", "v")] }) (some 0), .refresh,
    .resolve "k",
    .make "n" (.map { name := "n", values := .ofList [("k", "w")] }) (some (-10))]⟩

/-- What the two maps hold. -/
def overtakenData (n : SourceId) : Snapshot :=
  if n = 0 then .ofList [("k", "v")] else .ofList [("k", "w")]

/-- The sources of the layers that a step publishes. -/
def TaskStep.published : TaskStep → List SourceId
  | .act (.registry _ (.setLayers new)) => new.map (·.source)
  | _ => []

/-- The other map has been put in, and what this changes has not been evicted yet. -/
theorem exists_run_overtakenMap : ∃ m reg entry,
    RunsAfterRefresh overtakenData 0 [overtakenMap] m ∧ m.session.registries[0]? = some reg ∧
    reg.cache.entries.get? "k" = some entry ∧ entry.resolved = some ⟨"v", "m"⟩ ∧
    m.session.live "k" reg.layers = some (some ⟨"w", "n"⟩) := by
  let start : Machine Unit := ⟨{}, [overtakenMap].map Script.task⟩
  let x := start.follow [] (List.replicate 22 0)
  let y := x.2.follow [] (List.replicate 19 0)
  let z := y.2.follow [] [0]
  have hhead : (x.1.head?.map fun e => (e.step.evictsStale 0, e.task,
      (e.session.layersOf 0).map fun l => (l.source, l.isMutable))) =
      some (true, 0, [0].map fun n => (n, true)) := by decide +kernel
  have htail : ∀ n ∈ [0], answers n (since 0 (history 0 x.1.tail)) = [.ok (overtakenData n)] := by
    decide +kernel
  have hquiet : ∀ m' ∈ y.1, m'.step.publishes 0 = false := by decide +kernel
  have hput : z.1.map (fun m' => (m'.task, m'.step.published)) = [(0, [1, 0])] := by
    decide +kernel
  have hasked : ∀ n ∈ [1, 0], ∀ a ∈ answers n (since 0 (history 0 (y.1 ++ x.1))),
      a = .ok (overtakenData n) := by decide +kernel
  have hdata : ∀ s' ∈ z.2.session :: (z.1 ++ y.1).map (·.session), ∀ l ∈ s'.layersOf 0,
      s'.contents l.source = some (overtakenData l.source) := by decide +kernel
  have hentry : z.2.session.registries.map (fun reg =>
      ((reg.cache.entries.get? "k").map (·.resolved), z.2.session.live "k" reg.layers)) =
      [(some (some ⟨"v", "m"⟩), some (some ⟨"w", "n"⟩))] := by
    decide +kernel
  have hx : start.Run x.1 x.2 := Machine.run_follow _ .start
  have hy : x.2.Run y.1 y.2 := Machine.run_follow _ .start
  have hz : y.2.Run z.1 z.2 := Machine.run_follow _ .start
  generalize x.1 = ms at hhead htail hasked hx
  generalize y.1 = waiting at hquiet hasked hdata hy
  generalize z.1 = putting at hput hdata hz
  obtain ⟨e, earlier, rfl, hrefresh⟩ := exists_refreshes hhead htail
  obtain ⟨p, rfl, hpair⟩ := List.map_eq_singleton_iff.1 hput
  obtain ⟨htask, hpublished⟩ := Prod.mk.inj hpair
  have hlater : ∀ after m' before, [p] ++ waiting = after ++ m' :: before →
      Registers overtakenData 0 (before ++ e :: earlier) m' := by
    intro after m' before heq new hstep l hl _ a ha
    rcases List.cons_eq_append_iff.1 heq with ⟨-, heq⟩ | ⟨after, -, heq⟩
    · obtain ⟨rfl, rfl⟩ := List.cons.inj heq
      rw [hstep] at hpublished
      have hsource : l.source ∈ [1, 0] := hpublished ▸ List.mem_map_of_mem hl
      exact hasked _ hsource a (htask ▸ ha)
    · have hmem : m' ∈ waiting := by
        rw [show waiting = after ++ m' :: before from heq]
        exact List.mem_append_right _ List.mem_cons_self
      have hm' := hquiet m' hmem
      rw [hstep] at hm'
      cases hm'
  obtain ⟨reg, hreg, hpair⟩ := List.map_eq_singleton_iff.1 hentry
  obtain ⟨hcached, hnow⟩ := Prod.mk.inj hpair
  obtain ⟨entry, hget, hresolved⟩ := Option.map_eq_some_iff.1 hcached
  exact ⟨z.2, reg, entry, ⟨[p] ++ waiting, e, earlier, hx.trans (hy.trans hz), hrefresh, hlater,
    hdata⟩, by rw [hreg]; rfl, hget, hresolved, hnow⟩

/-- A source that is made to fail when it is asked for a key, once the key was resolved and the
registry was refreshed. Behind it there is a map with that key. -/
def failingLookup : Script :=
  ⟨"writer", [.make "a" (.scripted "a" true { values := some (.ofList [("k", "1")]) }) (some 0),
    .make "b" (.map { name := "b", values := .ofList [("k", "2")] }) (some 10), .resolve "k",
    .refresh, .deed (.script "a" { lookupFails := some true })]⟩

/-- What the source and the map hold. -/
def failingData (n : SourceId) : Snapshot :=
  if n = 0 then .ofList [("k", "1")] else .ofList [("k", "2")]

/-- All is over, and the source fails with the data that it had. -/
theorem exists_run_failingLookup : ∃ m reg entry x s',
    RunsAfterRefresh failingData 0 [failingLookup] m ∧ m.isOver = true ∧
    m.session.registries[0]? = some reg ∧ reg.cache.entries.get? "k" = some entry ∧
    entry.resolved = some ⟨"1", "a"⟩ ∧
    m.session.run (RegistryId.consult "k" reg.layers) = some (x, s') ∧
    x.1 = some ⟨"2", "b"⟩ := by
  let start : Machine Unit := ⟨{}, [failingLookup].map Script.task⟩
  let x := start.follow [] (List.replicate 45 0)
  let y := x.2.follow [] (List.replicate 5 0)
  have hhead : (x.1.head?.map fun e => (e.step.evictsStale 0, e.task,
      (e.session.layersOf 0).map fun l => (l.source, l.isMutable))) =
      some (true, 0, [0, 1].map fun n => (n, true)) := by decide +kernel
  have htail : ∀ n ∈ [0, 1],
      answers n (since 0 (history 0 x.1.tail)) = [.ok (failingData n)] := by
    decide +kernel
  have hquiet : ∀ m' ∈ y.1, m'.step.publishes 0 = false := by decide +kernel
  have hdata : ∀ s' ∈ y.2.session :: y.1.map (·.session), ∀ l ∈ s'.layersOf 0,
      s'.contents l.source = some (failingData l.source) := by decide +kernel
  have hentry : y.2.session.registries.map (fun reg =>
      ((reg.cache.entries.get? "k").map (·.resolved),
        (y.2.session.run (RegistryId.consult "k" reg.layers)).map (·.1.1))) =
      [(some (some ⟨"1", "a"⟩), some (some ⟨"2", "b"⟩))] := by
    decide +kernel
  have hover : y.2.isOver = true := by decide +kernel
  have hx : start.Run x.1 x.2 := Machine.run_follow _ .start
  have hy : x.2.Run y.1 y.2 := Machine.run_follow _ .start
  generalize x.1 = ms at hhead htail hx
  obtain ⟨e, earlier, rfl, hrefresh⟩ := exists_refreshes hhead htail
  have hlater : ∀ after m' before, y.1 = after ++ m' :: before →
      Registers failingData 0 (before ++ e :: earlier) m' := by
    intro after m' before heq new hstep
    have hm' := hquiet m' (by rw [heq]; simp)
    rw [hstep] at hm'
    cases hm'
  obtain ⟨reg, hreg, hpair⟩ := List.map_eq_singleton_iff.1 hentry
  obtain ⟨hcached, hnow⟩ := Prod.mk.inj hpair
  obtain ⟨entry, hget, hresolved⟩ := Option.map_eq_some_iff.1 hcached
  obtain ⟨⟨a, s'⟩, hconsult, ha⟩ := Option.map_eq_some_iff.1 hnow
  exact ⟨y.2, reg, entry, a, s', ⟨y.1, e, earlier, hx.trans hy, hrefresh, hlater, hdata⟩, hover,
    by rw [hreg]; rfl, hget, hresolved, hconsult, ha⟩

/-- An entry of the cache may be other than what its key resolves to by the data of the sources,
although nothing has changed since the refresh; and when all is over it may be other than what
consulting the layers gives, as a source may fail. -/
theorem not_forall_live_of_refresh :
    (¬ ∀ data r scripts m reg key entry, RunsAfterRefresh data r scripts m →
      m.session.registries[r]? = some reg → reg.cache.entries.get? key = some entry →
      m.session.live key reg.layers = some entry.resolved) ∧
    ¬ ∀ data r scripts m reg key entry x s', RunsAfterRefresh data r scripts m → m.isOver = true →
      m.session.registries[r]? = some reg → reg.cache.entries.get? key = some entry →
      m.session.run (RegistryId.consult key reg.layers) = some (x, s') →
      x.1 = entry.resolved := by
  constructor
  · intro hlive
    obtain ⟨m, reg, entry, hrun, hreg, hget, hresolved, hnow⟩ := exists_run_overtakenMap
    have heq := hlive _ _ _ m reg "k" entry hrun hreg hget
    rw [hnow, hresolved] at heq
    exact absurd heq (by decide)
  · intro hconsult
    obtain ⟨m, reg, entry, x, s', hrun, hover, hreg, hget, hresolved, hnow, hx⟩ :=
      exists_run_failingLookup
    have heq := hconsult _ _ _ m reg "k" entry x s' hrun hover hreg hget hnow
    rw [hx, hresolved] at heq
    exact absurd heq (by decide)

end Strata
