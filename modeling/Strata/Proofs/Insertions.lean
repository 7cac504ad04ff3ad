import Strata.Proofs.Isolation
import Strata.Proofs.Ordering

/-!
What a new source changes. Among layers that are in order it comes to provide the value of a key
exactly if it has one and no layer of smaller or equal priority has one (`Layer.Wins`); all other
keys resolve as before (`resolve_insert_of_wins`, `resolve_insert_of_not_wins`). So a registration
tells of exactly these keys, and evicts exactly their entries. Listeners are called in order for
these keys, and at least those are called that are there when it begins (`exists_calls_of_notify`).
Main statement: `precise_of_register`.
-/

namespace Strata

open Session RegistryId Strata.Task

/-! ### The keys that a new layer provides -/

/-- A layer that is put in among others comes to provide the value of a key: it has one, and no
layer of smaller or equal priority has one. -/
def Layer.Wins (l : Layer) (ls : List Layer) (key : String) : Prop :=
  (l.recorded.get? key).isSome ∧ ∀ x ∈ ls, x.priority ≤ l.priority → x.recorded.get? key = none

instance (l : Layer) (ls : List Layer) (key : String) : Decidable (l.Wins ls key) :=
  inferInstanceAs (Decidable (_ ∧ _))

namespace View

variable {l : Layer} {ls : List Layer} {key : String}

theorem resolve_insert_of_wins {value : String} (h : l.Wins ls key)
    (hl : l.recorded.get? key = some value) :
    resolve (recorded (Layer.insert l ls)) key = some ⟨value, l.name⟩ := by
  have hfront : resolve (recorded (l :: ls)) key = some ⟨value, l.name⟩ := by
    rw [recorded_cons, resolve_cons, hl]
  induction ls with
  | nil => exact hfront
  | cons x ls ih =>
    obtain ⟨hx, hls⟩ := List.forall_mem_cons.1 h.2
    rw [Layer.insert_cons]
    split
    · rename_i hle
      have hrest : resolve (recorded (l :: ls)) key = some ⟨value, l.name⟩ := by
        rw [recorded_cons, resolve_cons, hl]
      rw [recorded_cons, resolve_cons, hx hle]
      exact ih ⟨h.1, hls⟩ hrest
    · exact hfront

/-- Behind a layer that has a value a new one does not matter. -/
theorem resolve_insert_of_mem {x : Layer} (hls : ls.Pairwise Layer.Before) (hx : x ∈ ls)
    (hle : x.priority ≤ l.priority) (hvalue : x.recorded.get? key ≠ none) :
    resolve (recorded (Layer.insert l ls)) key = resolve (recorded ls) key := by
  induction ls with
  | nil => exact absurd hx List.not_mem_nil
  | cons y ls ih =>
    obtain ⟨hy, hls⟩ := List.pairwise_cons.1 hls
    have hyle : y.priority ≤ l.priority := by
      rcases List.mem_cons.1 hx with rfl | hx
      · exact hle
      · rcases hy x hx with hlt | ⟨heq, -⟩ <;> omega
    rw [Layer.insert_cons, if_pos hyle, recorded_cons, recorded_cons, resolve_cons, resolve_cons]
    cases hget : y.recorded.get? key with
    | some value => rfl
    | none =>
      rcases List.mem_cons.1 hx with rfl | hx
      · exact absurd hget hvalue
      · exact ih hls hx

theorem resolve_insert_of_not_wins (hls : ls.Pairwise Layer.Before) (h : ¬ l.Wins ls key) :
    resolve (recorded (Layer.insert l ls)) key = resolve (recorded ls) key := by
  cases hl : l.recorded.get? key with
  | none => exact resolve_insert_of_none hl
  | some value =>
    have hcovered : ∃ x ∈ ls, x.priority ≤ l.priority ∧ x.recorded.get? key ≠ none := by
      by_contra hnone
      push Not at hnone
      exact h ⟨by rw [hl]; rfl, hnone⟩
    obtain ⟨x, hx, hle, hvalue⟩ := hcovered
    exact resolve_insert_of_mem hls hx hle hvalue

/-- A key resolves differently exactly if the new layer provides it. -/
theorem resolve_insert_ne_iff (hls : ls.Pairwise Layer.Before)
    (hnew : ∀ x ∈ ls, x.name ≠ l.name) :
    resolve (recorded ls) key ≠ resolve (recorded (Layer.insert l ls)) key ↔ l.Wins ls key := by
  constructor
  · exact fun hne => by_contra fun h => hne (resolve_insert_of_not_wins hls h).symm
  · intro h heq
    obtain ⟨value, hl⟩ := Option.isSome_iff_exists.1 h.1
    rw [resolve_insert_of_wins h hl] at heq
    have hmem := source_mem_of_resolve heq
    rw [map_fst_recorded] at hmem
    obtain ⟨x, hx, hname⟩ := List.mem_map.1 hmem
    exact hnew x hx hname

end View

namespace RegistryId

variable {l : Layer} {ls : List Layer} {key : String} {c : Cache} {e : CacheEntry}

/-- What a new layer changes are the entries of its snapshot that it provides. -/
theorem changesOf_eq (hls : ls.Pairwise Layer.Before) (hnew : ∀ x ∈ ls, x.name ≠ l.name) :
    changesOf l ls = (l.recorded.entries.filter fun e => l.Wins ls e.1).map
      fun e => (e.1, some ⟨e.2, l.name⟩) := by
  rw [changesOf, changesBetween, Keys.keys_ofList, Table.keys, List.filterMap_map,
    ← List.filterMap_eq_map, List.filterMap_filter]
  refine List.filterMap_congr fun e he => ?_
  simp only [Function.comp_apply, decide_eq_true_eq]
  by_cases h : l.Wins ls e.1
  · rw [if_pos h, if_neg ((View.resolve_insert_ne_iff hls hnew).2 h),
      View.resolve_insert_of_wins h (Table.get?_eq_some.2 he)]
  · rw [if_neg h, if_pos (View.resolve_insert_of_not_wins hls h).symm]

/-- If what is cached is what is recorded, the entries of the keys that a new layer provides are
evicted, and no others are. -/
theorem get?_evictedBy_insert (hls : ls.Pairwise Layer.Before)
    (hnew : ∀ x ∈ ls, x.name ≠ l.name) (hc : ∀ key e, c.entries.get? key = some e →
      e.resolved = (View.recorded ls).resolve key) :
    (evictedBy c l.recorded.keys (View.recorded (Layer.insert l ls)) true).entries.get? key =
      some e ↔ c.entries.get? key = some e ∧ ¬ l.Wins ls key := by
  rw [get?_evictedBy]
  refine and_congr_right fun he => ?_
  rw [hc key e he]
  constructor
  · intro hkept h
    exact (View.resolve_insert_ne_iff hls hnew).2 h (hkept (Table.mem_keys.2 h.1)).symm
  · exact fun h _ => View.resolve_insert_of_not_wins hls h

theorem get?_evictedBy_incomplete {keys : List String} {view : View} :
    (evictedBy c keys view false).entries.get? key = none := by
  rw [evictedBy, if_neg Bool.false_ne_true]
  exact Cache.get?_invalidate_none

end RegistryId

/-! ### The listeners that are called -/

/-- Listeners stay in front as others come. -/
def Session.ListenersStay (r : RegistryId) (s s' : Session) : Prop :=
  ∀ reg, s.registries[r]? = some reg →
    ∃ reg', s'.registries[r]? = some reg' ∧ reg.listeners <+: reg'.listeners

/-- Listeners are called one after the other, each with a value, and do what they do. -/
inductive Session.Calls : Session → List (Nat × Option Resolved) → Session → Prop
  | nil (s : Session) : s.Calls [] s
  | cons {s s₁ s' : Session} {n : Nat} {x : Option Resolved}
    {calls : List (Nat × Option Resolved)} :
    s.run (RegistryId.deliver x [n]) = some ((), s₁) → s₁.Calls calls s' →
    s.Calls ((n, x) :: calls) s'

namespace Session

variable {s s₁ s' : Session} {r : RegistryId} {reg reg' : Registry}

theorem listeners_take {b : RegistryAction} {answer : b.Answer}
    (h : reg.take b = some (answer, reg')) : reg'.listeners = reg.listeners := by
  cases b with
  | lock =>
    simp only [Registry.take] at h
    split at h <;> cases h
    rfl
  | _ =>
    cases h
    rfl

theorem listenersStay_take {a : Action} {answer : a.Answer} (h : s.take a = some (answer, s')) :
    ListenersStay r s s' := by
  by_cases hask : ∃ r₁ b, a = .registry r₁ b
  · obtain ⟨r₁, b, rfl⟩ := hask
    obtain ⟨reg, reg', hreg, hb, rfl⟩ := exists_registry_take h
    intro reg₁ hreg₁
    by_cases hr : r = r₁
    · subst hr
      cases hreg.symm.trans hreg₁
      refine ⟨reg', registries_setRegistry hreg reg', ?_⟩
      simp only [listeners_take hb, List.prefix_rfl]
    · exact ⟨reg₁, by rw [registries_setRegistry_of_ne hr, hreg₁], List.prefix_rfl⟩
  · intro reg hreg
    obtain ⟨listeners, hreg'⟩ := (sameRegistries_take (fun r₁ b heq => hask ⟨r₁, b, heq⟩) h).kept
      r reg hreg
    exact ⟨_, hreg', List.prefix_append _ _⟩

theorem composable_listenersStay (r : RegistryId) :
    Composable fun s _ s' => ListenersStay r s s' := by
  refine ⟨fun s reg hreg => ⟨reg, hreg, List.prefix_rfl⟩,
    fun _ s reg hreg => ⟨reg, hreg, List.prefix_rfl⟩, fun h h' reg hreg => ?_⟩
  obtain ⟨reg₁, hreg₁, hprefix⟩ := h reg hreg
  obtain ⟨reg', hreg', hprefix'⟩ := h' reg₁ hreg₁
  exact ⟨reg', hreg', hprefix.trans hprefix'⟩

theorem listenersStay_run {α : Type} {t : Task α} {a : α} (h : s.run t = some (a, s')) :
    ListenersStay r s s' := by
  obtain ⟨ms, h⟩ := runs_of_run h
  exact always_of_take (composable_listenersStay r) listenersStay_take maxDepth t _ _ _ _ h

theorem listenersOf_mono (h : reg.listeners <+: reg'.listeners) (key : String) :
    reg.listenersOf key <+: reg'.listenersOf key :=
  (h.filter _).map _

theorem Calls.append {calls calls' : List (Nat × Option Resolved)} (h : s.Calls calls s₁)
    (h' : s₁.Calls calls' s') : s.Calls (calls ++ calls') s' := by
  induction h with
  | nil => exact h'
  | cons hcall _ ih => exact .cons hcall (ih h')

theorem calls_of_deliver {x : Option Resolved} : ∀ {ns : List Nat} {s s' : Session},
    s.run (RegistryId.deliver x ns) = some ((), s') → s.Calls (ns.map fun n => (n, x)) s'
  | [], s, s', h => by
    cases h
    exact .nil s
  | n :: ns, s, s', h => by
    have hcons : RegistryId.deliver x (n :: ns) =
        (RegistryId.deliver x [n]).bind fun _ => RegistryId.deliver x ns := by
      simp only [RegistryId.deliver, Program.forAll, Program.bind_assoc, Program.done_bind]
    rw [hcons, run_bind, Option.bind_eq_some_iff] at h
    obtain ⟨⟨u, s₁⟩, hcall, hrest⟩ := h
    exact .cons hcall (calls_of_deliver hrest)

/-- For each change in turn the listeners of its key are called with what the key resolves to: those
that are there when it begins, and perhaps others that have come in the meantime. -/
theorem exists_calls_of_notify : ∀ {changes : List Change} {s : Session} {reg : Registry},
    s.registries[r]? = some reg → s.run (r.notify changes) = some ((), s') →
    ∃ (called : List (Change × List Nat)) (reg' : Registry), s'.registries[r]? = some reg' ∧
      called.map (·.1) = changes ∧
      s.Calls (called.flatMap fun c => c.2.map fun n => (n, c.1.2)) s' ∧
      ∀ c ∈ called, reg.listenersOf c.1.1 <+: c.2 ∧ c.2 <+: reg'.listenersOf c.1.1
  | [], s, reg, hreg, h => by
    cases h
    exact ⟨[], reg, hreg, rfl, .nil _, by simp⟩
  | change :: changes, s, reg, hreg, h => by
    have hcons : r.notify (change :: changes) = (ask r (.listeners change.1)).bind fun ns =>
        (RegistryId.deliver change.2 ns).bind fun _ => r.notify changes := by
      simp only [notify, Program.forAll, Program.bind_eq_bind, Program.bind_assoc]
    rw [hcons, ← ends_iff_run, ends_ask_bind hreg rfl, setRegistry_self hreg, ends_iff_run,
      run_bind, Option.bind_eq_some_iff] at h
    obtain ⟨⟨u, s₁⟩, hdeliver, hrest⟩ := h
    obtain ⟨reg₁, hreg₁, hprefix₁⟩ := listenersStay_run (r := r) hdeliver reg hreg
    obtain ⟨called, reg', hreg', hmap, hcalls, hsub⟩ := exists_calls_of_notify hreg₁ hrest
    obtain ⟨_, hreg'', hprefix⟩ := listenersStay_run (r := r) hrest reg₁ hreg₁
    cases hreg'.symm.trans hreg''
    refine ⟨(change, reg.listenersOf change.1) :: called, reg', hreg', by rw [List.map_cons, hmap],
      (calls_of_deliver hdeliver).append hcalls, ?_⟩
    refine List.forall_mem_cons.2 ⟨⟨List.prefix_rfl, ?_⟩, fun c hc => ?_⟩
    · exact listenersOf_mono (hprefix₁.trans hprefix) _
    · exact ⟨(listenersOf_mono hprefix₁ _).trans (hsub c hc).1, (hsub c hc).2⟩

end Session

/-! ### Registration -/

/-- Each entry of the cache is what its key resolves to through the recorded snapshots. -/
def Registry.CachesRecorded (reg : Registry) : Prop :=
  ∀ key e, reg.cache.entries.get? key = some e →
    e.resolved = (View.recorded reg.layers).resolve key

namespace Session

variable {s s' : Session} {r : RegistryId} {reg : Registry} {n : SourceId}

theorem run_firstSnapshot (s : Session) (n : SourceId) (name : String) :
    s.run (firstSnapshot n name) = (s.run (takeSnapshot n)).map fun x =>
      match x.1 with
      | .ok t => ((t, true), x.2)
      | .error e => ((.empty, false), x.2.emit (.observed (.registration name) e)) := by
  rw [firstSnapshot, Program.bind_eq_bind, run_bind]
  rcases s.run (takeSnapshot n) with _ | ⟨e | t, s₁⟩ <;> rfl

/-- A registration that succeeds asks the source once, and then puts in a layer with a new name and
evicts what it changes. -/
theorem exists_layer_of_registration {priority : Int} {changes : List Change}
    (h : s.run (r.registration n priority) = some (.ok changes, s')) :
    ∃ reg answer s₁ reg₀ l, s.registries[r]? = some reg ∧
      (s.setRegistry r (busy reg)).run (takeSnapshot n) = some (answer, s₁) ∧
      s₁.registries[r]? = some reg₀ ∧ reg₀.layers = reg.layers ∧
      l = ⟨n, (described s n).1, (described s n).2, priority, reg₀.nextSeq,
        (Except.toOption answer).getD .empty⟩ ∧
      (∀ x ∈ reg.layers, x.name ≠ l.name) ∧
      s'.registries[r]? = some (enrolled reg₀ reg.layers l answer.isOk) ∧
      changes = changesOf l reg.layers := by
  obtain ⟨reg, hreg⟩ := exists_registry_of_registration (ends_iff_run.2 h)
  obtain ⟨-, ⟨-, hrefused, -⟩ | ⟨hnew, x, s₁, reg₀, l, hfirst, hreg₀, hl, rfl, hchanges⟩⟩ :=
    ends_registration hreg (fun x s₁ h => (layers_of_firstSnapshot hreg h).imp fun _ h => h.1)
      (ends_iff_run.2 h)
  · cases hrefused
  cases hchanges
  obtain ⟨_, hreg', hlayers⟩ := layers_of_firstSnapshot hreg hfirst
  cases hreg₀.symm.trans hreg'
  have hreg₁ := registries_setRegistry hreg₀ (enrolled reg₀ reg.layers l x.2)
  rw [ends_iff_run, run_firstSnapshot, Option.map_eq_some_iff] at hfirst
  obtain ⟨⟨e | t, s₂⟩, hsnapshot, hx⟩ := hfirst
  · cases hx
    exact ⟨reg, .error e, s₂, reg₀, l, hreg, hsnapshot, hreg₀, hlayers, hl, hl ▸ hnew, hreg₁, rfl⟩
  · cases hx
    exact ⟨reg, .ok t, _, reg₀, l, hreg, hsnapshot, hreg₀, hlayers, hl, hl ▸ hnew, hreg₁, rfl⟩

/-- A source without commands answers as it would have answered before, and leaves the registry. -/
theorem snapshot_of_isMute {answer : Except Failure Snapshot} {reg₀ : Registry}
    (hreg : s.registries[r]? = some reg) (hmute : s.IsMute n)
    (h : (s.setRegistry r (busy reg)).run (takeSnapshot n) = some (answer, s'))
    (hreg₀ : s'.registries[r]? = some reg₀) :
    answer = (s.snapshot n).1.1 ∧ reg₀.cache = reg.cache := by
  have hmute' : (s.setRegistry r (busy reg)).IsMute n := by
    rw [IsMute, snapshot_setRegistry]
    exact hmute
  rw [run_takeSnapshot hmute', Option.some.injEq, Prod.mk.injEq, snapshot_setRegistry] at h
  obtain ⟨rfl, rfl⟩ := h
  rw [(sameButData_snapshot _ n).registries, registries_setRegistry hreg] at hreg₀
  cases hreg₀
  exact ⟨rfl, rfl⟩

end Session

/-- A registration evicts precisely. Let all layers have been put in by registrations, let a source
be registered, and let each entry of the cache be what its key resolves to through the recorded
snapshots when the source has answered. If the source has given a snapshot, then the entries of the
keys that it comes to provide are evicted and all others stay as they are, and again each entry is
what its key resolves to; the changes are these keys in order, each with the value of the source,
and for each of them its listeners are called. If the source has failed, the whole cache is evicted,
and nobody is called. -/
theorem precise_of_register {s₀ s' : Session} {scripts : List Script} {ms : List Machine.Moment}
    {m : Machine Unit} {r : RegistryId} {n : SourceId} {priority : Int}
    (hs₀ : ∀ reg ∈ s₀.registries, reg.layers = [])
    (hrun : Machine.Run ⟨s₀, scripts.map Script.task⟩ ms m)
    (hregister : m.session.run (r.register n priority) = some (.ok (), s')) :
    ∃ reg answer s₁ reg₀ l changes s₂ reg₁, m.session.registries[r]? = some reg ∧
      (m.session.setRegistry r (busy reg)).run (takeSnapshot n) = some (answer, s₁) ∧
      s₁.registries[r]? = some reg₀ ∧ reg₀.layers = reg.layers ∧
      (m.session.IsMute n → answer = (m.session.snapshot n).1.1 ∧ reg₀.cache = reg.cache) ∧
      m.session.run (r.registration n priority) = some (.ok changes, s₂) ∧
      s₂.registries[r]? = some reg₁ ∧ s₂.run (r.notify changes) = some ((), s') ∧
      reg₁.layers = Layer.insert l reg.layers ∧ l.source = n ∧ l.priority = priority ∧
      (∀ x ∈ reg.layers, x.name ≠ l.name) ∧
      (∀ t, answer = .ok t → l.recorded = t ∧
        changes = (t.entries.filter fun e => l.Wins reg.layers e.1).map
          (fun e => (e.1, some ⟨e.2, l.name⟩)) ∧
        (reg₀.CachesRecorded → reg₁.CachesRecorded ∧
          ∀ key e, reg₁.cache.entries.get? key = some e ↔
            reg₀.cache.entries.get? key = some e ∧ ¬ l.Wins reg.layers key) ∧
        ∃ (called : List (Change × List Nat)) (reg₂ : Registry), s'.registries[r]? = some reg₂ ∧
          called.map (·.1) = changes ∧
          s₂.Calls (called.flatMap fun c => c.2.map fun n => (n, c.1.2)) s' ∧
          ∀ c ∈ called, reg₁.listenersOf c.1.1 <+: c.2 ∧ c.2 <+: reg₂.listenersOf c.1.1) ∧
      ∀ e, answer = .error e → (∀ key, reg₁.cache.entries.get? key = none) ∧
        changes = [] ∧ s' = s₂ := by
  rw [register_eq, run_bind, Option.bind_eq_some_iff] at hregister
  obtain ⟨⟨e | changes, s₂⟩, hregistration, hrest⟩ := hregister
  · cases hrest
  rw [run_bind, Option.bind_eq_some_iff] at hrest
  obtain ⟨⟨u, s₃⟩, hnotify, hdone⟩ := hrest
  cases hdone
  obtain ⟨reg, answer, s₁, reg₀, l, hreg, hsnapshot, hreg₀, hlayers, hl, hnew, hreg₁, rfl⟩ :=
    exists_layer_of_registration hregistration
  have hbefore : reg.layers.Pairwise Layer.Before := by
    rw [← layersOf_eq hreg]
    exact (Machine.arranged_run hs₀ hrun r).before
  refine ⟨reg, answer, s₁, reg₀, l, _, s₂, _, hreg, hsnapshot, hreg₀, hlayers,
    fun hmute => snapshot_of_isMute hreg hmute hsnapshot hreg₀, hregistration, hreg₁, hnotify, rfl,
    by rw [hl], by rw [hl], hnew, ?_, ?_⟩
  · rintro t rfl
    have hrecorded : l.recorded = t := by
      rw [hl]
      rfl
    refine ⟨hrecorded, by rw [← hrecorded, changesOf_eq hbefore hnew], fun hcached => ?_,
      exists_calls_of_notify hreg₁ hnotify⟩
    rw [Registry.CachesRecorded, hlayers] at hcached
    have hkept : ∀ key e, (enrolled reg₀ reg.layers l true).cache.entries.get? key = some e ↔
        reg₀.cache.entries.get? key = some e ∧ ¬ l.Wins reg.layers key :=
      fun key e => get?_evictedBy_insert hbefore hnew hcached
    refine ⟨fun key e he => ?_, hkept⟩
    obtain ⟨hold, hloses⟩ := (hkept key e).1 he
    exact (hcached key e hold).trans (View.resolve_insert_of_not_wins hbefore hloses).symm
  · rintro e rfl
    have hnone : changesOf l reg.layers = [] := by
      rw [hl]
      rfl
    refine ⟨fun key => get?_evictedBy_incomplete, hnone, ?_⟩
    rw [hnone] at hnotify
    cases hnotify
    rfl

/-- Two maps that are registered, a third one, a listener, and keys that are resolved. -/
def threeMaps : List Script := [⟨"x", [
  .make "a" (.map { name := "a", values := .ofList [("k", "1")] }) (some 0),
  .make "b" (.map { name := "b", values := .ofList [("n", "2"), ("p", "5")] }) (some 10),
  .make "c" (.map { name := "c", values := .ofList [("k", "9"), ("n", "2"), ("q", "4")] }) none,
  .deed (.subscribe "y" "n" []), .resolve "k", .resolve "n", .resolve "p", .resolve "q"]⟩]

/-- The third map is registered with the priority of the first one. It does not come to provide `k`,
but it does `n`, though with the same text as before, and `q`. -/
theorem precise_of_register_of_maps : ∃ ms m s' reg l changes s₂ reg₁,
    Machine.Run ⟨{ registries := [{}] }, threeMaps.map Script.task⟩ ms m ∧
    m.session.run (RegistryId.register 0 2 0) = some (.ok (), s') ∧
    m.session.registries[0]? = some reg ∧ reg.CachesRecorded ∧
    (∀ e ∈ [("k", some "1", 1), ("n", some "2", 2), ("p", some "5", 3), ("q", none, 4)],
      (reg.cache.entries.get? e.1).map (fun x => (x.resolved.map (·.value), x.generation)) =
        some e.2) ∧
    m.session.run (RegistryId.registration 0 2 0) = some (.ok changes, s₂) ∧
    s₂.registries[0]? = some reg₁ ∧ reg₁.layers = Layer.insert l reg.layers ∧
    changes = [("n", some ⟨"2", "c"⟩), ("q", some ⟨"4", "c"⟩)] ∧ reg₁.CachesRecorded ∧
    reg₁.cache.entries.get? "k" = reg.cache.entries.get? "k" ∧
    reg₁.cache.entries.get? "n" = none ∧
    reg₁.cache.entries.get? "p" = reg.cache.entries.get? "p" ∧
    reg₁.cache.entries.get? "q" = none ∧ s₂.Calls [(0, some ⟨"2", "c"⟩)] s' := by
  let start : Machine Unit := ⟨{ registries := [{}] }, threeMaps.map Script.task⟩
  let x := start.follow [] (List.replicate 67 0)
  have hx : start.Run x.1 x.2 := Machine.run_follow _ .start
  let reg : Registry := (x.2.session.registries[0]?).getD {}
  let t : Snapshot := ((x.2.session.snapshot 2).1.1.toOption).getD .empty
  have hsome : ∀ {α : Type} {a : Option α} {b : α}, a.isSome = true → a = some (a.getD b) := by
    rintro α (_ | a) b h <;> cases h
    rfl
  have hok : ∀ {a : Except Failure Snapshot}, a.isOk = true → a = .ok (a.toOption.getD .empty) := by
    rintro (e | t) h <;> cases h
    rfl
  have hreg : x.2.session.registries[0]? = some reg := hsome (by decide +kernel)
  have hanswer : (x.2.session.snapshot 2).1.1 = .ok t := hok (by decide +kernel)
  have hmute : x.2.session.IsMute 2 := List.isEmpty_iff.1 (by decide +kernel)
  have hentries : ∀ e ∈
      [("k", some "1", 1), ("n", some "2", 2), ("p", some "5", 3), ("q", none, 4)],
      (reg.cache.entries.get? e.1).map (fun x => (x.resolved.map (·.value), x.generation)) =
        some e.2 := by decide +kernel
  have hcached : ∀ e ∈ reg.cache.entries.entries,
      e.2.resolved = (View.recorded reg.layers).resolve e.1 := by decide +kernel
  have hwins : ∀ key ∈ ["k", "n", "p", "q"], ((t.get? key).isSome ∧
      ∀ y ∈ reg.layers, y.priority ≤ 0 → y.recorded.get? key = none) ↔ key ∈ ["n", "q"] := by
    decide +kernel
  have hregistered : (x.2.session.run (RegistryId.register 0 2 0)).map (fun y =>
      (y.1.isOk, y.2.registries.map (·.listeners))) = some (true, [[("n", 0)]]) := by
    decide +kernel
  have hchanged : (x.2.session.run (RegistryId.registration 0 2 0)).map (fun y =>
      (y.1.toOption, y.2.registries.map (·.listeners))) =
      some (some [("n", some ⟨"2", "c"⟩), ("q", some ⟨"4", "c"⟩)], [[("n", 0)]]) := by
    decide +kernel
  have hlisteners : ∀ {s : Session} {reg' : Registry}, s.registries[0]? = some reg' →
      s.registries.map (·.listeners) = [[("n", 0)]] → reg'.listeners = [("n", 0)] := by
    intro s reg' hreg' hmap
    have hmem := congrArg (·[0]?) hmap
    simpa [hreg'] using hmem
  have hs₀ : ∀ reg ∈ start.session.registries, reg.layers = [] := by
    intro reg hreg
    rw [List.mem_singleton.1 hreg]
  -- what is needed of the session is known now, and it need not be computed again
  clear_value reg t x
  obtain ⟨⟨e | u, s'⟩, hregister, hafter⟩ := Option.map_eq_some_iff.1 hregistered
  · cases (Prod.mk.inj hafter).1
  obtain ⟨reg', answer, s₁, reg₀, l, changes, s₂, reg₁, hreg', -, -, hlayers₀, hquiet,
    hregistration, hreg₁, -, hlayers, -, hpriority, -, hgiven, -⟩ :=
    precise_of_register hs₀ hx hregister
  cases hreg.symm.trans hreg'
  obtain ⟨rfl, hcache⟩ := hquiet hmute
  obtain ⟨hrecorded, -, hkept, called, reg₂, hreg₂, hcalled, hcalls, hsub⟩ := hgiven t hanswer
  rw [hregistration, Option.map_some, Option.some.injEq, Prod.mk.injEq] at hchanged
  obtain ⟨hchanges, hlistening⟩ := hchanged
  cases hchanges
  obtain ⟨hcached₁, hkept⟩ := hkept fun key e he => by
    rw [hlayers₀]
    rw [hcache] at he
    exact hcached (key, e) (Table.get?_eq_some.1 he)
  have hwins : ∀ key ∈ ["k", "n", "p", "q"], l.Wins reg.layers key ↔ key ∈ ["n", "q"] := by
    intro key hkey
    rw [Layer.Wins, hrecorded, hpriority]
    exact hwins key hkey
  have hstays : ∀ key, ¬ l.Wins reg.layers key →
      reg₁.cache.entries.get? key = reg.cache.entries.get? key := fun key h =>
    Option.ext fun e => by rw [hkept, hcache, and_iff_left h]
  have hgone : ∀ key, l.Wins reg.layers key → reg₁.cache.entries.get? key = none := fun key h =>
    Option.eq_none_iff_forall_ne_some.2 fun e he => ((hkept key e).1 he).2 h
  obtain ⟨⟨c, ns⟩, rest, rfl, hc, hcalled⟩ := List.map_eq_cons_iff.1 hcalled
  obtain ⟨⟨c', ns'⟩, rfl, hc'⟩ := List.map_eq_singleton_iff.1 hcalled
  cases hc
  cases hc'
  have hexact : ∀ key ns, reg₁.listenersOf key <+: ns ∧ ns <+: reg₂.listenersOf key →
      ns = (([("n", 0)] : List (String × Nat)).filter (·.1 == key)).map (·.2) := by
    rintro key ns ⟨hfirst, hlast⟩
    rw [Registry.listenersOf, hlisteners hreg₁ hlistening] at hfirst
    rw [Registry.listenersOf, hlisteners hreg₂ (Prod.mk.inj hafter).2] at hlast
    exact (hfirst.eq_of_length_le hlast.length_le).symm
  obtain rfl : ns = [0] := hexact "n" ns (hsub _ List.mem_cons_self)
  obtain rfl : ns' = [] := hexact "q" ns' (hsub _ (List.mem_cons_of_mem _ List.mem_cons_self))
  exact ⟨x.1, x.2, s', reg, l, _, s₂, reg₁, hx, hregister, hreg,
    fun key e he => hcached (key, e) (Table.get?_eq_some.1 he), hentries, hregistration, hreg₁,
    hlayers, rfl, hcached₁, hstays "k" (mt (hwins "k" (by simp)).1 (by simp)),
    hgone "n" ((hwins "n" (by simp)).2 (by simp)),
    hstays "p" (mt (hwins "p" (by simp)).1 (by simp)),
    hgone "q" ((hwins "q" (by simp)).2 (by simp)), hcalls⟩

end Strata
