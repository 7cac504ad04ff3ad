import Strata.Proofs.Deliveries
import Strata.Proofs.Frames

/-!
What a part of a run tells listeners. `Told` relates the beginning and the end of a part of a run:
a key whose listener is not called resolves as before, and a key whose listener is called resolves
at the end as it did when the listener was called last. What holds of the parts of a run holds of
the run (`Told.trans`); a part that owes calls is made good by a part that makes them
(`Told.append`). Actions that change no recorded snapshot owe nothing (`settled_act`).
-/

namespace Strata

open RegistryId Strata.Task

namespace Session

/-- What a key resolves to through the recorded snapshots of a registry. -/
def resolution (s : Session) (r : RegistryId) (key : String) : Option (Option Resolved) :=
  (s.registries[r]?).map fun reg => (View.recorded reg.layers).resolve key

/-- A listener listens to a key of a registry. -/
def Listens (s : Session) (n : Nat) (r : RegistryId) (key : String) : Prop :=
  ∃ reg, s.registries[r]? = some reg ∧ (key, n) ∈ reg.listeners

/-- Layers have numbers of their own, and so have listeners. -/
structure IsOrderly (s : Session) : Prop where
  seqs : ∀ reg ∈ s.registries, (reg.layers.map (·.seq)).Nodup
  seq_lt : ∀ reg ∈ s.registries, ∀ l ∈ reg.layers, l.seq < reg.nextSeq
  listener_lt : ∀ n r key, s.Listens n r key → n < s.listeners.length
  listener_unique : ∀ n r r' key key', s.Listens n r key → s.Listens n r' key' →
    r = r' ∧ key = key'

/-- A session without layers and listeners is orderly. -/
theorem isOrderly_of_registries {s : Session} (h : s.registries = [{}]) : s.IsOrderly := by
  have hnone : ∀ n r key, ¬ s.Listens n r key := by
    rintro n r key ⟨reg, hreg, hmem⟩
    have hreg' := List.mem_of_getElem? hreg
    rw [h, List.mem_singleton] at hreg'
    rw [hreg'] at hmem
    exact List.not_mem_nil hmem
  refine ⟨?_, ?_, fun n r key hn => absurd hn (hnone n r key),
    fun n r _ key _ hn _ => absurd hn (hnone n r key)⟩
  · intro reg hreg
    rw [h, List.mem_singleton] at hreg
    rw [hreg]
    exact .nil
  · intro reg hreg l hl
    rw [h, List.mem_singleton] at hreg
    rw [hreg] at hl
    exact absurd hl List.not_mem_nil

end Session

namespace Session

variable {s s' : Session} {r r₁ : RegistryId} {reg reg' : Registry} {n : Nat} {key : String}

/-- A session with the same registries and no fewer listeners is orderly too. -/
theorem IsOrderly.congr (hs : s.IsOrderly) (hregistries : s'.registries = s.registries)
    (hlisteners : s'.listeners = s.listeners) : s'.IsOrderly := by
  refine ⟨?_, ?_, ?_, ?_⟩
  · rw [hregistries]
    exact hs.seqs
  · rw [hregistries]
    exact hs.seq_lt
  · intro n r key hn
    rw [Listens, hregistries] at hn
    rw [hlisteners]
    exact hs.listener_lt n r key hn
  · intro n r r' key key' hn hn'
    rw [Listens, hregistries] at hn hn'
    exact hs.listener_unique n r r' key key' hn hn'

theorem resolution_of_registry (hreg : s.registries[r]? = some reg) :
    s.resolution r key = some ((View.recorded reg.layers).resolve key) := by
  rw [resolution, hreg, Option.map_some]

theorem listens_setRegistry (hreg : s.registries[r]? = some reg)
    (hlisteners : reg'.listeners = reg.listeners) :
    (s.setRegistry r reg').Listens n r₁ key ↔ s.Listens n r₁ key := by
  by_cases h : r₁ = r
  · rw [h, Listens, Listens, registries_setRegistry hreg _, hreg]
    simp only [Option.some.injEq, exists_eq_left', hlisteners]
  · rw [Listens, Listens, registries_setRegistry_of_ne h]

theorem IsOrderly.setRegistry (hs : s.IsOrderly) (hreg : s.registries[r]? = some reg)
    (hlisteners : reg'.listeners = reg.listeners) (hseqs : (reg'.layers.map (·.seq)).Nodup)
    (hlt : ∀ l ∈ reg'.layers, l.seq < reg'.nextSeq) : (s.setRegistry r reg').IsOrderly := by
  have hmem : ∀ x ∈ (s.setRegistry r reg').registries, x ∈ s.registries ∨ x = reg' :=
    fun x hx => List.mem_or_eq_of_mem_set hx
  refine ⟨?_, ?_, ?_, ?_⟩
  · intro x hx
    rcases hmem x hx with hx | rfl
    · exact hs.seqs x hx
    · exact hseqs
  · intro x hx
    rcases hmem x hx with hx | rfl
    · exact hs.seq_lt x hx
    · exact hlt
  · intro n r₁ key hn
    exact hs.listener_lt n r₁ key ((listens_setRegistry hreg hlisteners).1 hn)
  · intro n r₁ r₂ key key' hn hn'
    exact hs.listener_unique n r₁ r₂ key key' ((listens_setRegistry hreg hlisteners).1 hn)
      ((listens_setRegistry hreg hlisteners).1 hn')

/-- While a registry is locked its layers stay as they are. -/
def Guarded (s s' : Session) (r : RegistryId) : Prop :=
  ∀ reg, s.registries[r]? = some reg → reg.isLocked = true → ∃ reg',
    s'.registries[r]? = some reg' ∧ reg'.isLocked = true ∧ reg'.layers = reg.layers ∧
      reg'.nextSeq = reg.nextSeq

theorem Guarded.of_registries (h : s'.registries[r]? = s.registries[r]?) : Guarded s s' r :=
  fun reg hreg hlocked => ⟨reg, by rw [h, hreg], hlocked, rfl, rfl⟩

theorem Guarded.trans {s₁ : Session} (h : Guarded s s₁ r) (h' : Guarded s₁ s' r) :
    Guarded s s' r := by
  intro reg hreg hlocked
  obtain ⟨reg₁, hreg₁, hlocked₁, hlayers₁, hseq₁⟩ := h reg hreg hlocked
  obtain ⟨reg₂, hreg₂, hlocked₂, hlayers₂, hseq₂⟩ := h' reg₁ hreg₁ hlocked₁
  exact ⟨reg₂, hreg₂, hlocked₂, hlayers₂.trans hlayers₁, hseq₂.trans hseq₁⟩

end Session

open Session Machine

/-- A part of a run, with the keys of registries whose listeners are still to be called after
it. -/
structure Told (owed : RegistryId → String → Prop) (s : Session) (ms : List Moment)
    (s' : Session) : Prop where
  orderly : s'.IsOrderly
  listens : ∀ n r key, s.Listens n r key → s'.Listens n r key
  called : ∀ d ∈ deliveries ms, ∃ r key, s'.Listens d.1 r key
  /-- A key whose listener is not called resolves as before. -/
  unchanged : ∀ n r key, s.Listens n r key → ¬ owed r key → (∀ d ∈ deliveries ms, d.1 ≠ n) →
    s'.resolution r key = s.resolution r key
  /-- A key whose listener is called resolves as it did when the listener was called last. -/
  last : ∀ n x r key later m earlier, s'.Listens n r key → ¬ owed r key →
    ms = later ++ m :: earlier → m.delivery? = some (n, x) →
    (∀ d ∈ deliveries later, d.1 ≠ n) → s'.resolution r key = m.session.resolution r key

/-- Nothing is owed. -/
def nothingOwed (_ : RegistryId) (_ : String) : Prop := False

namespace Told

variable {owed owed' : RegistryId → String → Prop} {s s₁ s' : Session} {ms ms' : List Moment}

/-- What owes nothing is told whatever is owed. -/
theorem weaken (h : Told nothingOwed s ms s') : Told owed s ms s' :=
  ⟨h.orderly, h.listens, h.called, fun n r key hn _ => h.unchanged n r key hn id,
    fun n x r key later m earlier hn _ => h.last n x r key later m earlier hn id⟩

/-- A part of a run without calls, in which nothing changes but what is owed. -/
theorem quiet (hms : deliveries ms = []) (hs' : s'.IsOrderly)
    (hlistens : ∀ n r key, s.Listens n r key → s'.Listens n r key)
    (hres : ∀ n r key, s.Listens n r key → ¬ owed r key →
      s'.resolution r key = s.resolution r key) : Told owed s ms s' := by
  have hnone : ∀ {later m earlier n x}, ms = later ++ m :: earlier → m.delivery? = some (n, x) →
      False := by
    intro later m earlier n x heq hm
    have hmem : (n, x) ∈ deliveries ms := by
      rw [heq]
      exact List.mem_filterMap.2 ⟨m, by simp, hm⟩
    rw [hms] at hmem
    exact List.not_mem_nil hmem
  refine ⟨hs', hlistens, ?_, fun n r key hn ho _ => hres n r key hn ho, ?_⟩
  · rw [hms]
    exact fun d hd => absurd hd List.not_mem_nil
  · exact fun n x r key later m earlier _ _ heq hm _ => (hnone heq hm).elim

/-- Whoever is called listens by then. -/
theorem listens_of_called (h : Told owed s ms s₁)
    (h' : ∀ n r key, s₁.Listens n r key → s'.Listens n r key) (hs' : s'.IsOrderly) {n : Nat}
    {x : Option Resolved} {r : RegistryId} {key : String} {later earlier : List Moment}
    {m : Moment} (hn : s'.Listens n r key) (hms : ms = later ++ m :: earlier)
    (hm : m.delivery? = some (n, x)) : s₁.Listens n r key := by
  have hd : (n, x) ∈ deliveries ms := by
    rw [hms]
    exact List.mem_filterMap.2 ⟨m, by simp, hm⟩
  obtain ⟨r', key', hn'⟩ := h.called (n, x) hd
  obtain ⟨rfl, rfl⟩ := hs'.listener_unique n r' r key' key (h' n r' key' hn') hn
  exact hn'

/-- Two parts of a run, the second of which makes the calls that the first one owes and the whole
does not. -/
theorem append (h : Told owed s ms s₁) (h' : Told owed' s₁ ms' s')
    (howed : ∀ n r key, s₁.Listens n r key → owed r key → ¬ owed' r key →
      ∃ d ∈ deliveries ms', d.1 = n) :
    Told owed' s (ms' ++ ms) s' := by
  refine ⟨h'.orderly, fun n r key hn => h'.listens n r key (h.listens n r key hn), ?_, ?_, ?_⟩
  · intro d hd
    rw [deliveries_append, List.mem_append] at hd
    rcases hd with hd | hd
    · exact h'.called d hd
    · obtain ⟨r, key, hn⟩ := h.called d hd
      exact ⟨r, key, h'.listens _ _ _ hn⟩
  · intro n r key hn ho hnone
    rw [deliveries_append] at hnone
    have hn₁ := h.listens n r key hn
    have hnone' : ∀ d ∈ deliveries ms', d.1 ≠ n := fun d hd =>
      hnone d (List.mem_append_left _ hd)
    rw [h'.unchanged n r key hn₁ ho hnone']
    refine h.unchanged n r key hn (fun hod => ?_) fun d hd => hnone d (List.mem_append_right _ hd)
    obtain ⟨d, hd, hdn⟩ := howed n r key hn₁ hod ho
    exact hnone' d hd hdn
  · intro n x r key later m earlier hn ho hms hm hlast
    rcases append_cases hms with ⟨e, hms', -⟩ | ⟨l, rfl, hfirst⟩
    · exact h'.last n x r key later m e hn ho hms' hm hlast
    · have hn₁ := h.listens_of_called h'.listens h'.orderly hn hfirst hm
      rw [deliveries_append] at hlast
      have hnone' : ∀ d ∈ deliveries ms', d.1 ≠ n := fun d hd =>
        hlast d (List.mem_append_left _ hd)
      rw [h'.unchanged n r key hn₁ ho hnone']
      refine h.last n x r key l m earlier hn₁ (fun hod => ?_) hfirst hm fun d hd =>
        hlast d (List.mem_append_right _ hd)
      obtain ⟨d, hd, hdn⟩ := howed n r key hn₁ hod ho
      exact hnone' d hd hdn

/-- What is told by the parts of a run is told by the run. -/
theorem trans (h : Told owed s ms s₁) (h' : Told owed s₁ ms' s') : Told owed s (ms' ++ ms) s' :=
  h.append h' fun _ _ _ _ ho ho' => absurd ho ho'

end Told

/-! ### What owes nothing -/

/-- A part of a run that owes no calls and leaves locked registries as they are. -/
structure Settled (s : Session) (ms : List Moment) (s' : Session) : Prop where
  told : Told nothingOwed s ms s'
  guarded : ∀ r, Guarded s s' r

theorem composable_settled : Task.Composable fun s ms s' => s.IsOrderly → Settled s ms s' := by
  have hrefl : ∀ (s : Session) (ms : List Moment), deliveries ms = [] → s.IsOrderly →
      Settled s ms s := fun s ms hms hs =>
    ⟨.quiet hms hs (fun _ _ _ hn => hn) fun _ _ _ _ _ => rfl, fun r => .of_registries rfl⟩
  refine ⟨fun s hs => hrefl s [] rfl hs, fun script s hs => hrefl s _ rfl hs, fun h h' hs => ?_⟩
  have h₁ := h hs
  have h₂ := h' h₁.told.orderly
  exact ⟨h₁.told.trans h₂.told, fun r => (h₁.guarded r).trans (h₂.guarded r)⟩

/-- Actions on a registry that change neither its layers nor its lock. -/
def RegistryAction.isMild : RegistryAction → Bool
  | .lock | .unlock | .setLayers _ | .record .. | .takeSeq => false
  | _ => true

/-- Actions that call nobody and change neither layers nor locks. -/
def Action.isMild : Action → Bool
  | .registry _ a => a.isMild
  | .deliver .. => false
  | _ => true

variable {s s' : Session} {ms : List Moment} {r : RegistryId} {reg reg' : Registry}

theorem Registry.take_mild {a : RegistryAction} {answer : a.Answer} (ha : a.isMild = true)
    (h : reg.take a = some (answer, reg')) : reg'.layers = reg.layers ∧
      reg'.nextSeq = reg.nextSeq ∧ reg'.listeners = reg.listeners ∧
      reg'.isLocked = reg.isLocked := by
  cases a with
  | lock | unlock | setLayers | record | takeSeq => simp [RegistryAction.isMild] at ha
  | _ =>
    cases h
    exact ⟨rfl, rfl, rfl, rfl⟩

/-- A session with the same registries and listeners. -/
theorem Settled.of_same (hs : s.IsOrderly) (hms : deliveries ms = [])
    (hregistries : s'.registries = s.registries) (hlisteners : s'.listeners = s.listeners) :
    Settled s ms s' := by
  refine ⟨.quiet hms (hs.congr hregistries hlisteners) ?_ ?_, fun r => .of_registries ?_⟩
  · intro n r key hn
    rwa [Listens, hregistries]
  · intro n r key _ _
    rw [resolution, hregistries, resolution]
  · rw [hregistries]

/-- A registry that has the same layers and listeners. -/
theorem Told.setRegistry {owed : RegistryId → String → Prop} (hs : s.IsOrderly)
    (hms : deliveries ms = []) (hreg : s.registries[r]? = some reg)
    (hlayers : reg'.layers = reg.layers) (hseq : reg.nextSeq ≤ reg'.nextSeq)
    (hlisteners : reg'.listeners = reg.listeners) :
    Told owed s ms (s.setRegistry r reg') := by
  have hmem := List.mem_of_getElem? hreg
  refine .quiet hms (hs.setRegistry hreg hlisteners ?_ ?_) ?_ ?_
  · rw [hlayers]
    exact hs.seqs reg hmem
  · rw [hlayers]
    exact fun l hl => Nat.lt_of_lt_of_le (hs.seq_lt reg hmem l hl) hseq
  · exact fun n r₁ key hn => (listens_setRegistry hreg hlisteners).2 hn
  · intro n r₁ key _ _
    by_cases h : r₁ = r
    · rw [h, resolution_of_registry (registries_setRegistry hreg _), hlayers,
        resolution_of_registry hreg]
    · rw [resolution, registries_setRegistry_of_ne h, resolution]

/-- A new registry. -/
theorem settled_addRegistry (hs : s.IsOrderly) (hms : deliveries ms = []) :
    Settled s ms { s with registries := s.registries ++ [{}] } := by
  have hold : ∀ (r : RegistryId) reg, s.registries[r]? = some reg →
      (s.registries ++ [({} : Registry)])[r]? = some reg := by
    intro r reg hreg
    obtain ⟨hlt, -⟩ := List.getElem?_eq_some_iff.1 hreg
    rw [List.getElem?_append_left hlt, hreg]
  have hlistens : ∀ n r key, Listens { s with registries := s.registries ++ [{}] } n r key →
      s.Listens n r key := by
    rintro n r key ⟨reg, hreg, hmem⟩
    rcases Nat.lt_or_ge r s.registries.length with hlt | hge
    · rw [List.getElem?_append_left hlt] at hreg
      exact ⟨reg, hreg, hmem⟩
    · rw [List.getElem?_append_right hge] at hreg
      obtain rfl : {} = reg := List.mem_singleton.1 (List.mem_of_getElem? hreg) |>.symm
      exact absurd hmem List.not_mem_nil
  refine ⟨.quiet hms ⟨?_, ?_, ?_, ?_⟩ ?_ ?_, fun r reg hreg hlocked => ?_⟩
  · intro reg hreg
    rcases List.mem_append.1 hreg with hreg | hreg
    · exact hs.seqs reg hreg
    · rw [List.mem_singleton.1 hreg]
      exact .nil
  · intro reg hreg l hl
    rcases List.mem_append.1 hreg with hreg | hreg
    · exact hs.seq_lt reg hreg l hl
    · rw [List.mem_singleton.1 hreg] at hl
      exact absurd hl List.not_mem_nil
  · exact fun n r key hn => hs.listener_lt n r key (hlistens n r key hn)
  · exact fun n r r' key key' hn hn' =>
      hs.listener_unique n r r' key key' (hlistens n r key hn) (hlistens n r' key' hn')
  · rintro n r key ⟨reg, hreg, hmem⟩
    exact ⟨reg, hold r reg hreg, hmem⟩
  · rintro n r key ⟨reg, hreg, -⟩ -
    rw [resolution_of_registry (hold r reg hreg), resolution_of_registry hreg]
  · exact ⟨reg, hold r reg hreg, hlocked, rfl, rfl⟩

/-- A new listener. -/
theorem settled_addListener (hs : s.IsOrderly) (hms : deliveries ms = []) (r : RegistryId)
    (key : String) (l : Listener) : Settled s ms (s.addListener r key l) := by
  have hlistens : ∀ n r₁ key₁, (s.addListener r key l).Listens n r₁ key₁ →
      s.Listens n r₁ key₁ ∨ (n = s.listeners.length ∧ r₁ = r ∧ key₁ = key) := by
    rintro n r₁ key₁ ⟨reg, hreg, hmem⟩
    rw [registries_addListener, Option.map_eq_some_iff] at hreg
    obtain ⟨reg, hreg, rfl⟩ := hreg
    split at hmem
    · rename_i h
      rcases List.mem_append.1 hmem with hmem | hmem
      · exact .inl ⟨reg, hreg, hmem⟩
      · cases List.mem_singleton.1 hmem
        exact .inr ⟨rfl, h.symm, rfl⟩
    · exact .inl ⟨reg, hreg, hmem⟩
  have hmem : ∀ x ∈ (s.addListener r key l).registries, ∃ reg ∈ s.registries,
      x.layers = reg.layers ∧ x.nextSeq = reg.nextSeq := by
    intro x hx
    obtain ⟨r₁, hr₁⟩ := List.mem_iff_getElem?.1 hx
    rw [registries_addListener, Option.map_eq_some_iff] at hr₁
    obtain ⟨reg, hreg, rfl⟩ := hr₁
    refine ⟨reg, List.mem_of_getElem? hreg, ?_⟩
    split <;> exact ⟨rfl, rfl⟩
  have hnew : ∀ r₁ key₁, ¬ s.Listens s.listeners.length r₁ key₁ := fun r₁ key₁ hn =>
    Nat.lt_irrefl _ (hs.listener_lt _ r₁ key₁ hn)
  refine ⟨.quiet hms ⟨?_, ?_, ?_, ?_⟩ ?_ ?_, fun r₁ reg hreg hlocked => ?_⟩
  · intro x hx
    obtain ⟨reg, hreg, hlayers, -⟩ := hmem x hx
    rw [hlayers]
    exact hs.seqs reg hreg
  · intro x hx
    obtain ⟨reg, hreg, hlayers, hseq⟩ := hmem x hx
    rw [hlayers, hseq]
    exact hs.seq_lt reg hreg
  · intro n r₁ key₁ hn
    have hlength : (s.addListener r key l).listeners.length = s.listeners.length + 1 := by
      simp [addListener]
    rw [hlength]
    rcases hlistens n r₁ key₁ hn with hn | ⟨rfl, -⟩
    · exact Nat.lt_succ_of_lt (hs.listener_lt n r₁ key₁ hn)
    · exact Nat.lt_succ_self _
  · intro n r₁ r₂ key₁ key₂ hn₁ hn₂
    rcases hlistens n r₁ key₁ hn₁ with h₁ | ⟨rfl, rfl, rfl⟩
    · rcases hlistens n r₂ key₂ hn₂ with h₂ | ⟨rfl, rfl, rfl⟩
      · exact hs.listener_unique n r₁ r₂ key₁ key₂ h₁ h₂
      · exact absurd h₁ (hnew r₁ key₁)
    · rcases hlistens _ r₂ key₂ hn₂ with h₂ | ⟨-, rfl, rfl⟩
      · exact absurd h₂ (hnew r₂ key₂)
      · exact ⟨rfl, rfl⟩
  · rintro n r₁ key₁ ⟨reg, hreg, hmem⟩
    refine ⟨_, by rw [registries_addListener, hreg]; rfl, ?_⟩
    dsimp only
    split
    · exact List.mem_append_left _ hmem
    · exact hmem
  · rintro n r₁ key₁ ⟨reg, hreg, -⟩ -
    rw [resolution, resolution, registries_addListener, hreg, Option.map_some, Option.map_some,
      Option.map_some]
    split <;> rfl
  · refine ⟨_, by rw [registries_addListener, hreg]; rfl, ?_⟩
    dsimp only
    split <;> exact ⟨hlocked, rfl, rfl⟩

/-- Actions that change no layers owe nothing. -/
theorem settled_act {a : Action} {answer : a.Answer} (ha : a.isMild = true)
    (h : s.take a = some (answer, s')) (hs : s.IsOrderly) : Settled s [⟨0, .act a, s⟩] s' := by
  have hms : deliveries [⟨0, .act a, s⟩] = [] :=
    deliveries_act fun n x heq => by simp [heq, Action.isMild] at ha
  cases helse : a.isElsewhere with
  | true =>
    obtain ⟨hregistries, hlisteners⟩ := take_elsewhere helse h
    exact .of_same hs hms hregistries hlisteners
  | false =>
    cases a with
    | registry r a =>
      obtain ⟨reg, reg', hreg, htake, rfl⟩ := exists_registry_take h
      obtain ⟨hlayers, hseq, hlisteners, hlocked⟩ := Registry.take_mild ha htake
      refine ⟨.setRegistry hs hms hreg hlayers (Nat.le_of_eq hseq.symm) hlisteners,
        fun r₁ => ?_⟩
      by_cases hr : r₁ = r
      · subst hr
        intro reg₁ hreg₁ hlocked₁
        obtain rfl := Option.some.inj (hreg.symm.trans hreg₁)
        exact ⟨reg', registries_setRegistry hreg _, hlocked.trans hlocked₁, hlayers, hseq⟩
      · exact .of_registries (registries_setRegistry_of_ne hr)
    | addRegistry =>
      cases h
      exact settled_addRegistry hs hms
    | deed d =>
      cases d with
      | subscribe id key reaction =>
        cases h
        exact settled_addListener hs hms _ _ _
      | follow id =>
        simp only [take, carryOut, Session.follow] at h
        split at h
        · cases h
          exact .of_same hs hms rfl rfl
        · cases h
          exact settled_addListener hs hms _ _ _
      | _ => simp [Action.isElsewhere] at helse
    | _ => simp [Action.isElsewhere] at helse

end Strata
