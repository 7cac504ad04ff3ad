import Strata.Operation.Build
import Strata.Proofs.Insertions
import Strata.Proofs.Registrations

/-!
Building registries from declarations. A declaration with an empty type name is refused before
anything is made (`run_build_of_faults`). Otherwise to build a registry is to make and register its
sources one by one, in the order of the list (`run_build`), up to the first layer that fails
(`run_addLayers`).
Main statement: `build_of_declaration`.
-/

namespace Strata

/-! ### Validation -/

namespace Config

theorem TypeOptions.faults_eq_nil {path : String} {t : TypeOptions} :
    t.faults path = [] ↔ t.typeName ≠ "" := by
  simp [faults]

theorem Registry.layerFaults_eq_nil : ∀ {i : Nat} {ls : List Layer},
    layerFaults i ls = [] ↔ ∀ l ∈ ls, l.source.typeName ≠ ""
  | _, [] => by simp [layerFaults]
  | _, l :: ls => by
    rw [layerFaults, List.append_eq_nil_iff, TypeOptions.faults_eq_nil, layerFaults_eq_nil,
      List.forall_mem_cons]

theorem Registry.faults_eq_nil {c : Registry} :
    c.faults = [] ↔ ∀ l ∈ c.sources, l.source.typeName ≠ "" :=
  layerFaults_eq_nil

end Config

/-! ### Making sources -/

namespace Source

variable {t : Config.TypeOptions} {h h' : Host} {p : Source}

/-- What is made depends on the files and the environment only. -/
theorem make_congr (hfiles : h'.files = h.files) (henvironment : h'.environment = h.environment)
    (t : Config.TypeOptions) : make t h' = make t h := by
  have hmaker : ∀ maker ∈ makers, ∀ options, maker.make options h' = maker.make options h := by
    intro maker hmaker options
    simp only [makers, List.mem_cons, List.not_mem_nil, or_false] at hmaker
    rcases hmaker with rfl | rfl | rfl | rfl | rfl <;>
      simp only [Maker.ofSettings, hfiles, henvironment]
  rw [make, make]
  split
  · rfl
  · exact hmaker _ (List.mem_of_find?_eq_some ‹_›) _

theorem typeName_mem_of_make (hmake : make t h = .ok p) : t.typeName ∈ typeNames := by
  rw [make] at hmake
  split at hmake
  · cases hmake
  · rename_i maker hmaker
    have heq : maker.typeName = t.typeName := by simpa using List.find?_some hmaker
    exact heq ▸ List.mem_map_of_mem (List.mem_of_find?_eq_some hmaker)

theorem environment_snapshot : (p.snapshot h).2.2.environment = h.environment := by
  cases p with
  | file f => rw [host_snapshot_file]
  | map _ | environment _ | system _ | remote _ => rfl

end Source

/-- The failure to make a source is one of the configuration. -/
theorem Source.CreationFault.exists_config (fault : CreationFault) :
    ∃ cause, fault.failure = .config cause := by
  cases fault <;> exact ⟨_, rfl⟩

/-- What is told of a layer that is declared, if its source can be made. -/
def Config.Layer.info? (l : Config.Layer) (h : Host) : Option SourceInfo :=
  match Source.make l.source h with
  | .ok p => some ⟨p.name, l.priority, p.isMutable⟩
  | .error _ => none

theorem Config.Layer.info?_of_make {l : Config.Layer} {h : Host} {p : Source}
    (hmake : Source.make l.source h = .ok p) :
    l.info? h = some ⟨p.name, l.priority, p.isMutable⟩ := by
  rw [info?, hmake]

/-! ### One layer -/

namespace Session

open RegistryId Machine

variable {s s' : Session} {r : RegistryId} {reg : Registry} {n : SourceId} {p : Source}

/-- Nobody is called who listens to nothing. -/
theorem run_notify_of_silent (hreg : s.registries[r]? = some reg) (hsilent : reg.listeners = [])
    (changes : List Change) : s.run (r.notify changes) = some ((), s) := by
  induction changes with
  | nil => rfl
  | cons change changes ih =>
    have hask : s.run (ask r (.listeners change.1)) = some ([], s) := by
      have htake : reg.take (.listeners change.1) = some (reg.listenersOf change.1, reg) := rfl
      rw [← Task.ends_iff_run, Task.ends_ask_self hreg htake]
      simp [Registry.listenersOf, hsilent]
    rw [notify, Program.forAll, run_bind, Program.bind_eq_bind, run_bind, hask]
    exact ih

theorem isMute_of_builtin (hp : s.sources[n]? = some (.builtin p)) : s.IsMute n := by
  simp [IsMute, snapshot, hp, silence]

/-- A source of one of the five kinds is asked for its first snapshot. -/
theorem exists_firstSnapshot (hp : s.sources[n]? = some (.builtin p)) (name : String) :
    ∃ x s₁, s.run (firstSnapshot n name) = some (x, s₁) ∧ s₁.host = (p.snapshot s.host).2.2 ∧
      s₁.registries = s.registries := by
  have hhost : (s.snapshot n).2.host = (p.snapshot s.host).2.2 := by
    simp only [snapshot, hp]
  have hregs := (sameButData_snapshot s n).registries
  rw [run_firstSnapshot, run_takeSnapshot (isMute_of_builtin hp)]
  cases (s.snapshot n).1.1 with
  | ok t => exact ⟨_, _, rfl, hhost, hregs⟩
  | error e => exact ⟨_, _, rfl, hhost, hregs⟩

/-- A registration of a source with a new name succeeds, and puts in a layer, if nobody listens. -/
theorem run_register_of_not_mem (hreg : s.registries[r]? = some reg)
    (hfree : reg.isLocked = false) (hsilent : reg.listeners = [])
    (hp : s.sources[n]? = some (.builtin p)) (hnew : ∀ l ∈ reg.layers, l.name ≠ p.name)
    (priority : Int) : ∃ (recorded : Snapshot) (s' : Session) (reg' : Registry),
      s.run (r.register n priority) = some (.ok (), s') ∧
      s'.registries[r]? = some reg' ∧ reg'.isLocked = false ∧ reg'.listeners = [] ∧
      reg'.nextSeq = reg.nextSeq + 1 ∧ reg'.layers =
        Layer.insert ⟨n, p.name, p.isMutable, priority, reg.nextSeq, recorded⟩ reg.layers ∧
      s'.host = (p.snapshot s.host).2.2 := by
  have hlocked := registries_setRegistry hreg { reg with isLocked := true }
  have hread : ({ reg with isLocked := true } : Registry).take .layers =
      some (reg.layers, { reg with isLocked := true }) := rfl
  have hbegin : ({ reg with isLocked := true } : Registry).take .beginChange =
      some ((), busy reg) := rfl
  have hany : ¬ reg.layers.any (·.name == p.name) = true := by simpa using hnew
  obtain ⟨⟨recorded, isComplete⟩, s₁, hfirst, hhost, hregs⟩ :=
    exists_firstSnapshot (s := s.setRegistry r (busy reg)) hp p.name
  have hreg₁ : s₁.registries[r]? = some (busy reg) := by
    rw [hregs]
    exact registries_setRegistry hreg _
  let l : Layer := ⟨n, p.name, p.isMutable, priority, reg.nextSeq, recorded⟩
  let s' := s₁.setRegistry r (enrolled (busy reg) reg.layers l isComplete)
  have hreg' := registries_setRegistry hreg₁ (enrolled (busy reg) reg.layers l isComplete)
  have hregistration : s.run (r.registration n priority) =
      some (.ok (changesOf l reg.layers), s') := by
    rw [← Task.ends_iff_run, registration_eq]
    refine Task.ends_bind.2 ⟨(p.name, p.isMutable), s, Task.ends_act.2 ?_, ?_⟩
    · simp [take, hp, Provider.name, Provider.isMutable]
    rw [ends_lock_bind hreg, Task.ends_ask_bind hlocked hread, setRegistry_self hlocked,
      if_neg hany, Task.ends_ask_bind hlocked hbegin, setRegistry_setRegistry]
    exact ⟨hfree, (Task.ends_iff_run.2 hfirst).bind ((ends_enroll hreg₁).2 ⟨rfl, rfl⟩)⟩
  refine ⟨recorded, s', _, ?_, hreg', rfl, hsilent, rfl, rfl, hhost⟩
  rw [register_eq, run_bind, hregistration]
  show s'.run ((r.notify _).bind _) = _
  rw [run_bind, run_notify_of_silent hreg' hsilent]
  rfl

/-! ### By hand -/

/-- Makes and registers the sources of layers, each of them in a call of its own. -/
def addByHand (r : RegistryId) :
    List Config.Layer → Session → Option (Except Failure Unit × Session)
  | [], s => some (.ok (), s)
  | l :: rest, s =>
    (s.run (act (.create l.source))).bind fun
      | (.error e, s) => some (.error e, s)
      | (.ok n, s) => (s.run (r.register n l.priority)).bind fun
        | (.error e, s) => some (.error e, s)
        | (.ok (), s) => addByHand r rest s

/-- Makes an empty registry, and adds the sources of layers to it. -/
def buildByHand (s : Session) (ls : List Config.Layer) :
    Option (Except Failure RegistryId × Session) :=
  (s.run (act .addRegistry)).bind fun (r, s) =>
    (addByHand r ls s).map fun (x, s) => (x.map fun _ => r, s)

theorem run_addLayers (r : RegistryId) : ∀ (ls : List Config.Layer) (s : Session),
    s.run (r.addLayers ls) = addByHand r ls s
  | [], s => rfl
  | l :: ls, s => by
    rw [addLayers, Program.bind_eq_bind, run_bind, addByHand]
    congr 1
    funext ⟨made, s₁⟩
    cases made with
    | error e => rfl
    | ok n =>
      show s₁.run ((r.register n l.priority).bind _) = _
      rw [run_bind]
      congr 1
      funext ⟨registered, s₂⟩
      cases registered with
      | error e => rfl
      | ok u => exact run_addLayers r ls s₂

/-- A declaration without faults is built as by hand. -/
theorem run_build {c : Config.Registry} (hc : c.faults = []) :
    s.run (RegistryId.build c) = s.buildByHand c.sources := by
  have hreport : Config.report? c.faults = none := by rw [hc]; rfl
  rw [RegistryId.build, hreport]
  show s.run ((act .addRegistry).bind _) = _
  rw [run_bind, buildByHand]
  congr 1
  funext x
  obtain ⟨r, s₁⟩ := x
  show s₁.run ((r.addLayers c.sources).bind _) = _
  rw [run_bind, run_addLayers]
  dsimp only
  cases addByHand r c.sources s₁ with
  | none => rfl
  | some y =>
    obtain ⟨e | u, s₂⟩ := y <;> rfl

/-- A declaration with faults is refused, and nothing else happens. -/
theorem run_build_of_faults {c : Config.Registry} (hc : c.faults ≠ []) :
    ∃ report, s.run (RegistryId.build c) = some (.error (.config (.invalid report)), s) := by
  obtain ⟨report, hreport⟩ : ∃ report, Config.report? c.faults = some report := by
    simp [Config.report?, hc]
  refine ⟨report, ?_⟩
  rw [RegistryId.build, hreport]
  rfl

end Session

/-! ### Layers that fail -/

/-- The names of the sources that layers declare. -/
def Config.Layer.namesOf (h : Host) (ls : List Config.Layer) : List String :=
  (ls.filterMap (·.info? h)).map (·.name)

/-- The sources of layers have registered types, can all be made, and have different names. -/
def Config.Layer.AreBuildable (h : Host) (ls : List Config.Layer) : Prop :=
  (∀ l ∈ ls, l.source.typeName ∈ Source.typeNames ∧ ∃ p, Source.make l.source h = .ok p) ∧
    (namesOf h ls).Nodup

/-- A layer fails after others: its source cannot be made, or has the name of another one. -/
inductive Config.Layer.Fails (h : Host) (before : List Config.Layer) (l : Config.Layer) :
    Failure → Prop
  | creation {fault : Source.CreationFault} {cause : ConfigFault} :
    Source.make l.source h = .error fault → fault.failure = .config cause →
    Fails h before l (.config cause)
  | name {p : Source} : Source.make l.source h = .ok p → p.name ∈ namesOf h before →
    Fails h before l (.duplicateSource p.name)

namespace Session

open RegistryId Machine

/-- What is there when layers have been added by hand to an empty registry. -/
structure Built (s₀ : Session) (r : RegistryId) (done : List Config.Layer) (s : Session)
    (reg : Registry) (accepted : List Layer) : Prop where
  registry : s.registries[r]? = some reg
  isFree : reg.isLocked = false
  isSilent : reg.listeners = []
  arranged : Arranged accepted reg.layers
  seq_lt : ∀ l ∈ reg.layers, l.seq < reg.nextSeq
  infos : done.map (·.info? s₀.host) = accepted.map fun l => some l.info
  names : (accepted.map (·.name)).Nodup
  make : ∀ t, Source.make t s.host = Source.make t s₀.host

variable {s₀ s : Session} {r : RegistryId} {done : List Config.Layer} {reg : Registry}
  {accepted : List Layer}

theorem Built.filterMap_info (h : Built s₀ r done s reg accepted) :
    done.filterMap (·.info? s₀.host) = accepted.map Layer.info := by
  have hid : done.filterMap (·.info? s₀.host) = (done.map (·.info? s₀.host)).filterMap id := by
    rw [List.filterMap_map]
    rfl
  rw [hid, h.infos, List.filterMap_map, ← List.filterMap_eq_map]
  rfl

theorem Built.namesOf_eq (h : Built s₀ r done s reg accepted) :
    Config.Layer.namesOf s₀.host done = accepted.map (·.name) := by
  rw [Config.Layer.namesOf, h.filterMap_info, List.map_map]
  rfl

theorem Built.mem_namesOf (h : Built s₀ r done s reg accepted) {name : String} :
    name ∈ Config.Layer.namesOf s₀.host done ↔ ∃ l ∈ reg.layers, l.name = name := by
  have hperm : (reg.layers.map (·.name)).Perm (accepted.map (·.name)) :=
    h.arranged.map_perm fun _ => rfl
  rw [h.namesOf_eq, ← hperm.mem_iff, List.mem_map]

/-- Layers that have been added could be added. -/
theorem Built.areBuildable (h : Built s₀ r done s reg accepted) :
    Config.Layer.AreBuildable s₀.host done := by
  refine ⟨fun l hl => ?_, h.namesOf_eq ▸ h.names⟩
  have hinfo : l.info? s₀.host ∈ accepted.map fun l => some l.info :=
    h.infos ▸ List.mem_map_of_mem hl
  obtain ⟨x, -, hx⟩ := List.mem_map.1 hinfo
  rw [Config.Layer.info?] at hx
  split at hx
  · rename_i p hp
    exact ⟨Source.typeName_mem_of_make hp, p, hp⟩
  · cases hx

/-- The registry has the layers in the order of sorting them by priority. -/
theorem Built.info_eq (h : Built s₀ r done s reg accepted) : reg.layers.map Layer.info =
    (done.filterMap (·.info? s₀.host)).mergeSort fun a b => a.priority ≤ b.priority := by
  have hsorted := congrArg (List.map Layer.info) h.arranged.eq_mergeSort
  have hmap : ((accepted.map Layer.bare).mergeSort fun a b => a.priority ≤ b.priority).map
      Layer.info = ((accepted.map Layer.bare).map Layer.info).mergeSort fun a b =>
        a.priority ≤ b.priority := List.map_mergeSort fun _ _ _ _ => rfl
  rw [hmap, List.map_map, List.map_map] at hsorted
  rw [h.filterMap_info]
  exact hsorted

theorem built_nil (s₀ : Session) : Built s₀ s₀.registries.length []
    { s₀ with registries := s₀.registries ++ [{}] } {} [] where
  registry := by simp
  isFree := rfl
  isSilent := rfl
  arranged := ⟨.refl _, .nil, .nil⟩
  seq_lt := by simp
  infos := rfl
  names := .nil
  make _ := rfl

theorem run_create (s : Session) (t : Config.TypeOptions) : s.run (act (.create t)) = some (
    match Source.make t s.host with
    | .error fault => (.error fault.failure, s)
    | .ok p => (.ok s.sources.length, { s with sources := s.sources ++ [.builtin p] })) := by
  have htake : s.run (act (.create t)) = s.take (.create t) := by
    simp only [Session.run, act, Program.act, Task.runWith]
    cases s.take (.create t) <;> rfl
  rw [htake]
  simp only [take, Source.create]
  cases Source.make t s.host <;> rfl

theorem addByHand_of_error {l : Config.Layer} {fault : Source.CreationFault} {e : Failure}
    (hmake : Source.make l.source s.host = .error fault) (he : fault.failure = e)
    (rest : List Config.Layer) : addByHand r (l :: rest) s = some (.error e, s) := by
  rw [addByHand, run_create, hmake, ← he]
  rfl

theorem addByHand_of_ok {l : Config.Layer} {p : Source}
    (hmake : Source.make l.source s.host = .ok p) (rest : List Config.Layer) :
    addByHand r (l :: rest) s = (({ s with sources := s.sources ++ [.builtin p] } : Session).run
      (r.register s.sources.length l.priority)).bind fun
        | (.error e, s) => some (.error e, s)
        | (.ok (), s) => addByHand r rest s := by
  rw [addByHand, run_create, hmake]
  rfl

/-- A layer whose name is taken is not added. -/
theorem Built.refuse {l : Config.Layer} {p : Source} (h : Built s₀ r done s reg accepted)
    (hmake : Source.make l.source s.host = .ok p)
    (hmem : p.name ∈ Config.Layer.namesOf s₀.host done) :
    ∃ s', ∀ rest, addByHand r (l :: rest) s = some (.error (.duplicateSource p.name), s') := by
  have hp : (s.sources ++ [.builtin p])[s.sources.length]? = some (Provider.builtin p) := by simp
  let s₁ : Session := { s with sources := s.sources ++ [.builtin p] }
  have hdescribe : s₁.take (.describe s.sources.length) = some ((p.name, p.isMutable), s₁) := by
    simp only [take, s₁, hp]
    rfl
  have hreg : s₁.registries[r]? = some reg := h.registry
  refine ⟨s₁.emit (.observed (.registration p.name) (.duplicateSource p.name)), fun rest => ?_⟩
  rw [addByHand_of_ok hmake, run_register_of_mem hreg h.isFree hdescribe (h.mem_namesOf.1 hmem)]
  rfl

/-- A layer with a new name is added. -/
theorem Built.accept {l : Config.Layer} {p : Source} (h : Built s₀ r done s reg accepted)
    (hmade : Source.make l.source s₀.host = .ok p)
    (hnew : p.name ∉ Config.Layer.namesOf s₀.host done) :
    ∃ s' reg' accepted', Built s₀ r (done ++ [l]) s' reg' accepted' ∧
      ∀ rest, addByHand r (l :: rest) s = addByHand r rest s' := by
  have hp : (s.sources ++ [.builtin p])[s.sources.length]? = some (Provider.builtin p) := by simp
  obtain ⟨recorded, s', reg', hrun, hreg', hfree, hsilent, hseq, hlayers, hhost⟩ :=
    run_register_of_not_mem (s := { s with sources := s.sources ++ [.builtin p] })
      h.registry h.isFree h.isSilent hp
      (fun x hx heq => hnew (h.mem_namesOf.2 ⟨x, hx, heq⟩)) l.priority
  let new : Layer := ⟨s.sources.length, p.name, p.isMutable, l.priority, reg.nextSeq, recorded⟩
  refine ⟨s', reg', accepted ++ [new], ⟨hreg', hfree, hsilent, ?_, ?_, ?_, ?_, ?_⟩, fun rest => ?_⟩
  · rw [hlayers]
    exact h.arranged.insert h.seq_lt
  · rw [hlayers, hseq]
    intro x hx
    rcases Layer.mem_insert.1 hx with rfl | hx
    · exact Nat.lt_succ_self _
    · exact Nat.lt_succ_of_lt (h.seq_lt x hx)
  · have hinfo : l.info? s₀.host = some new.info := Config.Layer.info?_of_make hmade
    rw [List.map_append, List.map_append, h.infos, List.map_singleton, List.map_singleton, hinfo]
  · rw [List.map_append, List.map_singleton, List.nodup_append]
    refine ⟨h.names, List.nodup_singleton _, fun a ha b hb => ?_⟩
    rintro rfl
    rw [List.mem_singleton.1 hb, ← h.namesOf_eq] at ha
    exact hnew ha
  · intro t
    rw [← h.make t]
    exact Source.make_congr (by rw [hhost, Source.files_snapshot])
      (by rw [hhost, Source.environment_snapshot]) t
  · rw [addByHand_of_ok ((h.make _).trans hmade), hrun]
    rfl

/-- Layers that are added one after the other are all added, or one of them fails, and those after
it do not matter. -/
theorem Built.addAll (h : Built s₀ r done s reg accepted) (ls : List Config.Layer) :
    (∃ s' reg' accepted', Built s₀ r (done ++ ls) s' reg' accepted' ∧
      addByHand r ls s = some (.ok (), s')) ∨
    ∃ before l after e s', ls = before ++ l :: after ∧
      Config.Layer.AreBuildable s₀.host (done ++ before) ∧ l.Fails s₀.host (done ++ before) e ∧
      ∀ after', addByHand r (before ++ l :: after') s = some (.error e, s') := by
  induction ls generalizing done s reg accepted with
  | nil => exact .inl ⟨s, reg, accepted, by rwa [List.append_nil], rfl⟩
  | cons l ls ih =>
    have hstop : ∀ {e : Failure} {s' : Session}, l.Fails s₀.host done e →
        (∀ rest, addByHand r (l :: rest) s = some (.error e, s')) →
        ∃ before l' after e s', l :: ls = before ++ l' :: after ∧
          Config.Layer.AreBuildable s₀.host (done ++ before) ∧
          l'.Fails s₀.host (done ++ before) e ∧
          ∀ after', addByHand r (before ++ l' :: after') s = some (.error e, s') :=
      fun {e s'} hfails hadd => ⟨[], l, ls, e, s', rfl,
        (List.append_nil done).symm ▸ h.areBuildable, by rwa [List.append_nil], hadd⟩
    cases hmade : Source.make l.source s₀.host with
    | error fault =>
      obtain ⟨cause, hcause⟩ := fault.exists_config
      exact .inr (hstop (.creation hmade hcause)
        (addByHand_of_error ((h.make _).trans hmade) hcause))
    | ok p =>
      by_cases hmem : p.name ∈ Config.Layer.namesOf s₀.host done
      · obtain ⟨s', hadd⟩ := h.refuse ((h.make _).trans hmade) hmem
        exact .inr (hstop (.name hmade hmem) hadd)
      · obtain ⟨s₁, reg₁, accepted₁, h₁, hadd⟩ := h.accept hmade hmem
        rcases ih h₁ with ⟨s', reg', accepted', h', hrest⟩ |
          ⟨before, l', after, e, s', rfl, hbuildable, hfails, hrest⟩
        · rw [List.append_assoc] at h'
          exact .inl ⟨s', reg', accepted', h', (hadd ls).trans hrest⟩
        · rw [List.append_assoc] at hbuildable hfails
          exact .inr ⟨l :: before, l', after, e, s', rfl, hbuildable, hfails,
            fun after' => (hadd _).trans (hrest after')⟩

/-- The two ways in which building by hand ends. -/
theorem buildByHand_cases (s : Session) (ls : List Config.Layer) :
    (∃ s' reg accepted, Built s s.registries.length ls s' reg accepted ∧
      s.buildByHand ls = some (.ok s.registries.length, s')) ∨
    ∃ before l after e s', ls = before ++ l :: after ∧
      Config.Layer.AreBuildable s.host before ∧ l.Fails s.host before e ∧
      ∀ after', s.buildByHand (before ++ l :: after') = some (.error e, s') := by
  have hadd : ∀ ls, s.buildByHand ls = (addByHand s.registries.length ls
      { s with registries := s.registries ++ [{}] }).map
        fun x => (x.1.map fun _ => s.registries.length, x.2) := fun _ => rfl
  rcases (built_nil s).addAll ls with ⟨s', reg, accepted, h, hrun⟩ |
    ⟨before, l, after, e, s', hls, hbuildable, hfails, hrun⟩
  · refine .inl ⟨s', reg, accepted, h, ?_⟩
    rw [hadd, hrun]
    rfl
  · refine .inr ⟨before, l, after, e, s', hls, hbuildable, hfails, fun after' => ?_⟩
    rw [hadd, hrun]
    rfl

/-- A registry that has been built is what the declaration says. -/
theorem exists_built_of_run {c : Config.Registry}
    (hrun : s.run (RegistryId.build c) = some (.ok r, s')) :
    ∃ reg accepted, Built s r c.sources s' reg accepted := by
  have hc : c.faults = [] := by
    by_contra hfaults
    obtain ⟨report, hreport⟩ := run_build_of_faults (s := s) hfaults
    cases hreport.symm.trans hrun
  rw [run_build hc] at hrun
  rcases s.buildByHand_cases c.sources with ⟨s₁, reg, accepted, h, heq⟩ |
    ⟨before, l, after, e, s₁, hls, -, -, heq⟩
  · cases heq.symm.trans hrun
    exact ⟨reg, accepted, h⟩
  · rw [hls, heq] at hrun
    cases hrun

end Session

namespace Config.Layer

variable {h : Host} {ls before after : List Config.Layer} {l : Config.Layer} {e : Failure}

theorem Fails.not_areBuildable (hfails : l.Fails h before e) :
    ¬ AreBuildable h (before ++ l :: after) := by
  rintro ⟨hmade, hnames⟩
  obtain ⟨-, p, hp⟩ := hmade l (by simp)
  cases hfails with
  | creation hmake =>
    rw [hmake] at hp
    cases hp
  | name hmake hmem =>
    have hcons : (l :: after).filterMap (·.info? h) = _ :=
      List.filterMap_cons_some (info?_of_make hmake)
    rw [namesOf, List.filterMap_append, hcons, List.map_append, List.map_cons,
      List.nodup_append] at hnames
    exact hnames.2.2 _ hmem _ List.mem_cons_self rfl

theorem AreBuildable.typeName_ne (hbuildable : AreBuildable h ls) (hl : l ∈ ls) :
    l.source.typeName ≠ "" := by
  intro hempty
  have hmem := (hbuildable.1 l hl).1
  rw [hempty] at hmem
  exact absurd hmem (by decide)

end Config.Layer

/-- What comes of building a registry from a declaration. If a type name is empty, the declaration
is refused and nothing else happens. Otherwise all happens as if an empty registry was made, and
sources were made and registered one by one in the order of the list. This succeeds exactly if all
types are registered, all sources can be made, and their names differ; the registry then has the
sources in the order of a stable sort by priority. If it does not succeed, the failure is that of
the first layer that fails, and all is as if the list ended with that layer. -/
theorem build_of_declaration (s : Session) (c : Config.Registry) :
    ((∃ l ∈ c.sources, l.source.typeName = "") →
      ∃ report, s.run (RegistryId.build c) = some (.error (.config (.invalid report)), s)) ∧
    ((∀ l ∈ c.sources, l.source.typeName ≠ "") →
      s.run (RegistryId.build c) = s.buildByHand c.sources) ∧
    ((∃ r s', s.run (RegistryId.build c) = some (.ok r, s')) ↔
      Config.Layer.AreBuildable s.host c.sources) ∧
    (∀ r s', s.run (RegistryId.build c) = some (.ok r, s') → ∃ reg, s'.registries[r]? = some reg ∧
      reg.layers.map Layer.info =
        (c.sources.filterMap (·.info? s.host)).mergeSort fun a b => a.priority ≤ b.priority) ∧
    ((∀ l ∈ c.sources, l.source.typeName ≠ "") →
      ¬ Config.Layer.AreBuildable s.host c.sources →
      ∃ before l after e s', c.sources = before ++ l :: after ∧
        Config.Layer.AreBuildable s.host before ∧ l.Fails s.host before e ∧
        ∀ after', (∀ x ∈ after', x.source.typeName ≠ "") →
          s.run (RegistryId.build ⟨before ++ l :: after'⟩) = some (.error e, s')) := by
  have hvalid : (∀ l ∈ c.sources, l.source.typeName ≠ "") →
      s.run (RegistryId.build c) = s.buildByHand c.sources :=
    fun hc => Session.run_build (Config.Registry.faults_eq_nil.2 hc)
  refine ⟨?_, hvalid, ⟨?_, ?_⟩, ?_, ?_⟩
  · rintro ⟨l, hl, hempty⟩
    exact Session.run_build_of_faults fun hc => Config.Registry.faults_eq_nil.1 hc l hl hempty
  · rintro ⟨r, s', hrun⟩
    obtain ⟨reg, accepted, h⟩ := Session.exists_built_of_run hrun
    exact h.areBuildable
  · intro hbuildable
    rw [hvalid fun l hl => hbuildable.typeName_ne hl]
    rcases s.buildByHand_cases c.sources with ⟨s', reg, accepted, -, heq⟩ |
      ⟨before, l, after, e, s', hls, -, hfails, -⟩
    · exact ⟨_, s', heq⟩
    · rw [hls] at hbuildable
      exact absurd hbuildable hfails.not_areBuildable
  · intro r s' hrun
    obtain ⟨reg, accepted, h⟩ := Session.exists_built_of_run hrun
    exact ⟨reg, h.registry, h.info_eq⟩
  · intro hc hnot
    rcases s.buildByHand_cases c.sources with ⟨s', reg, accepted, h, -⟩ |
      ⟨before, l, after, e, s', hls, hbuildable, hfails, heq⟩
    · exact absurd h.areBuildable hnot
    · refine ⟨before, l, after, e, s', hls, hbuildable, hfails, fun after' hafter => ?_⟩
      rw [Session.run_build (Config.Registry.faults_eq_nil.2 ?_), heq]
      intro x hx
      rw [hls] at hc
      rcases List.mem_append.1 hx with hx | hx
      · exact hc x (List.mem_append_left _ hx)
      · rcases List.mem_cons.1 hx with rfl | hx
        · exact hc x (by simp)
        · exact hafter x hx

/-- Layers of sources with their default names. -/
def defaultLayers : List Config.Layer :=
  [⟨5, ⟨"SystemPropertySource", .null⟩⟩, ⟨-5, ⟨"MapSource", .null⟩⟩,
    ⟨5, ⟨"EnvironmentSource", .null⟩⟩]

/-- A second layer of a kind, and one of a type that there is not. -/
def failingLayers : List Config.Layer :=
  [⟨0, ⟨"MapSource", .null⟩⟩, ⟨0, ⟨"TableSource", .null⟩⟩]

/-- Three layers are built into a registry that has them in order; with two more the building fails,
and with an empty type name it does not even begin. -/
theorem build_of_defaultLayers :
    (∃ r s' reg, ({} : Session).run (RegistryId.build ⟨defaultLayers⟩) = some (.ok r, s') ∧
      s'.registries[r]? = some reg ∧ reg.layers.map Layer.info =
        [⟨"map", -5, true⟩, ⟨"system", 5, true⟩, ⟨"env", 5, false⟩]) ∧
    (∃ before l after e s', defaultLayers ++ failingLayers = before ++ l :: after ∧
      l.Fails {} before e ∧
      ({} : Session).run (RegistryId.build ⟨before ++ [l]⟩) = some (.error e, s')) ∧
    ∃ report, ({} : Session).run (RegistryId.build ⟨defaultLayers ++ [⟨0, ⟨"", .null⟩⟩]⟩) =
      some (.error (.config (.invalid report)), {}) := by
  obtain ⟨-, -, hbuilds, hsorted, -⟩ := build_of_declaration {} ⟨defaultLayers⟩
  obtain ⟨-, -, -, -, hfails⟩ := build_of_declaration {} ⟨defaultLayers ++ failingLayers⟩
  obtain ⟨hrefused, -⟩ := build_of_declaration {} ⟨defaultLayers ++ [⟨0, ⟨"", .null⟩⟩]⟩
  refine ⟨?_, ?_, hrefused ⟨⟨0, ⟨"", .null⟩⟩, by simp, rfl⟩⟩
  · have hbuildable : Config.Layer.AreBuildable {} defaultLayers := by
      refine ⟨?_, by decide +kernel⟩
      simp only [defaultLayers, List.forall_mem_cons]
      exact ⟨⟨by decide, _, rfl⟩, ⟨by decide, _, rfl⟩, ⟨by decide, _, rfl⟩, nofun⟩
    obtain ⟨r, s', hrun⟩ := hbuilds.2 hbuildable
    obtain ⟨reg, hreg, hinfo⟩ := hsorted r s' hrun
    have hdeclared : defaultLayers.filterMap (·.info? {}) =
        [⟨"system", 5, true⟩, ⟨"map", -5, true⟩, ⟨"env", 5, false⟩] := by decide +kernel
    refine ⟨r, s', reg, hrun, hreg, hinfo.trans ?_⟩
    simp [hdeclared, List.mergeSort, List.MergeSort.Internal.splitInTwo]
  · have hnot : ¬ (Config.Layer.namesOf {} (defaultLayers ++ failingLayers)).Nodup := by
      decide +kernel
    obtain ⟨before, l, after, e, s', hls, -, hfail, hrun⟩ :=
      hfails (by decide) fun hbuildable => hnot hbuildable.2
    exact ⟨before, l, after, e, s', hls, hfail, hrun [] (by simp)⟩

end Strata
