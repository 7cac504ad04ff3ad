import Strata.Proofs.Contents
import Strata.Proofs.Runs
import Strata.Proofs.Walks

/-!
What actions leave alone. Passive actions change neither sources nor registries nor listeners
(`sameBase_passive`), and neither do most deeds (`sameBase_carryOut`); those that write to a source
change that source only (`exists_setSource_carryOut`), and the others add a listener. Only
registries and subscriptions change registries and listeners (`take_elsewhere`). Handles change only
as they are made and as they keep something (`handles_take`), and schedulers and watches only by
deeds and by refreshes in the background (`sameHoldings_take`).
-/

namespace Strata

/-- Whether a deed leaves sources and listeners alone. -/
def Deed.isQuiet {γ : Type} : Deed γ → Bool
  | .put .. | .remove .. | .extend .. | .script .. | .subscribe .. | .follow _ => false
  | _ => true

/-- Whether a deed writes to a source. -/
def Deed.isWriting {γ : Type} : Deed γ → Bool
  | .put .. | .remove .. | .extend .. | .script .. => true
  | _ => false

namespace Session

/-- Sessions that differ in nothing that the registry reads. -/
structure SameBase (s s' : Session) : Prop where
  registries : s'.registries = s.registries
  current : s'.current = s.current
  sources : s'.sources = s.sources
  listeners : s'.listeners = s.listeners

theorem SameBase.refl (s : Session) : SameBase s s := ⟨rfl, rfl, rfl, rfl⟩

/-- A quiet deed changes nothing that registries depend on but the host. -/
theorem sameBase_carryOut {s : Session} {d : Deed Command} (hd : d.isQuiet = true) :
    SameBase s (s.carryOut d).2 := by
  cases d with
  | put | remove | extend | script | subscribe | follow => simp [Deed.isQuiet] at hd
  | stopScheduler id =>
    simp only [carryOut, withScheduler]
    split <;> exact ⟨rfl, rfl, rfl, rfl⟩
  | dropScheduler id =>
    simp only [carryOut, withScheduler]
    split <;> exact ⟨rfl, rfl, rfl, rfl⟩
  | newScheduler id =>
    simp only [carryOut, addScheduler, withScheduler]
    split <;> exact ⟨rfl, rfl, rfl, rfl⟩
  | unwatch id =>
    simp only [carryOut, unwatch]
    split <;> exact ⟨rfl, rfl, rfl, rfl⟩
  | isRunning id =>
    simp only [carryOut]
    split <;> exact .refl s
  | assignProperty argument =>
    simp only [carryOut, assignProperty]
    split <;> exact ⟨rfl, rfl, rfl, rfl⟩
  | setReply id reply =>
    simp only [carryOut, setReply]
    split <;> exact ⟨rfl, rfl, rfl, rfl⟩
  | bind id key kind default fallsBack =>
    simp only [carryOut, bind]
    split
    · exact .refl s
    · split <;> exact ⟨rfl, rfl, rfl, rfl⟩
  | startScheduler id interval =>
    simp only [carryOut, startScheduler, withInterval]
    split
    · exact .refl s
    · exact .refl s
    · split <;> exact ⟨rfl, rfl, rfl, rfl⟩
  | schedule id settings =>
    simp only [carryOut, schedule, withInterval, addScheduler, withScheduler]
    split
    · exact .refl s
    · split
      · exact .refl s
      · split <;> exact ⟨rfl, rfl, rfl, rfl⟩
  | watch id settings =>
    simp only [carryOut, watch, unwatch]
    split
    · exact .refl s
    · split
      · exact .refl s
      · split <;> exact ⟨rfl, rfl, rfl, rfl⟩
  | _ => exact ⟨rfl, rfl, rfl, rfl⟩

theorem sameBase_beginRefresh (s : Session) (x : Refresher) : SameBase s (s.beginRefresh x).2 := by
  cases x with
  | scheduler n =>
    simp only [beginRefresh]
    split
    · exact .refl s
    · split <;> exact ⟨rfl, rfl, rfl, rfl⟩
  | watch n =>
    simp only [beginRefresh]
    split
    · exact .refl s
    · split <;> exact ⟨rfl, rfl, rfl, rfl⟩

/-- A passive action changes nothing that registries depend on. -/
theorem sameBase_passive {s s' : Session} {a : Action} {answer : a.Answer}
    (ha : a.isPassive = true) (h : s.take a = some (answer, s')) : SameBase s s' := by
  cases a with
  | registry r a =>
    cases a with
    | changeSeq =>
      obtain ⟨reg, reg', hreg, htake, rfl⟩ := exists_registry_take h
      cases htake
      rw [setRegistry_self hreg]
      exact .refl s
    | _ => simp [Action.isPassive] at ha
  | deed d =>
    cases d with
    | isRunning id =>
      have hsame := sameBase_carryOut (s := s) (d := .isRunning id) rfl
      rwa [Option.some.inj h] at hsame
    | _ => simp [Action.isPassive] at ha
  | beginRefresh x =>
    have hsame := sameBase_beginRefresh s x
    rwa [Option.some.inj h] at hsame
  | endRefresh x =>
    cases h
    cases x <;> exact ⟨rfl, rfl, rfl, rfl⟩
  | current | source | describe | observe | binding | decode | kept | keep | finished | due
  | eventCount =>
    cases h
    exact ⟨rfl, rfl, rfl, rfl⟩
  | _ => simp [Action.isPassive] at ha

theorem sources_of_source? {s : Session} {id : String} {n : SourceId} {p : Provider}
    (h : s.source? id = some (n, p)) : s.sources[n]? = some p := by
  obtain ⟨k, -, hk⟩ := Option.bind_eq_some_iff.1 h
  obtain ⟨q, hq, heq⟩ := Option.map_eq_some_iff.1 hk
  cases heq
  exact hq

/-- A deed that writes to a source sets the state of that source, if it is there. -/
theorem exists_setSource_carryOut {s : Session} {d : Deed Command} (hd : d.isWriting = true) :
    (s.carryOut d).2 = s ∨ ∃ n p p', s.sources[n]? = some p ∧ p'.nature = p.nature ∧
      (s.carryOut d).2 = s.setSource n p' := by
  have hmap : ∀ (id : String) (o : MapSource → Outcome) (f : MapSource → MapSource),
      (∀ m, (f m).name = m.name ∧ (f m).isMutable = m.isMutable) →
      (s.changeMap id o f).2 = s ∨ ∃ n p p', s.sources[n]? = some p ∧ p'.nature = p.nature ∧
        (s.changeMap id o f).2 = s.setSource n p' := by
    intro id o f hf
    simp only [changeMap]
    split
    · rename_i n m hm
      refine .inr ⟨n, _, .builtin (.map (f m)), sources_of_source? hm, ?_, rfl⟩
      simp [Provider.nature, Provider.name, Source.name, Provider.isMutable, Source.isMutable,
        Provider.isBuiltin, Provider.isSelfContained, hf m]
    · exact .inl rfl
  cases d with
  | put id key value => exact hmap _ _ _ fun _ => ⟨rfl, rfl⟩
  | remove id key => exact hmap _ _ _ fun _ => ⟨rfl, rfl⟩
  | extend id values => exact hmap _ _ _ fun _ => ⟨rfl, rfl⟩
  | script id change =>
    simp only [carryOut, changeScript]
    split
    · rename_i n p hp
      exact .inr ⟨n, _, .scripted (p.change change), sources_of_source? hp, rfl, rfl⟩
    · exact .inl rfl
  | _ => simp [Deed.isWriting] at hd

/-- Making a source changes nothing that registries depend on. -/
theorem sameBase_build (s : Session) (id : String) (order : SourceOrder Command) :
    SameBase s (s.build id order).2 := by
  cases order with
  | map | scripted => exact .refl s
  | environment settings values | system settings =>
    simp only [build]
    split <;> exact .refl s
  | file settings =>
    simp only [build]
    split
    · exact .refl s
    · split <;> exact .refl s
  | declared declaration =>
    simp only [build]
    split
    · exact .refl s
    · split <;> exact .refl s
  | remote settings path reply =>
    simp only [build]
    split
    · exact ⟨rfl, rfl, rfl, rfl⟩
    · split <;> exact ⟨rfl, rfl, rfl, rfl⟩

end Session

/-- Actions that leave registries and listeners alone. -/
def Action.isElsewhere : Action → Bool
  | .registry .. | .addRegistry | .deed (.subscribe ..) | .deed (.follow _) => false
  | _ => true

namespace Session

theorem carryOut_elsewhere (s : Session) {d : Deed Command}
    (hd : (Action.deed d).isElsewhere = true) : (s.carryOut d).2.registries = s.registries ∧
      (s.carryOut d).2.listeners = s.listeners := by
  cases hquiet : d.isQuiet with
  | true => exact ⟨(sameBase_carryOut hquiet).registries, (sameBase_carryOut hquiet).listeners⟩
  | false =>
    have hwrites : d.isWriting = true := by
      cases d with
      | put | remove | extend | script => rfl
      | subscribe | follow => simp [Action.isElsewhere] at hd
      | _ => simp [Deed.isQuiet] at hquiet
    rcases exists_setSource_carryOut (s := s) hwrites with h | ⟨n, p, p', -, -, h⟩ <;> rw [h]
    · exact ⟨rfl, rfl⟩
    · exact ⟨rfl, rfl⟩

/-- Registries and listeners are changed by registries and by subscriptions alone. -/
theorem take_elsewhere {s s' : Session} {a : Action} {answer : a.Answer}
    (ha : a.isElsewhere = true) (h : s.take a = some (answer, s')) :
    s'.registries = s.registries ∧ s'.listeners = s.listeners := by
  cases a with
  | registry | addRegistry => simp [Action.isElsewhere] at ha
  | deed d =>
    have hsame := s.carryOut_elsewhere ha
    rwa [Option.some.inj h] at hsame
  | build id order =>
    have hsame := sameBase_build s id order
    simp only [take] at h
    rcases hb : s.build id order with ⟨e | p, s₀⟩
    · rw [hb] at h hsame
      cases h
      exact ⟨hsame.registries, hsame.listeners⟩
    · rw [hb] at h hsame
      cases h
      exact ⟨hsame.registries, hsame.listeners⟩
  | create t =>
    simp only [take] at h
    split at h
    · cases h
      exact ⟨rfl, rfl⟩
    · cases h
      exact ⟨rfl, rfl⟩
  | lookup n key =>
    have hsame := sameButData_lookup s n key
    rw [Option.some.inj h] at hsame
    exact ⟨hsame.registries, hsame.listeners⟩
  | snapshot n =>
    have hsame := sameButData_snapshot s n
    rw [Option.some.inj h] at hsame
    exact ⟨hsame.registries, hsame.listeners⟩
  | deliver n x =>
    simp only [take, Option.some.injEq, deliver] at h
    split at h <;> (cases h; exact ⟨rfl, rfl⟩)
  | beginRefresh x =>
    have hsame := sameBase_beginRefresh s x
    rw [Option.some.inj h] at hsame
    exact ⟨hsame.registries, hsame.listeners⟩
  | endRefresh x =>
    cases h
    cases x <;> exact ⟨rfl, rfl⟩
  | current | use | source | describe | observe | binding | decode | kept | keep | finished | due
  | eventCount =>
    cases h
    exact ⟨rfl, rfl⟩

/-- A listener subscribes to one registry. -/
theorem registries_addListener (s : Session) (r : RegistryId) (key : String) (l : Listener)
    (r₁ : RegistryId) : (s.addListener r key l).registries[r₁]? = (s.registries[r₁]?).map fun reg =>
      if r = r₁ then reg.subscribe key s.listeners.length else reg := by
  rw [addListener, List.getElem?_modify]
  cases s.registries[r₁]? <;> rfl

end Session

/-! ### Handles, schedulers and watches -/

/-- Whether an action makes a handle or lets one keep something. -/
def Action.isOnHandles : Action → Bool
  | .keep .. | .deed (.bind ..) => true
  | _ => false

/-- Whether an action may change a handle, a scheduler or a watch. -/
def Action.isOnHoldings : Action → Bool
  | .keep .. | .deed _ | .beginRefresh _ | .endRefresh _ => true
  | _ => false

namespace Session

/-- Sessions that have the same handles, schedulers and watches. -/
structure SameHoldings (s s' : Session) : Prop where
  handles : s'.handles = s.handles
  schedulers : s'.schedulers = s.schedulers
  watches : s'.watches = s.watches

theorem SameButData.sameHoldings {s s' : Session} (h : SameButData s s') : SameHoldings s s' := by
  rw [h.eq]
  exact ⟨rfl, rfl, rfl⟩

theorem sameHoldings_build (s : Session) (id : String) (order : SourceOrder Command) :
    SameHoldings s (s.build id order).2 := by
  cases order <;> simp only [build] <;> repeat' split
  all_goals exact ⟨rfl, rfl, rfl⟩

/-- Handles, schedulers and watches change only by a few actions. -/
theorem sameHoldings_take {s s' : Session} {a : Action} {answer : a.Answer}
    (ha : a.isOnHoldings = false) (h : s.take a = some (answer, s')) : SameHoldings s s' := by
  cases a with
  | keep | deed | beginRefresh | endRefresh => cases ha
  | registry r b =>
    obtain ⟨reg, reg', -, -, rfl⟩ := exists_registry_take h
    exact ⟨rfl, rfl, rfl⟩
  | build id order =>
    have hsame := s.sameHoldings_build id order
    simp only [take] at h
    rcases hb : s.build id order with ⟨e | p, s₀⟩ <;>
      · rw [hb] at h hsame
        cases h
        exact ⟨hsame.handles, hsame.schedulers, hsame.watches⟩
  | create t =>
    simp only [take] at h
    split at h <;> (cases h; exact ⟨rfl, rfl, rfl⟩)
  | lookup n key =>
    have hsame := (sameButData_lookup s n key).sameHoldings
    rwa [Option.some.inj h] at hsame
  | snapshot n =>
    have hsame := (sameButData_snapshot s n).sameHoldings
    rwa [Option.some.inj h] at hsame
  | deliver n x =>
    simp only [take, Option.some.injEq, deliver] at h
    split at h <;> (cases h; exact ⟨rfl, rfl, rfl⟩)
  | current | addRegistry | use | source | describe | observe | binding | decode | kept | finished
  | due | eventCount =>
    cases h
    exact ⟨rfl, rfl, rfl⟩

/-- A deed that makes no handle leaves the handles alone. -/
theorem handles_carryOut (s : Session) {d : Deed Command}
    (hd : (Action.deed d).isOnHandles = false) : (s.carryOut d).2.handles = s.handles := by
  have hwith : ∀ id f, (s.withScheduler id f).handles = s.handles := fun id f => by
    rw [withScheduler]
    split <;> rfl
  have hadd : ∀ id x, (s.addScheduler id x).handles = s.handles := fun id x => hwith id _
  have hunwatch : ∀ id, (s.unwatch id).handles = s.handles := fun id => by
    rw [unwatch]
    split <;> rfl
  have hmap : ∀ id o f, (s.changeMap id o f).2.handles = s.handles := fun id o f => by
    rw [changeMap]
    split <;> rfl
  cases d with
  | bind => cases hd
  | put | remove | extend => exact hmap _ _ _
  | stopScheduler id | dropScheduler id => exact hwith id _
  | newScheduler id => exact hadd id _
  | unwatch id => exact hunwatch id
  | script | setReply | isRunning | assignProperty | follow =>
    simp only [carryOut, changeScript, setReply, assignProperty, follow]
    split <;> rfl
  | startScheduler id interval =>
    simp only [carryOut, startScheduler, withInterval]
    split
    · rfl
    · rfl
    · split <;> rfl
  | schedule id settings =>
    simp only [carryOut, schedule, withInterval]
    split
    · rfl
    · split
      · rfl
      · exact hadd id _
  | watch id settings =>
    simp only [carryOut, watch]
    split
    · rfl
    · split
      · rfl
      · exact hunwatch id
  | _ => rfl

/-- Handles are made by binding them, and only keeping something changes what they keep. -/
theorem handles_take {s s' : Session} {a : Action} {answer : a.Answer}
    (ha : a.isOnHandles = false) (h : s.take a = some (answer, s')) : s'.handles = s.handles := by
  cases a with
  | keep => cases ha
  | deed d =>
    have hsame := s.handles_carryOut ha
    rwa [Option.some.inj h] at hsame
  | beginRefresh x =>
    cases x with
    | scheduler n | watch n =>
      simp only [take, Option.some.injEq, beginRefresh] at h
      split at h
      · cases h
        rfl
      · split at h <;> (cases h; rfl)
  | endRefresh x =>
    cases h
    cases x <;> rfl
  | _ => exact (sameHoldings_take rfl h).handles

end Session

end Strata
