import Strata.Proofs.Delivery
import Strata.Proofs.Exclusion
import Strata.Proofs.Successions

/-!
The last call of a listener. Every call of a listener in a run is made by an operation in it, a
refresh or a registration: it is one of the calls by which the operation tells of what it has
changed, once it has let go of the registry (`MakesCall`, `traced_script`). Main statement: when all
is over, a key resolves through the recorded snapshots as it did when its listener was called last,
and the listener was told what the key resolved to when the operation that made the call let go of
the registry (`resolution_eq_of_last_call`). So a listener is left with an outdated value only if,
between letting go and calling it, another operation has called it already, or it has subscribed
only then; that this can happen is shown by a listener that refreshes
(`not_forall_resolution_eq_last_call`).
-/

namespace Strata

open Session RegistryId Machine Strata.Task

variable {S : ScriptRun} {s s₁ s' : Session} {ms ms' : List Moment} {r : RegistryId} {k n : Nat}
  {key : String} {x : Option Resolved} {m : Moment} {later earlier : List Moment}

/-! ### The operation that makes a call -/

/-- An operation on a registry, up to letting go of it, that has changes to tell: a refresh, or a
registration that was accepted. -/
inductive LetsGo (S : ScriptRun) (r : RegistryId) (changes : List Change) (s : Session)
    (work : List Moment) (s' : Session) : Prop
  | refresh {report : RefreshReport} :
      Runs S r.renewal s work (report, changes) s' → LetsGo S r changes s work s'
  | register {source : SourceId} {priority : Int} :
      Runs S (r.registration source priority) s work (.ok changes) s' →
      LetsGo S r changes s work s'

/-- A call of a listener of a key in telling of changes: the changes in front have been told, and of
the listeners that were found those in front have been called. -/
inductive Tells (S : ScriptRun) (r : RegistryId) (changes : List Change) (s : Session)
    (key : String) (n : Nat) (x : Option Resolved) : List Moment → Moment → Prop
  | intro {told rest : List Change} {ns ns' : List Nat} {s₁ s₂ σ : Session}
      {part asked called : List Moment} : changes = told ++ (key, x) :: rest →
      Runs S (r.notify told) s part () s₁ →
      Runs S (ask r (.listeners key)) s₁ asked (ns ++ n :: ns') s₂ →
      Runs S (RegistryId.deliver x ns) s₂ called () σ →
      Tells S r changes s key n x (called ++ (asked ++ part)) ⟨0, .act (.deliver n x), σ⟩

/-- A call is made by an operation, whose work ends with letting go of the registry. Between that
and the call there is nothing but what the operation has told before it. -/
inductive MakesCall (r : RegistryId) (key : String) (n : Nat) (x : Option Resolved)
    (earlier work between : List Moment) (m : Moment) : Prop
  | intro {k : Nat} {changes : List Change} {s s₁ : Session} {before : List Moment} :
      earlier = between ++ (work ++ before) → LetsGo (ScriptRuns k) r changes s work s₁ →
      Tells (ScriptRuns k) r changes s₁ key n x between m →
      MakesCall r key n x earlier work between m

theorem MakesCall.append {work between : List Moment}
    (h : MakesCall r key n x earlier work between m) (ms : List Moment) :
    MakesCall r key n x (earlier ++ ms) work between m := by
  obtain ⟨rfl, hgo, htells⟩ := h
  exact .intro (by rw [List.append_assoc, List.append_assoc]) hgo htells

/-- A call is made by an operation in a part of a run. -/
def IsMade (earlier : List Moment) (m : Moment) (n : Nat) (x : Option Resolved) : Prop :=
  ∃ r key work between, MakesCall r key n x earlier work between m

theorem IsMade.append (h : IsMade earlier m n x) (ms : List Moment) :
    IsMade (earlier ++ ms) m n x := by
  obtain ⟨r, key, work, between, hmakes⟩ := h
  exact ⟨r, key, work, between, hmakes.append ms⟩

/-- Every call in a part of a run is made by an operation in it. -/
def Traced (ms : List Moment) : Prop :=
  ∀ later m earlier n x, ms = later ++ m :: earlier → m.delivery? = some (n, x) →
    IsMade earlier m n x

theorem traced_of_quiet (h : deliveries ms = []) : Traced ms := by
  intro later m earlier n x heq hm
  have hmem : (n, x) ∈ deliveries ms :=
    List.mem_filterMap.2 ⟨m, heq ▸ List.mem_append_right _ List.mem_cons_self, hm⟩
  rw [h] at hmem
  exact absurd hmem List.not_mem_nil

theorem Traced.append (h : Traced ms) (h' : Traced ms') : Traced (ms' ++ ms) := by
  intro later m earlier n x heq hm
  rcases append_cases heq with ⟨e, hms', rfl⟩ | ⟨l, -, hms⟩
  · exact (h' later m e n x hms' hm).append ms
  · exact h l m earlier n x hms hm

theorem composable_traced : Composable fun _ ms _ => Traced ms :=
  ⟨fun _ => traced_of_quiet rfl, fun _ _ => traced_of_quiet rfl, Traced.append⟩

/-- All calls in all runs of a task are made by operations in it. -/
abbrev Traces {α : Type} (S : ScriptRun) (t : Task α) : Prop := Always S (fun _ ms _ => Traced ms) t

/-- All calls in all runs of scripts are made by operations in them. -/
def ScriptsTrace (S : ScriptRun) : Prop := ∀ script s ms s', S script s ms s' → Traced ms

theorem traces_act {a : Action} (ha : ∀ n x, a ≠ .deliver n x) : Traces S (act a) :=
  always_act fun _ _ _ _ => traced_of_quiet (deliveries_act ha)

theorem gentle_traces (hS : ScriptsTrace S) : Gentle fun _ t => Traces S t where
  toSequential := sequential_always composable_traced
  act := fun a ha => traces_act fun n x heq => by
    rw [heq] at ha
    cases ha
  run := fun script => always_run composable_traced (hS script)

/-! ### The calls of an operation -/

/-- A moment of what is done with the items of a list belongs to one of them, and what is done with
those in front of it is done. -/
theorem runs_forAll_split {ι : Type} {f : ι → Task Unit} : ∀ {is : List ι} {s s' : Session}
    {later earlier : List Moment} {m : Moment},
    Runs S (Program.forAll f is) s (later ++ m :: earlier) () s' →
    ∃ done i rest s₁ s₂ part after before, is = done ++ i :: rest ∧
      Runs S (Program.forAll f done) s part () s₁ ∧
      Runs S (f i) s₁ (after ++ m :: before) () s₂ ∧ earlier = before ++ part
  | [], s, s', later, earlier, m, h => by
    have hnil := (runs_done.1 h).1
    simp at hnil
  | i :: is, s, s', later, earlier, m, h => by
    obtain ⟨u, s₁, ms₁, ms₂, hfirst, hrest, heq⟩ := runs_bind.1 h
    rcases append_cases heq.symm with ⟨e, rfl, rfl⟩ | ⟨l, -, rfl⟩
    · obtain ⟨done, j, rest, s₂, s₃, part, after, before, rfl, hdone, hj, rfl⟩ :=
        runs_forAll_split hrest
      refine ⟨i :: done, j, rest, s₂, s₃, part ++ ms₁, after, before, rfl, ?_, hj,
        List.append_assoc ..⟩
      exact runs_bind.2 ⟨u, s₁, ms₁, part, hfirst, hdone, rfl⟩
    · exact ⟨[], i, is, s, s₁, [], l, earlier, rfl, .done () s, hfirst,
        (List.append_nil earlier).symm⟩

/-- A call while listeners are called one after the other is that of one of them, or it is made by
an operation that one of them has begun. -/
theorem call_of_deliver (hS : ScriptsTrace S) {ns : List Nat} {y : Option Resolved}
    (h : Runs S (RegistryId.deliver x ns) s (later ++ m :: earlier) () s')
    (hm : m.delivery? = some (n, y)) :
    (∃ front rest σ, ns = front ++ n :: rest ∧ y = x ∧ m = ⟨0, .act (.deliver n x), σ⟩ ∧
      Runs S (RegistryId.deliver x front) s earlier () σ) ∨ IsMade earlier m n y := by
  obtain ⟨front, i, rest, s₁, s₂, part, after, before, rfl, hfront, hi, rfl⟩ :=
    runs_forAll_split h
  obtain ⟨script, s₃, ms₁, ms₂, hact, hscript, heq⟩ := runs_bind.1 hi
  obtain ⟨-, rfl⟩ := runs_act.1 hact
  rcases append_cases heq.symm with ⟨e, rfl, rfl⟩ | ⟨l, -, hone⟩
  · right
    have htraced := always_run composable_traced (hS script) _ _ _ _ hscript
    have hmade := htraced after m e n y rfl hm
    rw [List.append_assoc]
    exact hmade.append _
  · left
    cases l with
    | nil =>
      cases hone
      cases hm
      exact ⟨front, rest, s₁, rfl, rfl, rfl, hfront⟩
    | cons m' l => simp at hone

/-- A call while changes are told is the call of a listener of one of the keys, or it is made by an
operation that one of the listeners has begun. -/
theorem call_of_notify (hS : ScriptsTrace S) {changes : List Change}
    (h : Runs S (r.notify changes) s (later ++ m :: earlier) () s')
    (hm : m.delivery? = some (n, x)) :
    (∃ key, Tells S r changes s key n x earlier m) ∨ IsMade earlier m n x := by
  obtain ⟨told, ⟨key, y⟩, rest, s₁, s₂, part, after, before, rfl, htold, hi, rfl⟩ :=
    runs_forAll_split h
  obtain ⟨ns, s₃, ms₁, ms₂, hask, hdeliver, heq⟩ := runs_bind.1 hi
  rcases append_cases heq.symm with ⟨e, rfl, rfl⟩ | ⟨l, -, hone⟩
  · rcases call_of_deliver hS hdeliver hm with ⟨front, behind, σ, rfl, rfl, rfl, hfront⟩ | hmade
    · left
      rw [List.append_assoc]
      exact ⟨key, .intro rfl htold hask hfront⟩
    · rw [List.append_assoc]
      exact .inr (hmade.append _)
  · obtain ⟨-, -, -, -, -, rfl⟩ := runs_ask.1 hask
    exact .inr ((traced_of_quiet rfl l m before n x hone hm).append _)

/-- The calls of an operation are made by it or by operations that its listeners have begun. -/
theorem traced_operation (hS : ScriptsTrace (ScriptRuns k)) {changes : List Change}
    {work : List Moment} (hgo : LetsGo (ScriptRuns k) r changes s work s₁) (hwork : Traced work)
    (hnotify : Runs (ScriptRuns k) (r.notify changes) s₁ ms () s') : Traced (ms ++ work) := by
  intro later m earlier n x heq hm
  rcases append_cases heq with ⟨e, rfl, rfl⟩ | ⟨l, -, rfl⟩
  · rcases call_of_notify hS hnotify hm with ⟨key, htells⟩ | hmade
    · have hall : e ++ work = e ++ (work ++ []) := by rw [List.append_nil]
      exact ⟨r, key, work, e, .intro hall hgo htells⟩
    · exact hmade.append work
  · exact hwork l m earlier n x rfl hm

theorem traces_refresh (hS : ScriptsTrace (ScriptRuns k)) (r : RegistryId) :
    Traces (ScriptRuns k) r.refresh := by
  intro s ms x s' h
  rw [refresh_eq] at h
  obtain ⟨y, s₁, ms₁, ms₂, hrenewal, hrest, rfl⟩ := runs_bind.1 h
  obtain ⟨u, s₂, ms₃, ms₄, hnotify, hdone, rfl⟩ := runs_bind.1 hrest
  obtain ⟨rfl, rfl, rfl⟩ := runs_done.1 hdone
  have hwork := (gentle_traces hS).renewal (fun b _ => traces_act nofun) _ _ _ _ hrenewal
  exact traced_operation hS (.refresh hrenewal) hwork hnotify

theorem traces_register (hS : ScriptsTrace (ScriptRuns k)) (r : RegistryId) (source : SourceId)
    (priority : Int) : Traces (ScriptRuns k) (r.register source priority) := by
  intro s ms x s' h
  rw [register_eq] at h
  obtain ⟨y, s₁, ms₁, ms₂, hregistration, hrest, rfl⟩ := runs_bind.1 h
  have hwork := (gentle_traces hS).registration (fun b => traces_act nofun) source priority
    _ _ _ _ hregistration
  cases y with
  | error e =>
    obtain ⟨rfl, rfl, rfl⟩ := runs_done.1 hrest
    exact hwork
  | ok changes =>
    obtain ⟨u, s₂, ms₃, ms₄, hnotify, hdone, rfl⟩ := runs_bind.1 hrest
    obtain ⟨rfl, rfl, rfl⟩ := runs_done.1 hdone
    exact traced_operation hS (.register hregistration) hwork hnotify

theorem parts_traces (hS : ScriptsTrace (ScriptRuns k)) :
    Parts fun _ t => Traces (ScriptRuns k) t where
  toSequential := sequential_always composable_traced
  passive := fun a ha => traces_act fun n x heq => by
    rw [heq] at ha
    cases ha
  read := (gentle_traces hS).read
  lookUp := (gentle_traces hS).lookUp
  invalidate := fun r key => traces_act nofun
  refresh := traces_refresh hS

theorem operations_traces (hS : ScriptsTrace (ScriptRuns k)) :
    Operations fun _ _ t => Traces (ScriptRuns k) t where
  toWalk := (parts_traces hS).walk
  own := fun a ha => traces_act fun n x heq => by
    rw [heq] at ha
    cases ha
  takeSnapshot := (gentle_traces hS).takeSnapshot
  register := traces_register hS

/-- Every call in a run of a script is made by an operation in it, however deep scripts are
nested. -/
theorem traced_script : ∀ k : Nat, ScriptsTrace (ScriptRuns k)
  | 0 => fun _ _ _ _ h => h.elim
  | k + 1 => fun script _ _ _ h =>
    (operations_traces (traced_script k)).script [] script _ _ _ _ h

/-! ### Sessions in the course of a run -/

/-- Layers have numbers of their own, and so have listeners, which stand in their order. -/
structure Session.IsRegular (s : Session) : Prop where
  orderly : s.IsOrderly
  inLine : ∀ r, s.InLine r

theorem isRegular_of_registries (h : s.registries = [{}]) : s.IsRegular := by
  refine ⟨isOrderly_of_registries h, fun r => ?_⟩
  have hnone : (s.registryAt r).listeners = [] := by
    rw [registryAt, h]
    cases r with
    | zero => rfl
    | succ r => rfl
  refine ⟨?_, ?_⟩
  · rw [hnone]
    exact .nil
  · rw [hnone]
    exact fun _ hl => absurd hl List.not_mem_nil

theorem isRegular_take {a : Action} {answer : a.Answer} (htake : s.take a = some (answer, s'))
    (hs : s.IsRegular) (hnumbered : ∀ reg ∈ s'.registries, reg.IsNumbered) : s'.IsRegular := by
  refine ⟨?_, fun r => inLine_take htake (hs.inLine r)⟩
  rcases take_cases htake with ⟨hregistries, hlisteners⟩ |
    ⟨r, b, reg, reg', x, rfl, hreg, hb, rfl⟩ | ⟨rfl, rfl⟩ | ⟨r, key, l, -, rfl⟩
  · exact hs.orderly.congr hregistries hlisteners
  · have hreg' := hnumbered reg' (List.mem_of_getElem? (registries_setRegistry hreg reg'))
    exact hs.orderly.setRegistry hreg (listeners_take hb) hreg'.seqs hreg'.seq_lt
  · have hms : deliveries [] = [] := rfl
    exact (settled_addRegistry hs.orderly hms).told.orderly
  · have hms : deliveries [] = [] := rfl
    exact (settled_addListener hs.orderly hms r key l).told.orderly

/-- All sessions in a run of scripts are regular, and listeners stay listeners. -/
theorem isRegular_run {scripts : List Script} {m' : Machine Unit} (hs : s.IsRegular)
    (hnumbered : ∀ reg ∈ s.registries, reg.IsNumbered)
    (hrun : Machine.Run ⟨s, scripts.map Script.task⟩ ms m') :
    m'.session.IsRegular ∧ ∀ m ∈ ms, m.session.IsRegular ∧
      ∀ n r key, m.session.Listens n r key → m'.session.Listens n r key := by
  induction hrun with
  | start => exact ⟨hs, fun _ hm => absurd hm List.not_mem_nil⟩
  | @step ms m₁ m₂ i step hrun hpend hadv ih =>
    obtain ⟨hs₁, hms⟩ := ih
    have hsound := (sound_run hnumbered hrun).step hpend hadv
    have hstep : m₂.session.IsRegular ∧
        ∀ n r key, m₁.session.Listens n r key → m₂.session.Listens n r key := by
      rcases advance_cases hpend hadv with ⟨a, answer, next, s', -, -, htake, rfl⟩ |
        ⟨script, next, -, -, rfl⟩
      · exact ⟨isRegular_take htake hs₁ hsound.numbered, fun n r key hn => listens_take htake hn⟩
      · exact ⟨hs₁, fun n r key hn => hn⟩
    refine ⟨hstep.1, List.forall_mem_cons.2 ⟨⟨hs₁, hstep.2⟩, fun m hm => ?_⟩⟩
    exact ⟨(hms m hm).1, fun n r key hn => hstep.2 n r key ((hms m hm).2 n r key hn)⟩

/-! ### What an operation tells -/

/-- An operation begins at one of its moments. -/
theorem LetsGo.exists_moment {changes : List Change} {work : List Moment}
    (h : LetsGo S r changes s work s') : ∃ m ∈ work, m.session = s := by
  cases h with
  | refresh h =>
    obtain ⟨u, s₁, ms₁, ms₂, hlock, -, rfl⟩ := runs_bind.1 h
    obtain ⟨-, -, -, -, -, rfl⟩ := runs_ask.1 hlock
    exact ⟨_, List.mem_append_right _ (List.mem_singleton_self _), rfl⟩
  | register h =>
    obtain ⟨d, s₁, ms₁, ms₂, hdescribe, -, rfl⟩ := runs_bind.1 h
    obtain ⟨-, rfl⟩ := runs_act.1 hdescribe
    exact ⟨_, List.mem_append_right _ (List.mem_singleton_self _), rfl⟩

theorem LetsGo.prepared {changes : List Change} {work : List Moment} (hs : s.IsOrderly)
    (h : LetsGo (ScriptRuns k) r changes s work s') : Prepared r changes s work s' := by
  cases h with
  | refresh h => exact prepared_renewal (scriptsSettle k) hs h
  | register h => exact prepared_registration (scriptsSettle k) hs h

/-- No key is told of twice. -/
theorem LetsGo.nodup {changes : List Change} {work : List Moment} (hs : s.IsOrderly)
    (h : LetsGo (ScriptRuns k) r changes s work s') : (changes.map (·.1)).Nodup := by
  have hnews : IsNews changes r s s' := by
    cases h with
    | refresh h =>
      obtain ⟨u, s₁, ms₁, ms₂, hlock, -, -⟩ := runs_bind.1 h
      obtain ⟨reg, -, hreg, -⟩ := runs_ask.1 hlock
      exact isNews_of_renewal hs hreg h.ends
    | register h =>
      obtain ⟨reg, hreg⟩ := exists_registry_of_registration h.ends
      exact isNews_of_registration hreg h.ends
  refine List.pairwise_map.2 (hnews.ascending.imp fun {c c'} hlt heq => ?_)
  rw [heq] at hlt
  exact List.lt_irrefl _ hlt

/-- A listener that is called listens. If it was there when changes began to be told and has not been
called since, its key resolves as it did then. -/
theorem Tells.resolution {changes : List Change} {between : List Moment} (hs : s.IsOrderly)
    (h : Tells (ScriptRuns k) r changes s key n x between m) : m.session.Listens n r key ∧
      (s.Listens n r key → (∀ d ∈ deliveries between, d.1 ≠ n) →
        m.session.resolution r key = s.resolution r key) := by
  obtain ⟨-, htold, hask, hdeliver⟩ := h
  have h₁ := (calling_notify (scriptsSettle k) hs htold).settled
  have h₂ := settles_ask r rfl _ _ _ _ hask h₁.told.orderly
  have hns := mem_of_runs_listeners hask
  have h₃ := (calling_delivers (scriptsSettle k) h₂.told.orderly (fun n' hn' =>
    h₂.told.listens n' r key ((hns n').1 (List.mem_append_left _ hn'))) hdeliver).settled
  have hn := (hns n).1 (List.mem_append_right _ List.mem_cons_self)
  refine ⟨h₃.told.listens n r key (h₂.told.listens n r key hn), fun hlistens hnone => ?_⟩
  exact ((h₁.told.trans h₂.told).trans h₃.told).unchanged n r key hlistens id hnone

/-- What an operation tells its key resolved to when the operation let go of the registry. -/
theorem MakesCall.resolution {work between : List Moment}
    (h : MakesCall r key n x earlier work between m)
    (hregular : ∀ m' ∈ earlier, m'.session.IsRegular) :
    m.session.Listens n r key ∧ ∃ m₀ work', work = m₀ :: work' ∧
      m₀.step = .act (.registry r .unlock) ∧ m₀.session.resolution r key = some x ∧
      (m₀.session.Listens n r key → (∀ d ∈ deliveries between, d.1 ≠ n) →
        m.session.resolution r key = some x) := by
  obtain ⟨rfl, hgo, htells⟩ := h
  obtain ⟨m₁, hm₁, rfl⟩ := hgo.exists_moment
  have hs := (hregular m₁ (List.mem_append_right _ (List.mem_append_left _ hm₁))).orderly
  have hprepared := hgo.prepared hs
  obtain ⟨σ, work', rfl, hlistens, hres⟩ := hprepared.unlocked
  obtain ⟨hn, hstill⟩ := htells.resolution hprepared.told.orderly
  obtain ⟨hchanges, -⟩ := htells
  obtain ⟨hσ, hs₁⟩ := hres key x (by
    rw [hchanges]
    exact List.mem_append_right _ List.mem_cons_self)
  refine ⟨hn, _, work', rfl, rfl, hσ, fun hn₀ hnone => ?_⟩
  rw [hstill (hlistens n r key hn₀) hnone, hs₁]

theorem Session.InLine.nodup_listenersOf {reg : Registry} (h : s.InLine r)
    (hreg : s.registries[r]? = some reg) (key : String) : (reg.listenersOf key).Nodup := by
  have hascending := h.ascending
  rw [registryAt_eq hreg] at hascending
  exact (hascending.sublist (List.filter_sublist.map _)).imp fun hlt => Nat.ne_of_lt hlt

/-- An operation calls no listener twice. So if a listener was called after the operation had let
go of the registry, another operation made the call, which had let go by then. -/
theorem Tells.isMade {changes : List Change} {between : List Moment} {m' : Moment}
    {y : Option Resolved} (hs : s.IsOrderly)
    (h : Tells (ScriptRuns k) r changes s key n x between m')
    (hnodup : (changes.map (·.1)).Nodup) (hline : ∀ σ ∈ between, σ.session.InLine r)
    (heq : between = later ++ m :: earlier) (hm : m.delivery? = some (n, y))
    (hkey : ∀ key', m.session.Listens n r key' → key' = key) : IsMade earlier m n y := by
  obtain @⟨told, rest, ns, ns', s₁, s₂, σ, part, asked, called, rfl, htold, hask, hdeliver⟩ := h
  obtain ⟨reg, reg', hreg, htake, -, rfl⟩ := runs_ask.1 hask
  rcases append_cases heq with ⟨e, rfl, rfl⟩ | ⟨l, -, heq₁⟩
  · rcases call_of_deliver (traced_script k) hdeliver hm with ⟨front, behind, -, rfl, -⟩ | hmade
    · have hns : reg.listenersOf key = front ++ n :: behind ++ n :: ns' :=
        congrArg Prod.fst (Option.some.inj htake)
      have hline₁ := hline ⟨0, .act (.registry r (.listeners key)), s₁⟩ (by simp)
      have hnodup₁ := hline₁.nodup_listenersOf hreg key
      rw [hns] at hnodup₁
      simp [List.nodup_append] at hnodup₁
    · exact hmade.append _
  · rcases append_cases heq₁ with ⟨e, hasked, rfl⟩ | ⟨l', -, rfl⟩
    · exact (traced_of_quiet rfl _ _ _ _ _ hasked hm).append _
    · rcases call_of_notify (traced_script k) htold hm with ⟨key', htells⟩ | hmade
      · obtain rfl := hkey key' (htells.resolution hs).1
        obtain ⟨rfl, -⟩ := htells
        simp [List.nodup_append] at hnodup
      · exact hmade

/-! ### The last call of a listener -/

/-- When a run is over a key resolves as it did when its listener was called last. The listener was
told what the key resolved to when the operation that made the call let go of the registry. This is
what the key resolves to, unless the listener subscribed only then, or was called by then by another
operation, which had let go of the registry in between. -/
theorem resolution_eq_of_last_call {script : Script} (hs : s.registries = [{}])
    (hrun : Machine.Run ⟨s, [script.task]⟩ (later ++ m :: earlier) ⟨s', [.done ()]⟩)
    (hm : m.delivery? = some (n, x)) (hlast : ∀ d ∈ deliveries later, d.1 ≠ n)
    (hn : s'.Listens n r key) :
    s'.resolution r key = m.session.resolution r key ∧ ∃ m₀ work between,
      MakesCall r key n x earlier (m₀ :: work) between m ∧
      m₀.step = .act (.registry r .unlock) ∧ m₀.session.resolution r key = some x ∧
      (s'.resolution r key = some x ∨ ¬ m₀.session.Listens n r key ∨
        ∃ later' m' earlier' y m₁ work' between', between = later' ++ m' :: earlier' ∧
          MakesCall r key n y earlier' (m₁ :: work') between' m' ∧
          m₁.step = .act (.registry r .unlock) ∧ m₁.session.resolution r key = some y) := by
  have hruns := runs_of_machine _ (Nat.le_refl _) hrun
  have horderly := isOrderly_of_registries hs
  have hsettled := scriptsSettle (_ + 1) script s _ s' hruns horderly
  have hres := hsettled.told.last n x r key later m earlier hn id rfl hm hlast
  have hnumbered : ∀ reg ∈ s.registries, reg.IsNumbered := by
    intro reg hreg
    rw [hs, List.mem_singleton] at hreg
    rw [hreg]
    exact Registry.isNumbered_empty
  have hscripts : Machine.Run ⟨s, [script].map Script.task⟩ _ _ := hrun
  obtain ⟨-, hmoments⟩ := isRegular_run (isRegular_of_registries hs) hnumbered hscripts
  -- Who is called, whoever made the call, is called for the key that it listens to in the end.
  have hkey : ∀ {m' r' key'}, m' ∈ later ++ m :: earlier → m'.session.Listens n r' key' →
      r' = r ∧ key' = key := fun hm' hn' =>
    hsettled.told.orderly.listener_unique n _ r _ key ((hmoments _ hm').2 _ _ _ hn') hn
  have hcall : ∀ {m' earlier' y}, (∀ σ ∈ m' :: earlier', σ ∈ later ++ m :: earlier) →
      IsMade earlier' m' n y → ∃ m₀ work between,
        MakesCall r key n y earlier' (m₀ :: work) between m' ∧
        m₀.step = .act (.registry r .unlock) ∧ m₀.session.resolution r key = some y ∧
        (m₀.session.Listens n r key → (∀ d ∈ deliveries between, d.1 ≠ n) →
          m'.session.resolution r key = some y) := by
    rintro m' earlier' y hmem ⟨r', key', work, between, hmakes⟩
    obtain ⟨hn', m₀, work', rfl, hfacts⟩ := hmakes.resolution fun σ hσ =>
      (hmoments σ (hmem σ (List.mem_cons_of_mem _ hσ))).1
    obtain ⟨rfl, rfl⟩ := hkey (hmem m' List.mem_cons_self) hn'
    exact ⟨m₀, work', between, hmakes, hfacts⟩
  have hmem : ∀ σ ∈ m :: earlier, σ ∈ later ++ m :: earlier := fun _ => List.mem_append_right _
  obtain ⟨m₀, work, between, hmakes, hstep, hvalue, hstill⟩ :=
    hcall hmem (traced_script (_ + 1) script s _ s' hruns later m earlier n x rfl hm)
  refine ⟨hres, m₀, work, between, hmakes, hstep, hvalue, ?_⟩
  by_cases hnone : ∀ d ∈ deliveries between, d.1 ≠ n
  · by_cases hn₀ : m₀.session.Listens n r key
    · exact .inl (hres.trans (hstill hn₀ hnone))
    · exact .inr (.inl hn₀)
  · right
    right
    push Not at hnone
    obtain ⟨⟨_, y⟩, hd, rfl⟩ := hnone
    obtain ⟨m', hm', hdelivery⟩ := List.mem_filterMap.1 hd
    obtain ⟨later', earlier', rfl⟩ := List.append_of_mem hm'
    obtain @⟨k, changes, s₀, s₁, before, rfl, hgo, htells⟩ := hmakes
    have hbetween : ∀ σ ∈ later' ++ m' :: earlier', σ ∈ later ++ m :: _ := fun σ hσ =>
      hmem σ (List.mem_cons_of_mem _ (List.mem_append_left _ hσ))
    obtain ⟨m₁, hm₁, rfl⟩ := hgo.exists_moment
    have hm₁' := hmem m₁ (List.mem_cons_of_mem _
      (List.mem_append_right _ (List.mem_append_left _ hm₁)))
    have hs₀ := (hmoments m₁ hm₁').1.orderly
    have hmade := htells.isMade (hgo.prepared hs₀).told.orderly (hgo.nodup hs₀)
      (fun σ hσ => (hmoments σ (hbetween σ hσ)).1.inLine r) rfl hdelivery
      fun key' hn' => (hkey (hbetween m' hm') hn').2
    obtain ⟨m₂, work', between', hmakes, hstep', hvalue', -⟩ :=
      hcall (fun σ hσ => hbetween σ (List.mem_append_right _ hσ)) hmade
    exact ⟨later', m', earlier', y, m₂, work', between', rfl, hmakes, hstep', hvalue'⟩

/-- The last call of a listener that was called. -/
theorem exists_last_call {d : Nat × Option Resolved} {ds : List (Nat × Option Resolved)}
    (h : deliveries ms = d :: ds) : ∃ later m earlier, ms = later ++ m :: earlier ∧
      (∀ d' ∈ deliveries later, d'.1 ≠ d.1) ∧ m.delivery? = some d := by
  obtain ⟨later, m, earlier, rfl, hlater, hm, -⟩ := List.filterMap_eq_cons_iff.1 h
  refine ⟨later, m, earlier, rfl, fun d' hd' => ?_, hm⟩
  rw [deliveries, List.filterMap_eq_nil_iff.2 hlater] at hd'
  exact absurd hd' List.not_mem_nil

/-- A map, a listener that writes to it and refreshes, and another listener. Both keys change before
the first refresh. -/
def refreshWithin : Script where
  owner := ""
  commands :=
    [.make "m" (.map { name := "m", values := .ofList [("a", "1"), ("b", "1")] }) (some 0),
      .deed (.subscribe "x" "a" [.deed (.put "m" "b" "3"), .refresh]),
      .deed (.subscribe "y" "b" []), .deed (.put "m" "a" "2"), .deed (.put "m" "b" "2"), .refresh]

/-- The run of that script on its own. -/
def refreshWithinRun : List Moment × Machine Unit :=
  Machine.follow ⟨{}, [refreshWithin.task]⟩ [] (List.replicate 200 0)

/-- The refresh within the refresh tells the other listener of the newer value, and then the first
refresh goes on and tells it of the value before. -/
theorem exists_run_refreshWithin : ∃ s' later m earlier,
    Machine.Run ⟨{}, [refreshWithin.task]⟩ (later ++ m :: earlier) ⟨s', [.done ()]⟩ ∧
    m.delivery? = some (1, some ⟨"2", "m"⟩) ∧ (∀ d ∈ deliveries later, d.1 ≠ 1) ∧
    s'.Listens 1 0 "b" ∧ s'.resolution 0 "b" = some (some ⟨"3", "m"⟩) := by
  have hcalls : deliveries refreshWithinRun.1 =
      [(1, some ⟨"2", "m"⟩), (1, some ⟨"3", "m"⟩), (0, some ⟨"2", "m"⟩)] := by
    rfl
  have hlisteners : refreshWithinRun.2.session.registries.map (·.listeners) =
      [[("a", 0), ("b", 1)]] := by
    rfl
  have hres : refreshWithinRun.2.session.resolution 0 "b" = some (some ⟨"3", "m"⟩) := by rfl
  have hmachine : Machine.Run ⟨{}, [refreshWithin.task]⟩ refreshWithinRun.1 refreshWithinRun.2 :=
    Machine.run_follow (List.replicate 200 0) .start
  rw [Machine.tasks_of_isOver (m := refreshWithinRun.2) (by rfl) (by rfl)] at hmachine
  obtain ⟨later, m, earlier, heq, hlast, hm⟩ := exists_last_call hcalls
  rw [heq] at hmachine
  refine ⟨_, later, m, earlier, hmachine, hm, hlast, ?_, hres⟩
  obtain ⟨reg, hreg, hmem⟩ := List.map_eq_singleton_iff.1 hlisteners
  exact ⟨reg, by rw [hreg]; rfl, by rw [hmem]; exact List.mem_cons_of_mem _ List.mem_cons_self⟩


/-- The other listener was told what its key resolved to when the first refresh let go of the
registry. The key resolves to something else in the end, as the refresh within has called the
listener before. -/
theorem resolution_eq_of_refreshWithin : ∃ s' later m earlier m₀ work between,
    Machine.Run ⟨{}, [refreshWithin.task]⟩ (later ++ m :: earlier) ⟨s', [.done ()]⟩ ∧
    m.delivery? = some (1, some ⟨"2", "m"⟩) ∧ (∀ d ∈ deliveries later, d.1 ≠ 1) ∧
    s'.Listens 1 0 "b" ∧ s'.resolution 0 "b" = some (some ⟨"3", "m"⟩) ∧
    s'.resolution 0 "b" = m.session.resolution 0 "b" ∧
    MakesCall 0 "b" 1 (some ⟨"2", "m"⟩) earlier (m₀ :: work) between m ∧
    m₀.session.resolution 0 "b" = some (some ⟨"2", "m"⟩) ∧
    (¬ m₀.session.Listens 1 0 "b" ∨
      ∃ later' m' earlier' y m₁ work' between', between = later' ++ m' :: earlier' ∧
        MakesCall 0 "b" 1 y earlier' (m₁ :: work') between' m' ∧
        m₁.step = .act (.registry 0 .unlock) ∧ m₁.session.resolution 0 "b" = some y) := by
  obtain ⟨s', later, m, earlier, hrun, hm, hlast, hn, hres⟩ := exists_run_refreshWithin
  obtain ⟨hcall, m₀, work, between, hmakes, -, hvalue, hunless⟩ :=
    resolution_eq_of_last_call rfl hrun hm hlast hn
  refine ⟨s', later, m, earlier, m₀, work, between, hrun, hm, hlast, hn, hres, hcall, hmakes,
    hvalue, hunless.resolve_left fun hx => ?_⟩
  rw [hres] at hx
  exact absurd hx (by decide)

/-- The last call of a listener does not always tell what the key resolves to in the end. -/
theorem not_forall_resolution_eq_last_call : ¬ ∀ (script : Script) (s' : Session)
    (later earlier : List Moment) (m : Moment) (n : Nat) (x : Option Resolved) (r : RegistryId)
    (key : String),
    Machine.Run ⟨{}, [script.task]⟩ (later ++ m :: earlier) ⟨s', [.done ()]⟩ →
    m.delivery? = some (n, x) → (∀ d ∈ deliveries later, d.1 ≠ n) → s'.Listens n r key →
    s'.resolution r key = some x := by
  intro h
  obtain ⟨s', later, m, earlier, hrun, hm, hlast, hn, hres⟩ := exists_run_refreshWithin
  have hx := h refreshWithin s' later earlier m 1 _ 0 "b" hrun hm hlast hn
  rw [hres] at hx
  exact absurd hx (by decide)

end Strata
