import Strata.Proofs.Changing
import Strata.Proofs.Frames
import Strata.Proofs.Deliveries
import Strata.Session.Perform

/-!
Operations whose listeners use no registry. Before listeners are called nobody is called
(`isSilent_renewal`, `isSilent_registration`), and listeners that use no registry leave registries
alone (`undisturbed_of_scriptRuns`). Main statement: everybody who is called in an operation is told of
a change that is one of the recorded snapshots and that the cache does not contradict when the
operation is over (`confirms_of_operation`).
-/

namespace Strata

open Session RegistryId Strata.Task

/-! ### Scripts that leave registries alone -/

/-- Commands that use no registry. -/
inductive Command.IsOutside : Command → Prop
  | deed {d : Deed Command} : (∀ id key reaction, d ≠ .subscribe id key reaction) →
    (∀ id, d ≠ .follow id) → IsOutside (.deed d)
  | lookup (id key : String) : IsOutside (.lookup id key)
  | snapshot (id : String) : IsOutside (.snapshot id)

/-- A listener that uses no registry when it is called. -/
def Listener.IsOutside : Listener → Prop
  | .script s => ∀ c ∈ s.commands, c.IsOutside
  | .follower .. => True

namespace Session

variable {S : ScriptRun} {s s' : Session} {n : SourceId}

/-- Nobody was called, and the sources are of the five kinds. -/
structure Silent (ms : List Machine.Moment) (s' : Session) : Prop where
  isPlain : s'.IsPlain
  none : Machine.deliveries ms = []

/-- Nobody was called, and registries and listeners are the same. -/
structure Undisturbed (s : Session) (ms : List Machine.Moment) (s' : Session) : Prop
    extends Silent ms s' where
  registries : s'.registries = s.registries
  listeners : s'.listeners = s.listeners

theorem composable_silent : Composable fun s ms s' => s.IsPlain → Silent ms s' := by
  refine ⟨fun s h => ⟨h, rfl⟩, fun _ s h => ⟨h, rfl⟩, fun h h' hs => ?_⟩
  have h₁ := h hs
  have h₂ := h' h₁.isPlain
  exact ⟨h₂.isPlain, by rw [Machine.deliveries_append, h₁.none, h₂.none, List.append_nil]⟩

theorem composable_undisturbed : Composable fun s ms s' => s.IsPlain → Undisturbed s ms s' := by
  refine ⟨fun s h => ⟨⟨h, rfl⟩, rfl, rfl⟩, fun _ s h => ⟨⟨h, rfl⟩, rfl, rfl⟩, fun h h' hs => ?_⟩
  have h₁ := h hs
  have h₂ := h' h₁.isPlain
  refine ⟨⟨h₂.isPlain, ?_⟩, h₂.registries.trans h₁.registries, h₂.listeners.trans h₁.listeners⟩
  rw [Machine.deliveries_append, h₁.none, h₂.none, List.append_nil]

/-! ### Operations before listeners are called -/

/-- All runs of a task from sources of the five kinds call nobody. -/
abbrev IsSilent {α : Type} (S : ScriptRun) (t : Task α) : Prop :=
  Always S (fun s ms s' => s.IsPlain → Silent ms s') t

theorem isSilent_act {a : Action} (ha : ∀ n x, a ≠ .deliver n x)
    (h : ∀ (s : Session) (answer : a.Answer) (s' : Session),
      s.take a = some (answer, s') → s'.sources = s.sources) : IsSilent S (act a) :=
  always_act fun s answer s' htake hs =>
    ⟨by rw [IsPlain, h s answer s' htake]; exact hs, Machine.deliveries_act ha⟩

theorem isSilent_ask (r : RegistryId) (a : RegistryAction) : IsSilent S (ask r a) := by
  refine fun s ms answer s' h hs => ?_
  obtain ⟨reg, reg', -, -, rfl, rfl⟩ := runs_ask.1 h
  exact ⟨hs, rfl⟩

theorem isSilent_observe (c : Circumstance) (e : Failure) : IsSilent S (act (.observe c e)) :=
  isSilent_act (by simp) fun _ _ _ htake => by cases htake; rfl

theorem isSilent_takeSnapshot (n : SourceId) : IsSilent S (takeSnapshot n) := by
  intro s ms a s' h hs
  obtain ⟨-, rfl, rfl⟩ := (runs_takeSnapshot hs).1 h
  exact ⟨(sameButData_snapshot s n).isPlain hs, rfl⟩

theorem isSilent_done {α : Type} (a : α) : IsSilent S (.done a) := always_done composable_silent a

theorem isSilent_bind {α β : Type} {t : Task α} {f : α → Task β} (ht : IsSilent S t)
    (hf : ∀ a, IsSilent S (f a)) : IsSilent S (t.bind f) :=
  always_bind composable_silent ht hf

theorem isSilent_takeSnapshots : ∀ ls : List Layer, IsSilent S (takeSnapshots ls)
  | [] => isSilent_done _
  | l :: ls => by
    rw [takeSnapshots_cons]
    split
    · refine isSilent_bind (isSilent_bind (isSilent_takeSnapshot _) ?_) fun x =>
        isSilent_bind (isSilent_takeSnapshots ls) fun _ => isSilent_done _
      rintro (e | t)
      · exact isSilent_bind (isSilent_observe _ _) fun _ => isSilent_done _
      · exact isSilent_done _
    · exact isSilent_takeSnapshots ls

theorem isSilent_record (r : RegistryId) (taken : List (Layer × Option Snapshot)) :
    IsSilent S (r.record taken) := by
  refine always_forAll composable_silent ?_
  rintro ⟨l, _ | t⟩ -
  · exact isSilent_done _
  · exact isSilent_ask r _

theorem isSilent_renewal (r : RegistryId) : IsSilent S r.renewal := by
  refine isSilent_bind (isSilent_ask r _) fun _ => isSilent_bind (isSilent_ask r _) fun _ => ?_
  refine isSilent_bind (isSilent_bind (isSilent_ask r _) fun layers =>
    isSilent_bind (isSilent_takeSnapshots layers) fun taken =>
      isSilent_bind (isSilent_record r taken) fun _ =>
        isSilent_bind (isSilent_ask r _) fun _ => isSilent_done _) fun x => ?_
  exact isSilent_bind (isSilent_ask r _) fun _ => isSilent_bind (isSilent_ask r _) fun _ =>
    isSilent_done _

theorem isSilent_insertLayer (r : RegistryId) (old : List Layer) (n : SourceId) (name : String)
    (isMutable : Bool) (priority : Int) :
    IsSilent S (r.insertLayer old n name isMutable priority) := by
  rw [insertLayer_eq]
  refine isSilent_bind (isSilent_bind (isSilent_takeSnapshot _) ?_) fun x =>
    isSilent_bind (isSilent_ask r _) fun seq => isSilent_bind (isSilent_ask r _) fun _ =>
      isSilent_bind (isSilent_bind ?_ fun _ => ?_) fun _ => isSilent_done _
  · rintro (e | t)
    · exact isSilent_bind (isSilent_observe _ _) fun _ => isSilent_done _
    · exact isSilent_done _
  · split
    · exact isSilent_done _
    · exact isSilent_ask r _
  · split
    · exact isSilent_done _
    · exact isSilent_ask r _

theorem isSilent_registration (r : RegistryId) (n : SourceId) (priority : Int) :
    IsSilent S (r.registration n priority) := by
  refine isSilent_bind (isSilent_act (by simp) fun _ _ _ htake => ?_) fun d =>
    isSilent_bind (isSilent_ask r _) fun _ => isSilent_bind (isSilent_ask r _) fun old => ?_
  · rw [← (Prod.mk.inj (Option.some.inj htake)).2]
  · split
    · exact isSilent_bind (isSilent_observe _ _) fun _ => isSilent_bind (isSilent_ask r _)
        fun _ => isSilent_done _
    · refine isSilent_bind (isSilent_ask r _) fun _ =>
        isSilent_bind (isSilent_insertLayer r old n _ _ _) fun changes => ?_
      exact isSilent_bind (isSilent_ask r _) fun _ => isSilent_bind (isSilent_ask r _) fun _ =>
        isSilent_done _

/-! ### Scripts of listeners -/

/-- No deed changes what kinds of sources there are. -/
theorem isPlain_carryOut {d : Deed Command} (hs : s.IsPlain)
    (hd : (Action.deed d).isElsewhere = true) : (s.carryOut d).2.IsPlain := by
  cases hquiet : d.isQuiet with
  | true =>
    rw [IsPlain, (sameBase_carryOut hquiet).sources]
    exact hs
  | false =>
    have hwrites : d.isWriting = true := by
      cases d with
      | subscribe | follow => simp [Action.isElsewhere] at hd
      | put | remove | extend | script => rfl
      | _ => simp [Deed.isQuiet] at hquiet
    rcases exists_setSource_carryOut hwrites with h | ⟨n, p, p', hp, hnature, h⟩
    · rw [h]
      exact hs
    · rw [h]
      intro q hq
      rcases List.mem_or_eq_of_mem_set hq with hq | rfl
      · exact hs q hq
      · exact (congrArg Provider.Nature.isBuiltin hnature).trans (hs.isBuiltin p hp)

/-- All runs of a task from sources of the five kinds leave registries and listeners alone. -/
abbrev IsUndisturbing {α : Type} (S : ScriptRun) (t : Task α) : Prop :=
  Always S (fun s ms s' => s.IsPlain → Undisturbed s ms s') t

theorem isUndisturbing_done {α : Type} (a : α) : IsUndisturbing S (.done a) :=
  always_done composable_undisturbed a

theorem isUndisturbing_bind {α β : Type} {t : Task α} {f : α → Task β}
    (ht : IsUndisturbing S t) (hf : ∀ a, IsUndisturbing S (f a)) : IsUndisturbing S (t.bind f) :=
  always_bind composable_undisturbed ht hf

/-- A task that only asks sources leaves registries and listeners alone. -/
theorem isUndisturbing_of_ends {α : Type} {t : Task α} (ht : IsSilent S t)
    (h : ∀ s a s', s.IsPlain → Ends S t s a s' → SameButData s s') : IsUndisturbing S t := by
  intro s ms a s' hrun hs
  have hdata := h s a s' hs hrun.ends
  exact ⟨ht s ms a s' hrun hs, hdata.registries, hdata.listeners⟩

theorem isSilent_lookUp (n : SourceId) (key : String) : IsSilent S (lookUp n key) := by
  intro s ms a s' h hs
  obtain ⟨-, rfl, rfl⟩ := (runs_lookUp hs).1 h
  exact ⟨(sameButData_lookup s n key).isPlain hs, rfl⟩

theorem isUndisturbing_withSource {id : String} {f : SourceId → Task Outcome}
    (h : ∀ n, IsUndisturbing S (f n)) : IsUndisturbing S (Command.withSource id f) := by
  refine isUndisturbing_bind (always_act fun s answer s' htake hs => ?_) ?_
  · cases htake
    exact ⟨⟨hs, rfl⟩, rfl, rfl⟩
  · rintro (_ | n)
    · exact isUndisturbing_done _
    · exact h n

theorem isUndisturbing_task {c : Command} (hc : c.IsOutside) : IsUndisturbing S c.task := by
  cases hc with
  | @deed d hd hd' =>
    refine always_act fun s answer s' htake hs => ?_
    have helse : (Action.deed d).isElsewhere = true := by
      cases d with
      | subscribe id key reaction => exact absurd rfl (hd id key reaction)
      | follow id => exact absurd rfl (hd' id)
      | _ => rfl
    have hplain := isPlain_carryOut hs helse
    rw [Option.some.inj htake] at hplain
    obtain ⟨hregistries, hlisteners⟩ := take_elsewhere helse htake
    exact ⟨⟨hplain, rfl⟩, hregistries, hlisteners⟩
  | lookup id key =>
    refine isUndisturbing_withSource fun n => isUndisturbing_bind ?_ fun _ => isUndisturbing_done _
    refine isUndisturbing_of_ends (isSilent_lookUp n key) fun s a s' hs h => ?_
    obtain ⟨-, rfl⟩ := (ends_lookUp hs).1 h
    exact sameButData_lookup s n key
  | snapshot id =>
    refine isUndisturbing_withSource fun n => isUndisturbing_bind ?_ fun _ => isUndisturbing_done _
    refine isUndisturbing_of_ends (isSilent_takeSnapshot n) fun s a s' hs h => ?_
    obtain ⟨-, rfl⟩ := (ends_takeSnapshot hs).1 h
    exact sameButData_snapshot s n

theorem undisturbed_of_scriptRuns : ∀ (k : Nat) {script : Script} {s s' : Session}
    {ms : List Machine.Moment}, (∀ c ∈ script.commands, c.IsOutside) →
    ScriptRuns k script s ms s' → s.IsPlain → Undisturbed s ms s'
  | 0, _, _, _, _, _, h => h.elim
  | k + 1, script, s, s', ms, hscript, h => by
    refine always_forAll composable_undisturbed (fun c hc => ?_) s ms () s' h
    refine isUndisturbing_bind (isUndisturbing_task (hscript c hc)) fun o => ?_
    refine always_act fun s answer s' htake hs => ?_
    cases htake
    exact ⟨⟨hs, rfl⟩, rfl, rfl⟩

/-! ### The calls of listeners -/

variable {k : Nat}

/-- A listener that uses no registry is called once. -/
theorem deliver_spec {x : Option Resolved} : ∀ {ns : List Nat} {s s' : Session}
    {ms : List Machine.Moment}, s.IsPlain → (∀ l ∈ s.listeners, l.IsOutside) →
    Runs (ScriptRuns k) (RegistryId.deliver x ns) s ms () s' →
    s'.IsPlain ∧ s'.registries = s.registries ∧ s'.listeners = s.listeners ∧
      ∀ d ∈ Machine.deliveries ms, d.2 = x ∧ d.1 ∈ ns
  | [], s, s', ms, hs, _, h => by
    obtain ⟨rfl, -, rfl⟩ := runs_done.1 h
    exact ⟨hs, rfl, rfl, by simp⟩
  | n :: ns, s, s', ms, hs, hl, h => by
    obtain ⟨u, s₁, ms₁, ms₂, hcall, hrest, rfl⟩ := runs_bind.1 h
    obtain ⟨script, s₀, ms₃, ms₄, hact, hscript, rfl⟩ := runs_bind.1 hcall
    obtain ⟨htake, rfl⟩ := runs_act.1 hact
    have hs₀ : s₀.IsPlain ∧ s₀.registries = s.registries ∧ s₀.listeners = s.listeners ∧
        ∀ c ∈ script.commands, c.IsOutside := by
      simp only [take, Option.some.injEq, Session.deliver] at htake
      cases hn : s.listeners[n]? with
      | none =>
        rw [hn] at htake
        cases htake
        exact ⟨hs, rfl, rfl, fun c hc => absurd hc List.not_mem_nil⟩
      | some l =>
        have hln := hl l (List.mem_of_getElem? hn)
        rw [hn] at htake
        cases l with
        | script script' =>
          cases htake
          exact ⟨hs, rfl, rfl, hln⟩
        | follower id converter default =>
          cases htake
          exact ⟨hs, rfl, rfl, fun c hc => absurd hc List.not_mem_nil⟩
    obtain ⟨hplain, hregistries, hlisteners, houtside⟩ := hs₀
    have hrun := always_run composable_undisturbed
      (fun s ms s' => undisturbed_of_scriptRuns k houtside) _ _ _ _ hscript hplain
    obtain ⟨hplain', hregistries', hlisteners', hcalls⟩ := deliver_spec hrun.isPlain
      (by rw [hrun.listeners, hlisteners]; exact hl) hrest
    refine ⟨hplain', hregistries'.trans (hrun.registries.trans hregistries),
      hlisteners'.trans (hrun.listeners.trans hlisteners), fun d hd => ?_⟩
    rw [Machine.deliveries_append, Machine.deliveries_append, hrun.none, List.nil_append,
      List.mem_append] at hd
    rcases hd with hd | hd
    · exact ⟨(hcalls d hd).1, List.mem_cons_of_mem n (hcalls d hd).2⟩
    · rw [List.mem_singleton.1 (show d ∈ [(n, x)] from hd)]
      exact ⟨rfl, List.mem_cons_self⟩

/-- The listeners of keys that have changed are called with what has become of them. -/
theorem notify_spec {r : RegistryId} {reg : Registry} : ∀ {changes : List Change}
    {s s' : Session} {ms : List Machine.Moment}, s.IsPlain →
    (∀ l ∈ s.listeners, l.IsOutside) → s.registries[r]? = some reg →
    Runs (ScriptRuns k) (r.notify changes) s ms () s' →
    s'.IsPlain ∧ s'.registries = s.registries ∧
      ∀ d ∈ Machine.deliveries ms, ∃ key, (key, d.2) ∈ changes ∧ (key, d.1) ∈ reg.listeners
  | [], s, s', ms, hs, _, _, h => by
    obtain ⟨rfl, -, rfl⟩ := runs_done.1 h
    exact ⟨hs, rfl, by simp⟩
  | (key, x) :: changes, s, s', ms, hs, hl, hreg, h => by
    obtain ⟨u, s₁, ms₁, ms₂, hfirst, hrest, rfl⟩ := runs_bind.1 h
    obtain ⟨ns, s₀, ms₃, ms₄, hask, hdeliver, rfl⟩ := runs_bind.1 hfirst
    obtain ⟨rfl, rfl⟩ := (ends_ask_self hreg rfl).1 hask.ends
    obtain ⟨reg', reg'', -, -, -, rfl⟩ := runs_ask.1 hask
    obtain ⟨hplain, hregistries, hlisteners, hcalls⟩ := deliver_spec hs hl hdeliver
    obtain ⟨hplain', hregistries', hcalls'⟩ := notify_spec hplain (by rw [hlisteners]; exact hl)
      (by rw [hregistries, hreg]) hrest
    refine ⟨hplain', hregistries'.trans hregistries, fun d hd => ?_⟩
    rw [Machine.deliveries_append, Machine.deliveries_append, List.mem_append,
      List.mem_append] at hd
    rcases hd with hd | hd | hd
    · obtain ⟨key', hchange, hlistens⟩ := hcalls' d hd
      exact ⟨key', List.mem_cons_of_mem _ hchange, hlistens⟩
    · obtain ⟨hx, hn⟩ := hcalls d hd
      refine ⟨key, by rw [hx]; exact List.mem_cons_self, ?_⟩
      exact Registry.mem_listenersOf.1 hn
    · exact absurd hd List.not_mem_nil

end Session

/-! ### Operations -/

namespace RegistryId

/-- The operations that change what keys resolve to. -/
inductive Operation where
  | register (source : SourceId) (priority : Int)
  | refresh

/-- The task of an operation. -/
def Operation.task (r : RegistryId) : Operation → Task Unit
  | .register source priority => (r.register source priority).bind fun _ => .done ()
  | .refresh => r.refresh.bind fun _ => .done ()

end RegistryId

/-- Changes that are those of the recorded snapshots and that the cache does not contradict. -/
def Registry.Confirms (reg : Registry) (changes : List Change) : Prop :=
  ∀ key x, (key, x) ∈ changes → x = (View.recorded reg.layers).resolve key ∧
    ∀ e, reg.cache.entries.get? key = some e → e.resolved = x

namespace Session

variable {S : ScriptRun} {s s' : Session} {r : RegistryId} {ms : List Machine.Moment}

/-- The cache does not contradict what has changed when listeners are called. -/
theorem confirms_renewal {x : RefreshReport × List Change} (hs : s.IsPlain)
    (h : Ends S r.renewal s x s') : ∃ reg reg', s.registries[r]? = some reg ∧
      s'.registries[r]? = some reg' ∧ s'.listeners = s.listeners ∧
      reg'.listeners = reg.listeners ∧ reg'.Confirms x.2 := by
  obtain ⟨reg, taken, s₁, hreg, -, htaken, rfl, rfl⟩ := renewal_spec hs h
  have hplain : (s.setRegistry r (busy reg)).IsPlain := hs
  have hdata := sameButData_takeSnapshots hplain htaken
  have hreg₁ : s₁.registries[r]? = some (busy reg) := by
    rw [hdata.registries, registries_setRegistry hreg _]
  refine ⟨reg, renewed reg taken, hreg, registries_setRegistry hreg₁ _, hdata.listeners, rfl, ?_⟩
  rintro key x hx
  obtain ⟨-, -, rfl⟩ := mem_changesBetween.1 hx
  exact ⟨rfl, fun e he => (Cache.get?_evictStale.1 he).2⟩

theorem confirms_registration {n : SourceId} {priority : Int}
    {x : Except Failure (List Change)} (hs : s.IsPlain)
    (h : Ends S (r.registration n priority) s x s') : ∃ reg reg', s.registries[r]? = some reg ∧
      s'.registries[r]? = some reg' ∧ s'.listeners = s.listeners ∧
      reg'.listeners = reg.listeners ∧ ∀ changes, x = .ok changes → reg'.Confirms changes := by
  obtain ⟨reg, hreg, -, ⟨e, event, rfl, rfl⟩ | ⟨t, s₁, l, hl, -, hasked, rfl, rfl⟩⟩ :=
    registration_spec hs h
  · exact ⟨reg, reg, hreg, hreg, rfl, rfl, fun changes h => by cases h⟩
  have hreg₁ : s₁.registries[r]? = some (busy reg) := by
    rw [hasked.registries, registries_setRegistry hreg _]
  refine ⟨reg, registered reg l t.isSome, hreg, registries_setRegistry hreg₁ _, hasked.listeners,
    rfl, ?_⟩
  rintro changes hchanges key x hx
  cases hchanges
  obtain ⟨hkey, -, rfl⟩ := mem_changesBetween.1 hx
  refine ⟨rfl, fun e he => ?_⟩
  cases t with
  | none => rw [hl] at hkey; exact absurd hkey List.not_mem_nil
  | some t => exact ((get?_evictedBy.1 he).2 (Keys.mem_ofList.1 hkey)).symm

/-- Everybody who is called in an operation is told of a change that the registry confirms. -/
theorem confirms_of_operation {k : Nat} {op : Operation} (hs : s.IsPlain)
    (hl : ∀ l ∈ s.listeners, l.IsOutside)
    (h : Runs (ScriptRuns k) (op.task r) s ms () s') : s'.IsPlain ∧ ∃ reg reg' changes,
      s.registries[r]? = some reg ∧ s'.registries[r]? = some reg' ∧ reg'.Confirms changes ∧
      ∀ d ∈ Machine.deliveries ms, ∃ key, (key, d.2) ∈ changes ∧ (key, d.1) ∈ reg.listeners := by
  have hnotify : ∀ {s₁ : Session} {ms₁ ms₂ : List Machine.Moment} {reg reg' : Registry}
      {changes : List Change}, Silent ms₁ s₁ → s.registries[r]? = some reg →
      s₁.registries[r]? = some reg' → s₁.listeners = s.listeners →
      reg'.listeners = reg.listeners → reg'.Confirms changes →
      Runs (ScriptRuns k) (r.notify changes) s₁ ms₂ () s' → ms = ms₂ ++ ms₁ →
      s'.IsPlain ∧ ∃ reg reg' changes, s.registries[r]? = some reg ∧
        s'.registries[r]? = some reg' ∧ reg'.Confirms changes ∧
        ∀ d ∈ Machine.deliveries ms, ∃ key, (key, d.2) ∈ changes ∧ (key, d.1) ∈ reg.listeners := by
    intro s₁ ms₁ ms₂ reg reg' changes hsilent hreg hreg' hsame hlisteners hconfirms hrun hms
    obtain ⟨hplain, hregistries, hcalls⟩ := notify_spec hsilent.isPlain
      (by rw [hsame]; exact hl) hreg' hrun
    refine ⟨hplain, reg, reg', changes, hreg, by rw [hregistries, hreg'], hconfirms, ?_⟩
    intro d hd
    rw [hms, Machine.deliveries_append, hsilent.none, List.append_nil] at hd
    rw [← hlisteners]
    exact hcalls d hd
  cases op with
  | refresh =>
    obtain ⟨report, s₂, ms₁, ms₂, hrefresh, hdone, rfl⟩ := runs_bind.1 h
    obtain ⟨rfl, -, rfl⟩ := runs_done.1 hdone
    rw [refresh_eq] at hrefresh
    obtain ⟨x, s₁, ms₁, ms₂, hrenewal, hrest, rfl⟩ := runs_bind.1 hrefresh
    obtain ⟨u, s₃, ms₃, ms₄, hrun, hdone, rfl⟩ := runs_bind.1 hrest
    obtain ⟨rfl, -, rfl⟩ := runs_done.1 hdone
    obtain ⟨reg, reg', hreg, hreg', hsame, hlisteners, hconfirms⟩ :=
      confirms_renewal hs hrenewal.ends
    exact hnotify (isSilent_renewal r _ _ _ _ hrenewal hs) hreg hreg' hsame hlisteners hconfirms
      hrun rfl
  | register n priority =>
    obtain ⟨report, s₂, ms₁, ms₂, hregister, hdone, rfl⟩ := runs_bind.1 h
    obtain ⟨rfl, -, rfl⟩ := runs_done.1 hdone
    rw [register_eq] at hregister
    obtain ⟨x, s₁, ms₁, ms₂, hregistration, hrest, rfl⟩ := runs_bind.1 hregister
    obtain ⟨reg, reg', hreg, hreg', hsame, hlisteners, hconfirms⟩ :=
      confirms_registration hs hregistration.ends
    have hsilent := isSilent_registration r n priority _ _ _ _ hregistration hs
    cases x with
    | error e =>
      obtain ⟨rfl, -, rfl⟩ := runs_done.1 hrest
      have hnone : Runs (ScriptRuns k) (r.notify []) s₁ [] () s₁ := .done () s₁
      exact hnotify hsilent hreg hreg' hsame hlisteners
        (fun _ _ hx => absurd hx List.not_mem_nil) hnone rfl
    | ok changes =>
      obtain ⟨u, s₃, ms₃, ms₄, hrun, hdone, rfl⟩ := runs_bind.1 hrest
      obtain ⟨rfl, -, rfl⟩ := runs_done.1 hdone
      exact hnotify hsilent hreg hreg' hsame hlisteners (hconfirms changes rfl) hrun rfl

end Session

end Strata
