import Strata.Proofs.Faithful
import Strata.Session.Perform

/-!
The cache of a registry is not seen from outside as long as no source changes behind the back of
the registry: every entry is what consulting the layers would give, and so a key resolves with the
cache as it does without (`cache_transparent`). What there is in files and on servers may change as
it likes, and listeners may do what commands do.
-/

namespace Strata

open Session RegistryId Strata.Task

/-! ### Tasks that keep a session faithful -/

/-- A task that ends in a faithful session if it begins in one. -/
abbrev Task.Keeps {α : Type} (S : ScriptRun) (t : Task α) : Prop :=
  Task.Always S (fun s _ s' => s.IsFaithful → s'.IsFaithful) t

namespace Session

variable {S : ScriptRun} {α β : Type}

theorem composable_isFaithful :
    Task.Composable fun s _ s' => s.IsFaithful → s'.IsFaithful :=
  ⟨fun _ h => h, fun _ _ h => h, fun h h' hs => h' (h hs)⟩

theorem keeps_done (a : α) : Task.Keeps S (.done a) := always_done composable_isFaithful a

theorem keeps_bind {t : Task α} {f : α → Task β} (ht : Task.Keeps S t)
    (hf : ∀ a, Task.Keeps S (f a)) : Task.Keeps S (t.bind f) :=
  always_bind composable_isFaithful ht hf

theorem keeps_act {a : Action}
    (h : ∀ s answer s', s.take a = some (answer, s') → SameBase s s') :
    Task.Keeps S (act a) :=
  always_act fun s answer s' htake hs =>
    have hsame := h s answer s' htake
    hs.of_same hsame.registries hsame.current hsame.sources hsame.listeners

theorem keeps_of_ends {t : Task α}
    (h : ∀ s a s', Ends S t s a s' → s.IsFaithful → s'.IsFaithful) : Task.Keeps S t :=
  fun s _ a s' hrun => h s a s' hrun.ends

theorem keeps_passive {a : Action} (ha : a.isPassive = true) : Task.Keeps S (act a) :=
  keeps_act fun _ _ _ htake => sameBase_passive ha htake

theorem keeps_invalidate (r : RegistryId) (key : Option String) :
    Task.Keeps S (ask r (.invalidate key)) := by
  refine keeps_of_ends fun s x s' hrun hs => ?_
  obtain ⟨reg, hreg⟩ := exists_registry_of_ends_ask hrun
  obtain ⟨reg', htake, rfl⟩ := (ends_ask hreg).1 hrun
  cases htake
  obtain ⟨rfl, hone, hm⟩ := hs.exists_mirrors hreg
  refine hs.setRegistry hone ⟨hm.isFree, hm.names, hm.seqs, hm.seq_lt, hm.source, ?_⟩
  intro k e he
  cases key with
  | none => exact absurd (Cache.get?_invalidate_none.symm.trans he) (by simp)
  | some key => exact hm.entry k e (Cache.get?_invalidate_some.1 he).1

theorem keeps_read (r : RegistryId) (key : String) : Task.Keeps S (r.read key) :=
  keeps_of_ends fun _ _ _ hrun hs => hs.read hrun

theorem keeps_lookUp (n : SourceId) (key : String) : Task.Keeps S (lookUp n key) :=
  keeps_of_ends fun s _ _ hrun hs => by
    obtain ⟨-, rfl⟩ := (ends_lookUp hs.isPlain).1 hrun
    exact hs.fetched (fetched_lookup s n key)

/-! ### Operations and the listeners that they call -/

/-- Calm scripts keep a session faithful. -/
def KeepsCalm (S : ScriptRun) : Prop :=
  ∀ script s ms s', script.IsCalm → S script s ms s' → s.IsFaithful → s'.IsFaithful

theorem keeps_run (hS : KeepsCalm S) {script : Script} (h : script.IsCalm) :
    Task.Keeps S (Strata.run script) :=
  always_run composable_isFaithful fun s ms s' => hS script s ms s' h

theorem isCalm_silence : silence.IsCalm := fun _ hc => absurd hc List.not_mem_nil

theorem keeps_deliver (hS : KeepsCalm S) (x : Option Resolved) (listeners : List Nat) :
    Task.Keeps S (RegistryId.deliver x listeners) := by
  refine always_forAll composable_isFaithful fun n _ => ?_
  intro s ms u s' h hs
  obtain ⟨script, s₁, ms₁, ms₂, hact, hrun, -⟩ := runs_bind.1 h
  obtain ⟨htake, -⟩ := runs_act.1 hact
  simp only [take, Option.some.injEq, deliver] at htake
  cases hl : s.listeners[n]? with
  | none =>
    rw [hl] at htake
    cases htake
    exact keeps_run hS isCalm_silence _ _ _ _ hrun hs
  | some l =>
    have hcalm := hs.listener l (List.mem_of_getElem? hl)
    rw [hl] at htake
    cases l with
    | script script' =>
      cases htake
      exact keeps_run hS hcalm _ _ _ _ hrun (hs.of_same rfl rfl rfl rfl)
    | follower id converter default =>
      cases htake
      exact keeps_run hS isCalm_silence _ _ _ _ hrun (hs.of_same rfl rfl rfl rfl)

theorem keeps_notify (hS : KeepsCalm S) (r : RegistryId) (changes : List Change) :
    Task.Keeps S (r.notify changes) :=
  always_forAll composable_isFaithful fun change _ => by
    refine keeps_bind (keeps_of_ends fun s x s' hrun hs => ?_) fun listeners =>
      keeps_deliver hS change.2 listeners
    obtain ⟨reg, hreg⟩ := exists_registry_of_ends_ask hrun
    obtain ⟨-, rfl⟩ := (ends_ask_self hreg rfl).1 hrun
    exact hs

theorem keeps_refresh (hS : KeepsCalm S) (r : RegistryId) : Task.Keeps S r.refresh := by
  rw [refresh_eq]
  refine keeps_bind (keeps_of_ends fun _ _ _ hrun hs => hs.renewal hrun) fun x => ?_
  exact keeps_bind (keeps_notify hS r x.2) fun _ => keeps_done _

theorem register_keeps (hS : KeepsCalm S) {r : RegistryId} {n : SourceId} {priority : Int}
    {s s' : Session} {x : Except Failure Unit} (h : Ends S (r.register n priority) s x s')
    {p : Provider} (hp : s.sources[n]? = some p) (hs : s.IsFaithful) : s'.IsFaithful := by
  rw [register_eq] at h
  obtain ⟨y, s₁, hregistration, h⟩ := ends_bind.1 h
  have hs₁ := hs.registration hp hregistration
  cases y with
  | error e =>
    obtain ⟨-, rfl⟩ := ends_done.1 h
    exact hs₁
  | ok changes =>
    obtain ⟨ms, h⟩ := h
    exact keeps_bind (keeps_notify hS r changes) (fun _ => keeps_done _) _ _ _ _ h hs₁

/-! ### Commands -/

/-- A source that is there can be registered. -/
theorem registerCurrent_keeps (hS : KeepsCalm S) {n : SourceId} {priority : Int} {o x : Outcome}
    {s s' : Session} (h : Ends S (Command.registerCurrent n priority o) s x s') {p : Provider}
    (hp : s.sources[n]? = some p) (hs : s.IsFaithful) : s'.IsFaithful := by
  obtain ⟨r, s₁, hcurrent, h⟩ := ends_bind.1 h
  cases ends_act.1 hcurrent
  obtain ⟨y, s₂, hregister, h⟩ := ends_bind.1 h
  obtain ⟨-, rfl⟩ := ends_done.1 h
  exact register_keeps hS hregister hp hs

theorem keeps_register (hS : KeepsCalm S) (id : String) (priority : Int) :
    Task.Keeps S (Command.task (.register id priority)) := by
  refine keeps_of_ends fun s x s' h hs => ?_
  obtain ⟨n, s₁, hsource, h⟩ := ends_bind.1 h
  rw [ends_act] at hsource
  simp only [take, Option.some.injEq, Prod.mk.injEq] at hsource
  obtain ⟨hn, rfl⟩ := hsource
  cases n with
  | none =>
    obtain ⟨-, rfl⟩ := ends_done.1 h
    exact hs
  | some n =>
    obtain ⟨⟨m, p⟩, hm, rfl⟩ := Option.map_eq_some_iff.1 hn
    exact registerCurrent_keeps hS h (sources_of_source? hm) hs

/-- An order for a source that keeps its data to itself makes one. -/
theorem isSelfContained_build {s : Session} {id : String} {order : SourceOrder Command}
    (ho : order.isSelfContained = true) {p : Provider} (hp : (s.build id order).1 = .ok p) :
    p.isSelfContained = true := by
  cases order with
  | map c =>
    cases hp
    rfl
  | environment settings values =>
    simp only [build] at hp
    split at hp <;> cases hp
    rfl
  | file settings =>
    simp only [build] at hp
    split at hp
    · cases hp
    · split at hp <;> cases hp
      rfl
  | remote settings path reply =>
    simp only [build] at hp
    split at hp
    · cases hp
    · split at hp <;> cases hp
      rfl
  | system _ | declared _ | scripted _ _ _ => simp [SourceOrder.isSelfContained] at ho

theorem IsFaithful.addSource {s : Session} (hs : s.IsFaithful) (id : String) {p : Provider}
    (hp : p.isSelfContained = true) : (s.addSource id p).IsFaithful := by
  refine hs.congr rfl rfl ?_ ?_ hs.listener
  · intro q hq
    rcases List.mem_append.1 hq with hq | hq
    · exact hs.source q hq
    · rw [List.mem_singleton.1 hq]
      exact hp
  · intro n q hq
    obtain ⟨hlt, -⟩ := List.getElem?_eq_some_iff.1 hq
    rw [Session.addSource, List.getElem?_append_left hlt, hq]

theorem keeps_make (hS : KeepsCalm S) (id : String) {order : SourceOrder Command}
    (ho : order.isSelfContained = true) (priority : Option Int) :
    Task.Keeps S (Command.task (.make id order priority)) := by
  refine keeps_of_ends fun s x s' h hs => ?_
  obtain ⟨y, s₁, hbuild, h⟩ := ends_bind.1 h
  rw [ends_act] at hbuild
  have hsame := sameBase_build s id order
  have hself : ∀ p, (s.build id order).1 = .ok p → p.isSelfContained = true :=
    fun _ => isSelfContained_build ho
  simp only [take] at hbuild
  rcases hb : s.build id order with ⟨e | p, s₀⟩
  · rw [hb] at hbuild hsame
    cases hbuild
    obtain ⟨-, rfl⟩ := ends_done.1 h
    exact hs.of_same hsame.registries hsame.current hsame.sources hsame.listeners
  · rw [hb] at hbuild hsame hself
    cases hbuild
    have hs₀ := hs.of_same hsame.registries hsame.current hsame.sources hsame.listeners
    have hs₁ := hs₀.addSource id (hself p rfl)
    have hp : (s₀.addSource id p).sources[s₀.sources.length]? = some p := by
      simp [Session.addSource]
    obtain ⟨⟨name, isMutable⟩, s₁, hdescribe, h⟩ := ends_bind.1 h
    rw [ends_act] at hdescribe
    simp only [take, Option.some.injEq, Prod.mk.injEq] at hdescribe
    obtain ⟨-, rfl⟩ := hdescribe
    cases priority with
    | none =>
      obtain ⟨-, rfl⟩ := ends_done.1 h
      exact hs₁
    | some priority => exact registerCurrent_keeps hS h hp hs₁

/-! ### Deeds -/

/-- A session stays faithful when a calm listener subscribes. -/
theorem IsFaithful.addListener {s : Session} (hs : s.IsFaithful) (r : RegistryId) (key : String)
    {l : Listener} (hl : l.IsCalm) : (s.addListener r key l).IsFaithful := by
  obtain ⟨reg, hone, hm⟩ := hs.registry
  refine ⟨hs.source, ?_, hs.current, ?_⟩
  · intro l' hl'
    rcases List.mem_append.1 hl' with hl' | hl'
    · exact hs.listener l' hl'
    · rw [List.mem_singleton.1 hl']
      exact hl
  · have hlive : ∀ k ls, (s.addListener r key l).live k ls = s.live k ls :=
      fun _ _ => live_congr fun _ _ => rfl
    cases r with
    | zero =>
      refine ⟨reg.subscribe key s.listeners.length, ?_,
        ⟨hm.isFree, hm.names, hm.seqs, hm.seq_lt, hm.source, fun k e he => ?_⟩⟩
      · simp [Session.addListener, hone]
      · exact (hlive k reg.layers).trans (hm.entry k e he)
    | succ r =>
      refine ⟨reg, ?_, ⟨hm.isFree, hm.names, hm.seqs, hm.seq_lt, hm.source, fun k e he => ?_⟩⟩
      · simp [Session.addListener, hone]
      · exact (hlive k reg.layers).trans (hm.entry k e he)

theorem keeps_deed {d : Deed Command} (h : ∀ s : Session, s.IsFaithful →
    (s.carryOut d).2.IsFaithful) : Task.Keeps S (act (.deed d)) :=
  always_act fun s answer s' htake hs => by
    have hs' := h s hs
    rwa [Option.some.inj htake] at hs'

/-! ### All calm commands -/

theorem parts_keeps (hS : KeepsCalm S) : Parts fun _ t => Task.Keeps S t :=
  { sequential_always composable_isFaithful with
    passive := fun _ => keeps_passive
    read := keeps_read
    lookUp := keeps_lookUp
    invalidate := keeps_invalidate
    refresh := keeps_refresh hS }

/-- A calm command keeps a session faithful, if calm scripts do. -/
theorem keeps_task (hS : KeepsCalm S) {c : Command} (hc : c.IsCalm) : Task.Keeps S c.task := by
  refine (parts_keeps hS).task fun hown => ?_
  cases hc with
  | @deed d hd =>
    refine keeps_deed fun s hs => ?_
    have hsame := sameBase_carryOut (s := s) hd
    exact hs.of_same hsame.registries hsame.current hsame.sources hsame.listeners
  | subscribe id key hreaction =>
    exact keeps_deed fun s hs => hs.addListener s.current key (l := .script _) hreaction
  | follow id =>
    refine keeps_deed fun s hs => ?_
    simp only [carryOut, follow]
    split
    · exact hs
    · exact hs.addListener _ _ trivial
  | make id priority ho => exact keeps_make hS id ho priority
  | register id priority => exact keeps_register hS id priority
  | _ => simp [Command.isOwn] at hown

/-- Calm scripts keep a session faithful, however deeply they are nested. -/
theorem keepsCalm_scriptRuns : ∀ n : Nat, KeepsCalm (ScriptRuns n)
  | 0, _, _, _, _, _, h => h.elim
  | n + 1, _, s, ms, s', hcalm, h =>
    (parts_keeps (keepsCalm_scriptRuns n)).script
      (fun c hc => keeps_task (keepsCalm_scriptRuns n) (hcalm c hc)) s ms () s' h

/-! ### Runs of calm commands -/

/-- A session with one registry of which nothing has been asked yet. -/
structure IsFresh (s : Session) : Prop where
  source : ∀ p ∈ s.sources, p.isSelfContained = true
  listener : ∀ l ∈ s.listeners, l.IsCalm
  current : s.current = 0
  registries : s.registries = [{}]

/-- The sessions that calm commands lead to, one after the other, while files and servers change in
between. -/
inductive CalmRun (s : Session) : Session → Prop
  | start : CalmRun s s
  | command {s₁ s₂ : Session} {c : Command} {o : Outcome} :
    CalmRun s s₁ → c.IsCalm → s₁.run c.task = some (o, s₂) → CalmRun s s₂
  | host {s₁ : Session} (h : Host) : CalmRun s s₁ → CalmRun s { s₁ with host := h }

theorem IsFresh.isFaithful {s : Session} (h : s.IsFresh) : s.IsFaithful :=
  ⟨h.source, h.listener, h.current, {}, h.registries,
    ⟨rfl, .nil, .nil, fun _ hl => absurd hl List.not_mem_nil,
      fun _ hl => absurd hl List.not_mem_nil, fun _ _ he => by cases he⟩⟩

theorem CalmRun.isFaithful {s s' : Session} (h : s.CalmRun s') (hs : s.IsFresh) :
    s'.IsFaithful := by
  induction h with
  | start => exact hs.isFaithful
  | command _ hc hrun ih =>
    obtain ⟨ms, hms⟩ := runs_of_run hrun
    exact keeps_task (keepsCalm_scriptRuns maxDepth) hc _ _ _ _ hms ih
  | host h _ ih => exact ih.of_same rfl rfl rfl rfl

/-- Calm commands that are carried out one after the other are such a run. -/
theorem CalmRun.perform {s₀ : Session} : ∀ {cs : List Command} {s s' : Session}
    {steps : List Step}, (∀ c ∈ cs, c.IsCalm) → s₀.CalmRun s →
    s.perform cs = some (steps, s') → s₀.CalmRun s'
  | [], s, s', steps, _, h, hrun => by
    cases hrun
    exact h
  | c :: cs, s, s', steps, hc, h, hrun => by
    obtain ⟨⟨o, s₁⟩, hfirst, hrun⟩ := Option.bind_eq_some_iff.1 hrun
    obtain ⟨⟨steps', s₂⟩, hrest, hrun⟩ := Option.bind_eq_some_iff.1 hrun
    cases hrun
    exact (h.command (hc c List.mem_cons_self) hfirst).perform
      (fun c' hc' => hc c' (List.mem_cons_of_mem c hc')) hrest

theorem IsFaithful.mirrors {s : Session} (h : s.IsFaithful) :
    s.registries[s.current]? = some s.registry ∧ s.registry.Mirrors s := by
  obtain ⟨reg, hone, hm⟩ := h.registry
  have hreg : s.registries[s.current]? = some reg := by rw [h.current, hone]; rfl
  have heq : s.registry = reg := by rw [Session.registry, hreg]; rfl
  exact ⟨by rw [hreg, heq], by rw [heq]; exact hm⟩

end Session

open Session

/-- In every session that calm commands lead to, an entry of the cache is exactly what consulting
the layers gives, which meets no failure and changes nothing; and every key resolves to what
consulting the layers gives. -/
theorem cache_transparent {s₀ s : Session} (h₀ : s₀.IsFresh) (h : s₀.CalmRun s) (key : String) :
    (∀ e, s.registry.cache.entries.get? key = some e →
      s.run (consult key s.registry.layers) = some ((e.resolved, false), s)) ∧
    (key ≠ "" → ∃ x d s₁ s₂, s.run (consult key s.registry.layers) = some ((x, d), s₁) ∧
      s.run (RegistryId.resolve s.current key) = some (x, s₂)) := by
  have hs := h.isFaithful h₀
  obtain ⟨hreg, hm⟩ := hs.mirrors
  have hentry : ∀ e, s.registry.cache.entries.get? key = some e →
      s.run (consult key s.registry.layers) = some ((e.resolved, false), s) := by
    intro e he
    obtain ⟨ms, hms⟩ := ends_consult_of_live (S := ScriptRuns maxDepth) hs.isPlain
      (hm.entry key e he)
    exact run_of_runs hms
  refine ⟨hentry, fun hkey => ?_⟩
  obtain ⟨reading, s₂, ms₂, hread⟩ :=
    exists_ends_read (S := ScriptRuns maxDepth) hs.isPlain hreg key
  have hresolve : s.run (RegistryId.resolve s.current key) = some (reading.resolved, s₂) :=
    run_of_runs (runs_bind.2 ⟨reading, s₂, ms₂, [], hread, .done _ s₂, rfl⟩)
  rcases read_spec hs.isPlain hread.ends with ⟨hempty, -, -⟩ | ⟨reg, hreg', hcases⟩
  · exact absurd (String.isEmpty_iff.1 hempty) hkey
  · obtain rfl : s.registry = reg := Option.some.inj (hreg.symm.trans hreg')
    rcases hcases with ⟨e, he, rfl, -⟩ | ⟨-, ⟨x, d⟩, s₁, ⟨ms₁, hconsult⟩, hx, -⟩
    · exact ⟨e.resolved, false, s, s₂, hentry e he, hresolve⟩
    · exact ⟨x, d, s₁, s₂, run_of_runs hconsult, hresolve.trans (by rw [hx])⟩

/-- A map that is registered, and a key of it that is resolved: the entry is what the map gives. -/
theorem cache_transparent_of_map :
    let s₀ : Session :=
      { sources := [.builtin (.map ⟨"m", true, .ofList [("k", "v")]⟩)]
        ids := { sources := .ofList [("m", 0)] } }
    ∃ s e, s₀.CalmRun s ∧ s.registry.cache.entries.get? "k" = some e ∧
      e.resolved = some ⟨"v", "m"⟩ ∧
      s.run (consult "k" s.registry.layers) = some ((e.resolved, false), s) := by
  intro s₀
  have hfresh : s₀.IsFresh :=
    ⟨by simp [s₀, Provider.isSelfContained], fun _ hl => absurd hl List.not_mem_nil, rfl, rfl⟩
  have hperform : (s₀.perform [.register "m" 0, .resolve "k"]).map (fun x =>
      (x.2.registry.cache.entries.get? "k").map (·.resolved)) = some (some (some ⟨"v", "m"⟩)) := by
    decide
  obtain ⟨⟨steps, s⟩, hrun, hmap⟩ := Option.map_eq_some_iff.1 hperform
  obtain ⟨e, he, hresolved⟩ := Option.map_eq_some_iff.1 hmap
  have hcommands : ∀ c ∈ [Command.register "m" 0, .resolve "k"], c.IsCalm := by
    rintro c (_ | ⟨_, _ | ⟨_, hc⟩⟩)
    · exact .register "m" 0
    · exact .resolve "k"
    · cases hc
  have hcalm : s₀.CalmRun s := CalmRun.start.perform hcommands hrun
  exact ⟨s, e, hcalm, he, hresolved, (cache_transparent hfresh hcalm "k").1 e he⟩

end Strata
