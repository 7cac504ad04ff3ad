import Mathlib.Data.List.Nodup
import Strata.Proofs.Steady
import Strata.Proofs.Telling

/-!
What operations owe to listeners. Listeners may do anything when they are called, and so may
scripted sources when they are asked; in particular they may register and refresh within a
registration or a refresh. A registration and a refresh owe calls to the listeners of all keys that
resolve differently when they let go of the registry (`prepared_registration`, `prepared_renewal`),
and then they make these calls (`calling_notify`). Main statement: runs of scripts owe nothing in
the end, however deep scripts are nested (`scriptsSettle`).
-/

namespace Strata

open Session RegistryId Machine Strata.Task

variable {S : ScriptRun} {s s₁ s' : Session} {ms ms' : List Moment} {r : RegistryId}
  {owed : RegistryId → String → Prop}

/-! ### Tasks that owe nothing -/

/-- All runs of a task from an orderly session owe nothing. -/
abbrev Settles {α : Type} (S : ScriptRun) (t : Task α) : Prop :=
  Always S (fun s ms s' => s.IsOrderly → Settled s ms s') t

/-- All runs of scripts from an orderly session owe nothing. -/
def ScriptsSettle (S : ScriptRun) : Prop :=
  ∀ script s ms s', S script s ms s' → s.IsOrderly → Settled s ms s'

theorem settles_done {α : Type} (a : α) : Settles S (.done a) := always_done composable_settled a

theorem settles_act {a : Action} (ha : a.isMild = true) : Settles S (act a) :=
  always_act fun _ _ _ htake hs => settled_act ha htake hs

theorem settles_ask (r : RegistryId) {a : RegistryAction} (ha : a.isMild = true) :
    Settles S (ask r a) :=
  settles_act ha

theorem settles_run (hS : ScriptsSettle S) (script : Script) : Settles S (Strata.run script) :=
  always_run composable_settled (hS script)

theorem gentle_settles (hS : ScriptsSettle S) : Gentle fun _ t => Settles S t where
  toSequential := sequential_always composable_settled
  act := fun a ha => settles_act (by
    cases a with
    | registry r b => cases b <;> first | rfl | cases ha
    | deliver => cases ha
    | _ => rfl)
  run := settles_run hS

/-! ### Work on a registry that is locked -/

/-- A registry is locked and has the given layers. -/
def Session.Held (s : Session) (r : RegistryId) (ls : List Layer) (seq : Nat) : Prop :=
  ∃ reg, s.registries[r]? = some reg ∧ reg.isLocked = true ∧ reg.layers = ls ∧ reg.nextSeq = seq

/-- A part of an operation before listeners are called. -/
structure Working (owed : RegistryId → String → Prop) (r : RegistryId) (s : Session)
    (ms : List Moment) (s' : Session) : Prop where
  told : Told owed s ms s'
  guarded : ∀ r', r' ≠ r → Guarded s s' r'

theorem Settled.working (h : Settled s ms s') : Working owed r s ms s' :=
  ⟨h.told.weaken, fun r' _ => h.guarded r'⟩

theorem Settled.held (h : Settled s ms s') {ls : List Layer} {seq : Nat}
    (hheld : s.Held r ls seq) : s'.Held r ls seq := by
  obtain ⟨reg, hreg, hlocked, rfl, rfl⟩ := hheld
  exact h.guarded r reg hreg hlocked

namespace Working

variable {ls new : List Layer} {seq : Nat}

theorem trans (h : Working owed r s ms s₁) (h' : Working owed r s₁ ms' s') :
    Working owed r s (ms' ++ ms) s' :=
  ⟨h.told.trans h'.told, fun r' hr' => (h.guarded r' hr').trans (h'.guarded r' hr')⟩

theorem setRegistry {reg reg' : Registry} (hs : s.IsOrderly) (hms : deliveries ms = [])
    (hreg : s.registries[r]? = some reg) (hlayers : reg'.layers = reg.layers)
    (hseq : reg.nextSeq ≤ reg'.nextSeq) (hlisteners : reg'.listeners = reg.listeners) :
    Working owed r s ms (s.setRegistry r reg') :=
  ⟨.setRegistry hs hms hreg hlayers hseq hlisteners,
    fun _ hr' => .of_registries (registries_setRegistry_of_ne hr')⟩

/-- Layers are replaced by others; what changes is owed. -/
theorem setLayers {reg : Registry} (hs : s.IsOrderly) (hms : deliveries ms = [])
    (hreg : s.registries[r]? = some reg) (hseqs : (new.map (·.seq)).Nodup)
    (hlt : ∀ l ∈ new, l.seq < reg.nextSeq)
    (hres : ∀ key, ¬ owed r key → (View.recorded new).resolve key =
      (View.recorded reg.layers).resolve key) :
    Working owed r s ms (s.setRegistry r { reg with layers := new }) := by
  refine ⟨.quiet hms (hs.setRegistry hreg rfl hseqs hlt) ?_ ?_,
    fun _ hr' => .of_registries (registries_setRegistry_of_ne hr')⟩
  · exact fun n r₁ key hn => (listens_setRegistry hreg (by rfl)).2 hn
  · intro n r₁ key _ ho
    by_cases h : r₁ = r
    · subst h
      rw [resolution_of_registry (registries_setRegistry hreg _), resolution_of_registry hreg,
        hres key ho]
    · rw [resolution, registries_setRegistry_of_ne h, resolution]

end Working

theorem Session.Held.resolution {ls : List Layer} {seq : Nat} (h : s.Held r ls seq)
    (key : String) : s.resolution r key = some ((View.recorded ls).resolve key) := by
  obtain ⟨reg, hreg, -, rfl, -⟩ := h
  exact resolution_of_registry hreg

theorem runs_lock (owed : RegistryId → String → Prop) (hs : s.IsOrderly) {u : Unit}
    (h : Runs S (ask r .lock) s ms u s') :
    (∀ reg, s.registries[r]? = some reg → reg.isLocked = false) ∧ (∃ ls seq, s'.Held r ls seq) ∧
      Working owed r s ms s' := by
  obtain ⟨reg, reg', hreg, htake, rfl, rfl⟩ := runs_ask.1 h
  simp only [Registry.take] at htake
  split at htake
  · cases htake
  · rename_i hfree
    cases htake
    refine ⟨fun reg₁ hreg₁ => ?_, ⟨_, _, _, registries_setRegistry hreg _, rfl, rfl, rfl⟩,
      .setRegistry hs rfl hreg rfl (Nat.le_refl _) rfl⟩
    obtain rfl := Option.some.inj (hreg.symm.trans hreg₁)
    exact Bool.not_eq_true _ ▸ hfree

theorem runs_unlock (owed : RegistryId → String → Prop) (hs : s.IsOrderly) {ls : List Layer}
    {seq : Nat} (hheld : s.Held r ls seq) {u : Unit} (h : Runs S (ask r .unlock) s ms u s') :
    ms = [⟨0, .act (.registry r .unlock), s⟩] ∧ Working owed r s ms s' ∧
      (∀ n r key, s.Listens n r key → s'.Listens n r key) ∧
      ∀ key, s'.resolution r key = some ((View.recorded ls).resolve key) := by
  obtain ⟨reg, reg', hreg, htake, rfl, rfl⟩ := runs_ask.1 h
  cases htake
  obtain ⟨reg₁, hreg₁, -, rfl, -⟩ := hheld
  obtain rfl := Option.some.inj (hreg.symm.trans hreg₁)
  exact ⟨rfl, .setRegistry hs rfl hreg rfl (Nat.le_refl _) rfl,
    fun n r₁ key hn => (listens_setRegistry hreg (by rfl)).2 hn,
    fun key => by rw [resolution_of_registry (registries_setRegistry hreg _)]⟩

theorem runs_layers {ls ls' : List Layer} {seq : Nat} (hheld : s.Held r ls seq)
    (h : Runs S (ask r .layers) s ms ls' s') : ls' = ls := by
  obtain ⟨reg, hreg, -, rfl, -⟩ := hheld
  exact ((ends_ask_self hreg rfl).1 h.ends).1.symm

/-! ### What has changed when listeners are called -/

/-- The keys of changes. -/
def owedBy (r : RegistryId) (changes : List Change) (r' : RegistryId) (key : String) : Prop :=
  r' = r ∧ ∃ x, (key, x) ∈ changes

/-- The body of an operation: it leaves a registry with other layers, and all that resolves
differently through them is among the changes. -/
structure Changed (r : RegistryId) (changes : List Change) (s : Session) (ms : List Moment)
    (s' : Session) : Prop where
  working : Working (owedBy r changes) r s ms s'
  held : ∃ ls seq, s'.Held r ls seq ∧
    ∀ key x, (key, x) ∈ changes → (View.recorded ls).resolve key = x

theorem deliveries_record {taken : List (Layer × Option Snapshot)}
    (h : Runs S (r.record taken) s ms () s') : deliveries ms = [] := by
  have hcomposable : Composable fun _ ms _ => deliveries ms = [] :=
    ⟨fun _ => rfl, fun _ _ => rfl, fun h h' => by rw [deliveries_append, h, h', List.append_nil]⟩
  refine always_forAll hcomposable ?_ s ms () s' h
  rintro ⟨l, _ | t⟩ -
  · exact always_done hcomposable _
  · exact always_act fun _ _ _ _ => rfl

/-- New snapshots of the mutable layers are recorded. -/
theorem runs_record (hs : s.IsOrderly) {ls : List Layer} {seq : Nat}
    {taken : List (Layer × Option Snapshot)} (hheld : s.Held r ls seq)
    (hmap : taken.map (·.1) = ls.filter (·.isMutable)) (h : Runs S (r.record taken) s ms () s') :
    s'.Held r (recordAll taken ls) seq ∧
      Working (owedBy r (changesBetween (keysTaken taken) (View.recorded ls)
        (View.recorded (recordAll taken ls)))) r s ms s' := by
  obtain ⟨reg, hreg, hlocked, rfl, rfl⟩ := hheld
  have hquiet := deliveries_record h
  obtain rfl := (ends_record hreg).1 h.ends
  have hmem := List.mem_of_getElem? hreg
  have huniq : ∀ l ∈ reg.layers, ∀ t ∈ taken, t.1.seq = l.seq → t.1 = l := by
    intro l hl t ht heq
    have ht' : t.1 ∈ reg.layers.filter (·.isMutable) := by
      rw [← hmap]
      exact List.mem_map_of_mem ht
    exact List.inj_on_of_nodup_map (hs.seqs reg hmem) (List.mem_filter.1 ht').1 hl heq
  refine ⟨⟨_, registries_setRegistry hreg _, hlocked, rfl, rfl⟩,
    .setLayers hs hquiet hreg ?_ ?_ fun key ho => ?_⟩
  · rw [map_recordAll fun _ => updated_seq]
    exact hs.seqs reg hmem
  · intro l hl
    obtain ⟨l', hl', rfl⟩ := mem_recordAll.1 hl
    rw [updated_seq]
    exact hs.seq_lt reg hmem l' hl'
  · by_contra hne
    exact ho ⟨rfl, _, View.mem_changes_of_recordAll huniq (Ne.symm hne)⟩

/-- A refresh tells of all that the new snapshots change. -/
theorem changed_renew (hS : ScriptsSettle S) (hs : s.IsOrderly) {ls : List Layer} {seq : Nat}
    (hheld : s.Held r ls seq) {x : RefreshReport × List Change}
    (h : Runs S r.renew s ms x s') : Changed r x.2 s ms s' := by
  obtain ⟨ls', s₁, ms₁, ms₂, hlayers, hrest₁, rfl⟩ := runs_bind.1 h
  obtain rfl := runs_layers hheld hlayers
  have h₁ := settles_ask r rfl _ _ _ _ hlayers hs
  obtain ⟨taken, s₂, ms₃, ms₄, htaken, hrest₂, rfl⟩ := runs_bind.1 hrest₁
  have h₂ := (gentle_settles hS).takeSnapshots ls' _ _ _ _ htaken h₁.told.orderly
  obtain ⟨u, s₃, ms₅, ms₆, hrecord, hrest₃, rfl⟩ := runs_bind.1 hrest₂
  obtain ⟨hheld₃, h₃⟩ := runs_record h₂.told.orderly (h₂.held (h₁.held hheld))
    (map_takeSnapshots htaken.ends) hrecord
  obtain ⟨stale, s₄, ms₇, ms₈, hevict, hdone, rfl⟩ := runs_bind.1 hrest₃
  have h₄ := settles_ask r rfl _ _ _ _ hevict h₃.told.orderly
  obtain ⟨rfl, rfl, rfl⟩ := runs_done.1 hdone
  refine ⟨h₁.working.trans (h₂.working.trans (h₃.trans h₄.working)), _, _, h₄.held hheld₃, ?_⟩
  intro key x hx
  exact (mem_changesBetween.1 hx).2.2.symm

theorem runs_takeSeq (hs : s.IsOrderly) {ls : List Layer} {seq seq' : Nat}
    (hheld : s.Held r ls seq) (h : Runs S (ask r .takeSeq) s ms seq' s') :
    seq' = seq ∧ s'.Held r ls (seq + 1) ∧ (∀ l ∈ ls, l.seq < seq) ∧ Working owed r s ms s' := by
  obtain ⟨reg, reg', hreg, htake, rfl, rfl⟩ := runs_ask.1 h
  cases htake
  obtain ⟨reg₁, hreg₁, hlocked, rfl, rfl⟩ := hheld
  obtain rfl := Option.some.inj (hreg.symm.trans hreg₁)
  exact ⟨rfl, ⟨_, registries_setRegistry hreg _, hlocked, rfl, rfl⟩,
    hs.seq_lt reg (List.mem_of_getElem? hreg),
    .setRegistry hs rfl hreg rfl (Nat.le_succ _) rfl⟩

/-- A new layer, whose number is greater than those of the others, is put in. -/
theorem runs_setLayers (hs : s.IsOrderly) {ls : List Layer} {l : Layer}
    (hheld : s.Held r ls (l.seq + 1)) (hlt : ∀ l' ∈ ls, l'.seq < l.seq) {u : Unit}
    (h : Runs S (ask r (.setLayers (Layer.insert l ls))) s ms u s') :
    s'.Held r (Layer.insert l ls) (l.seq + 1) ∧
      Working (owedBy r (changesBetween (Keys.ofList l.recorded.keys) (View.recorded ls)
        (View.recorded (Layer.insert l ls)))) r s ms s' := by
  obtain ⟨reg, reg', hreg, htake, rfl, rfl⟩ := runs_ask.1 h
  cases htake
  obtain ⟨reg₁, hreg₁, hlocked, rfl, hseq⟩ := hheld
  obtain rfl := Option.some.inj (hreg.symm.trans hreg₁)
  refine ⟨⟨_, registries_setRegistry hreg _, hlocked, rfl, hseq⟩,
    .setLayers hs rfl hreg ?_ ?_ fun key ho => ?_⟩
  · rw [((Layer.insert_perm l reg.layers).map _).nodup_iff, List.map_cons, List.nodup_cons]
    refine ⟨fun hin => ?_, hs.seqs reg (List.mem_of_getElem? hreg)⟩
    obtain ⟨l', hl', heq⟩ := List.mem_map.1 hin
    exact absurd heq (Nat.ne_of_lt (hlt l' hl'))
  · intro l' hl'
    rw [hseq]
    rcases Layer.mem_insert.1 hl' with rfl | hl'
    · exact Nat.lt_succ_self _
    · exact Nat.lt_succ_of_lt (hlt l' hl')
  · by_contra hne
    exact ho ⟨rfl, _, View.mem_changes_of_insert (Ne.symm hne)⟩

/-- A registration tells of all that the new layer changes. -/
theorem changed_insertLayer (hS : ScriptsSettle S) (hs : s.IsOrderly) {ls : List Layer} {seq : Nat}
    (hheld : s.Held r ls seq) {n : SourceId} {name : String} {isMutable : Bool} {priority : Int}
    {changes : List Change}
    (h : Runs S (r.insertLayer ls n name isMutable priority) s ms changes s') :
    Changed r changes s ms s' := by
  rw [insertLayer_eq] at h
  obtain ⟨x, s₁, ms₁, ms₂, hfirst, hrest₁, rfl⟩ := runs_bind.1 h
  have h₁ := (gentle_settles hS).firstSnapshot n name _ _ _ _ hfirst hs
  obtain ⟨seq', s₂, ms₃, ms₄, hseq, hrest₂, rfl⟩ := runs_bind.1 hrest₁
  obtain ⟨rfl, hheld₂, hlt, h₂⟩ := runs_takeSeq h₁.told.orderly (h₁.held hheld) hseq
  obtain ⟨u, s₃, ms₅, ms₆, hset, hrest₃, rfl⟩ := runs_bind.1 hrest₂
  obtain ⟨hheld₃, h₃⟩ := runs_setLayers h₂.told.orderly hheld₂ hlt hset
  obtain ⟨u, s₄, ms₇, ms₈, hevict, hdone, rfl⟩ := runs_bind.1 hrest₃
  have h₄ := (gentle_settles hS).evictFor r _ _ _ _ _ _ _ hevict h₃.told.orderly
  obtain ⟨rfl, rfl, rfl⟩ := runs_done.1 hdone
  refine ⟨h₁.working.trans (h₂.trans (h₃.trans h₄.working)), _, _, h₄.held hheld₃, ?_⟩
  intro key y hy
  exact (mem_changesBetween.1 hy).2.2.symm

/-- An operation before listeners are called. At its end it lets go of the registry. -/
structure Prepared (r : RegistryId) (changes : List Change) (s : Session) (ms : List Moment)
    (s' : Session) : Prop where
  told : Told (owedBy r changes) s ms s'
  guarded : ∀ r', Guarded s s' r'
  unlocked : ∃ σ ms₀, ms = ⟨0, .act (.registry r .unlock), σ⟩ :: ms₀ ∧
    (∀ n r' key, σ.Listens n r' key → s'.Listens n r' key) ∧
    ∀ key x, (key, x) ∈ changes →
      σ.resolution r key = some x ∧ s'.resolution r key = some x

/-- An operation is prepared by work on the registry between taking its lock and letting it go. -/
theorem prepared_of_unlock {changes : List Change}
    (hfree : ∀ reg, s.registries[r]? = some reg → reg.isLocked = false)
    (hwork : Changed r changes s ms s₁) {u : Unit} (h : Runs S (ask r .unlock) s₁ ms' u s') :
    Prepared r changes s (ms' ++ ms) s' := by
  obtain ⟨ls, seq, hheld, hchanges⟩ := hwork.held
  obtain ⟨rfl, hunlock, hlistens, hres⟩ :=
    runs_unlock (owedBy r changes) hwork.working.told.orderly hheld h
  have htrans := hwork.working.trans hunlock
  refine ⟨htrans.told, fun r' => ?_, s₁, ms, rfl, hlistens, fun key x hx => ?_⟩
  · by_cases hr' : r' = r
    · subst hr'
      exact fun reg hreg hlocked => absurd hlocked (by simp [hfree reg hreg])
    · exact htrans.guarded r' hr'
  · rw [hheld.resolution key, hres key, hchanges key x hx]
    exact ⟨rfl, rfl⟩

theorem Changed.before {changes : List Change} (h : Changed r changes s₁ ms' s')
    (h₁ : Working (owedBy r changes) r s ms s₁) : Changed r changes s (ms' ++ ms) s' :=
  ⟨h₁.trans h.working, h.held⟩

theorem Changed.after {changes : List Change} (h : Changed r changes s ms s₁)
    (h₁ : Settled s₁ ms' s') : Changed r changes s (ms' ++ ms) s' := by
  obtain ⟨ls, seq, hheld, hchanges⟩ := h.held
  exact ⟨h.working.trans h₁.working, ls, seq, h₁.held hheld, hchanges⟩

/-- Nothing has changed in a registry that is held. -/
theorem Settled.changed {ls : List Layer} {seq : Nat} (h : Settled s ms s')
    (hheld : s.Held r ls seq) : Changed r [] s ms s' :=
  ⟨h.working, ls, seq, h.held hheld, fun _ _ hx => absurd hx List.not_mem_nil⟩

theorem prepared_renewal (hS : ScriptsSettle S) (hs : s.IsOrderly)
    {x : RefreshReport × List Change} (h : Runs S r.renewal s ms x s') :
    Prepared r x.2 s ms s' := by
  obtain ⟨u, s₁, ms₁, ms₂, hlock, hrest₁, rfl⟩ := runs_bind.1 h
  obtain ⟨hfree, ⟨ls, seq, hheld⟩, h₁⟩ := runs_lock (owedBy r x.2) hs hlock
  obtain ⟨u, s₂, ms₃, ms₄, hbegin, hrest₂, rfl⟩ := runs_bind.1 hrest₁
  have h₂ := settles_ask r rfl _ _ _ _ hbegin h₁.told.orderly
  obtain ⟨y, s₃, ms₅, ms₆, hrenew, hrest₃, rfl⟩ := runs_bind.1 hrest₂
  have h₃ := changed_renew hS h₂.told.orderly (h₂.held hheld) hrenew
  obtain ⟨u, s₄, ms₇, ms₈, hend, hrest₄, rfl⟩ := runs_bind.1 hrest₃
  have h₄ := settles_ask r rfl _ _ _ _ hend h₃.working.told.orderly
  obtain ⟨u, s₅, ms₉, ms₁₀, hunlock, hdone, rfl⟩ := runs_bind.1 hrest₄
  obtain ⟨rfl, rfl, rfl⟩ := runs_done.1 hdone
  have hwork := ((h₃.before h₂.working).before h₁).after h₄
  simpa only [List.append_assoc, List.nil_append] using prepared_of_unlock hfree hwork hunlock

theorem prepared_registration (hS : ScriptsSettle S) (hs : s.IsOrderly) {n : SourceId}
    {priority : Int} {x : Except Failure (List Change)}
    (h : Runs S (r.registration n priority) s ms x s') :
    Prepared r (x.toOption.getD []) s ms s' := by
  obtain ⟨⟨name, isMutable⟩, s₀, ms₁, ms₂, hdescribe, hrest₀, rfl⟩ := runs_bind.1 h
  have h₀ := settles_act rfl _ _ _ _ hdescribe hs
  obtain ⟨u, s₁, ms₃, ms₄, hlock, hrest₁, rfl⟩ := runs_bind.1 hrest₀
  obtain ⟨hfree, ⟨ls, seq, hheld⟩, h₁⟩ :=
    runs_lock (owedBy r (x.toOption.getD [])) h₀.told.orderly hlock
  obtain ⟨old, s₂, ms₅, ms₆, hold, hrest₂, rfl⟩ := runs_bind.1 hrest₁
  obtain rfl := runs_layers hheld hold
  have h₂ := settles_ask r rfl _ _ _ _ hold h₁.told.orderly
  have hfree₀ : ∀ reg, s.registries[r]? = some reg → reg.isLocked = false := by
    intro reg hreg
    cases hl : reg.isLocked with
    | false => rfl
    | true =>
      obtain ⟨reg', hreg', hlocked, -⟩ := h₀.guarded r reg hreg hl
      rw [hfree reg' hreg'] at hlocked
      exact hlocked.symm
  split at hrest₂
  · obtain ⟨u, s₃, ms₇, ms₈, hobs, hrest₃, rfl⟩ := runs_bind.1 hrest₂
    have h₃ := settles_act rfl _ _ _ _ hobs h₂.told.orderly
    obtain ⟨u, s₄, ms₉, ms₁₀, hunlock, hdone, rfl⟩ := runs_bind.1 hrest₃
    obtain ⟨rfl, rfl, rfl⟩ := runs_done.1 hdone
    have hwork := (((h₃.changed (h₂.held hheld)).before h₂.working).before h₁).before h₀.working
    have hprepared := prepared_of_unlock hfree₀ hwork hunlock
    simp only [List.append_assoc, List.nil_append] at hprepared ⊢
    exact hprepared
  · obtain ⟨u, s₃, ms₇, ms₈, hbegin, hrest₃, rfl⟩ := runs_bind.1 hrest₂
    have h₃ := settles_ask r rfl _ _ _ _ hbegin h₂.told.orderly
    obtain ⟨changes, s₄, ms₉, ms₁₀, hinsert, hrest₄, rfl⟩ := runs_bind.1 hrest₃
    have h₄ := changed_insertLayer hS h₃.told.orderly (h₃.held (h₂.held hheld)) hinsert
    obtain ⟨u, s₅, ms₁₁, ms₁₂, hend, hrest₅, rfl⟩ := runs_bind.1 hrest₄
    have h₅ := settles_ask r rfl _ _ _ _ hend h₄.working.told.orderly
    obtain ⟨u, s₆, ms₁₃, ms₁₄, hunlock, hdone, rfl⟩ := runs_bind.1 hrest₅
    obtain ⟨rfl, rfl, rfl⟩ := runs_done.1 hdone
    have hwork := ((((h₄.before h₃.working).before h₂.working).before h₁).before h₀.working).after h₅
    have hprepared := prepared_of_unlock hfree₀ hwork hunlock
    simp only [List.append_assoc, List.nil_append] at hprepared ⊢
    exact hprepared

/-! ### The calls of listeners -/

/-- Nothing is owed, and whoever is wanted is called. -/
structure Calling (wanted : Nat → Prop) (s : Session) (ms : List Moment) (s' : Session) :
    Prop where
  told : Told nothingOwed s ms s'
  guarded : ∀ r, Guarded s s' r
  calls : ∀ n, wanted n → ∃ d ∈ deliveries ms, d.1 = n

section Calling

variable {wanted wanted' : Nat → Prop}

theorem Settled.calling (h : Settled s ms s') : Calling (fun _ => False) s ms s' :=
  ⟨h.told, h.guarded, fun _ hn => hn.elim⟩

theorem Calling.settled (h : Calling wanted s ms s') : Settled s ms s' := ⟨h.told, h.guarded⟩

theorem Calling.trans (h : Calling wanted s ms s₁) (h' : Calling wanted' s₁ ms' s') :
    Calling (fun n => wanted n ∨ wanted' n) s (ms' ++ ms) s' := by
  refine ⟨h.told.trans h'.told, fun r => (h.guarded r).trans (h'.guarded r), fun n hn => ?_⟩
  rw [deliveries_append]
  rcases hn with hn | hn
  · obtain ⟨d, hd, hdn⟩ := h.calls n hn
    exact ⟨d, List.mem_append_right _ hd, hdn⟩
  · obtain ⟨d, hd, hdn⟩ := h'.calls n hn
    exact ⟨d, List.mem_append_left _ hd, hdn⟩

theorem Calling.mono (h : Calling wanted s ms s') (hw : ∀ n, wanted' n → wanted n) :
    Calling wanted' s ms s' :=
  ⟨h.told, h.guarded, fun n hn => h.calls n (hw n hn)⟩

/-- The call of a listener. -/
theorem calling_deliver (hs : s.IsOrderly) {n : Nat} {key : String} {x : Option Resolved}
    (hn : s.Listens n r key) {script : Script}
    (h : Runs S (act (.deliver n x)) s ms script s') : Calling (· = n) s ms s' := by
  obtain ⟨htake, rfl⟩ := runs_act.1 h
  obtain ⟨hregistries, hlisteners⟩ := take_elsewhere (a := .deliver n x) rfl htake
  have hlistens : ∀ n r key, s'.Listens n r key ↔ s.Listens n r key := by
    intro n r key
    rw [Listens, hregistries, Listens]
  have hres : ∀ r key, s'.resolution r key = s.resolution r key := by
    intro r key
    rw [resolution, hregistries, resolution]
  refine ⟨⟨hs.congr hregistries hlisteners, fun n r key hn => (hlistens n r key).2 hn, ?_,
    fun n r key _ _ _ => hres r key, ?_⟩, fun r => .of_registries (by rw [hregistries]), ?_⟩
  · intro d hd
    rw [List.mem_singleton.1 (show d ∈ [(n, x)] from hd)]
    exact ⟨r, key, (hlistens n r key).2 hn⟩
  · intro n' x' r' key' later m earlier _ _ heq _ _
    have hm : m ∈ [(⟨0, .act (.deliver n x), s⟩ : Moment)] := by
      rw [heq]
      exact List.mem_append_right _ List.mem_cons_self
    rw [List.mem_singleton.1 hm]
    exact hres r' key'
  · rintro _ rfl
    exact ⟨_, List.mem_singleton_self _, rfl⟩

/-- Listeners of a key are called one after the other, whatever they do. -/
theorem calling_delivers (hS : ScriptsSettle S) {key : String} {x : Option Resolved} :
    ∀ {ns : List Nat} {s s' : Session} {ms : List Moment}, s.IsOrderly →
    (∀ n ∈ ns, s.Listens n r key) → Runs S (RegistryId.deliver x ns) s ms () s' →
    Calling (· ∈ ns) s ms s'
  | [], s, s', ms, hs, _, h =>
    ((settles_done () _ _ _ _ h hs).calling).mono fun _ hn => absurd hn List.not_mem_nil
  | n :: ns, s, s', ms, hs, hns, h => by
    obtain ⟨u, s₁, ms₁, ms₂, hcall, hrest, rfl⟩ := runs_bind.1 h
    obtain ⟨script, s₀, ms₃, ms₄, hact, hscript, rfl⟩ := runs_bind.1 hcall
    have h₁ := calling_deliver hs (hns n List.mem_cons_self) hact
    have h₂ := settles_run hS script _ _ _ _ hscript h₁.told.orderly
    have h₁₂ := h₁.trans h₂.calling
    have h₃ := calling_delivers hS h₁₂.told.orderly
      (fun n' hn' => h₁₂.told.listens n' r key (hns n' (List.mem_cons_of_mem n hn'))) hrest
    refine (h₁₂.trans h₃).mono fun n' hn' => ?_
    exact (List.mem_cons.1 hn').imp_left .inl

/-- Who is found to listen to a key listens to it. -/
theorem mem_of_runs_listeners {key : String} {ns : List Nat}
    (h : Runs S (ask r (.listeners key)) s ms ns s') (n : Nat) : n ∈ ns ↔ s.Listens n r key := by
  obtain ⟨reg, reg', hreg, htake, -, -⟩ := runs_ask.1 h
  cases htake
  rw [Registry.mem_listenersOf, Listens, hreg]
  simp

/-- The listeners of keys that have changed are called, whatever they do. -/
theorem calling_notify (hS : ScriptsSettle S) :
    ∀ {changes : List Change} {s s' : Session} {ms : List Moment}, s.IsOrderly →
    Runs S (r.notify changes) s ms () s' →
    Calling (fun n => ∃ c ∈ changes, s.Listens n r c.1) s ms s'
  | [], s, s', ms, hs, h => by
    refine ((settles_done () _ _ _ _ h hs).calling).mono ?_
    rintro n ⟨c, hc, -⟩
    exact List.not_mem_nil hc
  | (key, x) :: changes, s, s', ms, hs, h => by
    obtain ⟨u, s₁, ms₁, ms₂, hfirst, hrest, rfl⟩ := runs_bind.1 h
    obtain ⟨ns, s₀, ms₃, ms₄, hask, hdeliver, rfl⟩ := runs_bind.1 hfirst
    have h₁ := settles_ask r rfl _ _ _ _ hask hs
    have hns := mem_of_runs_listeners hask
    have h₂ := calling_delivers hS h₁.told.orderly
      (fun n hn => h₁.told.listens n r key ((hns n).1 hn)) hdeliver
    have h₁₂ := h₁.calling.trans h₂
    have h₃ := calling_notify hS h₁₂.told.orderly hrest
    refine (h₁₂.trans h₃).mono ?_
    rintro n ⟨c, hc, hn⟩
    rcases List.mem_cons.1 hc with rfl | hc
    · exact .inl (.inr ((hns n).2 hn))
    · exact .inr ⟨c, hc, h₁₂.told.listens n r c.1 hn⟩

end Calling

/-! ### Operations, commands and scripts -/

/-- What an operation owes when it lets go of the registry, it makes good by its calls. -/
theorem settled_operation {changes : List Change} (h : Prepared r changes s ms s₁)
    (h' : Calling (fun n => ∃ c ∈ changes, s₁.Listens n r c.1) s₁ ms' s') :
    Settled s (ms' ++ ms) s' := by
  refine ⟨h.told.append h'.told ?_, fun r' => (h.guarded r').trans (h'.guarded r')⟩
  rintro n r' key hn ⟨rfl, x, hx⟩ -
  exact h'.calls n ⟨(key, x), hx, hn⟩

theorem settles_refresh (hS : ScriptsSettle S) (r : RegistryId) : Settles S r.refresh := by
  intro s ms x s' h hs
  rw [refresh_eq] at h
  obtain ⟨y, s₁, ms₁, ms₂, hrenewal, hrest, rfl⟩ := runs_bind.1 h
  have h₁ := prepared_renewal hS hs hrenewal
  obtain ⟨u, s₂, ms₃, ms₄, hnotify, hdone, rfl⟩ := runs_bind.1 hrest
  obtain ⟨rfl, rfl, rfl⟩ := runs_done.1 hdone
  exact settled_operation h₁ (calling_notify hS h₁.told.orderly hnotify)

theorem settles_register (hS : ScriptsSettle S) (r : RegistryId) (n : SourceId) (priority : Int) :
    Settles S (r.register n priority) := by
  intro s ms x s' h hs
  rw [register_eq] at h
  obtain ⟨y, s₁, ms₁, ms₂, hregistration, hrest, rfl⟩ := runs_bind.1 h
  have h₁ := prepared_registration hS hs hregistration
  cases y with
  | error e =>
    obtain ⟨rfl, rfl, rfl⟩ := runs_done.1 hrest
    refine settled_operation h₁ (((composable_settled.nil s₁ h₁.told.orderly).calling).mono ?_)
    rintro n ⟨c, hc, -⟩
    exact List.not_mem_nil hc
  | ok changes =>
    obtain ⟨u, s₂, ms₃, ms₄, hnotify, hdone, rfl⟩ := runs_bind.1 hrest
    obtain ⟨rfl, rfl, rfl⟩ := runs_done.1 hdone
    exact settled_operation h₁ (calling_notify hS h₁.told.orderly hnotify)

theorem parts_settles (hS : ScriptsSettle S) : Parts fun _ t => Settles S t where
  toSequential := sequential_always composable_settled
  passive := fun a ha => settles_act (by
    cases a with
    | registry r a => cases a <;> first | rfl | simp [Action.isPassive] at ha
    | deliver => simp [Action.isPassive] at ha
    | _ => rfl)
  read := (gentle_settles hS).read
  lookUp := (gentle_settles hS).lookUp
  invalidate := fun r _ => settles_ask r rfl
  refresh := settles_refresh hS

theorem operations_settles (hS : ScriptsSettle S) : Operations fun _ _ t => Settles S t where
  toWalk := (parts_settles hS).walk
  own := fun a ha => settles_act (by cases a <;> first | rfl | simp [Action.isOwn] at ha)
  takeSnapshot := (gentle_settles hS).takeSnapshot
  register := settles_register hS

/-- Scripts owe nothing, however deep they are nested. -/
theorem scriptsSettle : ∀ k : Nat, ScriptsSettle (ScriptRuns k)
  | 0 => fun _ _ _ _ h => h.elim
  | k + 1 => fun script _ _ _ h hs =>
    (operations_settles (scriptsSettle k)).script [] script _ _ _ _ h hs

end Strata
