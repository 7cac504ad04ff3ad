import Strata.Proofs.Chronicles
import Strata.Proofs.Delivery

/-!
What listeners are told in the course of a run in which neither sources nor listeners use the
registry. A refresh and a registration that is accepted end one change each and tell the news of it
(`chronicled_operation`), a registration that is refused and all else tell nothing. Main statement:
so a listener is told the successive values that its key takes after these changes, beginning with
the value at its subscription (`chronicle_of_script`).
-/

namespace Strata

open Session RegistryId Machine Strata.Task

variable {S : ScriptRun} {s s₁ s' σ : Session} {r : RegistryId} {reg reg' : Registry} {k n : Nat}
  {key : String} {ms ms' : List Moment} {changes : List Change}

/-! ### Changes -/

/-- Work on a registry up to giving it back. One change of it ends, and its listeners are still to
be told the news. -/
structure Worked (r : RegistryId) (changes : List Change) (s : Session) (ms : List Moment)
    (σ s' : Session) : Prop where
  aside : Aside r s ms s'
  ended : changesEnded r ms = [σ]
  listeners : (s'.registryAt r).listeners = (s.registryAt r).listeners
  roll : (s'.registryAt r).roll = (σ.registryAt r).roll
  news : IsNews changes r s σ

theorem worked_of_lull {u v : Unit} {ms₁ ms₂ : List Moment}
    (hlull : Lull (·.listeners) r s ms σ) (hend : Runs S (ask r .endChange) σ ms₁ u s₁)
    (hunlock : Runs S (ask r .unlock) s₁ ms₂ v s') (hnews : IsNews changes r s s') :
    Worked r changes s (ms₂ ++ (ms₁ ++ ms)) σ s' := by
  have haside := hlull.aside.trans (aside_ask r _ _ _ _ _ hend)
  obtain ⟨reg, reg₁, hreg, htake, rfl, rfl⟩ := runs_ask.1 hend
  cases htake
  have hunlocked := lull_ask_roll .unlock nofun nofun nofun _ _ _ _ hunlock
  have hroll : (s'.registryAt r).roll = (σ.registryAt r).roll := by
    rw [hunlocked.kept, registryAt_eq hreg, registryAt_eq (registries_setRegistry hreg _)]
    rfl
  refine ⟨haside.trans hunlocked.aside, ?_, (Prod.mk.inj hroll).2.trans hlull.kept, hroll,
    hnews.congr fun key => ?_⟩
  · rw [changesEnded_append, changesEnded_append, hunlocked.ended, hlull.ended]
    simp [changesEnded]
  · rw [recordedValue, ← (Prod.mk.inj hroll).1, recordedValue]

/-- A refresh is to tell of all that the new snapshots change. -/
theorem isNews_of_renewal (hs : s.IsOrderly) {x : RefreshReport × List Change}
    (hreg : s.registries[r]? = some reg) (h : Ends (ScriptRuns k) r.renewal s x s') :
    IsNews x.2 r s s' := by
  obtain ⟨-, taken, s₁, reg₁, htaken, hreg₁, rfl, rfl⟩ := (ends_renewal hreg fun taken s₁ h =>
    layers_of_takeSnapshots hreg h).1 h
  obtain ⟨_, hreg₁', hlayers⟩ := layers_of_takeSnapshots hreg htaken
  cases hreg₁.symm.trans hreg₁'
  have hreg' := registries_setRegistry hreg₁ (returned reg₁ taken)
  have hseqs := hs.seqs reg (List.mem_of_getElem? hreg)
  have hmap := map_takeSnapshots htaken
  rw [← hlayers] at hseqs hmap
  refine (isDifference_of ⟨reg, hreg, hlayers.symm⟩ ⟨_, hreg', rfl⟩ fun key hne =>
    View.mem_changes_of_recordAll (fun l hl t ht heq => ?_) hne).isNews hreg hreg'
  have ht' : t.1 ∈ reg₁.layers.filter (·.isMutable) := by
    rw [← hmap]
    exact List.mem_map_of_mem ht
  exact List.inj_on_of_nodup_map hseqs (List.mem_filter.1 ht').1 hl heq

/-- A registration is to tell of all that the new layer changes. -/
theorem isNews_of_registration {source : SourceId} {priority : Int}
    (hreg : s.registries[r]? = some reg)
    (h : Ends (ScriptRuns k) (r.registration source priority) s (.ok changes) s') :
    IsNews changes r s s' := by
  obtain ⟨-, ⟨-, hrefused, -⟩ | ⟨-, x, s₁, reg₁, l, -, hreg₁, -, rfl, heq⟩⟩ :=
    ends_registration hreg (fun _ _ h => (layers_of_firstSnapshot hreg h).imp fun _ h => h.1) h
  · cases hrefused
  · cases heq
    have hreg' := registries_setRegistry hreg₁ (enrolled reg₁ reg.layers l x.2)
    exact (isDifference_of ⟨reg, hreg, rfl⟩ ⟨_, hreg', rfl⟩ fun key hne =>
      View.mem_changes_of_insert hne).isNews hreg hreg'

theorem worked_renewal (hs : s.IsOrderly) {x : RefreshReport × List Change}
    (h : Runs (Aloof r k) r.renewal s ms x s') : ∃ σ, Worked r x.2 s ms σ s' := by
  have hends := (runs_of_aloof h).ends
  have hR := composable_lull (·.listeners) r
  have hask : ∀ b, b ≠ .endChange → Always (Aloof r k) (Lull (·.listeners) r) (ask r b) :=
    fun b hb => lull_ask hb fun _ _ _ => listeners_take
  obtain ⟨u, s₁, ms₁, ms₂, hlock, hrest₁, rfl⟩ := runs_bind.1 h
  obtain ⟨u, s₂, ms₃, ms₄, hbegin, hrest₂, rfl⟩ := runs_bind.1 hrest₁
  obtain ⟨y, σ, ms₅, ms₆, hrenew, hrest₃, rfl⟩ := runs_bind.1 hrest₂
  obtain ⟨u, s₄, ms₇, ms₈, hend, hrest₄, rfl⟩ := runs_bind.1 hrest₃
  obtain ⟨u, s₅, ms₉, ms₁₀, hunlock, hdone, rfl⟩ := runs_bind.1 hrest₄
  obtain ⟨rfl, rfl, rfl⟩ := runs_done.1 hdone
  obtain ⟨reg, -, hreg, -⟩ := runs_ask.1 hlock
  have hlull := hR.append (hask .lock nofun _ _ _ _ hlock) (hR.append
    (hask .beginChange nofun _ _ _ _ hbegin) ((outward_lull _ r k).renew
      (fun b _ hb => hask b fun heq => by rw [heq] at hb; cases hb)
      (fun seq t => hask (.record seq t) nofun) _ _ _ _ hrenew))
  refine ⟨σ, ?_⟩
  simpa only [List.append_assoc, List.nil_append] using
    worked_of_lull hlull hend hunlock (isNews_of_renewal hs hreg hends)

/-- A registration is refused, or the listeners are to be told of the new layer. -/
theorem worked_registration {source : SourceId} {priority : Int}
    {y : Except Failure (List Change)}
    (h : Runs (Aloof r k) (r.registration source priority) s ms y s') :
    (∃ e, y = .error e ∧ Lull Registry.roll r s ms s') ∨
      ∃ changes σ, y = .ok changes ∧ Worked r changes s ms σ s' := by
  have hends := (runs_of_aloof h).ends
  obtain ⟨reg, hreg⟩ := exists_registry_of_registration hends
  obtain ⟨⟨name, isMutable⟩, s₀, ms₁, ms₂, hdescribe, hrest₀, rfl⟩ := runs_bind.1 h
  obtain ⟨u, s₁, ms₃, ms₄, hlock, hrest₁, rfl⟩ := runs_bind.1 hrest₀
  obtain ⟨old, s₂, ms₅, ms₆, hold, hrest₂, rfl⟩ := runs_bind.1 hrest₁
  split at hrest₂
  · obtain ⟨u, s₃, ms₇, ms₈, hobs, hrest₃, rfl⟩ := runs_bind.1 hrest₂
    obtain ⟨u, s₄, ms₉, ms₁₀, hunlock, hdone, rfl⟩ := runs_bind.1 hrest₃
    obtain ⟨rfl, rfl, rfl⟩ := runs_done.1 hdone
    have hR := composable_lull Registry.roll r
    have houtward := outward_lull Registry.roll r k
    left
    refine ⟨_, rfl, ?_⟩
    exact hR.append (houtward.act _ rfl _ _ _ _ hdescribe) (hR.append
      (lull_ask_roll .lock nofun nofun nofun _ _ _ _ hlock) (hR.append
      (lull_ask_roll .layers nofun nofun nofun _ _ _ _ hold) (hR.append
      (houtward.act _ rfl _ _ _ _ hobs)
      (lull_ask_roll .unlock nofun nofun nofun _ _ _ _ hunlock))))
  · obtain ⟨u, s₃, ms₇, ms₈, hbegin, hrest₃, rfl⟩ := runs_bind.1 hrest₂
    obtain ⟨changes, σ, ms₉, ms₁₀, hinsert, hrest₄, rfl⟩ := runs_bind.1 hrest₃
    obtain ⟨u, s₅, ms₁₁, ms₁₂, hend, hrest₅, rfl⟩ := runs_bind.1 hrest₄
    obtain ⟨u, s₆, ms₁₃, ms₁₄, hunlock, hdone, rfl⟩ := runs_bind.1 hrest₅
    obtain ⟨rfl, rfl, rfl⟩ := runs_done.1 hdone
    have hR := composable_lull (·.listeners) r
    have houtward := outward_lull (·.listeners) r k
    have hask : ∀ b, b ≠ .endChange → Always (Aloof r k) (Lull (·.listeners) r) (ask r b) :=
      fun b hb => lull_ask hb fun _ _ _ => listeners_take
    have hlull := hR.append (houtward.act _ rfl _ _ _ _ hdescribe) (hR.append
      (hask .lock nofun _ _ _ _ hlock) (hR.append (hask .layers nofun _ _ _ _ hold) (hR.append
      (hask .beginChange nofun _ _ _ _ hbegin) (houtward.insertLayer
        (fun b _ hb => hask b fun heq => by rw [heq] at hb; cases hb) (hask .takeSeq nofun)
        (fun new => hask (.setLayers new) nofun) _ _ _ _ _ _ _ _ _ hinsert))))
    refine .inr ⟨changes, σ, rfl, ?_⟩
    simpa only [List.append_assoc, List.nil_append] using
      worked_of_lull hlull hend hunlock (isNews_of_registration hreg hends)

/-! ### The calls of an operation -/

theorem callsTo_congr (h : s'.registryAt r = s.registryAt r) (ms : List Moment) :
    callsTo r s' ms = callsTo r s ms := by
  rw [callsTo, h, callsTo]

/-- Listeners are called one after the other, and what they do calls no listener of the registry. -/
theorem callsTo_deliver {x : Option Resolved} : ∀ {ns : List Nat} {s s' : Session}
    {ms : List Moment} {u : Unit}, s.IsOrderly → (∀ n ∈ ns, s.Listens n r key) →
    Runs (Aloof r k) (RegistryId.deliver x ns) s ms u s' →
    s'.IsOrderly ∧ (callsTo r s ms).reverse = ns.map fun n => (n, x)
  | [], s, s', ms, u, hs, _, h => by
    obtain ⟨rfl, -, rfl⟩ := runs_done.1 h
    exact ⟨hs, rfl⟩
  | n :: ns, s, s', ms, u, hs, hns, h => by
    obtain ⟨u, s₁, ms₁, ms₂, hcall, hrest, rfl⟩ := runs_bind.1 h
    obtain ⟨script, s₀, ms₃, ms₄, hact, hscript, rfl⟩ := runs_bind.1 hcall
    obtain ⟨htake, rfl⟩ := runs_act.1 hact
    obtain ⟨hregistries, hlisteners⟩ := take_elsewhere (a := .deliver n x) rfl htake
    have hs₀ := hs.congr hregistries hlisteners
    have hsettled := settles_run (scriptsSettle k) script _ _ _ _ (runs_of_aloof hscript) hs₀
    have hs₁ := hsettled.told.orderly
    have hkeeps : s₁.registryAt r = s.registryAt r :=
      ((keeps_take htake nofun).trans (keepsAlways_run script _ _ _ _ hscript)).registryAt
    have haside := always_run (composable_aside r) (aside_of_aloof k script) _ _ _ _ hscript
    have hnone := callsTo_eq_nil_of_aside haside (fun _ _ _ hn => hn) hs₁
    obtain ⟨hs', hcalls⟩ := callsTo_deliver hs₁ (fun n' hn' => by
      rw [listens_iff, hkeeps, ← listens_iff]
      exact hns n' (List.mem_cons_of_mem n hn')) hrest
    rw [callsTo_congr hkeeps] at hnone hcalls
    have hfirst : callsTo r s [⟨0, .act (.deliver n x), s⟩] = [(n, x)] :=
      List.filter_cons_of_pos (any_listeners.2 ⟨key, hns n List.mem_cons_self⟩)
    refine ⟨hs', ?_⟩
    rw [callsTo_append, callsTo_append, hnone, hfirst, List.reverse_append, hcalls]
    rfl

/-- The listeners of keys that have changed are called in order. -/
theorem callsTo_notify : ∀ {changes : List Change} {s s' : Session} {ms : List Moment} {u : Unit},
    s.IsOrderly → Runs (Aloof r k) (r.notify changes) s ms u s' →
    s'.IsOrderly ∧ (callsTo r s ms).reverse = s.callsFor r changes
  | [], s, s', ms, u, hs, h => by
    obtain ⟨rfl, -, rfl⟩ := runs_done.1 h
    exact ⟨hs, rfl⟩
  | c :: changes, s, s', ms, u, hs, h => by
    obtain ⟨u, s₁, ms₁, ms₂, hfirst, hrest, rfl⟩ := runs_bind.1 h
    obtain ⟨ns, s₀, ms₃, ms₄, hask, hdeliver, rfl⟩ := runs_bind.1 hfirst
    obtain ⟨reg, reg', hreg, htake, rfl, rfl⟩ := runs_ask.1 hask
    cases htake
    rw [setRegistry_self hreg] at hdeliver
    have hns : ∀ n ∈ reg.listenersOf c.1, s.Listens n r c.1 := fun n hn =>
      ⟨reg, hreg, Registry.mem_listenersOf.1 hn⟩
    obtain ⟨hs₁, hcalls⟩ := callsTo_deliver hs hns hdeliver
    have hkeeps := (keeps_deliver c.2 _ _ _ _ _ hdeliver).registryAt
    obtain ⟨hs', hcalls'⟩ := callsTo_notify hs₁ hrest
    rw [callsTo_congr hkeeps, callsFor, hkeeps] at hcalls'
    have hquiet : callsTo r s [⟨0, .act (.registry r (.listeners c.1)), s⟩] = [] := rfl
    refine ⟨hs', ?_⟩
    rw [callsTo_append, callsTo_append, hquiet, List.append_nil, List.reverse_append, hcalls,
      hcalls', callsFor, List.flatMap_cons, registryAt_eq hreg]

theorem ended_notify (changes : List Change) :
    Always (Aloof r k) (fun _ ms _ => changesEnded r ms = []) (r.notify changes) := by
  have hR : Composable fun _ ms _ => changesEnded r ms = [] :=
    ⟨fun _ => rfl, fun _ _ => rfl, fun h h' => by rw [changesEnded_append, h, h', List.append_nil]⟩
  have houtward : Outward fun _ t => Always (Aloof r k) (fun _ ms _ => changesEnded r ms = []) t :=
    { sequential_always hR with
      act := fun a ha s ms x s' h => ((outward_lull id r k).act a ha s ms x s' h).ended
      run := fun script s ms x s' h => ((outward_lull id r k).run script s ms x s' h).ended }
  refine houtward.notify (fun b _ hb => always_act fun s _ _ _ => ?_)
    (fun n x => always_act fun s _ _ _ => changesEnded_act (a := .deliver n x) nofun 0 s) changes
  exact changesEnded_act (fun heq => by cases heq; cases hb) 0 s

/-- An operation that ends a change and then tells the news. -/
theorem chronicled_operation {u : Unit} (hworked : Worked r changes s ms σ s₁)
    (hs₁ : s₁.IsOrderly) (hnotify : Runs (Aloof r k) (r.notify changes) s₁ ms' u s')
    (hsettled : Settled s (ms' ++ ms) s') (hattends : Attends s (ms' ++ ms) s') :
    Chronicled r s (ms' ++ ms) s' := by
  have hkept := (keeps_notify changes _ _ _ _ hnotify).registryAt
  have hroll : (s'.registryAt r).roll = (σ.registryAt r).roll := by rw [hkept, hworked.roll]
  have hended : changesEnded r (ms' ++ ms) = [σ] := by
    rw [changesEnded_append, ended_notify changes _ _ _ _ hnotify, hworked.ended, List.nil_append]
  have hcalls : (callsTo r s' (ms' ++ ms)).reverse = σ.callsFor r changes := by
    have hafter := (attends_of_runs (runs_of_aloof hnotify)).after
    have hlisteners := (Prod.mk.inj (hkept ▸ hroll)).2
    rw [callsTo_append, callsTo_eq_nil_of_aside hworked.aside hafter hsettled.told.orderly,
      List.append_nil, callsTo_congr hkept, (callsTo_notify hs₁ hnotify).2, callsFor, callsFor]
    simp only [Registry.listenersOf, hlisteners]
  have hchronicle : Chronicle r s (changesEnded r (ms' ++ ms)).reverse
      (callsTo r s' (ms' ++ ms)).reverse s' := by
    rw [hended, hcalls, ← List.append_nil (σ.callsFor r changes)]
    refine .cons hworked.news (.nil fun key => ?_)
    rw [recordedValue, (Prod.mk.inj hroll).1, recordedValue]
  refine ⟨hsettled, hattends, hchronicle, fun n key hn => ⟨ms' ++ ms, [], s, ?_⟩⟩
  refine .of_listens ?_ hattends hchronicle
  rw [listens_iff, ← hworked.listeners, ← hkept]
  exact listens_iff.1 hn

/-! ### Operations, commands and scripts -/

/-- All runs of a task make up a chronicle. -/
abbrev Chronicles {α : Type} (r : RegistryId) (k : Nat) (t : Task α) : Prop :=
  Always (Aloof r k) (fun s ms s' => s.IsOrderly → Chronicled r s ms s') t

section Operations

variable {α : Type} {r₁ : RegistryId}

/-- Asking others, and whatever is done to another registry, has nothing to do with a registry. -/
theorem outward_untouched (r : RegistryId) (k : Nat) :
    Outward fun _ t => Always (Aloof r k) (fun _ ms _ => Untouched r ms) t := by
  have hR : Composable fun _ ms _ => Untouched r ms :=
    ⟨fun _ => untouched_nil, fun _ _ => untouched_single.2 nofun,
      fun h h' => untouched_append.2 ⟨h', h⟩⟩
  exact
    { sequential_always hR with
      act := fun a ha => always_act fun s _ _ _ => untouched_single.2 (by
        rw [registryOf?_outward ha]
        nofun)
      run := fun script => always_run hR fun _ _ _ h => h.2 }

theorem untouched_ask (hr : r₁ ≠ r) (b : RegistryAction) :
    Always (Aloof r k) (fun _ ms _ => Untouched r ms) (ask r₁ b) :=
  always_act fun _ _ _ _ => untouched_single.2 fun heq => hr (Option.some.inj heq)

theorem chronicles_of_lull {t : Task α} (hsettles : Settles (ScriptRuns k) t)
    (h : Always (Aloof r k) (Lull Registry.roll r) t) : Chronicles r k t :=
  fun s ms a s' hrun hs => .of_lull (hsettles _ _ _ _ (runs_of_aloof hrun) hs)
    (attends_of_runs (runs_of_aloof hrun)) (h s ms a s' hrun)

theorem chronicles_of_untouched {t : Task α} (hsettles : Settles (ScriptRuns k) t)
    (haside : AsideAlways (Aloof r k) r t)
    (h : Always (Aloof r k) (fun _ ms _ => Untouched r ms) t) : Chronicles r k t :=
  chronicles_of_lull hsettles fun s ms a s' hrun => by
    have hms := h s ms a s' hrun
    exact lull_of_untouched (runs_of_aloof hrun) hms (haside s ms a s' hrun hms)

theorem chronicles_act {a : Action} (ha : a.isMild = true) (hend : a ≠ .registry r .endChange) :
    Chronicles r k (act a) :=
  always_act fun _ _ _ htake hs => chronicled_take ha hend hs htake

theorem chronicles_refresh (r₁ : RegistryId) : Chronicles r k r₁.refresh := by
  have hsettles := settles_refresh (scriptsSettle k) r₁
  by_cases hr : r₁ = r
  · subst hr
    intro s ms x s' h hs
    have hsettled := hsettles _ _ _ _ (runs_of_aloof h) hs
    have hattends := attends_of_runs (runs_of_aloof h)
    rw [refresh_eq] at h
    obtain ⟨y, s₁, ms₁, ms₂, hrenewal, hrest, rfl⟩ := runs_bind.1 h
    obtain ⟨u, s₂, ms₃, ms₄, hnotify, hdone, rfl⟩ := runs_bind.1 hrest
    obtain ⟨rfl, rfl, rfl⟩ := runs_done.1 hdone
    have hprepared := prepared_renewal (scriptsSettle k) hs (runs_of_aloof hrenewal)
    obtain ⟨σ, hworked⟩ := worked_renewal hs hrenewal
    exact chronicled_operation hworked hprepared.told.orderly hnotify hsettled hattends
  · refine chronicles_of_untouched hsettles
      (@Course.refresh _ (operations_aside (aside_of_aloof k)).toCourse [] r₁) ?_
    exact (outward_untouched r k).refresh (fun _ _ => always_act fun _ _ _ _ =>
      untouched_single.2 nofun) fun b _ _ => untouched_ask hr b

theorem chronicles_register (r₁ : RegistryId) (source : SourceId) (priority : Int) :
    Chronicles r k (r₁.register source priority) := by
  have hsettles := settles_register (scriptsSettle k) r₁ source priority
  by_cases hr : r₁ = r
  · subst hr
    intro s ms x s' h hs
    have hsettled := hsettles _ _ _ _ (runs_of_aloof h) hs
    have hattends := attends_of_runs (runs_of_aloof h)
    rw [register_eq] at h
    obtain ⟨y, s₁, ms₁, ms₂, hregistration, hrest, rfl⟩ := runs_bind.1 h
    have hprepared := prepared_registration (scriptsSettle k) hs (runs_of_aloof hregistration)
    rcases worked_registration hregistration with ⟨e, rfl, hlull⟩ | ⟨changes, σ, rfl, hworked⟩
    · obtain ⟨rfl, rfl, rfl⟩ := runs_done.1 hrest
      exact .of_lull hsettled hattends hlull
    · obtain ⟨u, s₂, ms₃, ms₄, hnotify, hdone, rfl⟩ := runs_bind.1 hrest
      obtain ⟨rfl, rfl, rfl⟩ := runs_done.1 hdone
      exact chronicled_operation hworked hprepared.told.orderly hnotify hsettled hattends
  · refine chronicles_of_untouched hsettles
      (@Operations.register _ (operations_aside (aside_of_aloof k)) [] r₁ source priority) ?_
    exact (outward_untouched r k).register (fun _ _ => always_act fun _ _ _ _ =>
      untouched_single.2 nofun) (fun b _ => untouched_ask hr b) source priority

theorem chronicles_read (r₁ : RegistryId) (key : String) : Chronicles r k (r₁.read key) := by
  have hsettles := (gentle_settles (scriptsSettle k)).read r₁ key
  by_cases hr : r₁ = r
  · subst hr
    exact chronicles_of_lull hsettles (lull_read key)
  · refine chronicles_of_untouched hsettles
      (.of_always ((gentle_aside (aside_of_aloof k)).read r₁ key)) ?_
    exact (outward_untouched r k).read (fun b _ => untouched_ask hr b) key

theorem parts_chronicles (r : RegistryId) (k : Nat) : Parts fun _ t => Chronicles r k t where
  toSequential := sequential_always (composable_chronicled r)
  passive := fun a ha => chronicles_act
    (by
      cases a with
      | registry r a => cases a <;> first | rfl | simp [Action.isPassive] at ha
      | deliver => simp [Action.isPassive] at ha
      | _ => rfl)
    (by
      rintro rfl
      cases ha)
  read := chronicles_read
  lookUp := fun n key => chronicles_of_lull ((gentle_settles (scriptsSettle k)).lookUp n key)
    ((outward_lull _ r k).lookUp n key)
  invalidate := fun r₁ key => chronicles_act rfl nofun
  refresh := chronicles_refresh

theorem operations_chronicles (r : RegistryId) (k : Nat) :
    Operations fun _ _ t => Chronicles r k t where
  toWalk := (parts_chronicles r k).walk
  own := fun a ha => chronicles_act
    (by cases a <;> first | rfl | simp [Action.isOwn] at ha)
    (by
      rintro rfl
      cases ha)
  takeSnapshot := fun n => chronicles_of_lull ((gentle_settles (scriptsSettle k)).takeSnapshot n)
    ((outward_lull _ r k).takeSnapshot n)
  register := chronicles_register

end Operations

/-! ### The order of subscription -/

/-- The listeners of a registry stand in the order of their numbers, which are given out in the
order of subscription. -/
structure Session.InLine (s : Session) (r : RegistryId) : Prop where
  ascending : ((s.registryAt r).listeners.map (·.2)).Pairwise (· < ·)
  lt : ∀ l ∈ (s.registryAt r).listeners, l.2 < s.listeners.length

theorem Session.InLine.congr (h : s.InLine r)
    (hlisteners : (s'.registryAt r).listeners = (s.registryAt r).listeners)
    (hlength : s'.listeners = s.listeners) : s'.InLine r := by
  refine ⟨?_, ?_⟩
  · rw [hlisteners]
    exact h.ascending
  · rw [hlisteners, hlength]
    exact h.lt

theorem inLine_take {a : Action} {answer : a.Answer} (htake : s.take a = some (answer, s'))
    (h : s.InLine r) : s'.InLine r := by
  rcases take_cases htake with ⟨hregistries, hlisteners⟩ |
    ⟨r₁, b, reg, reg', x, rfl, hreg, hb, rfl⟩ | ⟨rfl, rfl⟩ | ⟨r₁, key, l, -, rfl⟩
  · refine h.congr ?_ hlisteners
    rw [registryAt, hregistries, registryAt]
  · refine h.congr ?_ rfl
    by_cases hr : r = r₁
    · subst hr
      rw [registryAt_eq (registries_setRegistry hreg reg'), registryAt_eq hreg, listeners_take hb]
    · rw [registryAt, registries_setRegistry_of_ne hr, registryAt]
  · refine h.congr ?_ rfl
    rw [(keeps_take (r := r) htake fun heq => by cases heq).registryAt]
  · have hlength : (s.addListener r₁ key l).listeners.length = s.listeners.length + 1 :=
      List.length_append
    have hcases : ((s.addListener r₁ key l).registryAt r).listeners = (s.registryAt r).listeners ∨
        ((s.addListener r₁ key l).registryAt r).listeners =
          (s.registryAt r).listeners ++ [(key, s.listeners.length)] := by
      rw [registryAt, registries_addListener, registryAt]
      cases s.registries[r]? with
      | none => exact .inl rfl
      | some reg =>
        rw [Option.map_some, Option.getD_some, Option.getD_some]
        split
        · exact .inr rfl
        · exact .inl rfl
    rcases hcases with heq | heq
    · refine ⟨by rw [heq]; exact h.ascending, fun x hx => ?_⟩
      rw [heq] at hx
      rw [hlength]
      exact Nat.lt_succ_of_lt (h.lt x hx)
    · refine ⟨?_, fun x hx => ?_⟩
      · rw [heq, List.map_append, List.pairwise_append]
        refine ⟨h.ascending, List.pairwise_singleton _ _, fun i hi j hj => ?_⟩
        obtain ⟨x, hx, rfl⟩ := List.mem_map.1 hi
        rw [List.mem_singleton.1 hj]
        exact h.lt x hx
      · rw [heq, List.mem_append, List.mem_singleton] at hx
        rw [hlength]
        rcases hx with hx | rfl
        · exact Nat.lt_succ_of_lt (h.lt x hx)
        · exact Nat.lt_succ_self _

theorem inLine_of_runs {α : Type} {t : Task α} {a : α} (h : Runs (ScriptRuns k) t s ms a s')
    (hs : s.InLine r) : ∀ m ∈ ms, m.session.InLine r := by
  have hR : Composable fun s ms s' => s.InLine r → s'.InLine r ∧ ∀ m ∈ ms, m.session.InLine r := by
    refine ⟨fun s hs => ⟨hs, fun _ hm => absurd hm List.not_mem_nil⟩, fun script s hs =>
      ⟨hs, List.forall_mem_singleton.2 hs⟩, fun h h' hs => ?_⟩
    obtain ⟨hs₁, hms⟩ := h hs
    obtain ⟨hs', hms'⟩ := h' hs₁
    exact ⟨hs', List.forall_mem_append.2 ⟨hms', hms⟩⟩
  exact (always_of_take hR (fun htake hs =>
    ⟨inLine_take htake hs, List.forall_mem_singleton.2 hs⟩) k t s ms a s' h hs).2

/-! ### Scripts -/

/-- The calls of one listener of a registry are among the calls of all of them. -/
theorem callsOf_eq (hn : s.Listens n r key) (ms : List Moment) :
    callsOf n ms = ((callsTo r s ms).filter (·.1 == n)).map (·.2) := by
  rw [callsOf, callsTo, List.filter_filter]
  congr 1
  refine List.filter_congr fun d _ => ?_
  by_cases hd : d.1 = n
  · rw [hd, any_listeners.2 ⟨key, hn⟩, Bool.and_true]
  · rw [beq_false_of_ne hd, Bool.false_and]

/-- What listeners are told in a run of a script, while neither sources nor listeners use the
registry. The calls of its listeners are those for the news of one change after the other, where
each change begins with what keys resolved to through the recorded snapshots after the one before;
the listeners of a key are called in the order of subscription. So a listener of a key has been told
the successive values that the key had after the changes since it subscribed, beginning with the
value at that moment. -/
theorem chronicle_of_script {script : Script} (hs : s.IsOrderly) (hline : s.InLine r)
    (h : Runs (Aloof r k) script.task s ms () s') :
    Chronicle r s (changesEnded r ms).reverse (callsTo r s' ms).reverse s' ∧
    (∀ σ ∈ changesEnded r ms, ((σ.registryAt r).listeners.map (·.2)).Pairwise (· < ·)) ∧
    ∀ n key, s'.Listens n r key → ∃ part earlier σ, ms = part ++ earlier ∧
      Joins n r key s earlier σ ∧ callsOf n earlier = [] ∧
      σ.recordedValue r key :: (callsOf n part).reverse =
        (σ.recordedValue r key ::
          (changesEnded r part).reverse.map (·.recordedValue r key)).destutter (· ≠ ·) := by
  have hchronicled := (operations_chronicles r k).script [] script s ms () s' h hs
  have hlines : ∀ σ ∈ changesEnded r ms, σ.InLine r := by
    intro σ hσ
    obtain ⟨m, hm, rfl⟩ := exists_moment_of_changesEnded hσ
    exact inLine_of_runs (runs_of_aloof h) hline m hm
  refine ⟨hchronicled.chronicle, fun σ hσ => (hlines σ hσ).ascending, fun n key hn => ?_⟩
  obtain ⟨part, earlier, σ, rfl, hjoins, hbefore, hattended, hchronicle⟩ :=
    hchronicled.heard n key hn
  refine ⟨part, earlier, σ, rfl, hjoins, ?_, ?_⟩
  · rw [callsOf, List.filter_eq_nil_iff.2 fun d hd => by simpa using hbefore d hd, List.map_nil]
  · rw [callsOf_eq hn, ← List.map_reverse, ← List.filter_reverse]
    refine hchronicle.calls_eq (fun σ' hσ' => hattended σ' (List.mem_reverse.1 hσ'))
      fun σ' hσ' => ?_
    have hmem : σ' ∈ changesEnded r (part ++ earlier) := by
      rw [changesEnded_append]
      exact List.mem_append_left _ (List.mem_reverse.1 hσ')
    exact (hlines σ' hmem).ascending.imp Nat.ne_of_lt

/-- A map, a listener that sets a property, a source that fails, and another listener. A value is
undone before a refresh, and the cache is invalidated. -/
def twoListeners : Script where
  owner := ""
  commands :=
    [.make "m" (.map { name := "m", values := .ofList [("k", "1")] }) (some 10),
      .deed (.subscribe "x" "k" [.deed (.setProperty "p" "1")]), .deed (.put "m" "k" "2"), .refresh,
      .make "f" (.scripted "f" true { snapshotFails := some true }) (some 0),
      .deed (.subscribe "y" "k" []), .invalidate none, .deed (.put "m" "k" "3"),
      .deed (.put "m" "k" "2"), .refresh, .deed (.put "m" "k" "3"), .refresh]

/-- Five changes end. The first listener is told of two new values, the other of the last one. -/
theorem chronicle_of_twoListeners : ∃ ms s' part earlier σ,
    Runs (Aloof 0 200) twoListeners.task {} ms () s' ∧
    (changesEnded 0 ms).reverse.map (·.recordedValue 0 "k") =
      [some ⟨"1", "m"⟩, some ⟨"2", "m"⟩, some ⟨"2", "m"⟩, some ⟨"2", "m"⟩, some ⟨"3", "m"⟩] ∧
    Chronicle 0 {} (changesEnded 0 ms).reverse
      [(0, some ⟨"2", "m"⟩), (0, some ⟨"3", "m"⟩), (1, some ⟨"3", "m"⟩)] s' ∧
    ms = part ++ earlier ∧ Joins 1 0 "k" {} earlier σ ∧ callsOf 1 earlier = [] ∧
    [σ.recordedValue 0 "k", some ⟨"3", "m"⟩] = (σ.recordedValue 0 "k" ::
      (changesEnded 0 part).reverse.map (·.recordedValue 0 "k")).destutter (· ≠ ·) := by
  obtain ⟨x, hx⟩ : ∃ x, x = Machine.follow ⟨{}, [twoListeners.task]⟩ [] (List.replicate 200 0) :=
    ⟨_, rfl⟩
  have hdone : (x.2.tasks[0]?).bind Task.result? = some () := by
    rw [hx]
    decide +kernel
  have houtside : OnlyOutside x.1 := by
    rw [hx]
    decide +kernel
  have hvalues : (changesEnded 0 x.1).reverse.map (·.recordedValue 0 "k") =
      [some ⟨"1", "m"⟩, some ⟨"2", "m"⟩, some ⟨"2", "m"⟩, some ⟨"2", "m"⟩, some ⟨"3", "m"⟩] := by
    rw [hx]
    decide +kernel
  have hcalls : (callsTo 0 x.2.session x.1).reverse =
      [(0, some ⟨"2", "m"⟩), (0, some ⟨"3", "m"⟩), (1, some ⟨"3", "m"⟩)] ∧
      callsOf 1 x.1 = [some ⟨"3", "m"⟩] := by
    rw [hx]
    decide +kernel
  have hlisteners : ("k", 1) ∈ (x.2.session.registryAt 0).listeners := by
    rw [hx]
    decide +kernel
  have hrun : Runs (Aloof 0 200) _ _ _ _ _ :=
    aloof_of_outside (runs_of_follow hx hdone) houtside
  have hline : Session.InLine {} 0 := ⟨.nil, fun _ hl => absurd hl List.not_mem_nil⟩
  obtain ⟨hchronicle, -, hheard⟩ :=
    chronicle_of_script (isOrderly_of_registries rfl) hline hrun
  obtain ⟨part, earlier, σ, hsplit, hjoins, hbefore, htold⟩ :=
    hheard 1 "k" (listens_iff.2 hlisteners)
  rw [hcalls.1] at hchronicle
  have hone : callsOf 1 part = [some ⟨"3", "m"⟩] := by
    have happend : callsOf 1 (part ++ earlier) = callsOf 1 part ++ callsOf 1 earlier := by
      rw [callsOf, deliveries_append, List.filter_append, List.map_append, callsOf, callsOf]
    rw [← hcalls.2, hsplit, happend, hbefore, List.append_nil]
  rw [hone] at htold
  exact ⟨x.1, x.2.session, part, earlier, σ, hrun, hvalues, hchronicle, hsplit, hjoins, hbefore,
    htold⟩

end Strata
