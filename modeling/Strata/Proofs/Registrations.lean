import Strata.Proofs.Answers
import Strata.Proofs.Calls
import Strata.Proofs.Detection

/-!
Registering sources. A registration is accepted, and puts in a layer with a new name
(`Sound.carries_accepted`), or it is refused because of the name of the source, and then changes
nothing (`carries_refused`, `run_register_of_mem`). Main statement: the layers of a registry are
what sorting by priority makes of the accepted registrations, and if all priorities differ the
order in which they were made does not matter (`order_of_registrations`).
-/

namespace Strata

open Machine RegistryId Session

/-! ### The order of registration -/

/-- What a layer is registered with. -/
def Layer.entry (l : Layer) : String × SourceId × Int := (l.name, l.source, l.priority)

/-- What is consulted is settled by the names and the sources of layers. -/
theorem RegistryId.consult_congr (key : String) : ∀ {ls ls' : List Layer},
    ls.map Layer.nature = ls'.map Layer.nature → consult key ls = consult key ls'
  | [], [], _ => rfl
  | [], _ :: _, h => by cases h
  | _ :: _, [], h => by cases h
  | l :: ls, l' :: ls', h => by
    obtain ⟨hl, hls⟩ := List.cons.inj h
    obtain ⟨hname, hsource⟩ := Prod.mk.inj hl
    rw [consult, consult, consult_congr key hls, hname, hsource]

/-- Layers of different priorities stand in the same order, whatever the order is in which they were
put in. -/
theorem Machine.Arranged.map_entry_eq {accepted accepted' ls ls' : List Layer}
    (h : Arranged accepted ls) (h' : Arranged accepted' ls')
    (hperm : (accepted.map Layer.entry).Perm (accepted'.map Layer.entry))
    (hdiffer : (accepted.map (·.priority)).Nodup) : ls.map Layer.entry = ls'.map Layer.entry := by
  have hrising : ∀ {accepted ls : List Layer}, Arranged accepted ls →
      (accepted.map (·.priority)).Nodup →
      (ls.map Layer.entry).Pairwise fun a b => a.2.2 < b.2.2 := by
    intro accepted ls h hdiffer
    have hnodup : (ls.map (·.priority)).Nodup := (h.map_perm fun _ => rfl).nodup_iff.2 hdiffer
    refine List.pairwise_map.2 ((h.before.and (List.pairwise_map.1 hnodup)).imp ?_)
    rintro a b ⟨hlt | ⟨heq, -⟩, hne⟩
    · exact hlt
    · exact absurd heq hne
  have hpriorities := hperm.map fun x => x.2.2
  rw [List.map_map, List.map_map] at hpriorities
  have hdiffer' : (accepted'.map (·.priority)).Nodup := hpriorities.nodup_iff.1 hdiffer
  have hls : (ls.map Layer.entry).Perm (ls'.map Layer.entry) :=
    ((h.map_perm fun _ => rfl).trans hperm).trans (h'.map_perm fun _ => rfl).symm
  exact hls.eq_of_pairwise (fun _ _ _ _ hab hba => absurd hba (Int.lt_asymm hab))
    (hrising h hdiffer) (hrising h' hdiffer')

namespace Machine

variable {α γ : Type} {i : Nat} {ms part before after : List Moment} {n : SourceId}
  {r : RegistryId} {priority : Int} {e : Failure}

section Actions

variable {m m₁ m₂ m' : Machine γ} {a : Action} {x : a.Answer}

theorem idle_eq_nil (h : Idle i ms) (hall : ∀ e ∈ ms, e.task = i) : ms = [] :=
  List.eq_nil_iff_forall_not_mem.2 fun e he => h e he (hall e he)

theorem history_append (i : Nat) (part earlier : List Moment) :
    history i (part ++ earlier) = history i part ++ history i earlier := by
  rw [history, List.filter_append, List.filterMap_append, history, history]

/-- What an action that is carried out adds to the history of the task. -/
theorem Carries.history_eq (hc : m.Carries i (act a) part x m') (earlier : List Moment) :
    history i (part ++ earlier) = ⟨a, x⟩ :: history i earlier := by
  obtain ⟨before, after, m₁, m₂, rfl, ht⟩ := carries_act hc
  exact ht.history_eq earlier

/-- An action that is carried out while no other task does anything. -/
theorem Carries.take_eq (hc : m.Carries i (act a) part x m') (hall : ∀ e ∈ part, e.task = i) :
    m.session.take a = some (x, m'.session) := by
  obtain ⟨before, after, m₁, m₂, rfl, ht⟩ := carries_act hc
  obtain rfl := idle_eq_nil ht.idle_before fun e he =>
    hall e (List.mem_append_right _ (List.mem_cons_of_mem _ he))
  obtain rfl := idle_eq_nil ht.idle_after fun e he => hall e (List.mem_append_left _ he)
  cases ht.waits
  cases ht.rests
  exact ht.take

/-- A task that takes an action has it as its next step. -/
theorem Takes.exists_next (ht : m.Takes i a x before after m₁ m₂ m') :
    ∃ next, m₁.tasks[i]? = some (.step (.act a) next) := by
  obtain ⟨m₃, hrun, -, hpend, -⟩ := ht.step.moment
  cases hrun
  obtain ⟨t, htask, hstep⟩ := Option.bind_eq_some_iff.1 hpend
  cases t with
  | done u => cases hstep
  | step step next =>
    cases hstep
    exact ⟨next, htask⟩

end Actions

variable {m m' : Machine Unit}

/-- A registry that is locked, read and given back is as it was before. -/
theorem session_eq_of_refused {s s₁ s₂ s₃ s₄ : Session} {ls : List Layer} {c : Circumstance}
    {u v w : Unit} (hlock : s.take (.registry r .lock) = some (u, s₁))
    (hlayers : s₁.take (.registry r .layers) = some (ls, s₂))
    (hobserve : s₂.take (.observe c e) = some (v, s₃))
    (hunlock : s₃.take (.registry r .unlock) = some (w, s₄)) : s₄ = s.emit (.observed c e) := by
  obtain ⟨reg, reg₁, hreg, hask, rfl⟩ := exists_registry_take hlock
  have hfree : reg.isLocked = false := by
    cases hl : reg.isLocked with
    | false => rfl
    | true => simp [Registry.take, hl] at hask
  obtain rfl : { reg with isLocked := true } = reg₁ := by simpa [Registry.take, hfree] using hask
  have hreg₁ := registries_setRegistry hreg { reg with isLocked := true }
  obtain ⟨_, _, hreg₂, hask, rfl⟩ := exists_registry_take hlayers
  cases hreg₁.symm.trans hreg₂
  cases hask
  cases hobserve
  obtain ⟨reg₃, _, hreg₃, hask, rfl⟩ := exists_registry_take hunlock
  rw [setRegistry_self hreg₁] at hreg₃
  cases hreg₁.symm.trans hreg₃
  cases hask
  have hsame : { reg with isLocked := false } = reg := by rw [← hfree]
  rw [setRegistry_self hreg₁, show (s.setRegistry r { reg with isLocked := true }).emit _ =
    (s.emit _).setRegistry r { reg with isLocked := true } from rfl, setRegistry_setRegistry]
  exact (congrArg ((s.emit _).setRegistry r) hsame).trans (setRegistry_self hreg)

/-- In a part of a run a task is refused a registration: it finds out the name of the source, locks
the registry, reads its layers, observes the failure, gives the registry back, and does nothing
else. If no other task does anything either, then all is as before but for that observation. -/
structure Refuses (i : Nat) (r : RegistryId) (n : SourceId) (e : Failure) (name : String)
    (ls : List Layer) (m : Machine Unit) (part : List Moment) (m' : Machine Unit) : Prop where
  failure : e = .duplicateSource name
  history : ∃ isMutable, history i part =
    [⟨.registry r .unlock, ()⟩, ⟨.observe (.registration name) e, ()⟩, ⟨.registry r .layers, ls⟩,
      ⟨.registry r .lock, ()⟩, ⟨.describe n, (name, isMutable)⟩]
  session : (∀ x ∈ part, x.task = i) →
    m'.session = m.session.emit (.observed (.registration name) e)

/-- A registration fails only if it is refused because of the name of the source. -/
theorem carries_refused (hc : m.Carries i (r.register n priority) part (.error e) m') :
    ∃ name ls, m.Refuses i r n e name ls part m' ∧ (∃ l ∈ ls, l.name = name) ∧
      ∃ before after, ∃ m₁ : Machine Unit, part = after ++ before ∧ m.Run before m₁ ∧
        m₁.session.layersOf r = ls := by
  have hc := carries_register_error hc
  obtain ⟨⟨name, isMutable⟩, m₁, p₁, q₁, rfl, hdescribe, hc⟩ := carries_bind hc
  obtain ⟨_, m₂, p₂, q₂, rfl, hlock, hc⟩ := carries_bind hc
  obtain ⟨ls, m₃, p₃, q₃, rfl, hlayers, hc⟩ := carries_bind hc
  split at hc
  · rename_i hany
    obtain ⟨_, m₄, p₄, q₄, rfl, hobserve, hc⟩ := carries_bind hc
    obtain ⟨_, heq, hunlock⟩ := carries_map hc
    cases heq
    obtain ⟨before, after, m₅, m₆, rfl, ht⟩ := carries_act hlayers
    obtain ⟨reg, reg', hreg, hask, -⟩ := exists_registry_take ht.take
    cases hask
    refine ⟨name, reg.layers, ⟨rfl, ⟨isMutable, ?_⟩, fun hall => ?_⟩, by simpa using hany,
      before ++ (p₂ ++ p₁), q₄ ++ p₄ ++ (after ++ [⟨i, .act (.registry r .layers), m₅.session⟩]),
      m₅, by simp, (hdescribe.run.trans hlock.run).trans ht.waits, layersOf_eq hreg⟩
    · have hfirst := hdescribe.history_eq []
      rw [List.append_nil] at hfirst
      simp only [List.append_assoc]
      rw [hunlock.history_eq, hobserve.history_eq, ← List.append_assoc after, hlayers.history_eq,
        hlock.history_eq, hfirst]
      rfl
    · have hdescribed := hdescribe.take_eq fun e he => hall e (by simp [he])
      obtain ⟨-, hsession⟩ := Prod.mk.inj (Option.some.inj hdescribed)
      rw [hsession]
      refine session_eq_of_refused (hlock.take_eq fun e he => hall e (by simp [he]))
        (hlayers.take_eq fun e he => hall e ?_) (hobserve.take_eq fun e he => hall e (by simp [he]))
        (hunlock.take_eq fun e he => hall e (by simp [he]))
      exact List.mem_append_left _ (List.mem_append_left _ (List.mem_append_right _ he))
  · obtain ⟨_, m₄, p₄, q₄, rfl, -, hc⟩ := carries_bind hc
    obtain ⟨_, m₅, p₅, q₅, rfl, -, hc⟩ := carries_bind hc
    obtain ⟨_, m₆, p₆, q₆, rfl, -, hc⟩ := carries_bind hc
    obtain ⟨_, heq, -⟩ := carries_map hc
    cases heq

/-- A layer that is inserted is among those that are put in. -/
theorem Sound.mem_registrations {old : List Layer} {name : String} {isMutable : Bool}
    {changes : List Change} (h : Sound ms m)
    (hc : m.Carries i (r.insertLayer old n name isMutable priority) part changes m') :
    ∃ l ∈ registrations r part, l.source = n ∧ l.name = name ∧ l.isMutable = isMutable ∧
      l.priority = priority := by
  rw [insertLayer_eq] at hc
  obtain ⟨x, m₁, p₁, q₁, rfl, hfirst, hc⟩ := carries_bind hc
  obtain ⟨seq, m₂, p₂, q₂, rfl, hseq, hc⟩ := carries_bind hc
  obtain ⟨_, m₃, p₃, q₃, rfl, hset, -⟩ := carries_bind hc
  obtain ⟨before, after, m₄, m₅, rfl, ht⟩ := carries_act hseq
  obtain ⟨before', after', m₆, m₇, rfl, ht'⟩ := carries_act hset
  have h₄ := (h.run_append hfirst.run).run_append ht.waits
  have h₆ := ((h.run_append hfirst.run).run_append hseq.run).run_append ht'.waits
  obtain ⟨next, hpend⟩ := ht'.exists_next
  have hdrawn := ht.history_eq (p₁ ++ ms)
  rw [← ht'.idle_before.history_append] at hdrawn
  have hpossible := h₄.possible (i := i) ht.take
  rw [ht.idle_before.history_append] at hpossible
  have hput := h₆.putIn_eq hpend ht'.take hdrawn hpossible
  refine ⟨⟨n, name, isMutable, priority, seq, x.1⟩, ?_, rfl, rfl, rfl, rfl⟩
  simp [registrations, hput]

/-- A registration that succeeds puts in a layer for the source, with what the source was found out
to be. -/
theorem Sound.carries_accepted (h : Sound ms m)
    (hc : m.Carries i (r.register n priority) part (.ok ()) m') :
    ∃ l ∈ registrations r part, l.source = n ∧ l.priority = priority ∧
      (⟨.describe n, (l.name, l.isMutable)⟩ : Fact) ∈ history i part := by
  obtain ⟨changes, n₁, changing, notifying, rfl, hc, hnotify⟩ := carries_register hc
  obtain ⟨⟨name, isMutable⟩, m₁, p₁, q₁, rfl, hdescribe, hc⟩ := carries_bind hc
  obtain ⟨_, m₂, p₂, q₂, rfl, hlock, hc⟩ := carries_bind hc
  obtain ⟨old, m₃, p₃, q₃, rfl, hlayers, hc⟩ := carries_bind hc
  split at hc
  · obtain ⟨_, m₄, p₄, q₄, rfl, -, hc⟩ := carries_bind hc
    obtain ⟨_, heq, -⟩ := carries_map hc
    cases heq
  obtain ⟨_, m₄, p₄, q₄, rfl, hbegin, hc⟩ := carries_bind hc
  obtain ⟨_, m₅, p₅, q₅, rfl, hinsert, -⟩ := carries_bind hc
  have h₄ := ((((h.run_append hdescribe.run).run_append hlock.run).run_append
    hlayers.run).run_append hbegin.run)
  obtain ⟨l, hl, rfl, rfl, rfl, rfl⟩ := h₄.mem_registrations hinsert
  refine ⟨l, by simp [hl], rfl, rfl, ?_⟩
  have hfirst := hdescribe.history_eq []
  rw [List.append_nil] at hfirst
  simp only [history_append, hfirst, List.mem_append, List.mem_cons, true_or, or_true]

/-- A registration is refused if the name of the source is taken. -/
theorem run_register_of_mem {s : Session} {reg : Registry} {name : String} {isMutable : Bool}
    (hreg : s.registries[r]? = some reg) (hfree : reg.isLocked = false)
    (hname : s.take (.describe n) = some ((name, isMutable), s))
    (hmem : ∃ l ∈ reg.layers, l.name = name) : s.run (r.register n priority) =
      some (.error (.duplicateSource name),
        s.emit (.observed (.registration name) (.duplicateSource name))) := by
  let s₁ := s.setRegistry r { reg with isLocked := true }
  let s₂ := s₁.emit (.observed (.registration name) (.duplicateSource name))
  have hreg₁ : s₁.registries[r]? = some { reg with isLocked := true } :=
    registries_setRegistry hreg _
  have hlock : s.take (.registry r .lock) = some ((), s₁) := by
    rw [take_registry hreg]
    simp [Registry.take, hfree, s₁]
  have hlayers : s₁.take (.registry r .layers) = some (reg.layers, s₁) := by
    rw [take_registry hreg₁, Registry.take, Option.map_some, setRegistry_self hreg₁]
  have hobserve : s₁.take (.observe (.registration name) (.duplicateSource name)) = some ((), s₂) :=
    rfl
  have hunlock : s₂.take (.registry r .unlock) =
      some ((), s₂.setRegistry r { reg with isLocked := false }) := by
    have hreg₂ : s₂.registries[r]? = some { reg with isLocked := true } := hreg₁
    rw [take_registry hreg₂]
    rfl
  have hany : reg.layers.any (·.name == name) = true := by simpa using hmem
  have hends : Task.Ends (Task.ScriptRuns maxDepth) (r.registration n priority) s
      (.error (.duplicateSource name)) (s₂.setRegistry r { reg with isLocked := false }) := by
    rw [registration]
    refine .bind (Task.ends_act.2 hname) (.bind (Task.ends_act.2 hlock)
      (.bind (Task.ends_act.2 hlayers) ?_))
    rw [if_pos hany]
    exact .bind (Task.ends_act.2 hobserve) (.bind (Task.ends_act.2 hunlock)
      (Task.ends_done.2 ⟨rfl, rfl⟩))
  rw [session_eq_of_refused hlock hlayers hobserve hunlock] at hends
  have hregister : Task.Ends (Task.ScriptRuns maxDepth) (r.register n priority) s
      (.error (.duplicateSource name))
      (s.emit (.observed (.registration name) (.duplicateSource name))) := by
    rw [register_eq]
    exact hends.bind (Task.ends_done.2 ⟨rfl, rfl⟩)
  obtain ⟨_, hruns⟩ := hregister
  exact Task.run_of_runs hruns

/-- The names of the layers that are put in differ. -/
theorem Arranged.nodup_names {accepted : List Layer} (h : Arranged accepted (m.session.layersOf r))
    (hsound : Sound ms m) : (accepted.map (·.name)).Nodup := by
  refine (h.map_perm fun _ => rfl).nodup_iff.1 ?_
  rw [Session.layersOf]
  split
  · exact (hsound.numbered _ (List.mem_of_getElem? ‹_›)).names
  · exact .nil

end Machine

/-- Tasks that run scripts take turns in any order, one action at a time, in a session that begins
without layers. The layers of a registry are at any time what sorting by priority makes of those
that were put in, in the order in which that was done; each was put in for a call, and no two have
one name. A call that succeeds has put in a layer with a new name. A call that fails was made for
a source whose name was there before; it has observed that and has otherwise only locked, read and
unlocked the registry. It does fail if the name is there and the registry is not locked. If all
priorities differ, then the order of the layers, and so what is consulted for a key, is the same
in any other run that has put in the same ones. -/
theorem order_of_registrations {s : Session} {scripts : List Script} {ms : List Moment}
    {m : Machine Unit} (hs : ∀ reg ∈ s.registries, reg.layers = [])
    (hrun : Machine.Run ⟨s, scripts.map Script.task⟩ ms m) (r : RegistryId) :
    ((m.session.layersOf r).map Layer.bare =
      ((registrations r ms).map Layer.bare).mergeSort fun a b => a.priority ≤ b.priority) ∧
    ((registrations r ms).map (·.name)).Nodup ∧
    (∀ l ∈ registrations r ms, ∃ i,
      Machine.HasCalled ⟨s, scripts.map Script.task⟩ ms i ⟨r, l.source, l.priority⟩) ∧
    (∀ i n priority part m', m.Carries i (r.register n priority) part (.ok ()) m' →
      ∃ l ∈ registrations r part, l.source = n ∧ l.priority = priority ∧
        (⟨.describe n, (l.name, l.isMutable)⟩ : Fact) ∈ history i part ∧
        ∀ x ∈ registrations r ms, x.name ≠ l.name) ∧
    (∀ i n priority part e m', m.Carries i (r.register n priority) part (.error e) m' →
      ∃ name ls, m.Refuses i r n e name ls part m' ∧ ∃ before after, part = after ++ before ∧
        ∃ l ∈ registrations r (before ++ ms), l.name = name) ∧
    (∀ n priority reg name isMutable, m.session.registries[r]? = some reg →
      reg.isLocked = false →
      m.session.take (.describe n) = some ((name, isMutable), m.session) →
      (∃ l ∈ registrations r ms, l.name = name) →
      m.session.run (r.register n priority) = some (.error (.duplicateSource name),
        m.session.emit (.observed (.registration name) (.duplicateSource name)))) ∧
    (∀ (s₂ : Session) (scripts₂ : List Script) ms₂ m₂ r₂, (∀ reg ∈ s₂.registries, reg.layers = []) →
      Machine.Run ⟨s₂, scripts₂.map Script.task⟩ ms₂ m₂ →
      ((registrations r ms).map Layer.entry).Perm ((registrations r₂ ms₂).map Layer.entry) →
      ((registrations r ms).map (·.priority)).Nodup →
      (m.session.layersOf r).map Layer.entry = (m₂.session.layersOf r₂).map Layer.entry ∧
      ∀ key, consult key (m.session.layersOf r) = consult key (m₂.session.layersOf r₂)) := by
  have hnumbered : ∀ reg ∈ s.registries, reg.IsNumbered :=
    fun reg hreg => isNumbered_of_layers_eq_nil (hs reg hreg)
  have hsound := sound_run hnumbered hrun
  have horder := arranged_run hs hrun r
  have hnames : ∀ {ms : List Moment} {m : Machine Unit},
      Machine.Run ⟨s, scripts.map Script.task⟩ ms m → ∀ name,
      (∃ l ∈ registrations r ms, l.name = name) ↔ ∃ l ∈ m.session.layersOf r, l.name = name := by
    intro ms m hrun name
    have hperm : ((m.session.layersOf r).map (·.name)).Perm ((registrations r ms).map (·.name)) :=
      (arranged_run hs hrun r).map_perm fun _ => rfl
    simpa using hperm.symm.mem_iff (a := name)
  refine ⟨horder.eq_mergeSort, horder.nodup_names hsound, (accounted_run hnumbered hrun).called r,
    ?_, ?_, ?_, ?_⟩
  · intro i n priority part m' hc
    obtain ⟨l, hl, hsource, hpriority, hdescribe⟩ := hsound.carries_accepted hc
    refine ⟨l, hl, hsource, hpriority, hdescribe, fun x hx heq => ?_⟩
    have hnodup := (arranged_run hs (hrun.trans hc.run) r).nodup_names (hsound.run_append hc.run)
    rw [registrations_append, List.map_append, List.nodup_append] at hnodup
    exact hnodup.2.2 _ (List.mem_map_of_mem hx) _ (List.mem_map_of_mem hl) heq
  · intro i n priority part e m' hc
    obtain ⟨name, ls, hrefuses, hmem, before, after, m₁, hpart, hbefore, rfl⟩ := carries_refused hc
    exact ⟨name, _, hrefuses, before, after, hpart, (hnames (hrun.trans hbefore) name).2 hmem⟩
  · intro n priority reg name isMutable hreg hfree hname hmem
    refine run_register_of_mem hreg hfree hname ?_
    rw [← layersOf_eq hreg]
    exact (hnames hrun name).1 hmem
  · intro s₂ scripts₂ ms₂ m₂ r₂ hs₂ hrun₂ hperm hdiffer
    have hentries := horder.map_entry_eq (arranged_run hs₂ hrun₂ r₂) hperm hdiffer
    refine ⟨hentries, fun key => consult_congr key ?_⟩
    have hnature := congrArg (List.map fun x => (x.1, x.2.1)) hentries
    rwa [List.map_map, List.map_map] at hnature

/-- Two maps, none of them registered. -/
def unregisteredMaps : Session where
  sources := [
    .builtin (.map { name := "a", isMutable := true, values := .ofList [("k", "1")] }),
    .builtin (.map { name := "b", isMutable := true, values := .ofList [("k", "2")] })]
  ids := { sources := .ofList [("a", 0), ("b", 1)] }

/-- A task that registers both maps, the second one in front of the first, and then the first one
again. -/
def registerThrice : List Script :=
  [⟨"x", [.register "a" 0, .register "b" (-1), .register "a" 5]⟩]

/-- Two tasks that register one map each. -/
def registerEach : List Script := [⟨"x", [.register "b" (-1)]⟩, ⟨"y", [.register "a" 0]⟩]

/-- Two maps stand in the same order in whichever order they are registered, and neither is
registered twice. -/
theorem order_of_registrations_of_maps : ∃ ms m part m' ms₁ m₁ part₁ m₁' ms₂ m₂ e name ls,
    Machine.Run ⟨unregisteredMaps, registerThrice.map Script.task⟩ ms m ∧
    m.Carries 0 (RegistryId.register 0 0 0) part (.ok ()) m' ∧
    (∃ l ∈ registrations 0 part, l.source = 0 ∧ l.priority = 0) ∧
    Machine.Run ⟨unregisteredMaps, registerThrice.map Script.task⟩ ms₁ m₁ ∧
    m₁.Carries 0 (RegistryId.register 0 0 5) part₁ (.error e) m₁' ∧
    m₁.Refuses 0 0 0 e name ls part₁ m₁' ∧
    m₁.session.run (RegistryId.register 0 0 5) = some (.error (.duplicateSource "a"),
      m₁.session.emit (.observed (.registration "a") (.duplicateSource "a"))) ∧
    Machine.Run ⟨unregisteredMaps, registerEach.map Script.task⟩ ms₂ m₂ ∧
    (registrations 0 ms₁).map Layer.entry = [("a", 0, 0), ("b", 1, -1)] ∧
    (registrations 0 ms₂).map Layer.entry = [("b", 1, -1), ("a", 0, 0)] ∧
    (m₁.session.layersOf 0).map Layer.entry = [("b", 1, -1), ("a", 0, 0)] ∧
    (m₁.session.layersOf 0).map Layer.entry = (m₂.session.layersOf 0).map Layer.entry ∧
    ∀ key, consult key (m₁.session.layersOf 0) = consult key (m₂.session.layersOf 0) := by
  let registering (priority : Int) (next : Task Unit) : Task Unit :=
    (((RegistryId.register 0 0 priority).bind fun y => .done (.ofExcept (fun _ => .nothing) y)).bind
      fun o => act (.finished "x" "register" o)).bind fun _ => next
  have hempty : ∀ reg ∈ unregisteredMaps.registries, reg.layers = [] := by
    intro reg hreg
    rw [List.mem_singleton.1 hreg]
  obtain ⟨x, y, hx, hy, hx₀, haccepted⟩ : ∃ x y : List Moment × Machine Unit,
      Machine.Run ⟨unregisteredMaps, registerThrice.map Script.task⟩ x.1 x.2 ∧ x.2.Run y.1 y.2 ∧
      x.2.tasks[0]? = some (registering 0
        (Script.task ⟨"x", [.register "b" (-1), .register "a" 5]⟩)) ∧
      (((RegistryId.register 0 0 0).after 0 y.1).bind Task.result?).map (·.toOption) =
        some (some ()) :=
    ⟨_, _, Machine.run_follow [0, 0] .start, Machine.run_follow (List.replicate 11 0) .start, rfl,
      by decide +kernel⟩
  obtain ⟨z, w, hz, hw, hz₀, hrefused, hentries, hpriorities, hfree, hdescribe,
    hlayers⟩ :
      ∃ z w : List Moment × Machine Unit,
      Machine.Run ⟨unregisteredMaps, registerThrice.map Script.task⟩ z.1 z.2 ∧ z.2.Run w.1 w.2 ∧
      z.2.tasks[0]? = some (registering 5 (.done ())) ∧
      (((RegistryId.register 0 0 5).after 0 w.1).bind Task.result?).map (·.toOption) =
        some none ∧
      (registrations 0 z.1).map Layer.entry = [("a", 0, 0), ("b", 1, -1)] ∧
      (registrations 0 z.1).map (·.priority) = [0, -1] ∧
      (z.2.session.registries[0]?).map (·.isLocked) = some false ∧
      z.2.session.take (.describe 0) = some (("a", true), z.2.session) ∧
      (z.2.session.layersOf 0).map Layer.entry = [("b", 1, -1), ("a", 0, 0)] :=
    ⟨_, _, Machine.run_follow (List.replicate 30 0) .start,
      Machine.run_follow (List.replicate 5 0) .start, rfl, by decide +kernel, by decide +kernel,
      by decide +kernel, by decide +kernel, rfl, by decide +kernel⟩
  obtain ⟨v, hv, hentries₂⟩ : ∃ v : List Moment × Machine Unit,
      Machine.Run ⟨unregisteredMaps, registerEach.map Script.task⟩ v.1 v.2 ∧
      (registrations 0 v.1).map Layer.entry = [("b", 1, -1), ("a", 0, 0)] :=
    ⟨_, Machine.run_follow (List.replicate 14 0 ++ List.replicate 13 1) .start, by decide +kernel⟩
  simp only [registering] at hx₀ hz₀
  rw [Program.bind_assoc, Program.bind_assoc] at hx₀ hz₀
  obtain ⟨result, hresult, hok⟩ := Option.map_eq_some_iff.1 haccepted
  obtain ⟨result', hresult', herror⟩ := Option.map_eq_some_iff.1 hrefused
  obtain rfl : result = .ok () := by
    cases result with
    | error e => cases hok
    | ok u => rfl
  obtain ⟨e, rfl⟩ : ∃ e, result' = .error e := by
    cases result' with
    | error e => exact ⟨e, rfl⟩
    | ok u => cases herror
  obtain ⟨reg, hreg, hfree⟩ := Option.map_eq_some_iff.1 hfree
  have hname : ∃ l ∈ registrations 0 z.1, l.name = "a" := by
    have hmem : ("a", 0, 0) ∈ (registrations 0 z.1).map Layer.entry := by
      rw [hentries]
      exact List.mem_cons_self
    obtain ⟨l, hl, heq⟩ := List.mem_map.1 hmem
    exact ⟨l, hl, congrArg Prod.fst heq⟩
  have hregister := hy.carries hx₀ hresult
  have hregister' := hw.carries hz₀ hresult'
  obtain ⟨-, -, -, haccept, -⟩ := order_of_registrations hempty hx 0
  obtain ⟨-, -, -, -, hrefuse, hrun, hother⟩ := order_of_registrations hempty hz 0
  obtain ⟨l, hl, hsource, hpriority, -⟩ := haccept _ _ _ _ _ hregister
  obtain ⟨name, ls, hrefuses, -⟩ := hrefuse _ _ _ _ _ _ hregister'
  obtain ⟨horder, hconsult⟩ := hother unregisteredMaps registerEach v.1 v.2 0 hempty hv
    (by rw [hentries, hentries₂]; exact .swap _ _ _) (by rw [hpriorities]; decide)
  exact ⟨_, _, _, _, _, _, _, _, _, _, e, name, ls, hx, hregister, ⟨l, hl, hsource, hpriority⟩, hz,
    hregister', hrefuses, hrun 0 5 reg "a" true hreg hfree hdescribe hname, hv, hentries, hentries₂,
    hlayers, horder, hconsult⟩

end Strata
