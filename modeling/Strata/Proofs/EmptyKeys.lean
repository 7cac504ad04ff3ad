import Strata.Proofs.Detection
import Strata.Proofs.Evictions
import Strata.Proofs.Generations

/-!
The empty key. Registries do not resolve it, look it up or cache it, and no handle is on it,
whatever sources say and whatever scripts do in turns (`Machine.Spares.run`). But maps and
environments may have an entry for it, and snapshots, views and subscriptions treat it like any key.
Main statement: `emptyKey_of_run`. So a refresh may tell that a key has changed that never resolves
(`changed_of_emptyWritten`).
-/

namespace Strata

open Machine RegistryId

variable {E : Prop} {a : Action} {s s' : Session} {i : Nat} {r : RegistryId}

/-- The command to look up the empty key at a source is among those of a script. -/
def Script.LooksUpEmpty (script : Script) : Prop := ∃ id, Command.lookup id "" ∈ script.commands

/-- Nothing is cached of the empty key, and no handle is on it. -/
structure Session.LacksEmpty (s : Session) : Prop where
  entries : ∀ reg ∈ s.registries, reg.cache.entries.get? "" = none
  handles : ∀ h ∈ s.handles, h.binding.key ≠ ""

/-- A snapshot that is recorded in a registry has an entry for a key. -/
def Session.Records (s : Session) (r : RegistryId) (key : String) : Prop :=
  ∃ reg, s.registries[r]? = some reg ∧ ∃ l ∈ reg.layers, l.recorded.get? key ≠ none

/-! ### What tasks do about the empty key -/

/-- Nothing is put into a cache for the empty key, and it is looked up at a source only under a
condition. -/
def sparing (E : Prop) : Discipline Unit where
  lawful _ a := (∀ r x n, a ≠ .registry r (.fill "" x n)) ∧ ∀ n, a = .lookup n "" → E
  after _ _ _ := True
  ready _ := True
  grown _ _ := True

theorem passes_sparing : (sparing E).Passes :=
  ⟨fun _ _ => trivial, fun _ _ _ _ => trivial, fun _ _ _ _ _ => trivial⟩

theorem governs_sparing (ha : (sparing E).lawful () a) : (sparing E).Governs (act a) :=
  fun _ _ => ⟨ha, fun _ _ _ => trivial⟩

/-- Actions of a class without look-ups and without entries of caches have nothing to do with the
empty key. -/
theorem governs_of_class {p : Action → Bool}
    (hfill : ∀ r key x n, p (.registry r (.fill key x n)) = false)
    (hlookup : ∀ n key, p (.lookup n key) = false) (ha : p a = true) :
    (sparing E).Governs (act a) := by
  refine governs_sparing ⟨fun r x n heq => ?_, fun n heq => ?_⟩
  · rw [heq, hfill] at ha
    cases ha
  · rw [heq, hlookup] at ha
    cases ha

theorem distant_sparing : Distant fun _ t => (sparing E).Governs t := {
  passes_sparing.sequential with
  distant := fun _ => governs_of_class (fun _ _ _ _ => rfl) fun _ _ => rfl
  run := passes_sparing.run }

theorem governs_ask {b : RegistryAction} (hb : b.keyRead? = none) :
    (sparing E).Governs (ask r b) := by
  refine governs_sparing ⟨fun r' x n heq => ?_, nofun⟩
  cases heq
  cases hb

/-- What is read of a key is looked up and cached for that key, unless it is empty. -/
theorem governs_read (r : RegistryId) (key : String) : (sparing E).Governs (r.read key) := by
  refine distant_sparing.read (fun b hb _ => governs_ask hb) (fun hkey n => ?_) fun hkey b hb => ?_
  · refine governs_sparing ⟨nofun, fun m heq => ?_⟩
    cases heq
    exact absurd rfl hkey
  · refine governs_sparing ⟨fun r' x n heq => ?_, nofun⟩
    cases heq
    exact hkey (Option.some.inj hb).symm

theorem errands_sparing : Errands fun _ _ t => (sparing E).Governs t := by
  have hpassive : ∀ a : Action, a.isPassive = true → (sparing E).Governs (act a) :=
    fun _ => governs_of_class (fun _ _ _ _ => rfl) fun _ _ => rfl
  have hdeliver : ∀ n x, (sparing E).Governs (act (.deliver n x)) :=
    fun n x => governs_sparing ⟨nofun, nofun⟩
  exact
    { sequential := fun _ => passes_sparing.sequential
      passive := fun a ha _ => hpassive a ha
      withBinding := passes_sparing.sequential.withBinding hpassive
      read := governs_read
      bindingRead := fun b _ =>
        passes_sparing.sequential.bindingRead hpassive (governs_read b.registry b.key)
      invalidate := fun r key => governs_ask rfl
      refresh := fun r => distant_sparing.refresh hdeliver fun b hb _ => governs_ask hb
      own := fun _ => governs_of_class (fun _ _ _ _ => rfl) fun _ _ => rfl
      takeSnapshot := distant_sparing.takeSnapshot
      register := fun r => distant_sparing.register hdeliver fun b => governs_ask }

/-- The only command that looks up the empty key at a source is the one that says so. -/
theorem governs_script {script : Script} (h : script.LooksUpEmpty → E) :
    (sparing E).Governs script.task := by
  refine errands_sparing.toCourse.script [] fun c hc => ?_
  refine errands_sparing.task [] c fun id key heq n => distant_sparing.lookUp ?_
  refine governs_sparing ⟨nofun, fun m hm => h ⟨id, ?_⟩⟩
  cases hm
  rwa [← heq]

/-! ### What sessions keep of the empty key -/

theorem Registry.no_entry_take {reg reg' : Registry} {b : RegistryAction} {answer : b.Answer}
    {key : String} (he : reg.cache.entries.get? key = none) (hfill : ∀ x n, b ≠ .fill key x n)
    (htake : reg.take b = some (answer, reg')) : reg'.cache.entries.get? key = none := by
  refine Option.eq_none_iff_forall_ne_some.2 fun e he' => ?_
  have hold : reg.cache.entries.get? key = some e := by
    by_cases hany : ∃ k x n, b = .fill k x n
    · obtain ⟨k, x, n, rfl⟩ := hany
      cases htake
      rcases Cache.get?_fill he' with hold | ⟨rfl, -⟩
      · exact hold
      · exact absurd rfl (hfill x n)
    · push Not at hany
      exact (Registry.cache_take hany htake).2 key e he'
  cases he.symm.trans hold

namespace Session

theorem LacksEmpty.entries_take {answer : a.Answer} (h : s.LacksEmpty)
    (hfill : ∀ r x n, a ≠ .registry r (.fill "" x n)) (htake : s.take a = some (answer, s'))
    {reg' : Registry} (hreg' : reg' ∈ s'.registries) : reg'.cache.entries.get? "" = none := by
  by_cases hany : ∃ r b, a = .registry r b
  · obtain ⟨r, b, rfl⟩ := hany
    obtain ⟨reg, reg₁, hreg, hask, rfl⟩ := exists_registry_take htake
    rcases List.mem_or_eq_of_mem_set hreg' with hold | rfl
    · exact h.entries reg' hold
    · exact Registry.no_entry_take (h.entries reg (List.mem_of_getElem? hreg))
        (fun x n heq => hfill r x n (heq ▸ rfl)) hask
  · push Not at hany
    obtain ⟨r, hr⟩ := List.getElem?_of_mem hreg'
    rcases (sameRegistries_take hany htake).known r reg' hr with ⟨-, rfl⟩ | ⟨reg, l, hreg, rfl⟩
    · rfl
    · exact h.entries reg (List.mem_of_getElem? hreg)

/-- A handle cannot be made on the empty key. -/
theorem bind_empty {kind : Kind} {default : String} {v : Value} (s : Session) (id : String)
    (hdefault : kind.converter.decode default = .ok v) (fallsBack : Bool) :
    s.bind id "" kind default fallsBack = (.failure (.invalidKey ""), s) := by
  simp [Session.bind, hdefault]

theorem LacksEmpty.handles_bind (h : s.LacksEmpty) (id key : String) (kind : Kind)
    (default : String) (fallsBack : Bool) :
    ∀ x ∈ (s.bind id key kind default fallsBack).2.handles, x.binding.key ≠ "" := by
  simp only [Session.bind]
  split
  · exact h.handles
  split
  · exact h.handles
  · rename_i hkey
    refine List.forall_mem_append.2 ⟨h.handles, List.forall_mem_singleton.2 fun heq => ?_⟩
    exact hkey (String.isEmpty_iff.2 heq)

theorem LacksEmpty.handles_take {answer : a.Answer} (h : s.LacksEmpty)
    (htake : s.take a = some (answer, s')) : ∀ x ∈ s'.handles, x.binding.key ≠ "" := by
  cases hon : a.isOnHandles with
  | false =>
    rw [Session.handles_take hon htake]
    exact h.handles
  | true =>
    cases a with
    | keep n g d =>
      cases htake
      intro x hx
      obtain ⟨m, hm⟩ := List.getElem?_of_mem hx
      obtain ⟨x₀, hx₀, hbinding, -⟩ := exists_of_keep hm
      rw [hbinding]
      exact h.handles x₀ (List.mem_of_getElem? hx₀)
    | deed d =>
      cases d with
      | bind id key kind default fallsBack =>
        have hbind := h.handles_bind id key kind default fallsBack
        rwa [show (s.bind id key kind default fallsBack).2 = s' from
          congrArg Prod.snd (Option.some.inj htake)] at hbind
      | _ => cases hon
    | _ => cases hon

theorem LacksEmpty.take {answer : a.Answer} (h : s.LacksEmpty)
    (hfill : ∀ r x n, a ≠ .registry r (.fill "" x n)) (htake : s.take a = some (answer, s')) :
    s'.LacksEmpty :=
  ⟨fun _ => h.entries_take hfill htake, h.handles_take htake⟩

end Session

/-! ### Runs -/

namespace Machine

variable {ms part : List Moment} {m m' : Machine Unit}

/-- Nothing is cached of the empty key, no handle is on it, and tasks look it up at a source only
under a condition. -/
structure Spares (E : Prop) (m : Machine Unit) : Prop where
  session : m.session.LacksEmpty
  tasks : ∀ t ∈ m.tasks, (sparing E).Governs t

theorem Spares.of_scripts {scripts : List Script} (hs : s.LacksEmpty)
    (h : ∀ script ∈ scripts, script.LooksUpEmpty → E) :
    Spares E ⟨s, scripts.map Script.task⟩ := by
  refine ⟨hs, fun t ht => ?_⟩
  obtain ⟨script, hscript, rfl⟩ := List.mem_map.1 ht
  exact governs_script (h script hscript)

/-- What one step does about the empty key. -/
theorem Spares.step {step : TaskStep} (h : Spares E m)
    (hscript : ∀ script, step = .run script → script.LooksUpEmpty → E)
    (hpend : (m.tasks[i]?).bind Task.pending? = some step) (hadv : m.advance i = some m') :
    Spares E m' ∧ ∀ n, step = .act (.lookup n "") → E := by
  obtain ⟨s, tasks⟩ := m
  have hset : ∀ {t : Task Unit}, (sparing E).Governs t → ∀ u ∈ tasks.set i t,
      (sparing E).Governs u := fun ht u hu =>
    (List.mem_or_eq_of_mem_set hu).elim (h.tasks u) fun heq => heq ▸ ht
  rcases advance_cases hpend hadv with ⟨a, answer, next, s', ht, rfl, htake, rfl⟩ |
    ⟨script, next, ht, rfl, rfl⟩
  · obtain ⟨hlawful, hnext⟩ := h.tasks _ (List.mem_of_getElem? ht) () trivial
    refine ⟨⟨h.session.take hlawful.1 htake, hset fun u _ => hnext answer u trivial⟩, ?_⟩
    rintro n ⟨⟩
    exact hlawful.2 n rfl
  · -- The script comes in front of what the task does next.
    refine ⟨⟨h.session, hset fun u hu => ?_⟩, nofun⟩
    have hrest := h.tasks _ (List.mem_of_getElem? ht)
    exact (governs_script (hscript script rfl) u hu).andThen fun _ w _ =>
      (hrest () trivial).2 w trivial

/-- Whatever tasks do, in any order, nothing is cached of the empty key, no handle comes to be on
it, and it is looked up at a source only if a script says so. -/
theorem Spares.run (h : Spares E m) (hrun : m.Run ms m')
    (hscripts : ∀ e ∈ ms, ∀ script, e.step = .run script → script.LooksUpEmpty → E) :
    Spares E m' ∧ ∀ e ∈ ms, ∀ n, e.step = .act (.lookup n "") → E := by
  induction hrun with
  | start => exact ⟨h, fun _ he => absurd he List.not_mem_nil⟩
  | step _ hpend hadv ih =>
    obtain ⟨hspares, hlookups⟩ := ih fun e he => hscripts e (List.mem_cons_of_mem _ he)
    obtain ⟨hspares', hlookup⟩ := hspares.step (hscripts _ List.mem_cons_self) hpend hadv
    exact ⟨hspares', List.forall_mem_cons.2 ⟨hlookup, hlookups⟩⟩

/-! ### Changes -/

/-- The keys that a refresh reports as evicted were cached at some moment of it. -/
theorem exists_cache_of_refresh {report : RefreshReport}
    (hc : m.Carries i r.refresh part report m') : ∃ before m₁ reg view, m.Run before m₁ ∧
      reg ∈ m₁.session.registries ∧ report.invalidated = reg.cache.staleKeys view := by
  obtain ⟨x, _, _, _, rfl, rfl, hc, -⟩ := carries_refresh hc
  obtain ⟨_, m₁, p₁, q₁, rfl, hlock, hc⟩ := carries_bind hc
  obtain ⟨_, m₂, p₂, q₂, rfl, hbegin, hc⟩ := carries_bind hc
  obtain ⟨y, m₃, p₃, q₃, rfl, hrenew, hend⟩ := carries_bind hc
  obtain ⟨ls, n₁, p₄, q₄, rfl, hlayers, hfrom⟩ := carries_bind hrenew
  obtain ⟨taken, n₂, p₅, q₅, rfl, htaken, hfrom⟩ := carries_bind hfrom
  obtain ⟨_, n₃, p₆, q₆, rfl, hrecord, hfrom⟩ := carries_bind hfrom
  obtain ⟨keys, rfl, hevict⟩ := carries_map hfrom
  obtain ⟨waiting, _, n₄, _, -, ht⟩ := carries_act hevict
  obtain ⟨reg, _, hreg, hask, -⟩ := Session.exists_registry_take ht.take
  cases hask
  obtain ⟨_, n₅, _, _, -, _, hend⟩ := carries_bind hend
  obtain ⟨_, rfl, -⟩ := carries_map hend
  exact ⟨_, n₄, reg, _, hlock.run.trans (hbegin.run.trans (hlayers.run.trans (htaken.run.trans
    (hrecord.run.trans ht.waits)))), List.mem_of_getElem? hreg, rfl⟩

/-- A registry that a task acts on is there. -/
theorem Run.exists_registry {before after : List Moment} {b : RegistryAction}
    (hrun : m.Run (after ++ ⟨i, .act (.registry r b), s⟩ :: before) m') :
    ∃ reg, s.registries[r]? = some reg := by
  obtain ⟨m₁, hfirst, -⟩ := hrun.split
  obtain ⟨⟨s₁, tasks⟩, -, rfl, hpend, hadv⟩ := hfirst.moment
  rcases advance_cases hpend hadv with ⟨a, answer, next, s', -, heq, htake, -⟩ |
    ⟨script, next, -, heq, -⟩
  · cases heq
    obtain ⟨reg, -, hreg, -⟩ := Session.exists_registry_take htake
    exact ⟨reg, hreg⟩
  · cases heq

/-- A key that resolves to something through the recorded snapshots is recorded. -/
theorem records_of_resolution {key : String} {reg : Registry} (hreg : s.registries[r]? = some reg)
    (h : s.resolution r key ≠ some none) : s.Records r key := by
  rw [Session.resolution_of_registry hreg, Ne, Option.some.injEq, View.resolve,
    List.findSome?_eq_none_iff, View.recorded, List.forall_mem_map] at h
  push Not at h
  obtain ⟨l, hl, hkey⟩ := h
  exact ⟨reg, hreg, l, hl, fun heq => hkey (by rw [heq]; rfl)⟩

/-- A key is told of only if a snapshot with an entry for it is recorded, before the change or after
it. -/
theorem Announces.records {changes : List Change} {key : String} {x : Option Resolved}
    (h : m.Announces i r changes part m') (hx : (key, x) ∈ changes) :
    ∃ e ∈ part, e.session.Records r key := by
  obtain ⟨m₁, changing, notifying, rfl, hrun, htells, -⟩ := h
  obtain ⟨waiting, within, resting, σ, σ', rfl, -, -, hdifference⟩ := htells
  obtain ⟨hne, -⟩ := (hdifference.mem key x).1 hx
  obtain ⟨reg', hreg'⟩ := hrun.exists_registry
  rw [← List.cons_append, ← List.append_assoc] at hrun
  obtain ⟨reg, hreg⟩ := hrun.exists_registry
  by_cases hnone : σ.resolution r key = some none
  · exact ⟨⟨i, .act (.registry r .unlock), σ'⟩, by simp,
      records_of_resolution hreg' fun heq => hne (hnone.trans heq.symm)⟩
  · exact ⟨⟨i, .act (.registry r .lock), σ⟩, by simp, records_of_resolution hreg hnone⟩

end Machine

/-- Tasks that run scripts take turns in any order, one action at a time, and sources say what they
say. To resolve the empty key takes no action and gives nothing. Nothing is cached of it, no handle
is on it and none can be made, and it is looked up at a source only by a script that has the command
to do so. No refresh evicts it. But a refresh or a registration tells of it like of any key that
resolves differently through the recorded snapshots; it does not as long as no snapshot with an
entry for the empty key is recorded. -/
theorem emptyKey_of_run {scripts : List Script} {ms : List Moment} {m : Machine Unit}
    (hs : s.LacksEmpty) (hnumbered : ∀ reg ∈ s.registries, reg.IsNumbered)
    (hrun : Machine.Run ⟨s, scripts.map Script.task⟩ ms m) :
    (∀ r : RegistryId, r.resolve "" = .done none ∧ r.getText "" = .done none ∧
      r.resolveRequired "" = .done (.error (.invalidKey "")) ∧
      ∀ (α : Type) (c : Converter α), r.get "" c = .done (.ok none)) ∧
    m.session.LacksEmpty ∧
    (∀ id kind default v fallsBack, kind.converter.decode default = .ok v →
      m.session.bind id "" kind default fallsBack = (.failure (.invalidKey ""), m.session)) ∧
    (∀ e ∈ ms, ∀ n, e.step = .act (.lookup n "") → ∃ script : Script,
      (script ∈ scripts ∨ ∃ e' ∈ ms, e'.step = .run script) ∧ script.LooksUpEmpty) ∧
    (∀ i r part report m', m.Carries i (RegistryId.refresh r) part report m' →
      "" ∉ report.invalidated ∧ ∃ changes, report.changed = changes.map (·.1) ∧
        m.Announces i r changes part m' ∧
        ("" ∈ report.changed → ∃ e ∈ part, e.session.Records r "")) ∧
    ∀ i r n priority part m', m.Carries i (RegistryId.register r n priority) part (.ok ()) m' →
      ∃ changes, m.Announces i r changes part m' ∧
        ∀ x, ("", x) ∈ changes → ∃ e ∈ part, e.session.Records r "" := by
  obtain ⟨hspares, -⟩ :=
    (Spares.of_scripts (E := True) hs fun _ _ _ => trivial).run hrun fun _ _ _ _ _ => trivial
  have hsound := sound_run hnumbered hrun
  refine ⟨fun r => ⟨rfl, rfl, rfl, fun _ _ => rfl⟩, hspares.session,
    fun id kind default v fallsBack hv => m.session.bind_empty id hv fallsBack, ?_, ?_, ?_⟩
  · exact ((Spares.of_scripts hs fun script hscript hempty => ⟨script, .inl hscript, hempty⟩).run
      hrun fun e he script hstep hempty => ⟨script, .inr ⟨e, he, hstep⟩, hempty⟩).2
  · intro i r part report m' hc
    obtain ⟨changes, hchanged, hannounces⟩ := hsound.announces_refresh hc
    refine ⟨fun hmem => ?_, changes, hchanged, hannounces, fun hmem => ?_⟩
    · obtain ⟨before, m₁, reg, view, hbefore, hreg, hinvalidated⟩ := exists_cache_of_refresh hc
      rw [hinvalidated] at hmem
      obtain ⟨e, he, -⟩ := Cache.mem_staleKeys.1 hmem
      have hspares' := (hspares.run hbefore fun _ _ _ _ _ => trivial).1
      cases (hspares'.session.entries reg hreg).symm.trans he
    · rw [hchanged] at hmem
      obtain ⟨⟨key, y⟩, hmem, rfl⟩ := List.mem_map.1 hmem
      exact hannounces.records hmem
  · intro i r n priority part m' hc
    obtain ⟨changes, hannounces⟩ := hsound.announces_register hc
    exact ⟨changes, hannounces, fun x hx => hannounces.records hx⟩

/-- A map that is registered with a value of the empty key, a listener of that key, and another
value of it. -/
def emptyWritten : List Command :=
  [.make "m" (.map { name := "m", values := .ofList [("", "0")] }) (some 0),
    .deed (.subscribe "x" "" []), .deed (.put "m" "" "1")]

/-- A registry with a map in which the empty key has another value than is recorded, and a listener
of that key. -/
def emptyRecorded : Session where
  sources := [.builtin (.map { name := "m", isMutable := true, values := .ofList [("", "1")] })]
  registries := [{
    layers := [⟨0, "m", true, 0, 0, .ofList [("", "0")]⟩]
    cache := { epoch := 1 }
    listeners := [("", 0)]
    changeSeq := 2
    nextSeq := 1 }]
  listeners := [.script ⟨"x", []⟩]
  ids := { sources := .ofList [("m", 0)] }

/-- A refresh that finds another value of the empty key. -/
theorem exists_refresh_of_emptyRecorded : ∃ ms m part report m',
    Machine.Run ⟨emptyRecorded, [⟨"y", [.refresh]⟩].map Script.task⟩ ms m ∧
    m.Carries 0 (RegistryId.refresh 0) part report m' ∧ report.changed = [""] ∧
    deliveries part = [(0, some ⟨"1", "m"⟩)] := by
  let start : Machine Unit := ⟨emptyRecorded, [⟨"y", [.refresh]⟩].map Script.task⟩
  let x := start.follow [] [0]
  let y := x.2.follow [] (List.replicate 10 0)
  have hx : start.Run x.1 x.2 := Machine.run_follow _ .start
  have hy : x.2.Run y.1 y.2 := Machine.run_follow _ .start
  have hx₀ : x.2.tasks[0]? = some ((((RegistryId.refresh 0).bind fun report =>
      .done (.report report)).bind fun o => act (.finished "y" "refresh" o)).bind
        fun _ => .done ()) := rfl
  rw [Program.bind_assoc, Program.bind_assoc] at hx₀
  have hrefreshed : ((((RegistryId.refresh 0).after 0 y.1).bind Task.result?).map (·.changed),
      deliveries y.1) = (some [""], [(0, some ⟨"1", "m"⟩)]) := by decide +kernel
  obtain ⟨hreport, hcalls⟩ := Prod.mk.inj hrefreshed
  obtain ⟨report, hreport, hchanged⟩ := Option.map_eq_some_iff.1 hreport
  exact ⟨_, _, _, report, _, hx, hy.carries hx₀ hreport, hchanged, hcalls⟩

/-- The refresh evicts nothing, and tells of the empty key as it is recorded. -/
theorem emptyKey_of_emptyRecorded : ∃ ms m part report m',
    emptyRecorded.LacksEmpty ∧ (∀ reg ∈ emptyRecorded.registries, reg.IsNumbered) ∧
    Machine.Run ⟨emptyRecorded, [⟨"y", [.refresh]⟩].map Script.task⟩ ms m ∧
    m.Carries 0 (RegistryId.refresh 0) part report m' ∧ report.changed = [""] ∧
    m.session.LacksEmpty ∧ "" ∉ report.invalidated ∧
    ∃ e ∈ part, e.session.Records 0 "" := by
  obtain ⟨ms, m, part, report, m', hrun, hrefresh, hchanged, -⟩ := exists_refresh_of_emptyRecorded
  have hempty : emptyRecorded.LacksEmpty := by
    refine ⟨fun reg hreg => ?_, fun h hh => absurd hh List.not_mem_nil⟩
    rw [List.mem_singleton.1 hreg]
    rfl
  have hnumbered : ∀ reg ∈ emptyRecorded.registries, reg.IsNumbered := by
    intro reg hreg
    rw [List.mem_singleton.1 hreg]
    exact ⟨by simp, by simp, by simp⟩
  obtain ⟨-, hlacks, -, -, hrefreshes, -⟩ := emptyKey_of_run hempty hnumbered hrun
  obtain ⟨hkept, changes, -, -, hrecords⟩ := hrefreshes 0 0 part report m' hrefresh
  exact ⟨ms, m, part, report, m', hempty, hnumbered, hrun, hrefresh, hchanged, hlacks, hkept,
    hrecords (by rw [hchanged]; exact List.mem_singleton_self _)⟩

/-- The empty key may be reported to have changed, and its listeners be called with a value,
although it never resolves to anything. -/
theorem changed_of_emptyWritten :
    (({} : Session).perform emptyWritten).map (·.2) = some emptyRecorded ∧
    ∃ ms m part report m',
      Machine.Run ⟨emptyRecorded, [⟨"y", [.refresh]⟩].map Script.task⟩ ms m ∧
      m.Carries 0 (RegistryId.refresh 0) part report m' ∧ "" ∈ report.changed ∧
      (0, some ⟨"1", "m"⟩) ∈ deliveries part ∧ RegistryId.resolve 0 "" = .done none := by
  obtain ⟨ms, m, part, report, m', hrun, hrefresh, hchanged, hcalls⟩ :=
    exists_refresh_of_emptyRecorded
  refine ⟨rfl, ms, m, part, report, m', hrun, hrefresh, ?_, ?_, rfl⟩
  · rw [hchanged]
    exact List.mem_singleton_self _
  · rw [hcalls]
    exact List.mem_singleton_self _

end Strata
