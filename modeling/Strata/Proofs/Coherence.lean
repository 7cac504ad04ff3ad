import Strata.Proofs.Agreement
import Strata.Proofs.Generations
import Strata.Proofs.Groups

/-!
A group is read as of one moment. What is cached may be older than what sources answer, so a group
can mix two states if a source is written to and nobody refreshes (`values_ne_getGroup`). If what the
sources answer for its keys changes only while a refresh is under way that records it, it cannot: a
group that was read before its hundredth attempt gives what all its handles give at one moment
(`values_of_getGroup`).
-/

namespace Strata

open Machine RegistryId Strata.Task

variable {s s' σ : Session} {r : RegistryId} {bs : List Binding} {b : Binding} {key : String}
  {h : History} {i : Nat} {ms part : List Moment} {a : Action} {answer : a.Answer}

/-- What handles give if all their keys are resolved at this moment. -/
def Session.valuesOf (s : Session) (bs : List Binding) : Except Failure (List Value) :=
  bs.mapM fun b => b.orFallback (b.decoded (s.liveResolution b.registry b.key))

/-! ### Reading while nothing changes -/

/-- What a task is answered that reads handles while the layers of a registry, and what their sources
answer for the keys of the handles, are as in a session. -/
def stillness (s : Session) (r : RegistryId) (bs : List Binding) : Conduct where
  lawful := fun _ _ => True
  possible := fun h f => match f with
    | ⟨.registry r' .layers, ls⟩ =>
      r' = r → ls.map Layer.nature = (s.layersOf r).map Layer.nature
    | ⟨.registry r' (.cached key), some reading⟩ =>
      r' = r → key ∈ bs.map (·.key) → reading.resolved = s.answered key (s.layersOf r)
    | ⟨.registry r' (.fill key x _), reading⟩ =>
      r' = r → key ∈ bs.map (·.key) → x = s.answered key (s.layersOf r) → reading.resolved = x
    | ⟨.lookup n key, (x, script)⟩ => script.commands = [] ∧
      (key ∈ bs.map (·.key) → (∃ l ∈ s.layersOf r, l.source = n) →
        x.toOption.join = s.answer n key)
    | ⟨.decode b raw _, x⟩ => x = b.converter.decode raw
    | ⟨.kept n g, some d⟩ => ∀ b ∈ bs, b.number = n → ∀ f ∈ h, ∀ x,
      f.handed? = some (b.registry, g, b.key, x) → d = b.decoded x
    | _ => True
  ready := fun _ => False
  grown := fun _ _ => True

theorem heeds_still {α : Type} {f : a.Answer → Task α} {Q : α → History → Prop}
    (hf : ∀ answer, (stillness s r bs).possible h ⟨a, answer⟩ →
      Heeds (stillness s r bs).discipline (f answer) (⟨a, answer⟩ :: h) Q) :
    Heeds (stillness s r bs).discipline ((act a).bind f) h Q :=
  heeds_act_bind trivial hf

/-- Layers that are consulted give what their sources answer. -/
theorem heeds_consult (hkey : key ∈ bs.map (·.key)) : ∀ (ls : List Layer) (h : History),
    (∀ l ∈ ls, ∃ l' ∈ s.layersOf r, l'.source = l.source) →
    Heeds (stillness s r bs).discipline (consult key ls) h fun x _ => x.1 = s.answered key ls
  | [], _, _ => rfl
  | l :: ls, h, hls => by
    obtain ⟨hl, hls⟩ := List.forall_mem_cons.1 hls
    have hlook : Heeds (stillness s r bs).discipline (lookUp l.source key) h fun x _ =>
        x.toOption.join = s.answer l.source key := by
      refine heeds_still ?_
      rintro ⟨x, script⟩ ⟨hscript, hx⟩
      simp only [run, hscript]
      exact hx hkey hl
    refine hlook.andThen fun x h₁ hx => ?_
    rw [Session.answered_cons, ← hx]
    rcases x with e | _ | value
    · exact heeds_still fun _ _ => (heeds_consult hkey ls _ hls).andThen fun _ _ hy => hy
    · exact heeds_consult hkey ls _ hls
    · rfl

/-- A reading of a key is what the key resolves to, and its generation was handed out with that. -/
theorem heeds_reading (hkey : key ∈ bs.map (·.key)) :
    Heeds (stillness s r bs).discipline (r.read key) h fun reading h' =>
      reading.resolved = s.liveResolution r key ∧ ∀ g, reading.generation = some g →
        ∃ f ∈ h', f.handed? = some (r, g, key, reading.resolved) := by
  rw [RegistryId.read, Session.liveResolution]
  split
  · exact ⟨rfl, fun g hg => by cases hg⟩
  refine heeds_still ?_
  rintro (_ | ⟨x, g⟩) hx
  · refine heeds_still fun epoch _ => heeds_still fun ls hls => ?_
    have hsame := hls rfl
    refine (heeds_consult hkey ls _ fun l => Layer.exists_source hsame.symm).andThen ?_
    rintro ⟨x, isDegraded⟩ h₁ hx
    rw [Session.answered_of_map_eq hsame] at hx
    cases isDegraded with
    | true => exact ⟨hx, fun g hg => by cases hg⟩
    | false =>
      refine heeds_act trivial fun reading hreading => ?_
      refine ⟨(hreading rfl hkey hx).trans hx, fun g hg => ⟨_, List.mem_cons_self, ?_⟩⟩
      obtain ⟨y, _⟩ := reading
      cases hg
      rfl
  · refine ⟨hx rfl hkey, fun g' hg => ⟨_, List.mem_cons_self, ?_⟩⟩
    cases hg
    rfl

/-- A handle gives what is decoded from what its key resolves to. -/
theorem heeds_bindingRead_still (hb : b ∈ bs) (hr : b.registry = r) :
    Heeds (stillness s r bs).discipline b.read h
      fun d _ => d = b.decoded (s.liveResolution b.registry b.key) := by
  subst hr
  refine (heeds_reading (List.mem_map_of_mem hb)).andThen fun reading h₁ ⟨hreading, hhanded⟩ => ?_
  have hdecode : ∀ h', Heeds (stillness s b.registry bs).discipline ((b.decode reading).bind fun d =>
      (b.remember d reading.generation).bind fun _ => .done d) h'
      fun d _ => d = b.decoded (s.liveResolution b.registry b.key) := fun h' => by
    refine (heeds_decode (P := fun _ => True) b reading trivial
      (fun _ _ => heeds_act trivial fun _ hx => ⟨trivial, hx⟩)
      fun _ _ _ _ => heeds_act trivial fun _ _ => trivial).andThen fun d h₂ ⟨_, hd⟩ => ?_
    rw [hreading] at hd
    cases reading.generation with
    | none => exact hd
    | some g => exact heeds_still fun _ _ => hd
  cases hgeneration : reading.generation with
  | none =>
    rw [hgeneration] at hdecode
    exact hdecode h₁
  | some g =>
    rw [hgeneration] at hdecode
    refine heeds_still ?_
    rintro (_ | d) hkept
    · exact hdecode _
    · obtain ⟨f, hf, hfact⟩ := hhanded g hgeneration
      exact (hkept b hb rfl f hf _ hfact).trans (by rw [hreading])

/-- Handles that are read one after the other give what they give at one moment. -/
theorem heeds_getAll : ∀ (bs' : List Binding) (h : History), (∀ b ∈ bs', b ∈ bs ∧ b.registry = r) →
    Heeds (stillness s r bs).discipline (Binding.getAll bs') h fun x _ => x = s.valuesOf bs'
  | [], _, _ => rfl
  | b :: bs', h, hbs => by
    obtain ⟨⟨hb, hr⟩, hbs'⟩ := List.forall_mem_cons.1 hbs
    have hget : Heeds (stillness s r bs).discipline b.get h fun x _ =>
        x = b.orFallback (b.decoded (s.liveResolution b.registry b.key)) :=
      (heeds_bindingRead_still hb hr).andThen fun d _ hd => congrArg b.orFallback hd
    refine hget.andThen fun x h₁ hx => ?_
    rw [Session.valuesOf, List.mapM_cons, ← hx]
    cases x with
    | error e => rfl
    | ok v =>
      refine (heeds_getAll bs' h₁ hbs').andThen fun y _ hy => ?_
      show Except.map (v :: ·) y = (s.valuesOf bs').bind fun vs => .ok (v :: vs)
      rw [hy]
      cases s.valuesOf bs' <;> rfl

/-! ### Moments at which nothing changes -/

/-- In a session the layers of a registry are as in another one, and so is what their sources answer
for the keys of handles, and what is cached of these keys. -/
structure Still (σ : Session) (r : RegistryId) (bs : List Binding) (s : Session) : Prop where
  layers : (s.layersOf r).map Layer.nature = (σ.layersOf r).map Layer.nature
  answers : ∀ key ∈ bs.map (·.key), s.AnswersAs σ r key
  entry : ∀ key ∈ bs.map (·.key), ∀ reg, s.registries[r]? = some reg →
    ∀ e, reg.cache.entries.get? key = some e → e.resolved = σ.answered key (σ.layersOf r)

/-- What a task is answered at such a moment. -/
theorem Still.possible {L : Ledger} {m : Machine Unit} (h : Still σ r bs s) (hs : s.IsPlain)
    (hbooked : Machine.Booked L ms m) (hsession : m.session = s)
    (hbs : ∀ b ∈ bs, L.bound b) (htake : s.take a = some (answer, s')) :
    (stillness σ r bs).possible (history i ms) ⟨a, answer⟩ := by
  cases a with
  | registry r' b =>
    obtain ⟨reg, reg', hreg, hask, -⟩ := Session.exists_registry_take htake
    cases b with
    | layers =>
      cases hask
      rintro rfl
      rw [← Session.layersOf_eq hreg]
      exact h.layers
    | cached key =>
      cases hask
      simp only [Cache.get?]
      cases he : reg.cache.entries.get? key with
      | none => trivial
      | some e =>
        rintro rfl hkey
        exact h.entry key hkey reg hreg e he
    | fill key x n =>
      simp only [Registry.take, Cache.fill] at hask
      split at hask
      · rename_i e he
        cases hask
        rintro rfl hkey hx
        exact (h.entry key hkey reg hreg e he).trans hx.symm
      · split at hask <;> (cases hask; exact fun _ _ _ => rfl)
    | _ => trivial
  | lookup n key =>
    have heq : s.lookup n key = (answer, s') := Option.some.inj htake
    refine ⟨?_, ?_⟩
    · have hscript := @Session.IsPlain.lookup_script s n key hs
      rw [heq] at hscript
      rw [hscript]
      rfl
    · rintro hkey ⟨l, hl, rfl⟩
      rw [← h.answers key hkey l hl, Session.answer, heq]
  | decode b raw g =>
    cases htake
    rfl
  | kept n g =>
    cases htake
    cases hkept : s.kept? n g with
    | none => trivial
    | some d =>
      rintro b hb rfl f hf x hhanded
      have hx := hbooked.handed ⟨i, List.mem_filterMap.2 ⟨f, hf, hhanded⟩⟩
      rw [← hsession] at hkept
      exact hbooked.fits.decoded (hbs b hb) hx hkept
  | _ => trivial

namespace Machine

variable {m m' : Machine Unit}

theorem Quiet.before {first : List Moment} (last : List Moment) (h : Quiet r ms (last ++ first)) :
    Quiet r ms first :=
  ⟨fun after before heq => h.closed (last ++ after) before (by rw [heq, List.append_assoc]),
    fun e he => h.unmarked e (List.mem_append_right _ he)⟩

/-- While a registry is not changed no refresh of it is under way. -/
theorem Sectioned.agrees (h : Sectioned ms m) (hin : InStep r key ms m)
    (hclosed : ∀ j, isChanging r (history j ms) = false) {reg : Registry}
    (hreg : m.session.registries[r]? = some reg) : Agrees m.session r ms key reg := by
  rcases hin with ⟨j, hj⟩ | hf
  · exact absurd ((hclosed j).symm.trans (h.ready j r hj)) Bool.false_ne_true
  · exact hf reg hreg

/-- While a registry is not changed what is cached is what its sources answer. -/
theorem Sectioned.entry (h : Sectioned ms m) (hin : InStep r key ms m)
    (hclosed : ∀ j, isChanging r (history j ms) = false) {reg : Registry}
    (hreg : m.session.registries[r]? = some reg) {e : CacheEntry}
    (he : reg.cache.entries.get? key = some e) :
    e.resolved = m.session.answered key (m.session.layersOf r) := by
  rcases (h.agrees hin hclosed hreg).entry e he with hx | ⟨j, old, ⟨l, before, heq, -⟩, -⟩
  · rw [Session.layersOf_eq hreg]
    exact hx
  · have hopen : isChanging r before = true := h.lawful j [] _ before heq
    have hj := hclosed j
    rw [heq] at hj
    exact absurd (hj.symm.trans hopen) Bool.false_ne_true

/-- While a registry is not changed its layers stay as they are. -/
theorem Quiet.layers (hquiet : Quiet r ms part) (h : Sectioned ms m) (hrun : m.Run part m') :
    (m'.session.layersOf r).map Layer.nature = (m.session.layersOf r).map Layer.nature := by
  induction hrun with
  | start => rfl
  | @step part m₁ m₂ i step hrun hpend hadv ih =>
    have hclosed := hquiet.closed [_] part rfl
    refine Eq.trans ?_ (ih (hquiet.before [_]))
    obtain ⟨s, tasks⟩ := m₁
    rcases advance_cases hpend hadv with ⟨a, answer, next, s', ht, rfl, htake, rfl⟩ |
      ⟨script, next, -, rfl, rfl⟩
    · refine Session.map_layersOf_take (fun _ _ => rfl) (fun new heq => ?_) htake
      subst heq
      have hopen : isChanging r (history i (part ++ ms)) = true :=
        (h.run_append hrun).abides.lawful ht
      exact absurd ((hclosed i).symm.trans hopen) Bool.false_ne_true
    · rfl

/-- While a registry is not changed its sources go on answering the same. -/
theorem Quiet.answers (hquiet : Quiet r ms part) (h : Sectioned ms m) (hrun : m.Run part m')
    (horderly : Orderly r key ms part m'.session) : m'.session.AnswersAs m.session r key := by
  induction hrun with
  | start => exact fun _ _ => rfl
  | @step part m₁ m₂ i step hrun hpend hadv ih =>
    have hclosed := hquiet.closed [_] part rfl
    have hquiet' := hquiet.before [_]
    rcases horderly.1.answers with hsame | ⟨j, hj⟩
    · intro l hl
      obtain ⟨l', hl', hsource⟩ := Layer.exists_source (hquiet'.layers h hrun) hl
      rw [← ih hquiet' horderly.2 l hl, ← hsource]
      exact hsame l' hl'
    · exact absurd ((hclosed j).symm.trans ((h.run_append hrun).ready j r hj)) Bool.false_ne_true

theorem Quiet.still (hquiet : Quiet r ms part) (h : Sectioned ms m) (hrun : m.Run part m')
    (hin : ∀ key ∈ bs.map (·.key), InStep r key ms m)
    (horderly : ∀ key ∈ bs.map (·.key), Orderly r key ms part m'.session) :
    Still m.session r bs m'.session := by
  have hlayers := hquiet.layers h hrun
  have hanswers : ∀ key ∈ bs.map (·.key), m'.session.AnswersAs m.session r key := fun key hkey =>
    hquiet.answers h hrun (horderly key hkey)
  refine ⟨hlayers, hanswers, fun key hkey reg hreg e he => ?_⟩
  have hin' := (hin key hkey).run_append h hrun (horderly key hkey)
  rw [(h.run_append hrun).entry hin' (hquiet.closed [] part rfl) hreg he,
    Session.answered_of_map_eq hlayers]
  exact Session.answered_congr (hanswers key hkey)

/-- Handles that are read while the registry is not changed give what they give at the moment at which
the reading begins. -/
theorem Quiet.getAll {L : Ledger} {result : Except Failure (List Value)}
    (hquiet : Quiet r ms part) (h : Sectioned ms m) (hbooked : Booked L ms m) (hrun : m.Run part m')
    (hin : ∀ key ∈ bs.map (·.key), InStep r key ms m)
    (horderly : ∀ key ∈ bs.map (·.key), Orderly r key ms part m'.session)
    (hplain : ∀ e ∈ part, e.session.IsPlain) (hbs : ∀ b ∈ bs, b.registry = r ∧ L.bound b)
    (hreading : Becomes i (Binding.getAll bs) part (.done result)) :
    result = m.session.valuesOf bs := by
  have hheeds := heeds_getAll (s := m.session) bs (history i ms) fun b hb => ⟨hb, (hbs b hb).1⟩
  have hgoverns : ∀ script : Script, (stillness m.session r bs).discipline.Governs script.task :=
    fun _ _ hready => False.elim hready
  -- at each moment of the reading what is cached and what sources answer is as when it began
  refine hheeds.becomes hgoverns hreading ?_
  rintro after before s a answer s' rfl htake
  obtain ⟨m₂, hfirst, hlast⟩ := hrun.split
  obtain ⟨m₁, hbefore, rfl, -, -⟩ := hfirst.moment
  obtain ⟨L₁, hg, hbooked₁⟩ := hbooked.run_append hbefore
  have hstill := ((hquiet.before after).before [_]).still h hbefore hin fun key hkey =>
    ((horderly key hkey).before hlast).2
  have hs := hplain ⟨i, .act a, m₁.session⟩ (List.mem_append_right _ List.mem_cons_self)
  exact hstill.possible hs hbooked₁ rfl (fun b hb => hg.bound (hbs b hb).2) htake

/-- What can be relied on in a part of a run is in step when the part begins, and in order in it. -/
theorem inStep_of_reliable {s : Session} {scripts : List Script} {earlier : List Moment}
    (hs : ∀ reg ∈ s.registries, reg.IsNumbered ∧ reg.changeSeq % 2 = 0) (hunread : s.IsUnread)
    (hearlier : Machine.Run ⟨s, scripts.map Script.task⟩ earlier m) (hrun : m.Run part m')
    (h : Reliable r key earlier part m'.session) :
    InStep r key earlier m ∧ Orderly r key earlier part m'.session := by
  obtain ⟨first, last, rfl, hclear, horderly⟩ := h
  obtain ⟨m₀, hfirst, hlast⟩ := hearlier.split
  have hin := inStep_of_clearsUp (fun reg hreg => (hs reg hreg).1) hunread.entries hfirst hclear
  exact ⟨hin.run_append (sectioned_run hs hfirst) hlast (horderly.before hrun), horderly.after⟩

end Machine

/-! ### Main statement -/

/-- Tasks that run scripts take turns in any order, one action at a time. A group of handles of one
registry is read by one of them, and for each key of the group the following holds of the run since a
moment before the read begins: what the sources of the registry answer for the key changes only while
a refresh is under way that has yet to evict, refreshes and registrations have recorded what the
sources answer for it, and nothing outdated was cached of it at that moment. If the read returns
before its hundredth attempt, with values or with a failure, then it gives what the handles give if
all their keys are resolved at one moment: when the reading begins that is returned. -/
theorem values_of_getGroup {s : Session} {scripts : List Script} {earlier part : List Moment}
    {m m' : Machine Unit} {i : Nat} {b : Binding} {bs : List Binding}
    {result : Except Failure (List Value)}
    (hs : ∀ reg ∈ s.registries, reg.IsNumbered ∧ reg.changeSeq % 2 = 0) (hunread : s.IsUnread)
    (hearlier : Machine.Run ⟨s, scripts.map Script.task⟩ earlier m)
    (hbs : ∀ b' ∈ b :: bs, b'.registry = b.registry ∧ ∃ h ∈ m.session.handles, h.binding = b')
    (hc : m.Carries i (Binding.getGroup (b :: bs)) part result m')
    (hplain : ∀ e ∈ part, e.session.IsPlain)
    (hreliable : ∀ b' ∈ b :: bs, Reliable b.registry b'.key earlier part m'.session) :
    ∃ turns reads failed opening reading closing,
      part = closing ++ (reading ++ (opening ++ failed)) ∧
      Fails i b.registry (Binding.getAll (b :: bs)) turns reads failed ∧
      turns < Binding.maxAttempts ∧ Becomes i (Binding.getAll (b :: bs)) reading (.done result) ∧
      (turns + 1 < Binding.maxAttempts →
        ∃ m₁, m.Run (opening ++ failed) m₁ ∧ result = m₁.session.valuesOf (b :: bs)) := by
  have hsectioned := sectioned_run hs hearlier
  obtain ⟨L, hL⟩ := booked_run hunread hearlier
  obtain ⟨turns, reads, failed, opening, reading, closing, rfl, hfails, hlt, hreading, hquiet⟩ :=
    hsectioned.getGroup hc
  refine ⟨turns, reads, failed, opening, reading, closing, rfl, hfails, hlt, hreading, fun hturns => ?_⟩
  obtain ⟨m₂, hrun₂, hclosing⟩ := hc.run.split
  obtain ⟨m₁, hrun₁, hrun⟩ := hrun₂.split
  have hsectioned₁ := hsectioned.run_append hrun₁
  obtain ⟨L₁, hg, hL₁⟩ := hL.run_append hrun₁
  have hkeys : ∀ key ∈ (b :: bs).map (·.key),
      InStep b.registry key ((opening ++ failed) ++ earlier) m₁ ∧
      Orderly b.registry key ((opening ++ failed) ++ earlier) reading m₂.session := by
    intro key hkey
    obtain ⟨b', hb', rfl⟩ := List.mem_map.1 hkey
    obtain ⟨hin, horderly⟩ := inStep_of_reliable hs hunread hearlier hc.run (hreliable b' hb')
    have horderly₂ := horderly.before hclosing
    exact ⟨hin.run_append hsectioned hrun₁ (horderly₂.before hrun), horderly₂.after⟩
  have hquiet₁ := hquiet hturns
  rw [← List.append_assoc] at hquiet₁
  refine ⟨m₁, hrun₁, hquiet₁.getAll hsectioned₁ hL₁ hrun (fun key hkey => (hkeys key hkey).1)
    (fun key hkey => (hkeys key hkey).2) (fun e he => hplain e ?_) (fun b' hb' => ?_) hreading⟩
  · exact List.mem_append_right _ (List.mem_append_left _ he)
  · obtain ⟨hr, handle, hhandle, rfl⟩ := hbs b' hb'
    obtain ⟨n, hn⟩ := List.mem_iff_getElem?.1 hhandle
    exact ⟨hr, hg.bound (hL.fits.number hn).2⟩

/-! ### A map that is written to -/

/-- The same value for both of two keys. -/
def bothKeys (value : String) : Table String := .ofList [("a", value), ("b", value)]

/-- A map that has the same value for two keys, and handles on them. -/
def pairedMap : Session := { twoHandles with
  sources := [.builtin (.map { name := "m", isMutable := true, values := bothKeys "1" })]
  ids := { twoHandles.ids with sources := .ofList [("m", 0)] } }

/-- A task that reads both handles, one that refreshes, and one that writes to the map. -/
def readAndWrite : List Script :=
  [⟨"g", [.readGroup ["x", "y"]]⟩, ⟨"f", [.refresh]⟩, ⟨"w", [.deed (.extend "m" (bothKeys "2"))]⟩]

/-- The texts of values. -/
def textsOf (x : Except Failure (List Value)) : Option (List String) :=
  x.toOption.map (·.map Kind.string.converter.encode)

/-- Whether the sources of a registry are in order at a moment is computed if they all have data, no
layer is put in and only one task refreshes. -/
def keepsData (r : RegistryId) (j : Nat) (ms : List Moment) (e : Moment) (s' : Session) : Bool :=
  e.session.sources.all (·.isBuiltin) && s'.sources.all (·.isBuiltin) && !e.step.publishes r &&
    (e.session.layersOf r).all fun l =>
      (isRenewing r (history j ms) || (e.session.contents l.source).isSome &&
        decide (s'.contents l.source = e.session.contents l.source)) &&
      (!e.step.evictsStale r || decide (e.session.contents l.source = some l.recorded))

theorem inOrder_of_keepsData {j : Nat} {e : Moment} (h : keepsData r j ms e s' = true) :
    InOrder r key ms e s' := by
  simp only [keepsData, Bool.and_eq_true, Bool.or_eq_true, List.all_eq_true, Bool.not_eq_true',
    decide_eq_true_eq, Option.isSome_iff_exists] at h
  obtain ⟨⟨⟨hs, hs'⟩, hpublishes⟩, hlayers⟩ := h
  refine ⟨?_, fun view heq l hl => ?_, fun new heq => ?_⟩
  · by_cases hj : isRenewing r (history j ms) = true
    · exact .inr ⟨j, hj⟩
    · refine .inl fun l hl => ?_
      obtain ⟨⟨t, ht⟩, hsame⟩ := (hlayers l hl).1.resolve_left hj
      rw [Session.answer_of_contents hs ht, Session.answer_of_contents hs' (hsame.trans ht)]
  · have hevicts : e.step.evictsStale r = true := by rw [heq]; simp [TaskStep.evictsStale]
    have hrecorded := (hlayers l hl).2.resolve_left (by simp [hevicts])
    exact Session.answer_of_contents hs hrecorded
  · rw [heq] at hpublishes
    simp [TaskStep.publishes] at hpublishes

/-- Whether they are in order in a part of a run is computed. -/
def keepsDataIn (r : RegistryId) (j : Nat) : List Moment → Session → Bool
  | [], _ => true
  | e :: part, s' => keepsData r j part e s' && keepsDataIn r j part e.session

theorem orderly_of_keepsData {j : Nat} : ∀ {part : List Moment} {s' : Session},
    keepsDataIn r j part s' = true → Orderly r key [] part s'
  | [], _, _ => trivial
  | e :: part, s', h => by
    rw [keepsDataIn, Bool.and_eq_true] at h
    refine ⟨inOrder_of_keepsData (j := j) ?_, orderly_of_keepsData h.2⟩
    rw [List.append_nil]
    exact h.1

/-- The map is written to between the readings of the two handles, while a refresh is under way. They
are read again, and give what they give after the refresh. -/
theorem values_of_getGroup_of_map : ∃ earlier part m m' m₁ result failed opening reading closing,
    Machine.Run ⟨pairedMap, readAndWrite.map Script.task⟩ earlier m ∧
    (∀ b ∈ bothBindings, Reliable 0 b.key earlier part m'.session) ∧
    textsOf (m.session.valuesOf bothBindings) = some ["1", "1"] ∧
    m.Carries 0 (Binding.getGroup bothBindings) part result m' ∧
    textsOf result = some ["2", "2"] ∧ part = closing ++ (reading ++ (opening ++ failed)) ∧
    m.Run (opening ++ failed) m₁ ∧ result = m₁.session.valuesOf bothBindings := by
  let start : Machine Unit := ⟨pairedMap, readAndWrite.map Script.task⟩
  let finish (owner name : String) (o : Outcome) : Task Unit := act (.finished owner name o)
  let x := start.follow [] [0, 0]
  let y := x.2.follow [] (List.replicate 10 0 ++ [1, 1, 1, 2, 2] ++ List.replicate 10 1 ++
    List.replicate 20 0)
  have hx : start.Run x.1 x.2 := Machine.run_follow _ .start
  have hy : x.2.Run y.1 y.2 := Machine.run_follow _ .start
  have hx₀ : x.2.tasks[0]? = some ((((Binding.getGroup bothBindings).bind fun y =>
      .done (.ofExcept .values y)).bind (finish "g" "g_get")).bind fun _ => .done ()) := rfl
  rw [Program.bind_assoc, Program.bind_assoc] at hx₀
  have hread : (((Binding.getGroup bothBindings).after 0 y.1).bind Task.result?).map textsOf =
      some (some ["2", "2"]) := by decide +kernel
  obtain ⟨result, hresult, htexts⟩ := Option.map_eq_some_iff.1 hread
  have hcarries := hy.carries hx₀ hresult
  have hregistries : ∀ reg ∈ start.session.registries, reg.IsNumbered ∧ reg.changeSeq % 2 = 0 :=
    registries_twoHandles
  have hunread : start.session.IsUnread := by
    refine ⟨fun reg hreg => ?_, fun n h hn => ?_, ?_⟩
    · rw [List.mem_singleton.1 hreg]
    · match n, hn with
      | 0, hn => cases hn; rfl
      | 1, hn => cases hn; rfl
    · simp [start, pairedMap, twoHandles]
  have hbefore : textsOf (x.2.session.valuesOf bothBindings) = some ["1", "1"] := by decide +kernel
  have hlength : y.1.length + 1 < Binding.maxAttempts := by decide +kernel
  have hplain : ∀ e ∈ y.1, e.session.IsPlain := by
    show ∀ e ∈ y.1, ∀ p ∈ e.session.sources, p.isBuiltin = true
    decide +kernel
  have hkeeps : keepsDataIn 0 1 (y.1 ++ x.1) y.2.session = true := by decide +kernel
  have hhandles : x.2.session.handles.map (·.binding) = bothBindings := rfl
  clear_value x y
  have hbs : ∀ b ∈ bothBindings, b.registry = 0 ∧ ∃ h ∈ x.2.session.handles, h.binding = b := by
    intro b hb
    refine ⟨?_, List.mem_map.1 (hhandles ▸ hb)⟩
    revert b
    simp [bothBindings, twoHandles]
  have hreliable : ∀ b ∈ bothBindings, Reliable 0 b.key x.1 y.1 y.2.session := fun b _ =>
    ⟨[], x.1, (List.append_nil _).symm, .inl (by simp), orderly_of_keepsData hkeeps⟩
  obtain ⟨turns, reads, failed, opening, reading, closing, heq, hfails, -, -, hvalues⟩ :=
    values_of_getGroup hregistries hunread hx hbs hcarries hplain hreliable
  have hturns := hfails.turns_lt ⟨closing ++ (reading ++ opening), by simp [heq]⟩ hlength
  obtain ⟨m₁, hrun, hmoment⟩ := hvalues hturns
  exact ⟨_, _, _, _, m₁, result, failed, opening, reading, closing, hx, hreliable, hbefore, hcarries,
    htexts, heq, hrun, hmoment⟩

/-- A map is registered and handles are bound to its keys. One of them is read, the map is written to,
and then both are read. -/
def writeBetween : Script := ⟨"t", [.make "m" (.map { name := "m", values := bothKeys "1" }) (some 0),
  .deed (.bind "x" "a" .string "" false), .deed (.bind "y" "b" .string "" false),
  .handle "x" .get, .deed (.extend "m" (bothKeys "2")), .readGroup ["x", "y"]]⟩

/-- A run of it up to the moment at which both are about to be read. -/
def writtenBetween : List Moment × Machine Unit :=
  Machine.follow ⟨{}, [writeBetween.task]⟩ [] (List.replicate 34 0)

/-- A map that is written to without a refresh is read as of two moments: the key that was read before
is cached, the other one is not. At no moment of the run the handles give that together. -/
theorem values_ne_getGroup : ∃ earlier part m m' vs turns reads failed rest,
    Machine.Run ⟨{}, [writeBetween.task]⟩ earlier m ∧
    m.session.handles.map (·.binding) = bothBindings ∧
    m.Carries 0 (Binding.getGroup bothBindings) part (.ok vs) m' ∧ part = rest ++ failed ∧
    Fails 0 0 (Binding.getAll bothBindings) turns reads failed ∧ turns + 1 < Binding.maxAttempts ∧
    ∀ s ∈ m'.session :: (part ++ earlier).map (·.session),
      s.IsPlain ∧ s.valuesOf bothBindings ≠ .ok vs := by
  have hx : Machine.Run ⟨{}, [writeBetween.task]⟩ writtenBetween.1 writtenBetween.2 :=
    Machine.run_follow _ .start
  have hhandles : writtenBetween.2.session.handles.map (·.binding) = bothBindings := rfl
  have hx₀ : writtenBetween.2.tasks[0]? = some ((((Binding.getGroup bothBindings).bind fun y =>
      .done (.ofExcept .values y)).bind fun o => act (.finished "t" "g_get" o)).bind
        fun _ => .done ()) := rfl
  rw [Program.bind_assoc, Program.bind_assoc] at hx₀
  let y := writtenBetween.2.follow [] (List.replicate 12 0)
  have hy : writtenBetween.2.Run y.1 y.2 := Machine.run_follow _ .start
  have hread : (((Binding.getGroup bothBindings).after 0 y.1).bind Task.result?).map textsOf =
      some (some ["1", "2"]) := by decide +kernel
  have hlength : y.1.length + 1 < Binding.maxAttempts := by decide +kernel
  have hplain : ∀ s ∈ y.2.session :: (y.1 ++ writtenBetween.1).map (·.session),
      ∀ p ∈ s.sources, p.isBuiltin = true := by decide +kernel
  have hvalues : ∀ s ∈ y.2.session :: (y.1 ++ writtenBetween.1).map (·.session),
      textsOf (s.valuesOf bothBindings) ≠ some ["1", "2"] := by decide +kernel
  clear_value y
  obtain ⟨result, hresult, htexts⟩ := Option.map_eq_some_iff.1 hread
  have hcarries := hy.carries hx₀ hresult
  have hregistries : ∀ reg ∈ ({} : Session).registries, reg.IsNumbered ∧ reg.changeSeq % 2 = 0 := by
    intro reg hreg
    rw [List.mem_singleton.1 hreg]
    exact ⟨Registry.isNumbered_empty, rfl⟩
  obtain ⟨turns, reads, failed, opening, reading, closing, heq, hfails, -⟩ :=
    (@sectioned_run _ [writeBetween] hregistries _ _ hx).getGroup hcarries
  have hturns := hfails.turns_lt ⟨closing ++ (reading ++ opening), by simp [heq]⟩ hlength
  cases result with
  | error e => cases htexts
  | ok vs =>
    refine ⟨_, _, _, _, vs, turns, reads, failed, closing ++ (reading ++ opening), hx, hhandles,
      hcarries, by simpa only [List.append_assoc] using heq, hfails, hturns, fun s hs => ?_⟩
    exact ⟨hplain s hs, fun hsame => hvalues s hs (hsame ▸ htexts)⟩

end Strata
