import Strata.Proofs.Disciplines
import Strata.Proofs.Steady

/-!
The change sequence of a registry. Whoever changes a registry adds one to the sequence as the change
begins and as it ends. Layers are published in between, and a refresh does not end its change before
it has evicted what it does not confirm. Main statement: in every run of scripts the sequence is odd
exactly while one task is in the midst of a change, an accepted registration or a refresh
(`sectioned_run`).
-/

namespace Strata

open Machine RegistryId

/-! ### Being in the midst of a change -/

/-- Whether a task is in the midst of a change after a fact. -/
def Fact.changing (r : RegistryId) : Fact → Bool → Bool
  | ⟨.registry r' .beginChange, _⟩, x => decide (r' = r) || x
  | ⟨.registry r' .endChange, _⟩, x => decide (r' ≠ r) && x
  | _, x => x

/-- Whether a task is in the midst of a change of a registry: it has begun one and not ended it. -/
def isChanging (r : RegistryId) : History → Bool
  | [] => false
  | f :: h => f.changing r (isChanging r h)

/-- Whether a task is in the midst of a refresh that has not evicted anything yet, after a fact. Right
before it the registry was locked or not, and the task was in the midst of one or not. -/
def Fact.renewing (r : RegistryId) : Fact → Bool → Bool → Bool
  | ⟨.registry r' .beginChange, _⟩, isLocked, x => if r' = r then isLocked else x
  | ⟨.registry r' (.evictStale _), _⟩, _, x => decide (r' ≠ r) && x
  | _, _, x => x

/-- Whether a task is in the midst of a refresh of a registry that has not evicted anything yet. A
refresh begins its change right after it has locked the registry. -/
def isRenewing (r : RegistryId) : History → Bool
  | [] => false
  | f :: h => f.renewing r (h.head?.any (Fact.isLock r)) (isRenewing r h)

/-- Whether an action begins or ends a change of a registry. -/
def Action.isMark (r : RegistryId) : Action → Bool
  | .registry r' .beginChange | .registry r' .endChange => r' = r
  | _ => false

/-- What comes right before a change of a registry begins: a task that refreshes it has locked it,
and one that registers a source has found that no layer has its name. -/
def Begins (r : RegistryId) (h : History) : Prop :=
  (∃ u before, h = ⟨.registry r .lock, u⟩ :: before) ∨
    ∃ n name isMutable ls u before, h = ⟨.registry r .layers, ls⟩ :: ⟨.registry r .lock, u⟩ ::
      ⟨.describe n, (name, isMutable)⟩ :: before ∧ ∀ l ∈ ls, l.name ≠ name

variable {r r' : RegistryId} {a : Action} {answer : a.Answer} {h h' : History}

@[simp] theorem isChanging_cons {f : Fact} :
    isChanging r (f :: h) = f.changing r (isChanging r h) := rfl

theorem Action.eq_of_isMark (ha : a.isMark r = true) :
    a = .registry r .beginChange ∨ a = .registry r .endChange := by
  cases a with
  | registry r' b =>
    cases b with
    | beginChange =>
      obtain rfl := of_decide_eq_true ha
      exact .inl rfl
    | endChange =>
      obtain rfl := of_decide_eq_true ha
      exact .inr rfl
    | _ => cases ha
  | _ => cases ha

theorem Action.isMark_of_ne (ha : ∀ b, a ≠ .registry r b) : a.isMark r = false :=
  Bool.eq_false_iff.2 fun hmark => (eq_of_isMark hmark).elim (ha _) (ha _)

theorem changing_of_not_isMark (ha : a.isMark r = false) (x : Bool) :
    Fact.changing r ⟨a, answer⟩ x = x := by
  cases a with
  | registry r' b =>
    cases b with
    | beginChange | endChange => simp_all [Action.isMark, Fact.changing]
    | _ => rfl
  | _ => rfl

@[simp] theorem isRenewing_cons {f : Fact} :
    isRenewing r (f :: h) = f.renewing r (h.head?.any (Fact.isLock r)) (isRenewing r h) := rfl

/-- A refresh begins by a mark. -/
theorem isRenewing_of_cons (ha : a.isMark r = false) (hh : isRenewing r (⟨a, answer⟩ :: h) = true) :
    isRenewing r h = true := by
  rw [isRenewing_cons] at hh
  cases a with
  | registry r' b =>
    cases b with
    | beginChange | evictStale => simp_all [Action.isMark, Fact.renewing]
    | _ => exact hh
  | _ => exact hh

theorem isMark_of_isSteady (ha : a.isSteady = true) : a.isMark r = false := by
  cases a with
  | registry r' b =>
    cases b with
    | beginChange | endChange => simp [Action.isSteady] at ha
    | _ => rfl
  | _ => rfl

/-- A task that is in the midst of a change has begun it and has not begun or ended one since. -/
theorem exists_beginChange (hh : isChanging r h = true) : ∃ after u before,
    h = after ++ ⟨.registry r .beginChange, u⟩ :: before ∧
      ∀ f ∈ after, f.action.isMark r = false := by
  induction h with
  | nil => cases hh
  | cons f h ih =>
    obtain ⟨a, answer⟩ := f
    cases hmark : a.isMark r with
    | false =>
      rw [isChanging_cons, changing_of_not_isMark hmark] at hh
      obtain ⟨after, u, before, rfl, hafter⟩ := ih hh
      exact ⟨_ :: after, u, before, rfl, List.forall_mem_cons.2 ⟨hmark, hafter⟩⟩
    | true =>
      rcases Action.eq_of_isMark hmark with rfl | rfl
      · exact ⟨[], answer, h, rfl, fun _ hf => absurd hf List.not_mem_nil⟩
      · simp [Fact.changing] at hh

theorem Begins.hold (hb : Begins r h) : ∃ x, hold r h = some x := by
  rcases hb with ⟨u, before, rfl⟩ | ⟨n, name, isMutable, ls, u, before, rfl, -⟩
  · exact ⟨none, by rw [hold_cons, know_self]; rfl⟩
  · exact ⟨some ls, by rw [hold_cons, know_self, hold_cons, know_self]; rfl⟩

/-- A registry is locked until it is given back. -/
theorem hold_cons_of_ne_unlock (ha : a ≠ .registry r .unlock) (hh : ∃ x, hold r h = some x) :
    ∃ x, hold r (⟨a, answer⟩ :: h) = some x := by
  obtain ⟨x, hx⟩ := hh
  rw [hold_cons, hx]
  cases a with
  | registry r' b =>
    by_cases hr : r' = r
    · subst hr
      rw [know_self]
      cases b with
      | unlock => exact absurd rfl ha
      | _ => exact ⟨_, rfl⟩
    · exact ⟨x, know_of_ne hr _⟩
  | _ => exact ⟨x, rfl⟩

/-! ### Guarded sections -/

/-- A part of a task without an action that begins or ends a change of a registry. -/
def Unmarked (r : RegistryId) (new : History) : Prop := ∀ f ∈ new, f.action.isMark r = false

/-- A part of a task after which it is in the midst of the same changes as before, and of no other
refreshes, and that begins and ends none of those changes. -/
structure Enclosed (h h' : History) : Prop where
  same : ∀ r, isChanging r h' = isChanging r h
  renewing : ∀ r, isRenewing r h' = true → isRenewing r h = true
  exists_append : ∃ new, h' = new ++ h ∧ ∀ r, isChanging r h = true → Unmarked r new

/-- A part of a task that makes one change of a registry: it begins it, ends it and then gives the
registry back. -/
def Guards (r : RegistryId) (h h' : History) : Prop :=
  ∃ opening within, h' = ⟨.registry r .unlock, ()⟩ :: ⟨.registry r .endChange, ()⟩ ::
      (within ++ ⟨.registry r .beginChange, ()⟩ :: (opening ++ h)) ∧
    Begins r (opening ++ h) ∧ Unmarked r opening ∧ Unmarked r within

theorem unmarked_nil : Unmarked r [] := fun _ hf => absurd hf List.not_mem_nil

theorem Unmarked.cons (hh : Unmarked r h) (ha : a.isMark r = false) :
    Unmarked r (⟨a, answer⟩ :: h) :=
  List.forall_mem_cons.2 ⟨ha, hh⟩

theorem Unmarked.append (hh : Unmarked r h) (hh' : Unmarked r h') : Unmarked r (h ++ h') :=
  List.forall_mem_append.2 ⟨hh, hh'⟩

theorem Enclosed.refl (h : History) : Enclosed h h :=
  ⟨fun _ => rfl, fun _ => id, [], rfl, fun _ _ => unmarked_nil⟩

theorem Enclosed.trans {h'' : History} (hg : Enclosed h h') (hg' : Enclosed h' h'') :
    Enclosed h h'' := by
  obtain ⟨new, heq, hnew⟩ := hg.exists_append
  obtain ⟨new', heq', hnew'⟩ := hg'.exists_append
  refine ⟨fun r => (hg'.same r).trans (hg.same r), fun r => hg.renewing r ∘ hg'.renewing r,
    new' ++ new, ?_, fun r hr => ?_⟩
  · rw [heq', heq, List.append_assoc]
  · exact (hnew' r ((hg.same r).trans hr)).append (hnew r hr)

theorem isChanging_append (hh : Unmarked r h) : isChanging r (h ++ h') = isChanging r h' := by
  induction h with
  | nil => rfl
  | cons f h ih =>
    obtain ⟨hf, hh⟩ := List.forall_mem_cons.1 hh
    rw [List.cons_append, isChanging_cons, ← ih hh]
    exact changing_of_not_isMark hf _

theorem isRenewing_of_append (hh : Unmarked r h) (hr : isRenewing r (h ++ h') = true) :
    isRenewing r h' = true := by
  induction h with
  | nil => exact hr
  | cons f h ih =>
    obtain ⟨hf, hh⟩ := List.forall_mem_cons.1 hh
    exact ih hh (isRenewing_of_cons hf hr)

/-- A part that begins and ends no change. -/
theorem enclosed_append (new : History) (hnew : ∀ r, Unmarked r new) : Enclosed h (new ++ h) :=
  ⟨fun r => isChanging_append (hnew r), fun r => isRenewing_of_append (hnew r), new, rfl,
    fun r _ => hnew r⟩

theorem enclosed_cons (ha : ∀ r, a.isMark r = false) : Enclosed h (⟨a, answer⟩ :: h) :=
  enclosed_append [_] fun r => unmarked_nil.cons (ha r)

/-! ### The discipline -/

/-- Changes begin and end while the registry is locked, one after the other, and a registry is not
given back in the midst of a change. Layers are published in the midst of one, and what a refresh
does not confirm is evicted before its change ends. -/
def sections : Conduct where
  lawful := fun h a => match a with
    | .registry r .beginChange => Begins r h ∧ isChanging r h = false
    | .registry r (.setLayers _) => isChanging r h = true
    | .registry r .endChange => isChanging r h = true ∧ isRenewing r h = false
    | .registry r .unlock => isChanging r h = false
    | _ => True
  possible := fun h f => match f with
    | ⟨.registry r .lock, _⟩ => isChanging r h = false
    | _ => True
  ready := fun h => ∀ r, isRenewing r h = true → isChanging r h = true
  grown := Enclosed

theorem passes_sections : sections.discipline.Passes where
  refl := fun h _ => .refl h
  ready := fun _ _ hh hg r hr => (hg.same r).trans (hh r (hg.renewing r hr))
  trans := fun _ _ _ => Enclosed.trans

theorem sections_lawful (ha : a.isSteady = true) : sections.lawful h a := by
  cases a with
  | registry r b =>
    cases b with
    | unlock | beginChange | endChange | setLayers => simp [Action.isSteady] at ha
    | _ => trivial
  | _ => trivial

theorem governs_steady (ha : a.isSteady = true) : sections.discipline.Governs (act a) := fun _ _ =>
  heeds_act (sections_lawful ha) fun _ _ => enclosed_cons fun _ => isMark_of_isSteady ha

theorem steady_sections : Steady fun _ t => sections.discipline.Governs t where
  toSequential := passes_sections.sequential
  act := fun _ ha => governs_steady ha
  run := passes_sections.run

/-- A refresh evicts what it does not confirm, and has done all but ending its change then. -/
theorem heeds_renew (hh : sections.ready h) : Heeds sections.discipline r.renew h fun _ h' =>
    Enclosed h h' ∧ isRenewing r h' = false := by
  rw [renew_eq]
  refine (governs_steady (a := .registry r .layers) rfl).andThen passes_sections hh
    fun ls h₁ hh₁ hg₁ => ?_
  refine (steady_sections.takeSnapshots ls).andThen passes_sections hh₁ fun taken h₂ hh₂ hg₂ => ?_
  refine (steady_sections.record r taken).andThen passes_sections hh₂ fun _ h₃ _ hg₃ => ?_
  refine heeds_act_bind trivial fun stale _ => ⟨?_, by simp [Fact.renewing]⟩
  exact ((hg₁.trans hg₂).trans hg₃).trans (enclosed_cons fun _ => rfl)

/-- A registration publishes layers in the midst of its change. -/
theorem heeds_insertLayer {old : List Layer} {n : SourceId} {name : String} {isMutable : Bool}
    {priority : Int} (hh : sections.ready h) (hopen : isChanging r h = true) :
    Heeds sections.discipline (r.insertLayer old n name isMutable priority) h fun _ h' =>
      Enclosed h h' := by
  rw [insertLayer_eq]
  refine (steady_sections.firstSnapshot n name).andThen passes_sections hh fun x h₁ hh₁ hg₁ => ?_
  refine (governs_steady (a := .registry r .takeSeq) rfl).andThen passes_sections hh₁
    fun seq h₂ hh₂ hg₂ => ?_
  have hg := hg₁.trans hg₂
  refine heeds_act_bind ((hg.same r).trans hopen) fun u _ => ?_
  have hg' : Enclosed h (⟨.registry r (.setLayers _), u⟩ :: h₂) := hg.trans (enclosed_cons fun _ => rfl)
  refine (steady_sections.evictFor r _ _ x.2).andThen passes_sections
    (passes_sections.ready _ _ hh hg') fun _ h₃ _ hg₃ => hg'.trans hg₃

section Section

variable {opening : History} {u u' u'' : Unit}

theorem isChanging_begun (hopening : ∀ r, Unmarked r opening) (r₁ : RegistryId) :
    isChanging r₁ (⟨.registry r .beginChange, u⟩ :: (opening ++ h)) =
      (decide (r = r₁) || isChanging r₁ h) := by
  rw [isChanging_cons, Fact.changing, isChanging_append (hopening r₁)]

theorem isRenewing_of_begun {r₁ : RegistryId} (hopening : ∀ r, Unmarked r opening) (hr : r ≠ r₁)
    (hr₁ : isRenewing r₁ (⟨.registry r .beginChange, u⟩ :: (opening ++ h)) = true) :
    isRenewing r₁ h = true := by
  rw [isRenewing_cons, Fact.renewing, if_neg hr] at hr₁
  exact isRenewing_of_append (hopening r₁) hr₁

/-- What is done in a change, and giving the registry back, leaves other changes alone. -/
theorem enclosed_section (hopening : ∀ r, Unmarked r opening) (hfree : isChanging r h = false)
    (hg : Enclosed (⟨.registry r .beginChange, u⟩ :: (opening ++ h)) h')
    (hdone : isRenewing r h' = false) :
    Enclosed h (⟨.registry r .unlock, u''⟩ :: ⟨.registry r .endChange, u'⟩ :: h') := by
  obtain ⟨within, heq, hwithin⟩ := hg.exists_append
  refine ⟨fun r₁ => ?_, fun r₁ hr₁ => ?_, ⟨.registry r .unlock, u''⟩ :: ⟨.registry r .endChange, u'⟩ ::
    (within ++ ⟨.registry r .beginChange, u⟩ :: opening), by simp [heq], fun r₁ hr₁ => ?_⟩
  · show Fact.changing r₁ ⟨.registry r .endChange, u'⟩ (isChanging r₁ h') = isChanging r₁ h
    rw [Fact.changing, hg.same, isChanging_begun hopening]
    by_cases hr : r = r₁
    · subst hr
      simp [hfree]
    · simp [hr]
  · by_cases hr : r = r₁
    · subst hr
      exact absurd (hdone.symm.trans hr₁) Bool.false_ne_true
    · exact isRenewing_of_begun hopening hr (hg.renewing r₁ hr₁)
  · -- a task that is in the midst of another change does not mark that one
    have hne : decide (r = r₁) = false := decide_eq_false fun hr => by
      rw [← hr, hfree] at hr₁
      cases hr₁
    have hwithin₁ : Unmarked r₁ within :=
      hwithin r₁ (by rw [isChanging_begun hopening, hr₁, Bool.or_true])
    refine .cons (.cons (hwithin₁.append (.cons (hopening r₁) ?_)) ?_) rfl
    · exact hne
    · exact hne

/-- A change that is made by a task that heeds the discipline and that is ready to end it, and after
which the registry is given back. -/
theorem heeds_section {α β : Type} {t : Task α} (g : α → β) (opening : History)
    (hopening : ∀ r, Unmarked r opening) (hbegins : Begins r (opening ++ h))
    (hh : sections.ready h) (hfree : isChanging r h = false)
    (ht : ∀ u h₁, h₁ = ⟨.registry r .beginChange, u⟩ :: (opening ++ h) → sections.ready h₁ →
      isChanging r h₁ = true →
      Heeds sections.discipline t h₁ fun _ h' => Enclosed h₁ h' ∧ isRenewing r h' = false) :
    Heeds sections.discipline ((ask r .beginChange).bind fun _ => t.bind fun a =>
      (ask r .endChange).bind fun _ => (ask r .unlock).bind fun _ => .done (g a)) (opening ++ h)
      fun b h' => (∃ a, b = g a) ∧ Enclosed h h' ∧ Guards r h h' := by
  refine heeds_act_bind ⟨hbegins, (isChanging_append (hopening r)).trans hfree⟩ fun u _ => ?_
  have hopen : isChanging r (⟨.registry r .beginChange, u⟩ :: (opening ++ h)) = true := by
    simp [isChanging_begun hopening]
  have hready : sections.ready (⟨.registry r .beginChange, u⟩ :: (opening ++ h)) := by
    intro r₁ hr₁
    rw [isChanging_begun hopening]
    by_cases hr : r = r₁
    · simp [hr]
    · simp [hh r₁ (isRenewing_of_begun hopening hr hr₁)]
  refine (ht u _ rfl hready hopen).andThen fun a h₂ ⟨hg, hdone⟩ => ?_
  refine heeds_act_bind ⟨(hg.same r).trans hopen, hdone⟩ fun u' _ => ?_
  have hclosed : ∀ u'', Enclosed h (⟨.registry r .unlock, u''⟩ :: ⟨.registry r .endChange, u'⟩ :: h₂) :=
    fun _ => enclosed_section hopening hfree hg hdone
  refine heeds_act_bind (((hclosed ()).same r).trans hfree) fun u'' _ =>
    ⟨⟨a, rfl⟩, hclosed u'', ?_⟩
  obtain ⟨within, rfl, hwithin⟩ := hg.exists_append
  exact ⟨opening, within, rfl, hbegins, hopening r, hwithin r hopen⟩

end Section

/-- A refresh makes one change. -/
theorem heeds_renewal (r : RegistryId) (hh : sections.ready h) :
    Heeds sections.discipline r.renewal h fun _ h' => Enclosed h h' ∧ Guards r h h' :=
  heeds_act_bind trivial fun u hfree =>
    (heeds_section id [⟨.registry r .lock, u⟩] (fun _ => unmarked_nil.cons rfl) (.inl ⟨u, h, rfl⟩) hh
      hfree fun _ _ _ hready _ => heeds_renew hready).mono fun _ _ hpost => hpost.2

/-- A registration makes one change if the source is accepted, and none if it is rejected. -/
theorem heeds_registration (r : RegistryId) (n : SourceId) (priority : Int)
    (hh : sections.ready h) :
    Heeds sections.discipline (r.registration n priority) h fun x h' => Enclosed h h' ∧
      match x with
      | .ok _ => Guards r h h'
      | .error _ => ∃ new, h' = new ++ h ∧ Unmarked r new := by
  refine heeds_act_bind trivial fun ⟨name, isMutable⟩ _ => ?_
  refine heeds_act_bind trivial fun u hfree => heeds_act_bind trivial fun old _ => ?_
  let opening : History :=
    [⟨.registry r .layers, old⟩, ⟨.registry r .lock, u⟩, ⟨.describe n, (name, isMutable)⟩]
  have hopening : ∀ r', Unmarked r' opening := fun _ =>
    ((unmarked_nil.cons rfl).cons rfl).cons rfl
  split
  · refine heeds_act_bind trivial fun u₁ _ => heeds_act_bind hfree fun u₂ _ => ?_
    let new : History := ⟨.registry r .unlock, u₂⟩ ::
      ⟨.observe (.registration name) (.duplicateSource name), u₁⟩ :: opening
    have hnew : ∀ r', Unmarked r' new := fun r' => ((hopening r').cons rfl).cons rfl
    exact ⟨enclosed_append new hnew, new, rfl, hnew r⟩
  · rename_i hnew
    have hnames : ∀ l ∈ old, l.name ≠ name := by simpa using hnew
    refine (heeds_section Except.ok opening hopening
      (.inr ⟨n, name, isMutable, old, u, h, rfl, hnames⟩) hh hfree ?_).mono ?_
    · rintro u' _ rfl hready hopen
      refine (heeds_insertLayer hready hopen).mono fun _ h' hg => ⟨hg, ?_⟩
      -- the layers were read between the lock and the beginning: this is no refresh
      refine Bool.eq_false_iff.2 fun hr => ?_
      simpa [Fact.renewing, opening, Fact.isLock] using hg.renewing r hr
    · rintro _ h' ⟨⟨changes, rfl⟩, henclosed, hguards⟩
      exact ⟨henclosed, hguards⟩

theorem governs_renewal (r : RegistryId) : sections.discipline.Governs r.renewal := fun _ hh =>
  (heeds_renewal r hh).mono fun _ _ hpost => hpost.1

theorem governs_registration (r : RegistryId) (n : SourceId) (priority : Int) :
    sections.discipline.Governs (r.registration n priority) := fun _ hh =>
  (heeds_registration r n priority hh).mono fun _ _ hpost => hpost.1

theorem operations_sections : Operations fun _ _ t => sections.discipline.Governs t := by
  have hrefresh : ∀ r : RegistryId, sections.discipline.Governs r.refresh := fun r => by
    rw [refresh_eq]
    exact steady_sections.bind (governs_renewal r) fun x =>
      steady_sections.bind (steady_sections.notify r x.2) fun _ => steady_sections.done _
  have hkeep : ∀ n g d, sections.discipline.Governs (act (.keep n g d)) := fun n g d _ _ =>
    heeds_act trivial fun _ _ => enclosed_cons fun _ => rfl
  have hpassive : ∀ a : Action, a.isPassive = true → sections.discipline.Governs (act a) := by
    intro a ha
    cases a with
    | keep n g d => exact hkeep n g d
    | registry r b =>
      cases b with
      | changeSeq => exact governs_steady rfl
      | _ => cases ha
    | _ => exact governs_steady rfl
  have hparts : Parts fun _ t => sections.discipline.Governs t := { steady_sections.toSequential with
    passive := hpassive
    read := steady_sections.read
    lookUp := steady_sections.lookUp
    invalidate := fun _ _ => governs_steady rfl
    refresh := hrefresh }
  refine ⟨hparts.walk, fun a ha => ?_, steady_sections.takeSnapshot, fun r n priority => ?_⟩
  · cases a with
    | deed | build | create | addRegistry | use => exact governs_steady rfl
    | _ => cases ha
  · rw [register_eq]
    refine steady_sections.bind (governs_registration r n priority) ?_
    rintro (e | changes)
    · exact steady_sections.done _
    · exact steady_sections.bind (steady_sections.notify r changes) fun _ => steady_sections.done _

/-- All scripts heed the discipline. -/
theorem governs_sections (script : Script) : sections.discipline.Governs script.task :=
  operations_sections.script [] script

/-! ### Runs -/

theorem Registry.changeSeq_take {reg reg' : Registry} {b : RegistryAction} {answer : b.Answer}
    (h : reg.take b = some (answer, reg')) : reg'.changeSeq =
      reg.changeSeq + if (Action.registry r b).isMark r then 1 else 0 := by
  cases b with
  | lock =>
    simp only [take] at h
    split at h <;> cases h
    rfl
  | beginChange | endChange =>
    cases h
    simp [Action.isMark]
  | _ =>
    cases h
    rfl

namespace Session

variable {s s' : Session}

/-- A registry that was not there before is empty, and the action was not on it. -/
theorem eq_empty_of_take {reg : Registry} (htake : s.take a = some (answer, s'))
    (hnone : s.registries[r]? = none) (hreg : s'.registries[r]? = some reg) :
    (∀ b, a ≠ .registry r b) ∧ reg = {} := by
  have ha : ∀ b, a ≠ .registry r b := by
    rintro b rfl
    obtain ⟨reg₁, -, hreg₁, -⟩ := exists_registry_take htake
    rw [hnone] at hreg₁
    cases hreg₁
  refine ⟨ha, ?_⟩
  by_cases hall : ∀ r b, a ≠ .registry r b
  · rcases (sameRegistries_take hall htake).known r reg hreg with ⟨-, rfl⟩ | ⟨reg₁, -, hreg₁, -⟩
    · rfl
    · rw [hnone] at hreg₁
      cases hreg₁
  · push Not at hall
    obtain ⟨r', b, rfl⟩ := hall
    obtain ⟨reg₁, reg₂, -, -, rfl⟩ := exists_registry_take htake
    rw [registries_setRegistry_of_ne fun heq => ha b (by rw [heq]), hnone] at hreg
    cases hreg

/-- The sequence of a registry counts the actions by which a change of it begins or ends. -/
theorem changeSeq_take (r : RegistryId) {reg : Registry} (htake : s.take a = some (answer, s'))
    (hreg : s.registries[r]? = some reg) : ∃ reg', s'.registries[r]? = some reg' ∧
      reg'.changeSeq = reg.changeSeq + if a.isMark r then 1 else 0 := by
  by_cases ha : ∀ r b, a ≠ .registry r b
  · obtain ⟨listeners, hreg'⟩ := (sameRegistries_take ha htake).kept r reg hreg
    exact ⟨_, hreg', by rw [Action.isMark_of_ne (ha r)]; rfl⟩
  push Not at ha
  obtain ⟨r', b, rfl⟩ := ha
  obtain ⟨reg₁, reg₂, hreg₁, hask, rfl⟩ := exists_registry_take htake
  by_cases hr : r = r'
  · subst hr
    obtain rfl := Option.some.inj (hreg.symm.trans hreg₁)
    exact ⟨reg₂, registries_setRegistry hreg reg₂, Registry.changeSeq_take hask⟩
  · have hmark : (Action.registry r' b).isMark r = false :=
      Action.isMark_of_ne fun _ heq => hr (by cases heq; rfl)
    exact ⟨reg, (registries_setRegistry_of_ne hr).trans hreg, by rw [hmark]; rfl⟩

end Session

namespace Machine

/-- The change sequences tell whether a change is under way: a task in the midst of one has the
registry locked. All that tasks have done keeps to the discipline. -/
structure Sectioned (ms : List Moment) (m : Machine Unit) : Prop where
  sound : Sound ms m
  abides : Abides sections ms m
  lawful : ∀ i after f before, history i ms = after ++ f :: before → sections.lawful before f.action
  held : ∀ i r, isChanging r (history i ms) = true → ∃ x, hold r (history i ms) = some x
  odd : ∀ (r : RegistryId) reg, m.session.registries[r]? = some reg →
    (reg.changeSeq % 2 = 1 ↔ ∃ i, isChanging r (history i ms) = true)

namespace Sectioned

variable {ms : List Moment} {s s' : Session} {tasks : List (Task Unit)} {i j : Nat}
  {m : Machine Unit}

/-- A task that is in a refresh that has not evicted anything yet is in the midst of a change. -/
theorem ready (h : Sectioned ms m) (i : Nat) : sections.ready (history i ms) := by
  intro r hr
  have hlaw := h.lawful i
  generalize history i ms = new at hlaw hr
  induction new with
  | nil => cases hr
  | cons f new ih =>
    obtain ⟨a, answer⟩ := f
    have ih := ih fun after f before heq => hlaw (_ :: after) f before (by rw [heq]; rfl)
    cases hmark : a.isMark r with
    | false =>
      rw [isChanging_cons, changing_of_not_isMark hmark]
      exact ih (isRenewing_of_cons hmark hr)
    | true =>
      rcases Action.eq_of_isMark hmark with rfl | rfl
      · simp [Fact.changing]
      · exact absurd ((hlaw [] _ new rfl).2.symm.trans hr) Bool.false_ne_true

/-- At most one task is in the midst of a change of a registry. -/
theorem alone (h : Sectioned ms m) (hi : isChanging r (history i ms) = true)
    (hj : isChanging r (history j ms) = true) : i = j := by
  obtain ⟨x, hx⟩ := h.held i r hi
  obtain ⟨y, hy⟩ := h.held j r hj
  exact h.sound.alone i j r x y hx hy

/-- Only what is possible is answered. -/
theorem possible (h : Sectioned ms ⟨s, tasks⟩) (htake : s.take a = some (answer, s')) :
    sections.possible (history i ms) ⟨a, answer⟩ := by
  cases a with
  | registry r b =>
    cases b with
    | lock =>
      have hfree : hold r (history i ms) = none :=
        h.sound.possible htake
      refine Bool.eq_false_iff.2 fun hi => ?_
      obtain ⟨x, hx⟩ := h.held i r hi
      rw [hfree] at hx
      cases hx
    | _ => trivial
  | _ => trivial

theorem isChanging_act (htake : s.take a = some (answer, s')) :
    isChanging r (history j (⟨i, .act a, s⟩ :: ms)) =
      if i = j then Fact.changing r ⟨a, answer⟩ (isChanging r (history j ms))
      else isChanging r (history j ms) := by
  rw [history_cons htake]
  split <;> rfl

/-- Whoever is in the midst of a change keeps the registry locked. -/
theorem held_act (h : Sectioned ms ⟨s, tasks⟩) (hlaw : sections.lawful (history i ms) a)
    (htake : s.take a = some (answer, s'))
    (hj : isChanging r (history j (⟨i, .act a, s⟩ :: ms)) = true) :
    ∃ x, hold r (history j (⟨i, .act a, s⟩ :: ms)) = some x := by
  rw [isChanging_act htake] at hj
  rw [history_cons htake]
  by_cases hij : i = j
  · subst hij
    rw [if_pos rfl] at hj ⊢
    have hx : ∃ x, hold r (history i ms) = some x := by
      cases hmark : a.isMark r with
      | false =>
        rw [changing_of_not_isMark hmark] at hj
        exact h.held i r hj
      | true =>
        rcases Action.eq_of_isMark hmark with rfl | rfl
        · exact hlaw.1.hold
        · simp [Fact.changing] at hj
    refine hold_cons_of_ne_unlock ?_ hx
    rintro rfl
    have hfree : isChanging r (history i ms) = false := hlaw
    exact absurd (hfree.symm.trans hj) Bool.false_ne_true
  · rw [if_neg hij] at hj ⊢
    exact h.held j r hj

/-- Nobody is in the midst of a change when another one begins. -/
theorem not_exists_of_begins (h : Sectioned ms m) (hbegins : Begins r (history i ms))
    (hfree : isChanging r (history i ms) = false) : ¬ ∃ j, isChanging r (history j ms) = true := by
  rintro ⟨j, hj⟩
  obtain ⟨x, hx⟩ := hbegins.hold
  obtain ⟨y, hy⟩ := h.held j r hj
  obtain rfl := h.sound.alone i j r x y hx hy
  exact absurd (hfree.symm.trans hj) Bool.false_ne_true

/-- A change begins when none is under way, and ends when one is; so the sequence keeps count. -/
theorem odd_act (h : Sectioned ms ⟨s, tasks⟩) (hlaw : sections.lawful (history i ms) a)
    (htake : s.take a = some (answer, s')) {reg' : Registry}
    (hreg' : s'.registries[r]? = some reg') : reg'.changeSeq % 2 = 1 ↔
      ∃ j, isChanging r (history j (⟨i, .act a, s⟩ :: ms)) = true := by
  cases hreg : s.registries[r]? with
  | none =>
    -- nobody has changed a registry that was not there
    obtain ⟨ha, rfl⟩ := Session.eq_empty_of_take htake hreg hreg'
    refine iff_of_false (by simp) ?_
    rintro ⟨j, hj⟩
    rw [isChanging_act htake, changing_of_not_isMark (Action.isMark_of_ne ha), ite_self] at hj
    obtain ⟨x, hx⟩ := h.held j r hj
    obtain ⟨reg, hreg₁, -⟩ := h.sound.held j r x hx
    rw [hreg] at hreg₁
    cases hreg₁
  | some reg =>
    obtain ⟨reg₁, hreg₁, hseq⟩ := Session.changeSeq_take r htake hreg
    obtain rfl := Option.some.inj (hreg₁.symm.trans hreg')
    have hodd := h.odd r reg hreg
    rw [hseq]
    cases hmark : a.isMark r with
    | false =>
      simp only [isChanging_act htake, changing_of_not_isMark hmark, ite_self]
      exact hodd
    | true =>
      rcases Action.eq_of_isMark hmark with rfl | rfl
      · have heven := mt hodd.1 (h.not_exists_of_begins hlaw.1 hlaw.2)
        refine iff_of_true (by rw [if_pos rfl]; omega) ⟨i, ?_⟩
        rw [isChanging_act htake]
        simp [Fact.changing]
      · have hi : isChanging r (history i ms) = true := hlaw.1
        have hold := hodd.2 ⟨i, hi⟩
        refine iff_of_false (by rw [if_pos rfl]; omega) ?_
        rintro ⟨j, hj⟩
        rw [isChanging_act htake] at hj
        by_cases hij : i = j
        · simp [hij, Fact.changing] at hj
        · rw [if_neg hij] at hj
          exact hij (h.alone hi hj)

theorem lawful_act (h : Sectioned ms ⟨s, tasks⟩) (hlaw : sections.lawful (history i ms) a)
    (htake : s.take a = some (answer, s')) {f : Fact} {after before : History}
    (heq : history j (⟨i, .act a, s⟩ :: ms) = after ++ f :: before) :
    sections.lawful before f.action := by
  rw [history_cons htake] at heq
  split at heq
  · rename_i hij
    subst hij
    cases after with
    | nil =>
      cases heq
      exact hlaw
    | cons f' after => exact h.lawful i after f before (List.cons.inj heq).2
  · exact h.lawful j after f before heq

theorem step {m' : Machine Unit} {step : TaskStep} (h : Sectioned ms m)
    (hpend : (m.tasks[i]?).bind Task.pending? = some step) (hadv : m.advance i = some m') :
    Sectioned (⟨i, step, m.session⟩ :: ms) m' := by
  have hsound := h.sound.step hpend hadv
  obtain ⟨s, tasks⟩ := m
  have habides := h.abides.step governs_sections hpend hadv fun _ _ _ _ htake => h.possible htake
  rcases advance_cases hpend hadv with ⟨a, answer, next, s', ht, rfl, htake, rfl⟩ |
    ⟨script, next, ht, rfl, rfl⟩
  · have hlaw := h.abides.lawful ht
    exact ⟨hsound, habides, fun j after f before heq => h.lawful_act hlaw htake heq,
      fun j r hj => h.held_act hlaw htake hj, fun r reg hreg => h.odd_act hlaw htake hreg⟩
  · refine ⟨hsound, habides, ?_, ?_, ?_⟩ <;> simp only [history_cons_run]
    · exact h.lawful
    · exact h.held
    · exact h.odd

theorem run_append {part : List Moment} {m' : Machine Unit} (h : Sectioned ms m)
    (hrun : m.Run part m') : Sectioned (part ++ ms) m' := by
  induction hrun with
  | start => exact h
  | step _ hpend hadv ih => exact ih.step hpend hadv

/-- What is known of the result and the history of a part of a task that heeds the discipline is true
when it has been carried out. -/
theorem carried {α : Type} {t : Task α} {x : α} {part : List Moment} {m' : Machine Unit}
    {Q : α → History → Prop} (h : Sectioned ms m) (hc : m.Carries i t part x m')
    (ht : Heeds sections.discipline t (history i ms) Q) : Q x (history i (part ++ ms)) :=
  ht.carried governs_sections hc
    (hc.run.answered fun hrun htake => (h.run_append hrun).possible htake)

end Sectioned

/-- In every run of scripts the change sequence of a registry is odd exactly while one task is in
the midst of a change of it. -/
theorem sectioned_run {s : Session} {scripts : List Script}
    (hs : ∀ reg ∈ s.registries, reg.IsNumbered ∧ reg.changeSeq % 2 = 0) {ms : List Moment}
    {m : Machine Unit} (h : Machine.Run ⟨s, scripts.map Script.task⟩ ms m) : Sectioned ms m := by
  have hstart : Sectioned [] ⟨s, scripts.map Script.task⟩ := by
    have hnil : ∀ i after f before, history i [] = after ++ f :: before →
        sections.lawful before f.action :=
      fun _ after _ _ heq => by cases after <;> cases heq
    refine ⟨sound_run (fun reg hreg => (hs reg hreg).1) .start, fun i t ht => ?_, hnil,
      fun _ _ hi => (Bool.false_ne_true hi).elim, fun r reg hreg => ?_⟩
    · rw [List.getElem?_map, Option.map_eq_some_iff] at ht
      obtain ⟨script, -, rfl⟩ := ht
      exact (governs_sections script [] fun _ hr => absurd hr Bool.false_ne_true).mono
        fun _ _ _ => trivial
    · have heven := (hs reg (List.mem_of_getElem? hreg)).2
      exact iff_of_false (by omega) fun ⟨_, hi⟩ => Bool.false_ne_true hi
  simpa using hstart.run_append h

end Machine

end Strata
