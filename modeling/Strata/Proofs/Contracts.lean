import Mathlib.Data.List.Nodup
import Strata.Proofs.Changing
import Strata.Proofs.Histories
import Strata.Proofs.Views
import Strata.Proofs.Walks

/-!
What tasks do only after they have done something else. A registry is changed only while it is
locked; the view that a cache is checked with is that of the layers as they are then, with the
snapshots that were taken since the registry was locked; a value is put into the cache only after
the epoch, the layers, and every layer up to one with a value were asked, in that order; and after
layers have been published the next action evicts what they change. Main statement: all scripts
keep to this, whatever they are answered, as long as the answers are possible (`growing_script`).
-/

namespace Strata

open RegistryId

/-! ### Evidence in histories -/

/-- A snapshot was taken since a registry was locked. -/
def Taken (r : RegistryId) (h : History) (l : Layer) (t : Option Snapshot) : Prop :=
  ∃ x script, (⟨.snapshot l.source, (x, script)⟩ : Fact) ∈ since r h ∧ x.toOption = t

/-- The source of a layer was asked for a snapshot since a registry was locked. What it gave is
recorded in the layer. -/
def Snapped (r : RegistryId) (h : History) (l : Layer) : Prop :=
  ∃ x script, (⟨.snapshot l.source, (x, script)⟩ : Fact) ∈ since r h ∧
    ∀ t, x = .ok t → l.recorded = t

/-- The layers up to one that has a value for a key were asked, and none of them has failed. -/
def Consulted (h : History) (key : String) : List Layer → Option Resolved → Prop
  | [], x => x = none
  | l :: ls, x =>
    (∃ value script, (⟨.lookup l.source key, (.ok (some value), script)⟩ : Fact) ∈ h ∧
      x = some ⟨value, l.name⟩) ∨
    (∃ script, (⟨.lookup l.source key, (.ok none, script)⟩ : Fact) ∈ h) ∧ Consulted h key ls x

/-- The epoch was read, then the layers, and then the layers were asked. -/
def HasRead (r : RegistryId) (key : String) (x : Option Resolved) (epoch : Nat) (h : History) :
    Prop :=
  ∃ new ls before, h = new ++ ⟨.registry r .layers, ls⟩ :: ⟨.registry r .epoch, epoch⟩ :: before ∧
    Consulted new key ls x

theorem Consulted.mono {h h' : History} {key : String} {x : Option Resolved}
    (hh : ∀ f ∈ h, f ∈ h') : ∀ {ls : List Layer}, Consulted h key ls x → Consulted h' key ls x
  | [], hx => hx
  | _ :: _, .inl ⟨value, script, hmem, hx⟩ => .inl ⟨value, script, hh _ hmem, hx⟩
  | _ :: _, .inr ⟨⟨script, hmem⟩, hx⟩ => .inr ⟨⟨script, hh _ hmem⟩, hx.mono hh⟩

/-! ### The contract -/

/-- What has to have happened before an action is taken. -/
def Lawful (h : History) : Action → Prop
  | .registry r .unlock => ∃ x, hold r h = some x
  | .registry r (.setLayers new) => ∃ l ls, hold r h = some (some ls) ∧ new = Layer.insert l ls ∧
      (∀ l' ∈ ls, l'.name ≠ l.name ∧ l'.seq < l.seq) ∧ ⟨.registry r .takeSeq, l.seq⟩ ∈ h ∧
      Snapped r h l
  | .registry r (.record seq t) => ∃ l ls, hold r h = some (some ls) ∧ l ∈ ls ∧ l.seq = seq ∧
      l.isMutable = true ∧ Taken r h l (some t)
  | .registry r (.evictStale view) => ∃ ls, hold r h = some (some ls) ∧ view = View.recorded ls ∧
      ∀ l ∈ ls, l.isMutable = true → Snapped r h l
  | .registry r (.fill key x epoch) => HasRead r key x epoch h
  | _ => True

/-- After layers have been published the next action evicts what the new one changes, if it has any
keys. -/
def Due (h : History) (a : Action) : Prop :=
  ∀ r new h', h = ⟨.registry r (.setLayers new), ()⟩ :: h' → ∃ l ls,
    hold r h' = some (some ls) ∧ new = Layer.insert l ls ∧ (l.recorded.keys = [] ∨
      a = .registry r (.evictChanged (l.recorded.keys.map fun k =>
        (k, (View.recorded new).resolve k))))

/-- What can be answered by a registry that only the task changes while it has locked it. -/
def Possible (h : History) : Fact → Prop
  | ⟨.registry r .lock, _⟩ => hold r h = none
  | ⟨.registry r .layers, ls⟩ =>
    (ls.map (·.seq)).Nodup ∧ ∀ ls', hold r h = some (some ls') → ls = ls'
  | ⟨.registry r .takeSeq, seq⟩ => ∀ ls, hold r h = some (some ls) → ∀ l ∈ ls, l.seq < seq
  | _ => True

/-- A task keeps to the contract as long as its answers are possible, and has a history of a certain
kind when it is done. Scripts are taken to let the history grow. -/
def Obeys {α : Type} : Task α → History → (α → History → Prop) → Prop
  | .done a, h, Q => Q a h
  | .step (.act a) next, h, Q => Lawful h a ∧ Due h a ∧ ∀ answer, Possible h ⟨a, answer⟩ →
      Obeys (next answer) (⟨a, answer⟩ :: h) Q
  | .step (.run _) next, h, Q => IsClear h ∧ ∀ h', Grown h h' → Obeys (next ()) h' Q

section Obeys

variable {α β : Type} {h : History} {r : RegistryId}

theorem Obeys.mono {t : Task α} {Q Q' : α → History → Prop} (hQ : ∀ a h, Q a h → Q' a h)
    (ht : Obeys t h Q) : Obeys t h Q' := by
  induction t generalizing h with
  | done a => exact hQ a h ht
  | step step next ih =>
    cases step with
    | act a => exact ⟨ht.1, ht.2.1, fun answer hp => ih answer (ht.2.2 answer hp)⟩
    | run script => exact ⟨ht.1, fun h' hg => ih () (ht.2 h' hg)⟩

theorem Obeys.bind {t : Task α} {f : α → Task β} {Q : β → History → Prop}
    (ht : Obeys t h fun a h' => Obeys (f a) h' Q) : Obeys (t.bind f) h Q := by
  induction t generalizing h with
  | done a => exact ht
  | step step next ih =>
    cases step with
    | act a => exact ⟨ht.1, ht.2.1, fun answer hp => ih answer (ht.2.2 answer hp)⟩
    | run script => exact ⟨ht.1, fun h' hg => ih () (ht.2 h' hg)⟩

/-- A sequence, of whose first part a specification is known. -/
theorem Obeys.andThen {t : Task α} {f : α → Task β} {P : α → History → Prop}
    {Q : β → History → Prop} (ht : Obeys t h P) (hf : ∀ a h', P a h' → Obeys (f a) h' Q) :
    Obeys (t.bind f) h Q :=
  (ht.mono hf).bind

theorem obeys_done {a : α} {Q : α → History → Prop} (hQ : Q a h) : Obeys (.done a) h Q := hQ

theorem obeys_act {a : Action} {Q : a.Answer → History → Prop} (hlaw : Lawful h a)
    (hdue : Due h a) (hQ : ∀ answer, Possible h ⟨a, answer⟩ → Q answer (⟨a, answer⟩ :: h)) :
    Obeys (act a) h Q :=
  ⟨hlaw, hdue, hQ⟩

theorem IsClear.due (hh : IsClear h) (a : Action) : Due h a := by
  intro r new h' heq
  obtain ⟨l, ls, hhold, hnew, hkeys⟩ := hh r new h' heq
  exact ⟨l, ls, hhold, hnew, .inl hkeys⟩

/-- A task lets every history grow. -/
def Growing (t : Task α) : Prop := ∀ h, IsClear h → Obeys t h fun _ h' => Grown h h'

theorem growing_done (a : α) : Growing (.done a : Task α) := fun _ hh => .refl hh

theorem Growing.bind {t : Task α} {f : α → Task β} (ht : Growing t) (hf : ∀ a, Growing (f a)) :
    Growing (t.bind f) := fun h hh =>
  (ht h hh).andThen fun a h' hg => (hf a h' hg.clear).mono fun _ _ hg' => hg.trans hg'

theorem sequential_growing : Sequential fun _ t => Growing t :=
  ⟨growing_done, fun ht hf => ht.bind hf⟩

theorem growing_run (script : Script) : Growing (run script) := by
  intro h hh
  rw [run]
  split
  · exact Grown.refl hh
  · exact ⟨hh, fun h' hg => hg⟩

/-- Actions that change neither the lock nor the layers of a registry. -/
def RegistryAction.keepsLayers : RegistryAction → Bool
  | .lock | .unlock | .setLayers _ | .record .. => false
  | _ => true

/-- Actions that change neither locks nor layers. -/
def Action.keepsLayers : Action → Bool
  | .registry _ a => a.keepsLayers
  | _ => true

theorem grown_cons {a : Action} {answer : a.Answer} (ha : a.keepsLayers = true)
    (hp : Possible h ⟨a, answer⟩) : Grown h (⟨a, answer⟩ :: h) := by
  have hclear : IsClear (⟨a, answer⟩ :: h) :=
    isClear_cons fun r new heq => by simp [heq, Action.keepsLayers, RegistryAction.keepsLayers] at ha
  refine ⟨⟨[_], rfl⟩, hclear, fun r => ?_⟩
  have hlock : Fact.isLock r ⟨a, answer⟩ = false := by
    cases a with
    | registry r' a =>
      cases a with
      | lock => simp [Action.keepsLayers, RegistryAction.keepsLayers] at ha
      | _ => rfl
    | _ => rfl
  refine ⟨fun hx => ?_, fun x hx => ?_, fun x _ f hf => ?_⟩
  · rw [hold_cons, hx]
    cases a with
    | registry r' a =>
      by_cases hr : r' = r
      · subst hr
        rw [know_self]
        cases a with
        | lock => simp [Action.keepsLayers, RegistryAction.keepsLayers] at ha
        | _ => rfl
      · rw [know_of_ne hr]
    | _ => rfl
  · rw [hold_cons, hx]
    cases a with
    | registry r' a =>
      by_cases hr : r' = r
      · subst hr
        rw [know_self]
        cases a with
        | lock | unlock | setLayers | record =>
          simp [Action.keepsLayers, RegistryAction.keepsLayers] at ha
        | layers =>
          refine ⟨some answer, rfl, fun ls hls => ?_⟩
          rw [hp.2 ls (by rw [hx, hls])]
        | _ => exact ⟨x, rfl, fun _ h => h⟩
      · rw [know_of_ne hr]
        exact ⟨x, rfl, fun _ h => h⟩
    | _ => exact ⟨x, rfl, fun _ h => h⟩
  · rw [since_cons_of_not_isLock hlock]
    exact List.mem_cons_of_mem _ hf

/-- Actions for which nothing has to have happened. -/
def Action.isFree : Action → Bool
  | .registry _ (.evictStale _) | .registry _ (.fill ..) => false
  | a => a.keepsLayers

theorem Action.keepsLayers_of_isFree {a : Action} (ha : a.isFree = true) :
    a.keepsLayers = true := by
  cases a with
  | registry r a =>
    cases a <;> first | rfl | simp [isFree, keepsLayers, RegistryAction.keepsLayers] at ha
  | _ => rfl

theorem Action.lawful_of_isFree {a : Action} (ha : a.isFree = true) : Lawful h a := by
  cases a with
  | registry r a =>
    cases a with
    | unlock | setLayers | record | evictStale | fill =>
      simp [isFree, keepsLayers, RegistryAction.keepsLayers] at ha
    | _ => trivial
  | _ => trivial

theorem obeys_free {a : Action} {Q : a.Answer → History → Prop} (ha : a.isFree = true)
    (hh : IsClear h) (hQ : ∀ answer, Possible h ⟨a, answer⟩ → Grown h (⟨a, answer⟩ :: h) →
      Q answer (⟨a, answer⟩ :: h)) : Obeys (act a) h Q :=
  obeys_act (Action.lawful_of_isFree ha) (hh.due a) fun answer hp =>
    hQ answer hp (grown_cons (Action.keepsLayers_of_isFree ha) hp)

theorem growing_act {a : Action} (ha : a.isFree = true) : Growing (act a) := fun _ hh =>
  obeys_free ha hh fun _ _ hg => hg

end Obeys

/-! ### Reading -/

variable {h : History} {r : RegistryId}

/-- A source answers a lookup. -/
theorem obeys_lookUp (n : SourceId) (key : String) (hh : IsClear h) :
    Obeys (lookUp n key) h fun x h' => ∃ new script, h' = new ++ h ∧ Grown h h' ∧
      (⟨.lookup n key, (x, script)⟩ : Fact) ∈ new := by
  refine Obeys.bind (obeys_free rfl hh fun ⟨x, script⟩ _ hg => ?_)
  refine (growing_run script _ hg.clear).andThen fun _ h' hg' => ?_
  obtain ⟨new, rfl⟩ := hg'.exists_append
  exact obeys_done ⟨new ++ [⟨.lookup n key, (x, script)⟩], script, by simp, hg.trans hg', by simp⟩

/-- What consulting layers gives without a failure is what the layers have answered. -/
theorem obeys_consult (key : String) : ∀ (ls : List Layer) {h : History}, IsClear h →
    Obeys (consult key ls) h fun x h' => ∃ new, h' = new ++ h ∧ Grown h h' ∧
      (x.2 = false → Consulted new key ls x.1)
  | [], h, hh => obeys_done ⟨[], rfl, .refl hh, fun _ => rfl⟩
  | l :: ls, h, hh => by
    refine (obeys_lookUp l.source key hh).andThen ?_
    rintro (e | _ | value) h₁ ⟨new, script, rfl, hg, hmem⟩
    · refine Obeys.bind (obeys_free rfl hg.clear fun answer _ hg₁ => ?_)
      refine (obeys_consult key ls hg₁.clear).andThen fun x h₂ ⟨new', hnew', hg₂, _⟩ => ?_
      refine obeys_done ⟨new' ++ ⟨.observe (.lookup l.name key) e, answer⟩ :: new, ?_,
        (hg.trans hg₁).trans hg₂, fun hx => by cases hx⟩
      rw [hnew']
      simp
    · refine (obeys_consult key ls hg.clear).mono fun x h₂ ⟨new', hnew', hg₂, hx⟩ => ?_
      refine ⟨new' ++ new, by rw [hnew', List.append_assoc], hg.trans hg₂, fun hfalse => ?_⟩
      exact .inr ⟨⟨script, List.mem_append_right new' hmem⟩,
        (hx hfalse).mono fun _ hf => List.mem_append_left new hf⟩
    · exact obeys_done ⟨new, rfl, hg, fun _ => .inl ⟨value, script, hmem, rfl⟩⟩

theorem growing_read (r : RegistryId) (key : String) : Growing (r.read key) := by
  intro h hh
  rw [RegistryId.read]
  split
  · exact obeys_done (.refl hh)
  · refine Obeys.bind (obeys_free rfl hh fun answer _ hg => ?_)
    cases answer with
    | some reading => exact obeys_done hg
    | none =>
      refine Obeys.bind (obeys_free rfl hg.clear fun epoch _ hg₁ => ?_)
      refine Obeys.bind (obeys_free rfl hg₁.clear fun ls _ hg₂ => ?_)
      refine (obeys_consult key ls hg₂.clear).andThen ?_
      rintro ⟨x, isDegraded⟩ h₃ ⟨new, rfl, hg₃, hx⟩
      have hgrown := ((hg.trans hg₁).trans hg₂).trans hg₃
      cases isDegraded with
      | true => exact obeys_done hgrown
      | false =>
        refine obeys_act ⟨new, ls, _, rfl, hx rfl⟩ (hg₃.clear.due _) fun answer hp => ?_
        exact hgrown.trans (grown_cons rfl hp)

/-! ### Taking snapshots -/

theorem Taken.kept {h' : History} {l : Layer} {t : Option Snapshot} {x : Option (List Layer)}
    (ht : Taken r h l t) (hheld : hold r h = some x) (hk : Kept r h h') : Taken r h' l t := by
  obtain ⟨y, script, hmem, hy⟩ := ht
  exact ⟨y, script, hk.since x hheld _ hmem, hy⟩

theorem obeys_takeSnapshot {l : Layer} {x : Option (List Layer)} (hh : IsClear h)
    (hheld : hold r h = some x) : Obeys (takeSnapshot l.source) h fun t h' =>
      Grown h h' ∧ Taken r h' l t.toOption := by
  refine Obeys.bind (obeys_free rfl hh fun ⟨t, script⟩ _ hg => ?_)
  refine (growing_run script _ hg.clear).andThen fun _ h' hg' => ?_
  have ht : Taken r (⟨.snapshot l.source, (t, script)⟩ :: h) l t.toOption :=
    ⟨t, script, by rw [since_cons_of_not_isLock rfl]; exact List.mem_cons_self, rfl⟩
  obtain ⟨y, hy, -⟩ := (hg.kept r).held x hheld
  exact obeys_done ⟨hg.trans hg', ht.kept hy (hg'.kept r)⟩

theorem obeys_nextSnapshot {l : Layer} {x : Option (List Layer)} (hh : IsClear h)
    (hheld : hold r h = some x) : Obeys (nextSnapshot l) h fun t h' =>
      Grown h h' ∧ Taken r h' l t := by
  refine (obeys_takeSnapshot hh hheld).andThen ?_
  rintro (e | t) h₁ ⟨hg, ht⟩
  · refine Obeys.bind (obeys_free rfl hg.clear fun _ _ hg₁ => ?_)
    obtain ⟨y, hy, -⟩ := (hg.kept r).held x hheld
    exact obeys_done ⟨hg.trans hg₁, ht.kept hy (hg₁.kept r)⟩
  · exact obeys_done ⟨hg, ht⟩

theorem obeys_takeSnapshots : ∀ (ls : List Layer) {h : History} {x : Option (List Layer)},
    IsClear h → hold r h = some x → Obeys (takeSnapshots ls) h fun taken h' =>
      Grown h h' ∧ taken.map (·.1) = ls.filter (·.isMutable) ∧
        ∀ t ∈ taken, Taken r h' t.1 t.2
  | [], _, _, hh, _ => obeys_done ⟨.refl hh, rfl, fun _ ht => absurd ht List.not_mem_nil⟩
  | l :: ls, h, x, hh, hheld => by
    rw [takeSnapshots_cons]
    by_cases hl : l.isMutable = true
    · rw [if_pos hl]
      refine (obeys_nextSnapshot hh hheld).andThen fun t h₁ ⟨hg, ht⟩ => ?_
      obtain ⟨y, hy, -⟩ := (hg.kept r).held x hheld
      refine (obeys_takeSnapshots ls hg.clear hy).andThen fun taken h₂ ⟨hg₁, hmap, hts⟩ => ?_
      refine obeys_done ⟨hg.trans hg₁, by simp [hl, hmap], fun t' ht' => ?_⟩
      rcases List.mem_cons.1 ht' with rfl | ht'
      · exact ht.kept hy (hg₁.kept r)
      · exact hts t' ht'
    · rw [if_neg hl]
      refine (obeys_takeSnapshots ls hh hheld).mono fun taken h' ⟨hg, hmap, hts⟩ => ?_
      exact ⟨hg, by simp [hl, hmap], hts⟩

/-! ### Refresh -/

/-- The shape of a history within an operation on a registry: other registries are left alone, and
the registry is still locked. -/
structure Within (r : RegistryId) (h h' : History) : Prop where
  but : GrownBut r h h'
  clear : IsClear h'
  held : ∃ x, hold r h' = some x

theorem Within.trans {h' h'' : History} (hw : Within r h h') (hw' : Within r h' h'') :
    Within r h h'' :=
  ⟨hw.but.trans hw'.but, hw'.clear, hw'.held⟩

theorem Grown.within {h' : History} {x : Option (List Layer)} (hg : Grown h h')
    (hheld : hold r h = some x) : Within r h h' := by
  obtain ⟨y, hy, -⟩ := (hg.kept r).held x hheld
  exact ⟨hg.but, hg.clear, y, hy⟩

theorem obeys_record : ∀ (taken : List (Layer × Option Snapshot)) {h : History} {ls : List Layer},
    IsClear h → hold r h = some (some ls) →
    (∀ t ∈ taken, (∃ l ∈ ls, l.seq = t.1.seq ∧ l.source = t.1.source ∧ l.isMutable = true) ∧
      Taken r h t.1 t.2) →
    Obeys (r.record taken) h fun _ h' =>
      GrownBut r h h' ∧ IsClear h' ∧ hold r h' = some (some (recordAll taken ls)) ∧
        ∀ f ∈ since r h, f ∈ since r h'
  | [], h, ls, hh, hheld, _ => obeys_done ⟨(Grown.refl hh).but, hh, hheld, fun _ hf => hf⟩
  | (_, none) :: taken, _, _, hh, hheld, ht =>
    obeys_record taken hh hheld fun t hmem => ht t (List.mem_cons_of_mem _ hmem)
  | (l, some t) :: taken, h, ls, hh, hheld, ht => by
    obtain ⟨⟨l₁, hl₁, hseq, hsource, hmutable⟩, x, script, hfact, hx⟩ := ht _ List.mem_cons_self
    have hlaw : Lawful h (.registry r (.record l.seq t)) :=
      ⟨l₁, ls, hheld, hl₁, hseq, hmutable, x, script, by rw [hsource]; exact hfact, hx⟩
    refine Obeys.bind (obeys_act hlaw (hh.due _) fun answer _ => ?_)
    have hclear : IsClear (⟨.registry r (.record l.seq t), answer⟩ :: h) :=
      isClear_cons fun _ _ heq => by cases heq
    have hsince : ∀ f ∈ since r h, f ∈ since r (⟨.registry r (.record l.seq t), answer⟩ :: h) := by
      intro f hf
      rw [since_cons_of_not_isLock rfl]
      exact List.mem_cons_of_mem _ hf
    have hheld₁ : hold r (⟨.registry r (.record l.seq t), answer⟩ :: h) =
        some (some (Layer.record l.seq t ls)) := by
      rw [hold_cons, know_self, hheld]
      rfl
    refine (obeys_record taken hclear hheld₁ ?_).mono ?_
    · intro t' ht'
      obtain ⟨⟨l₂, hl₂, hnature⟩, y, script', hfact', hy⟩ := ht t' (List.mem_cons_of_mem _ ht')
      refine ⟨⟨_, List.mem_map_of_mem hl₂, ?_⟩, y, script', hsince _ hfact', hy⟩
      split
      · exact hnature
      · exact hnature
    · rintro _ h' ⟨hbut, hclear', hheld', hsince'⟩
      exact ⟨grownBut_registry.trans hbut, hclear', hheld', fun f hf => hsince' f (hsince f hf)⟩

/-- The snapshots that were taken are recorded. -/
theorem snapped_recordAll {taken : List (Layer × Option Snapshot)} {ls : List Layer}
    (hmap : taken.map (·.1) = ls.filter (·.isMutable)) (hseqs : (ls.map (·.seq)).Nodup)
    (ht : ∀ t ∈ taken, Taken r h t.1 t.2) :
    ∀ l ∈ recordAll taken ls, l.isMutable = true → Snapped r h l := by
  intro l' hl' hm
  obtain ⟨l, hl, rfl⟩ := mem_recordAll.1 hl'
  rw [updated_isMutable] at hm
  have hmem : l ∈ taken.map (·.1) := by
    rw [hmap]
    exact List.mem_filter.2 ⟨hl, hm⟩
  obtain ⟨⟨l, t⟩, htaken, rfl⟩ := List.mem_map.1 hmem
  obtain ⟨x, script, hfact, hx⟩ := ht _ htaken
  refine ⟨x, script, by rw [updated_source]; exact hfact, fun t' ht' => ?_⟩
  rw [ht'] at hx
  obtain rfl : some t' = t := hx
  exact recorded_updated htaken (nodup_seq_taken hmap hseqs)

/-- The snapshots that are taken of layers are recorded, and what is told of them is what they
change. -/
theorem obeys_renewFrom {ls : List Layer} (hh : IsClear h) (hheld : hold r h = some (some ls))
    (hseqs : (ls.map (·.seq)).Nodup) : Obeys (r.renewFrom ls) h fun x h' =>
      Within r h h' ∧ ∃ taken, taken.map (·.1) = ls.filter (·.isMutable) ∧
        hold r h' = some (some (recordAll taken ls)) ∧ x.1.changed = x.2.map (·.1) ∧
        x.2 = changesBetween (keysTaken taken) (View.recorded ls)
          (View.recorded (recordAll taken ls)) := by
  refine (obeys_takeSnapshots ls hh hheld).andThen fun taken h₂ ⟨hg₂, hmap, ht⟩ => ?_
  obtain ⟨y, hheld₂, hy⟩ := (hg₂.kept r).held _ hheld
  obtain rfl := hy ls rfl
  have htaken : ∀ t ∈ taken,
      (∃ l ∈ ls, l.seq = t.1.seq ∧ l.source = t.1.source ∧ l.isMutable = true) ∧
      Taken r h₂ t.1 t.2 := by
    intro t hmem
    have hl : t.1 ∈ ls.filter (·.isMutable) := by
      rw [← hmap]
      exact List.mem_map_of_mem hmem
    obtain ⟨hl, hmutable⟩ := List.mem_filter.1 hl
    exact ⟨⟨t.1, hl, rfl, rfl, hmutable⟩, ht t hmem⟩
  refine (obeys_record taken hg₂.clear hheld₂ htaken).andThen
    fun _ h₃ ⟨hbut, hclear, hheld₃, hsince⟩ => ?_
  have hsnapped := snapped_recordAll (r := r) (h := h₃) hmap hseqs fun t htaken => by
    obtain ⟨z, script, hmem, hz⟩ := ht t htaken
    exact ⟨z, script, hsince _ hmem, hz⟩
  refine Obeys.bind (obeys_act ⟨_, hheld₃, rfl, hsnapped⟩ (hclear.due _) fun stale hp₃ => ?_)
  have hg₃ := grown_cons rfl hp₃
  have hheld₄ : hold r (⟨.registry r (.evictStale _), stale⟩ :: h₃) =
      some (some (recordAll taken ls)) := by
    rw [hold_cons, know_self, hheld₃]
    rfl
  exact obeys_done ⟨⟨hg₂.but.trans (hbut.trans hg₃.but), hg₃.clear, _, hheld₄⟩,
    taken, hmap, hheld₄, rfl, rfl⟩

theorem obeys_renew {x : Option (List Layer)} (hh : IsClear h) (hheld : hold r h = some x) :
    Obeys r.renew h fun _ h' => Within r h h' := by
  refine Obeys.bind (obeys_free rfl hh fun ls hp hg => ?_)
  have hheld₁ : hold r (⟨.registry r .layers, ls⟩ :: h) = some (some ls) := by
    rw [hold_cons, know_self, hheld]
    rfl
  exact (obeys_renewFrom hg.clear hheld₁ hp.1).mono fun _ _ ⟨hw, _⟩ =>
    (hg.within hheld).trans hw

/-- A registry is locked, worked on, and given back. -/
theorem Within.unlock {h' : History} {answer : Unit} (hw : Within r h h')
    (hfree : hold r h = none) :
    Grown h (⟨.registry r .unlock, answer⟩ :: h') := by
  refine (hw.but.trans grownBut_registry).grown hfree ?_ (isClear_cons fun _ _ heq => by cases heq)
  rw [hold_cons, know_self]
  rfl

theorem obeys_unlock {α : Type} {h₀ : History} {a : α} (hw : Within r h₀ h)
    (hfree : hold r h₀ = none) :
    Obeys ((ask r .unlock).bind fun _ => .done a) h fun _ h' => Grown h₀ h' :=
  Obeys.bind (obeys_act hw.held (hw.clear.due _) fun _ _ => obeys_done (hw.unlock hfree))

/-- Locking a registry is possible only for a task that has not locked it. -/
theorem obeys_lock {α : Type} {f : Unit → Task α} {Q : α → History → Prop} (hh : IsClear h)
    (hf : ∀ h', hold r h = none → Within r h h' → Obeys (f ()) h' Q) :
    Obeys ((ask r .lock).bind f) h Q := by
  refine Obeys.bind (obeys_act trivial (hh.due _) fun answer hp => hf _ hp ?_)
  refine ⟨grownBut_registry, isClear_cons ?_, none, ?_⟩
  · exact fun _ _ heq => by cases heq
  · rw [hold_cons, know_self]
    rfl

/-- An action within an operation. -/
theorem Within.obeys_ask {h₀ : History} {a : RegistryAction}
    {Q : a.Answer → History → Prop} (hw : Within r h₀ h)
    (ha : (Action.registry r a).isFree = true) (hQ : ∀ answer, Possible h ⟨.registry r a, answer⟩ →
      Within r h₀ (⟨.registry r a, answer⟩ :: h) → Q answer (⟨.registry r a, answer⟩ :: h)) :
    Obeys (ask r a) h Q := by
  obtain ⟨x, hheld⟩ := hw.held
  exact obeys_free ha hw.clear fun answer hp hg => hQ answer hp (hw.trans (hg.within hheld))

theorem growing_renewal (r : RegistryId) : Growing r.renewal := by
  intro h hh
  refine obeys_lock hh fun h₁ hfree hw₁ => ?_
  refine Obeys.bind (hw₁.obeys_ask rfl fun _ _ hw₂ => ?_)
  obtain ⟨x, hheld⟩ := hw₂.held
  refine (obeys_renew hw₂.clear hheld).andThen fun _ h₃ hw₃ => ?_
  refine Obeys.bind ((hw₂.trans hw₃).obeys_ask rfl fun _ _ hw₄ => ?_)
  exact obeys_unlock hw₄ hfree

/-! ### Registration -/

/-- The snapshot of a new source is what it gives, or empty if it fails. -/
theorem obeys_firstSnapshot {n : SourceId} {name : String} {x : Option (List Layer)}
    (hh : IsClear h) (hheld : hold r h = some x) : Obeys (firstSnapshot n name) h fun y h' =>
      Grown h h' ∧ ∃ l : Layer, l.source = n ∧ Taken r h' l (if y.2 then some y.1 else none) := by
  refine (obeys_takeSnapshot (l := ⟨n, name, true, 0, 0, .empty⟩) hh hheld).andThen ?_
  rintro (e | t) h₁ ⟨hg, ht⟩
  · refine Obeys.bind (obeys_free rfl hg.clear fun _ _ hg₁ => ?_)
    obtain ⟨z, hz, -⟩ := (hg.kept r).held x hheld
    exact obeys_done ⟨hg.trans hg₁, _, rfl, ht.kept hz (hg₁.kept r)⟩
  · exact obeys_done ⟨hg, _, rfl, ht⟩

/-- What the new layer changes is evicted right after it has been put in. -/
theorem obeys_evictFor {h₀ : History} {ls : List Layer} (l : Layer) (isComplete : Bool)
    (hbut : GrownBut r h₀ h) (hheld : hold r h = some (some ls)) :
    Obeys (r.evictFor l.recorded.keys (View.recorded (Layer.insert l ls)) isComplete)
      (⟨.registry r (.setLayers (Layer.insert l ls)), ()⟩ :: h) fun _ h' =>
        Within r h₀ h' ∧ hold r h' = some (some (Layer.insert l ls)) := by
  have hheld₁ : hold r (⟨.registry r (.setLayers (Layer.insert l ls)), ()⟩ :: h) =
      some (some (Layer.insert l ls)) := by
    rw [hold_cons, know_self, hheld]
    rfl
  have hrest : ∀ h', Within r h₀ h' → hold r h' = some (some (Layer.insert l ls)) →
      Obeys (if isComplete then .done () else ask r (.invalidate none)) h'
        fun _ h'' => Within r h₀ h'' ∧ hold r h'' = some (some (Layer.insert l ls)) := by
    intro h' hw hheld'
    split
    · exact obeys_done ⟨hw, hheld'⟩
    · refine hw.obeys_ask rfl fun _ _ hw' => ⟨hw', ?_⟩
      rw [hold_cons, know_self, hheld']
      rfl
  rw [evictFor]
  refine Obeys.bind ?_
  by_cases hkeys : l.recorded.keys.isEmpty = true
  · rw [if_pos hkeys]
    refine obeys_done (hrest _ ⟨hbut.trans grownBut_registry, ?_, _, hheld₁⟩ hheld₁)
    intro r' new h' heq
    cases heq
    exact ⟨l, ls, hheld, rfl, List.isEmpty_iff.1 hkeys⟩
  · rw [if_neg hkeys]
    have hheld₂ : ∀ us (u : Unit), hold r (⟨.registry r (.evictChanged us), u⟩ ::
        ⟨.registry r (.setLayers (Layer.insert l ls)), ()⟩ :: h) =
        some (some (Layer.insert l ls)) := by
      intro us u
      rw [hold_cons, know_self, hheld₁]
      rfl
    have hsame : ∀ u : Unit, ∀ h', Within r h₀ h' ∧ hold r h' = some (some (Layer.insert l ls)) →
        Obeys (if isComplete then .done () else ask r (.invalidate none)) h'
          fun _ h'' => Within r h₀ h'' ∧ hold r h'' = some (some (Layer.insert l ls)) :=
      fun _ h' hw => hrest h' hw.1 hw.2
    refine Obeys.mono hsame (obeys_act trivial ?_ fun answer _ => ?_)
    · intro r' new h' heq
      cases heq
      exact ⟨l, ls, hheld, rfl, .inr rfl⟩
    · refine ⟨⟨(hbut.trans grownBut_registry).trans grownBut_registry, ?_, _, hheld₂ _ _⟩,
        hheld₂ _ _⟩
      exact isClear_cons fun _ _ heq => by cases heq

/-- A new layer is put in, and what is told of it is what it changes. -/
theorem obeys_insertLayer {h₀ : History} {ls : List Layer} (n : SourceId) {name : String}
    (isMutable : Bool) (priority : Int) (hw : Within r h₀ h) (hheld : hold r h = some (some ls))
    (hnames : ∀ l ∈ ls, l.name ≠ name) :
    Obeys (r.insertLayer ls n name isMutable priority) h fun changes h' => Within r h₀ h' ∧
      ∃ l, hold r h' = some (some (Layer.insert l ls)) ∧
        changes = changesBetween (Keys.ofList l.recorded.keys) (View.recorded ls)
          (View.recorded (Layer.insert l ls)) := by
  rw [insertLayer_eq]
  refine (obeys_firstSnapshot hw.clear hheld).andThen fun x h₁ ⟨hg₁, l, hl, ht⟩ => ?_
  obtain ⟨y, hheld₁, hy⟩ := (hg₁.kept r).held _ hheld
  obtain rfl := hy ls rfl
  refine Obeys.bind (obeys_free rfl hg₁.clear fun seq hp hg₂ => ?_)
  have hheld₂ : hold r (⟨.registry r .takeSeq, seq⟩ :: h₁) = some (some ls) := by
    rw [hold_cons, know_self, hheld₁]
    rfl
  have hsnapped : Snapped r (⟨.registry r .takeSeq, seq⟩ :: h₁)
      ⟨n, name, isMutable, priority, seq, x.1⟩ := by
    obtain ⟨z, script, hmem, hz⟩ := ht.kept hheld₁ (hg₂.kept r)
    rw [hl] at hmem
    refine ⟨z, script, hmem, fun t hzt => ?_⟩
    rw [hzt] at hz
    split at hz
    · exact (Option.some.inj hz).symm
    · cases hz
  have hlaw : Lawful (⟨.registry r .takeSeq, seq⟩ :: h₁) (.registry r (.setLayers
      (Layer.insert ⟨n, name, isMutable, priority, seq, x.1⟩ ls))) :=
    ⟨_, ls, hheld₂, rfl, fun l' hl' => ⟨hnames l' hl', hp ls hheld₁ l' hl'⟩,
      List.mem_cons_self, hsnapped⟩
  refine Obeys.bind (obeys_act hlaw (hg₂.clear.due _) fun answer _ => ?_)
  have hevict := obeys_evictFor ⟨n, name, isMutable, priority, seq, x.1⟩ x.2
    (hw.but.trans (hg₁.but.trans hg₂.but)) hheld₂
  exact hevict.andThen fun _ h₃ ⟨hw₃, hheld₃⟩ => obeys_done ⟨hw₃, _, hheld₃, rfl⟩

theorem growing_registration (r : RegistryId) (n : SourceId) (priority : Int) :
    Growing (r.registration n priority) := by
  intro h hh
  refine Obeys.bind (obeys_free rfl hh fun ⟨name, isMutable⟩ _ hg => ?_)
  refine Obeys.mono (fun _ _ hg' => hg.trans hg') (obeys_lock hg.clear fun h₁ hfree hw₁ => ?_)
  obtain ⟨x, hheld₁⟩ := hw₁.held
  refine Obeys.bind (hw₁.obeys_ask rfl fun old _ hw₂ => ?_)
  have hheld₂ : hold r (⟨.registry r .layers, old⟩ :: h₁) = some (some old) := by
    rw [hold_cons, know_self, hheld₁]
    rfl
  split
  · refine Obeys.bind (obeys_free rfl hw₂.clear fun _ _ hg₃ => ?_)
    exact obeys_unlock (hw₂.trans (hg₃.within hheld₂)) hfree
  · rename_i hnew
    refine Obeys.bind (hw₂.obeys_ask rfl fun _ _ hw₃ => ?_)
    have hheld₃ : hold r (⟨.registry r .beginChange, ()⟩ :: ⟨.registry r .layers, old⟩ :: h₁) =
        some (some old) := by
      rw [hold_cons, know_self, hheld₂]
      rfl
    have hnames : ∀ l ∈ old, l.name ≠ name := by simpa using hnew
    refine (obeys_insertLayer n isMutable priority hw₃ hheld₃ hnames).andThen fun _ h₄ ⟨hw₄, _⟩ => ?_
    refine Obeys.bind (hw₄.obeys_ask rfl fun _ _ hw₅ => ?_)
    exact obeys_unlock hw₅ hfree

/-! ### All tasks -/

theorem growing_notify (r : RegistryId) (changes : List Change) : Growing (r.notify changes) :=
  sequential_growing.forAll fun _ _ =>
    (growing_act rfl).bind fun _ => sequential_growing.forAll fun _ _ =>
      (growing_act rfl).bind fun script => growing_run script

theorem growing_refresh (r : RegistryId) : Growing r.refresh := by
  rw [refresh_eq]
  exact (growing_renewal r).bind fun x => (growing_notify r x.2).bind fun _ => growing_done _

theorem growing_register (r : RegistryId) (n : SourceId) (priority : Int) :
    Growing (r.register n priority) := by
  rw [register_eq]
  refine (growing_registration r n priority).bind ?_
  rintro (e | changes)
  · exact growing_done _
  · exact (growing_notify r changes).bind fun _ => growing_done _

theorem growing_takeSnapshot (n : SourceId) : Growing (takeSnapshot n) :=
  (growing_act rfl).bind fun _ => (growing_run _).bind fun _ => growing_done _

theorem parts_growing : Parts fun _ t => Growing t where
  toSequential := sequential_growing
  passive := fun a ha => growing_act (by
    cases a with
    | registry r a => cases a <;> first | rfl | simp [Action.isPassive] at ha
    | _ => rfl)
  read := growing_read
  lookUp := fun n key => fun _ hh => (obeys_lookUp n key hh).mono fun _ _ ⟨_, _, _, hg, _⟩ => hg
  invalidate := fun _ _ => growing_act rfl
  refresh := growing_refresh

theorem operations_growing : Operations fun _ _ t => Growing t where
  toWalk := parts_growing.walk
  own := fun a ha => growing_act (by cases a <;> first | rfl | simp [Action.isOwn] at ha)
  takeSnapshot := growing_takeSnapshot
  register := growing_register

/-- All scripts keep to the contract. -/
theorem growing_script (script : Script) : Growing script.task :=
  operations_growing.script [] script

end Strata
