import Strata.Operation.Resolve
import Strata.Proofs.Contents
import Strata.Proofs.Runs
import Strata.Proofs.Views

/-!
Reading keys in a session whose sources are of the five kinds. Main statements: consulting layers
whose data are all there gives what they hold (`ends_consult_of_live`), consulting that meets no
failure has found what the layers hold from then on (`consult_spec`), consulting gives what is
recorded unless a source answers otherwise (`consult_eq_recorded`), and a key can always be read
(`exists_ends_read`).
-/

namespace Strata

namespace Session

variable {s s' s'' : Session} {n : SourceId} {key : String}

/-- What a key resolves to through the data of the sources of layers. There is no result if one of
them has to be fetched first. -/
def live (s : Session) (key : String) : List Layer → Option (Option Resolved)
  | [] => some none
  | l :: ls =>
    match s.contents l.source with
    | none => none
    | some t =>
      match t.get? key with
      | some value => some (some ⟨value, l.name⟩)
      | none => s.live key ls

/-- A session after lookups: sources may have been fetched, and that is all. -/
structure Fetched (s s' : Session) : Prop extends SameButData s s' where
  contents : ∀ n t, s.contents n = some t → s'.contents n = some t
  answer : ∀ n key, (s'.lookup n key).1.1 = (s.lookup n key).1.1

theorem Fetched.refl (s : Session) : Fetched s s := ⟨.refl s, fun _ _ h => h, fun _ _ => rfl⟩

theorem Fetched.trans (h : Fetched s s') (h' : Fetched s' s'') : Fetched s s'' :=
  ⟨h.toSameButData.trans h'.toSameButData, fun n t ht => h'.contents n t (h.contents n t ht),
    fun n key => (h'.answer n key).trans (h.answer n key)⟩

theorem fetched_lookup (s : Session) (n : SourceId) (key : String) :
    Fetched s (s.lookup n key).2 :=
  ⟨sameButData_lookup s n key, fun _ _ => contents_lookup,
    fun m key' => lookup_lookup s m n key key'⟩

theorem fetched_emit (s : Session) (e : Event) : Fetched s (s.emit e) :=
  ⟨sameButData_emit s e, fun _ _ h => h, fun n key => by
    cases hp : s.sources[n]? with
    | none => rw [lookup_answer_of_none hp, lookup_answer_of_none (s := s.emit e) hp]
    | some p => rw [lookup_answer hp, lookup_answer (s := s.emit e) hp]; rfl⟩

/-- What layers hold stays while sources are looked up. -/
theorem Fetched.live (h : Fetched s s') {x : Option Resolved} :
    ∀ {ls : List Layer}, s.live key ls = some x → s'.live key ls = some x
  | [], hx => hx
  | l :: ls, hx => by
    cases ht : s.contents l.source with
    | none => simp [Session.live, ht] at hx
    | some t =>
      simp only [Session.live, ht, h.contents l.source t ht] at hx ⊢
      cases hv : t.get? key with
      | some value => simpa [hv] using hx
      | none =>
        simp only [hv] at hx
        exact h.live hx

theorem live_congr {ls : List Layer}
    (h : ∀ l ∈ ls, s'.contents l.source = s.contents l.source) : s'.live key ls = s.live key ls := by
  induction ls with
  | nil => rfl
  | cons l ls ih =>
    have hrest := ih fun l' hl' => h l' (List.mem_cons_of_mem l hl')
    simp only [live, h l List.mem_cons_self, hrest]

/-- A value that layers hold comes from one of them. -/
theorem source_mem_of_live {x : Resolved} :
    ∀ {ls : List Layer}, s.live key ls = some (some x) → x.source ∈ ls.map (·.name)
  | l :: ls, h => by
    cases ht : s.contents l.source with
    | none => simp [live, ht] at h
    | some t =>
      cases hv : t.get? key with
      | some value =>
        simp only [live, ht, hv, Option.some.injEq] at h
        rw [← h]
        exact List.mem_cons_self
      | none =>
        simp only [live, ht, hv] at h
        exact List.mem_cons_of_mem _ (source_mem_of_live h)

end Session

namespace RegistryId

open Session Strata.Task

variable {S : ScriptRun} {s s' : Session} {n : SourceId} {key : String} {r : RegistryId}
  {reg : Registry}

/-! ### Consulting layers -/

theorem runs_lookUp (hs : s.IsPlain) {a : Except Failure (Option String)}
    {ms : List Machine.Moment} : Runs S (lookUp n key) s ms a s' ↔
      a = (s.lookup n key).1.1 ∧ s' = (s.lookup n key).2 ∧ ms = [⟨0, .act (.lookup n key), s⟩] :=
  runs_silent (.lookup n key) (f := (·.1)) (g := (·.2)) rfl hs.lookup_script

theorem ends_lookUp (hs : s.IsPlain) {a : Except Failure (Option String)} :
    Ends S (lookUp n key) s a s' ↔ a = (s.lookup n key).1.1 ∧ s' = (s.lookup n key).2 := by
  simp [Ends, runs_lookUp hs]

/-- Layers whose data are all there are consulted without any effect. -/
theorem ends_consult_of_live (hs : s.IsPlain) {x : Option Resolved} :
    ∀ {ls : List Layer}, s.live key ls = some x → Ends S (consult key ls) s (x, false) s
  | [], hx => by
    cases hx
    exact ends_done.2 ⟨rfl, rfl⟩
  | l :: ls, hx => by
    cases ht : s.contents l.source with
    | none => simp [live, ht] at hx
    | some t =>
      have hlook : Ends S (lookUp l.source key) s (.ok (t.get? key)) s :=
        (ends_lookUp hs).2 (by rw [lookup_of_contents hs.isBuiltin ht]; exact ⟨rfl, rfl⟩)
      cases hv : t.get? key with
      | some value =>
        simp only [live, ht, hv, Option.some.injEq] at hx
        rw [hv] at hlook
        exact hlook.bind (ends_done.2 ⟨by rw [hx], rfl⟩)
      | none =>
        simp only [live, ht, hv] at hx
        rw [hv] at hlook
        exact hlook.bind (ends_consult_of_live hs hx)

/-- Layers can always be consulted. -/
theorem exists_ends_consult (key : String) : ∀ (ls : List Layer) {s : Session}, s.IsPlain →
    ∃ x s', Ends S (consult key ls) s x s'
  | [], s, _ => ⟨_, s, ends_done.2 ⟨rfl, rfl⟩⟩
  | l :: ls, s, hs => by
    have hlook : Ends S (lookUp l.source key) s _ _ := (ends_lookUp hs).2 ⟨rfl, rfl⟩
    have hs₁ : (s.lookup l.source key).2.IsPlain := (fetched_lookup s l.source key).isPlain hs
    rcases ha : (s.lookup l.source key).1.1 with e | _ | value
    · rw [ha] at hlook
      have he := fetched_emit (s.lookup l.source key).2 (.observed (.lookup l.name key) e)
      obtain ⟨x, s', hx⟩ := exists_ends_consult key ls (he.isPlain hs₁)
      have hobs : Ends S (act (.observe (.lookup l.name key) e)) (s.lookup l.source key).2 ()
          ((s.lookup l.source key).2.emit (.observed (.lookup l.name key) e)) := ends_act.2 rfl
      exact ⟨(x.1, true), s', hlook.bind (hobs.bind (hx.bind (ends_done.2 ⟨rfl, rfl⟩)))⟩
    · rw [ha] at hlook
      obtain ⟨x, s', hx⟩ := exists_ends_consult key ls hs₁
      exact ⟨x, s', hlook.bind hx⟩
    · rw [ha] at hlook
      exact ⟨_, _, hlook.bind (ends_done.2 ⟨rfl, rfl⟩)⟩

/-- What is found without a failure is what the layers hold from then on. -/
theorem consult_spec : ∀ {ls : List Layer} {s s' : Session} {x : Option Resolved × Bool},
    s.IsPlain → Ends S (consult key ls) s x s' →
    Fetched s s' ∧ (x.2 = false → s'.live key ls = some x.1)
  | [], s, s', x, _, h => by
    obtain ⟨rfl, rfl⟩ := ends_done.1 h
    exact ⟨.refl s, fun _ => rfl⟩
  | l :: ls, s, s', x, hs, h => by
    obtain ⟨a, s₁, hlook, hnext⟩ := ends_bind.1 h
    obtain ⟨rfl, rfl⟩ := (ends_lookUp hs).1 hlook
    have hf := fetched_lookup s l.source key
    have hs₁ := hf.isPlain hs
    rcases ha : (s.lookup l.source key).1.1 with e | _ | value
    · rw [ha] at hnext
      obtain ⟨u, s₂, hobs, hnext⟩ := ends_bind.1 hnext
      cases ends_act.1 hobs
      obtain ⟨y, s₃, hrest, hlast⟩ := ends_bind.1 hnext
      obtain ⟨rfl, rfl⟩ := ends_done.1 hlast
      have he := fetched_emit (s.lookup l.source key).2 (.observed (.lookup l.name key) e)
      exact ⟨hf.trans (he.trans (consult_spec (he.isPlain hs₁) hrest).1), fun hd => by cases hd⟩
    · rw [ha] at hnext
      obtain ⟨hrest, hlive⟩ := consult_spec hs₁ hnext
      obtain ⟨t, ht, hv⟩ := lookup_eq_ok ha
      refine ⟨hf.trans hrest, fun hx => ?_⟩
      simp only [live, hrest.contents _ _ ht, ← hv, hlive hx]
    · rw [ha] at hnext
      obtain ⟨rfl, rfl⟩ := ends_done.1 hnext
      obtain ⟨t, ht, hv⟩ := lookup_eq_ok ha
      exact ⟨hf, fun _ => by simp only [live, ht, ← hv]⟩

/-- Layers give what is recorded of them, unless a source that is reached answers otherwise. -/
theorem consult_eq_recorded : ∀ {ls : List Layer} {s s' : Session} {x : Option Resolved × Bool},
    s.IsPlain → Ends S (consult key ls) s x s' →
    x = ((View.recorded ls).resolve key, false) ∨ ∃ pre l post, ls = pre ++ l :: post ∧
      (∀ p ∈ pre, p.recorded.get? key = none ∧ (s.lookup p.source key).1.1 = .ok none) ∧
      (s.lookup l.source key).1.1 ≠ .ok (l.recorded.get? key)
  | [], s, s', x, _, h => by
    obtain ⟨rfl, rfl⟩ := ends_done.1 h
    exact .inl rfl
  | l :: ls, s, s', x, hs, h => by
    by_cases hl : (s.lookup l.source key).1.1 = .ok (l.recorded.get? key)
    · obtain ⟨a, s₁, hlook, hnext⟩ := ends_bind.1 h
      obtain ⟨rfl, rfl⟩ := (ends_lookUp hs).1 hlook
      rw [hl] at hnext
      cases hv : l.recorded.get? key with
      | some value =>
        rw [hv] at hnext
        obtain ⟨rfl, rfl⟩ := ends_done.1 hnext
        simp [View.resolve_cons, hv]
      | none =>
        rw [hv] at hnext
        have hf := fetched_lookup s l.source key
        rcases consult_eq_recorded (hf.isPlain hs) hnext with hx | ⟨pre, l', post, rfl, hpre, hl'⟩
        · left
          rw [hx, View.recorded_cons, View.resolve_cons, hv]
        · right
          simp only [hf.answer] at hpre hl'
          exact ⟨l :: pre, l', post, rfl, List.forall_mem_cons.2 ⟨⟨hv, hl.trans (by rw [hv])⟩, hpre⟩,
            hl'⟩
    · exact .inr ⟨[], l, ls, rfl, by simp, hl⟩

/-! ### Reading through the cache -/

/-- The registry after a reading that has consulted the layers. -/
def filled (reg : Registry) (key : String) (x : Option Resolved) : Registry :=
  { reg with cache := (reg.cache.fill key x reg.cache.epoch).2 }

/-- A key is read from the cache, or else from the layers, and is put into the cache then unless a
layer has failed. -/
theorem read_spec (hs : s.IsPlain) {x : Reading} (h : Ends S (r.read key) s x s') :
    (key.isEmpty = true ∧ x = ⟨none, none⟩ ∧ s' = s) ∨
    ∃ reg, s.registries[r]? = some reg ∧
      ((∃ e, reg.cache.entries.get? key = some e ∧ x = Cache.hit e ∧ s' = s) ∨
        (reg.cache.entries.get? key = none ∧ ∃ y s₁,
          Ends S (consult key reg.layers) s y s₁ ∧ x.resolved = y.1 ∧
          s' = if y.2 = true then s₁ else s₁.setRegistry r (filled reg key y.1))) := by
  simp only [RegistryId.read] at h
  split at h
  · rename_i hkey
    obtain ⟨rfl, rfl⟩ := ends_done.1 h
    exact .inl ⟨hkey, rfl, rfl⟩
  obtain ⟨reading, s₁, hcached, hnext⟩ := ends_bind.1 h
  obtain ⟨reg, hreg⟩ := exists_registry_of_ends_ask hcached
  obtain ⟨rfl, rfl⟩ := (ends_ask_self hreg rfl).1 hcached
  refine .inr ⟨reg, hreg, ?_⟩
  cases hentry : reg.cache.entries.get? key with
  | some e =>
    simp only [Cache.get?, hentry, Option.map_some] at hnext
    obtain ⟨rfl, rfl⟩ := ends_done.1 hnext
    exact .inl ⟨e, rfl, rfl, rfl⟩
  | none =>
    simp only [Cache.get?, hentry, Option.map_none] at hnext
    obtain ⟨epoch, s₁, hepoch, hnext⟩ := ends_bind.1 hnext
    obtain ⟨rfl, rfl⟩ := (ends_ask_self hreg rfl).1 hepoch
    obtain ⟨layers, s₁, hlayers, hnext⟩ := ends_bind.1 hnext
    obtain ⟨rfl, rfl⟩ := (ends_ask_self hreg rfl).1 hlayers
    obtain ⟨⟨y, d⟩, s₁, hconsult, hnext⟩ := ends_bind.1 hnext
    refine .inr ⟨rfl, (y, d), s₁, hconsult, ?_⟩
    have hreg₁ : s₁.registries[r]? = some reg := by
      rw [(consult_spec hs hconsult).1.registries, hreg]
    cases d with
    | true =>
      obtain ⟨rfl, rfl⟩ := ends_done.1 hnext
      exact ⟨rfl, rfl⟩
    | false =>
      obtain ⟨reg', htake, rfl⟩ := (ends_ask hreg₁).1 hnext
      cases htake
      exact ⟨by simp [hentry], rfl⟩

/-- A key can always be read. -/
theorem exists_ends_read (hs : s.IsPlain) (hreg : s.registries[r]? = some reg) (key : String) :
    ∃ x s', Ends S (r.read key) s x s' := by
  simp only [RegistryId.read]
  split
  · exact ⟨_, s, ends_done.2 ⟨rfl, rfl⟩⟩
  have hcached : Ends S (ask r (.cached key)) s (reg.cache.get? key) s :=
    (ends_ask_self hreg rfl).2 ⟨rfl, rfl⟩
  cases hentry : reg.cache.get? key with
  | some reading =>
    rw [hentry] at hcached
    exact ⟨reading, s, hcached.bind (ends_done.2 ⟨rfl, rfl⟩)⟩
  | none =>
    rw [hentry] at hcached
    have hepoch : Ends S (ask r .epoch) s reg.cache.epoch s :=
      (ends_ask_self hreg rfl).2 ⟨rfl, rfl⟩
    have hlayers : Ends S (ask r .layers) s reg.layers s := (ends_ask_self hreg rfl).2 ⟨rfl, rfl⟩
    obtain ⟨⟨y, d⟩, s₁, hconsult⟩ := exists_ends_consult (S := S) key reg.layers hs
    have hreg₁ : s₁.registries[r]? = some reg := by
      rw [(consult_spec hs hconsult).1.registries, hreg]
    cases d with
    | true =>
      exact ⟨_, s₁, hcached.bind (hepoch.bind (hlayers.bind (hconsult.bind
        (ends_done.2 ⟨rfl, rfl⟩))))⟩
    | false =>
      exact ⟨_, _, hcached.bind (hepoch.bind (hlayers.bind (hconsult.bind
        ((ends_ask hreg₁).2 ⟨_, rfl, rfl⟩))))⟩

end RegistryId

end Strata
