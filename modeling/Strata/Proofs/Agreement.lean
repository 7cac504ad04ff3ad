import Strata.Proofs.Answers
import Strata.Proofs.Sections

/-!
What is cached of a key agrees with what sources answer. It does so in an empty cache, and after a
refresh has evicted what is not what the sources answer; and it goes on doing so, whoever reads,
registers or evicts, as long as the sources answer the same for the key. Main statement: if what they
answer changes only while a refresh is under way, and refreshes and registrations record what they
answer, then the cache agrees with them whenever no refresh is under way that has yet to evict
(`InStep.run_append`).
-/

namespace Strata

open Machine

variable {s s' σ σ' : Session} {r : RegistryId} {ms : List Moment} {i j : Nat} {a : Action}
  {answer : a.Answer} {reg reg' : Registry} {key : String} {x : Option Resolved} {ls : List Layer}

/-! ### What is current -/

/-- A key resolves to something if layers are asked, or it did so before a layer was put in that is
just being published and that is recorded as its source answers. -/
def Session.IsCurrent (s : Session) (r : RegistryId) (ms : List Moment) (ls : List Layer)
    (key : String) (x : Option Resolved) : Prop :=
  x = s.answered key ls ∨ ∃ i old, Publishes r old (history i ms) ∧
    (∀ l ∈ ls, l ∉ old → s.Tells l key) ∧ x = s.answered key old

/-- What a task has read of a key is what sources answer. -/
structure Session.Reads (s : Session) (r : RegistryId) (ms : List Moment) (key : String)
    (current ls : List Layer) (new : History) : Prop where
  isCurrent : s.IsCurrent r ms current key (s.answered key ls)
  source : ∀ l ∈ ls, ∃ l' ∈ current, l'.source = l.source
  lookup : ∀ l ∈ ls, ∀ value script,
    (⟨.lookup l.source key, (.ok value, script)⟩ : Fact) ∈ new → s.answer l.source key = value

/-- What a registry has cached of a key, and what tasks are about to cache, is what its sources
answer. -/
structure Agrees (s : Session) (r : RegistryId) (ms : List Moment) (key : String) (reg : Registry) :
    Prop where
  entry : ∀ e, reg.cache.entries.get? key = some e → s.IsCurrent r ms reg.layers key e.resolved
  reading : ∀ i new ls before, history i ms = new ++ ⟨.registry r .layers, ls⟩ ::
    ⟨.registry r .epoch, reg.cache.epoch⟩ :: before → s.Reads r ms key reg.layers ls new

/-- The sources of the layers of a registry answer for a key as they do in another session. -/
def Session.AnswersAs (s' s : Session) (r : RegistryId) (key : String) : Prop :=
  ∀ l ∈ s.layersOf r, s'.answer l.source key = s.answer l.source key

/-- Layers that were consulted have given what their sources answered. -/
theorem Consulted.eq_answered {h : History} : ∀ {ls : List Layer}, Consulted h key ls x →
    (∀ l ∈ ls, ∀ value script, (⟨.lookup l.source key, (.ok value, script)⟩ : Fact) ∈ h →
      s.answer l.source key = value) → x = s.answered key ls
  | [], hx, _ => hx
  | l :: ls, hx, hlookup => by
    rw [Session.answered_cons]
    rcases hx with ⟨value, script, hmem, rfl⟩ | ⟨⟨script, hmem⟩, hx⟩
    · rw [hlookup l List.mem_cons_self _ _ hmem]
    · rw [hlookup l List.mem_cons_self _ _ hmem]
      exact hx.eq_answered fun l' hl' => hlookup l' (List.mem_cons_of_mem l hl')

namespace Turn

/-- What is current stays so while the sources answer the same. -/
theorem current_congr (h : Turn r ms i a answer s s' reg reg') (hsame : σ'.AnswersAs σ r key)
    (hlayers : σ.layersOf r = reg.layers) (hx : σ.IsCurrent r ms reg.layers key x) :
    σ'.IsCurrent r ms reg.layers key x := by
  rw [Session.AnswersAs, hlayers] at hsame
  rcases hx with rfl | ⟨j, old, hpub, htells, rfl⟩
  · exact .inl (Session.answered_congr hsame).symm
  · obtain ⟨l₀, hold⟩ := hpub.hold
    refine .inr ⟨j, old, hpub, fun l hl hnew => (hsame l hl).trans (htells l hl hnew), ?_⟩
    · refine (Session.answered_congr fun l hl => hsame l ?_).symm
      rw [h.layers_of_hold hold]
      exact Layer.mem_insert.2 (.inr hl)

/-- What is current is so without a layer that the task that acts has published, provided that an
eviction spares it. -/
theorem settled (h : Turn r ms i a answer s s' reg reg')
    (hspare : ∀ us, a = .registry r (.evictChanged us) → ∀ u ∈ us, u.1 = key → u.2 = x)
    (hx : σ.IsCurrent r ms reg.layers key x) : x = σ.answered key reg.layers ∨
      ∃ j old, j ≠ i ∧ Publishes r old (history j ms) ∧ (∀ l ∈ reg.layers, l ∉ old → σ.Tells l key) ∧
        x = σ.answered key old := by
  rcases hx with hx | ⟨j, old, hpub, htells, rfl⟩
  · exact .inl hx
  by_cases hj : j = i
  · subst hj
    left
    -- right after publishing it can only evict, unless the new layer has no key
    obtain ⟨_, before, heq, hold⟩ := hpub
    obtain ⟨l, ls, hold', hins, hevict⟩ := h.due r _ before heq
    obtain rfl : old = ls := by
      rw [hold] at hold'
      exact Option.some.inj (Option.some.inj hold')
    have hlayers : reg.layers = Layer.insert l old := by
      refine h.layers_of_hold (j := j) ?_
      rw [heq, hold_cons, know_self, hold, hins]
      rfl
    obtain ⟨tasks, hsound⟩ := h.sound
    have hnames := (hsound.numbered reg (List.mem_of_getElem? h.before)).names
    rw [hlayers] at hnames htells ⊢
    have hnew : l ∉ old := fun hl => by
      rw [((Layer.insert_perm l old).map _).nodup_iff, List.map_cons, List.nodup_cons] at hnames
      exact hnames.1 (List.mem_map_of_mem hl)
    refine (Session.answered_insert hnames (htells l (Layer.mem_insert.2 (.inl rfl)) hnew)
      fun hkey => ?_).symm
    rcases hevict with hkeys | rfl
    · rw [hkeys] at hkey
      exact absurd hkey List.not_mem_nil
    · rw [← hins]
      exact hspare _ rfl _ (List.mem_map_of_mem hkey) rfl
  · exact .inr ⟨j, old, hj, hpub, htells, rfl⟩

/-- What is current stays so, or the layer that makes it otherwise is just being published. -/
theorem current (h : Turn r ms i a answer s s' reg reg')
    (hnew : ∀ new, a = .registry r (.setLayers new) → ∀ l ∈ new, l ∉ reg.layers → σ.Tells l key)
    (hspare : ∀ us, a = .registry r (.evictChanged us) → ∀ u ∈ us, u.1 = key → u.2 = x)
    (hx : σ.IsCurrent r ms reg.layers key x) :
    σ.IsCurrent r (⟨i, .act a, s⟩ :: ms) reg'.layers key x := by
  obtain ⟨tasks, hsound⟩ := h.sound
  by_cases hset : ∃ new, a = .registry r (.setLayers new)
  · obtain ⟨_, rfl⟩ := hset
    cases h.take_registry
    obtain ⟨l, ls, hold, rfl, -⟩ := h.lawful
    obtain rfl := h.layers_of_hold hold
    rcases h.settled hspare hx with hx | ⟨j, old, hj, hpub, -⟩
    · exact .inr ⟨i, _, ⟨l, history i ms, history_cons_act h.take, hold⟩, hnew _ rfl, hx⟩
    · -- two tasks would have the registry locked
      obtain ⟨l', hold'⟩ := hpub.hold
      exact absurd (hsound.alone j i r _ _ hold' hold) hj
  push Not at hset
  rcases h.settled hspare hx with hx | ⟨j, old, hj, hpub, htells, hx⟩
  · left
    rw [hx]
    exact (Session.answered_of_map_eq (h.map_layers hset fun _ _ => rfl)).symm
  · refine .inr ⟨j, old, ?_, ?_, hx⟩
    · rw [history_cons_of_ne hj.symm]
      exact hpub
    · have hlayers : reg'.layers = reg.layers := by
        rcases h.cases with ⟨-, hlayers, -⟩ | ⟨b, y, heq, hask⟩
        · exact hlayers
        · cases heq
          refine Registry.layers_take (fun new heq => hset new (by rw [heq])) (fun seq t heq => ?_) hask
          subst heq
          obtain ⟨l, ls, hold, -⟩ := h.lawful
          obtain ⟨l', hold'⟩ := hpub.hold
          exact hj (hsound.alone j i r _ _ hold' hold)
      rw [hlayers]
      exact htells

end Turn

/-! ### What an action preserves -/

namespace Agrees

/-- The sources answer the same in another session. -/
theorem congr (hf : Agrees σ r ms key reg) (h : Turn r ms i a answer s s' reg reg')
    (hsame : σ'.AnswersAs σ r key) (hlayers : σ.layersOf r = reg.layers) : Agrees σ' r ms key reg := by
  refine ⟨fun e he => h.current_congr hsame hlayers (hf.entry e he), ?_⟩
  intro j new ls before heq
  have hreads := hf.reading j new ls before heq
  have hanswer : ∀ l ∈ ls, σ'.answer l.source key = σ.answer l.source key := by
    intro l hl
    obtain ⟨l', hl', hsource⟩ := hreads.source l hl
    rw [← hlayers] at hl'
    rw [← hsource]
    exact hsame l' hl'
  refine ⟨?_, hreads.source, fun l hl value script hmem => ?_⟩
  · rw [Session.answered_congr hanswer]
    exact h.current_congr hsame hlayers hreads.isCurrent
  · rw [hanswer l hl]
    exact hreads.lookup l hl value script hmem

/-- Only what is current is put into the cache. -/
theorem entry_act (hf : Agrees σ r ms key reg) (h : Turn r ms i a answer s s' reg reg')
    (hnew : ∀ new, a = .registry r (.setLayers new) → ∀ l ∈ new, l ∉ reg.layers → σ.Tells l key)
    (e : CacheEntry) (he : reg'.cache.entries.get? key = some e) :
    σ.IsCurrent r (⟨i, .act a, s⟩ :: ms) reg'.layers key e.resolved := by
  suffices hx : σ.IsCurrent r ms reg.layers key e.resolved ∧
      ∀ us, a = .registry r (.evictChanged us) → ∀ u ∈ us, u.1 = key → u.2 = e.resolved from
    h.current hnew hx.2 hx.1
  rcases h.cases with ⟨hne, -, hcache⟩ | ⟨b, y, heq, hask⟩
  · rw [hcache] at he
    exact ⟨hf.entry e he, fun us heq => absurd heq (hne _)⟩
  cases heq
  cases b with
  | fill k y n =>
    refine ⟨?_, fun us heq => by cases heq⟩
    cases hask
    rcases Cache.get?_fill he with he | ⟨rfl, hy, rfl, -⟩
    · exact hf.entry e he
    · obtain ⟨new, ls, before, heq, hconsulted⟩ := h.lawful
      have hreads := hf.reading i new ls before heq
      rw [hy, hconsulted.eq_answered hreads.lookup]
      exact hreads.isCurrent
  | evictChanged us =>
    cases hask
    obtain ⟨he, hspare⟩ := Cache.get?_evictChanged.1 he
    refine ⟨hf.entry e he, fun us' heq => ?_⟩
    cases heq
    exact hspare
  | _ =>
    obtain ⟨-, hentries⟩ := Registry.cache_take (fun _ _ _ heq => by cases heq) hask
    exact ⟨hf.entry e (hentries key e he), fun us heq => by cases heq⟩

/-- What readers have found out in the present epoch is current. -/
theorem reading_act (hf : Agrees s' r ms key reg) (h : Turn r ms i a answer s s' reg reg')
    (hsame : s'.AnswersAs s r key)
    (hnew : ∀ new, a = .registry r (.setLayers new) → ∀ l ∈ new, l ∉ reg.layers → s'.Tells l key)
    (j : Nat) (new : History) (ls : List Layer) (before : History)
    (heq : history j (⟨i, .act a, s⟩ :: ms) = new ++ ⟨.registry r .layers, ls⟩ ::
      ⟨.registry r .epoch, reg'.cache.epoch⟩ :: before) :
    s'.Reads r (⟨i, .act a, s⟩ :: ms) key reg'.layers ls new := by
  have hepoch := Nat.le_antisymm h.epoch_le (h.le_of_reading heq)
  have hspare : ∀ us, a ≠ .registry r (.evictChanged us) := by
    -- an eviction begins another epoch
    rintro us rfl
    cases h.take_registry
    exact absurd hepoch (Nat.ne_of_lt (Nat.lt_succ_self _))
  have hact : ∀ {ls new}, s'.Reads r ms key reg.layers ls new →
      s'.Reads r (⟨i, .act a, s⟩ :: ms) key reg'.layers ls new := by
    intro ls new hreads
    refine ⟨?_, fun l hl => ?_, hreads.lookup⟩
    · exact h.current hnew (fun us heq => absurd heq (hspare us)) hreads.isCurrent
    · obtain ⟨l₁, hl₁, hsource⟩ := hreads.source l hl
      obtain ⟨l₂, hl₂, hsource'⟩ := h.exists_layer hl₁
      exact ⟨l₂, hl₂, hsource'.trans hsource⟩
  rw [← hepoch] at heq
  by_cases hj : i = j
  · subst hj
    rw [history_cons_act h.take] at heq
    cases new with
    | nil =>
      cases (List.cons.inj heq).1
      cases h.take_registry
      exact ⟨.inl rfl, fun l hl => ⟨l, hl, rfl⟩, fun _ _ _ _ hmem => absurd hmem List.not_mem_nil⟩
    | cons f new =>
      obtain ⟨hfact, hrest⟩ := List.cons.inj heq
      have hreads := hf.reading i new ls before hrest
      have hreads' := hact hreads
      refine ⟨hreads'.isCurrent, hreads'.source, fun l hl value script hmem => ?_⟩
      rcases List.mem_cons.1 hmem with hmem | hmem
      · obtain ⟨l', hl', hsource⟩ := hreads.source l hl
        have hlookup := hmem.trans hfact.symm
        cases hlookup
        have htake : s.lookup l.source key = ((.ok value, script), s') := Option.some.inj h.take
        rw [← Session.layersOf_eq h.before] at hl'
        rw [← hsource, hsame l' hl', hsource, Session.answer, htake]
        rfl
      · exact hreads.lookup l hl value script hmem
  · rw [history_cons_of_ne hj] at heq
    exact hact (hf.reading j new ls before heq)

/-- What agrees goes on agreeing while the sources answer the same, if of a new layer is recorded what
its source answers. -/
theorem act (hf : Agrees s r ms key reg) (h : Turn r ms i a answer s s' reg reg')
    (hsame : s'.AnswersAs s r key) (hnew : ∀ new, a = .registry r (.setLayers new) →
      ∀ l ∈ new, l ∉ s.layersOf r → s.Tells l key) :
    Agrees s' r (⟨i, .act a, s⟩ :: ms) key reg' := by
  have hlayers := Session.layersOf_eq h.before
  have hf' := hf.congr h hsame hlayers
  have hnew' : ∀ new, a = .registry r (.setLayers new) →
      ∀ l ∈ new, l ∉ reg.layers → s'.Tells l key := by
    rintro new rfl l hl hl'
    obtain ⟨reg₁, reg₂, -, -, hs'⟩ := Session.exists_registry_take h.take
    rw [hs', Session.Tells, Session.answer_setRegistry]
    exact hnew new rfl l hl (by rw [hlayers]; exact hl')
  exact ⟨hf'.entry_act h hnew', hf'.reading_act h hsame hnew'⟩

/-- Nothing matters to a script that is taken up. -/
theorem run (hf : Agrees s r ms key reg) (script : Script) :
    Agrees s r (⟨i, .run script, s⟩ :: ms) key reg := by
  have hhistory : ∀ j, history j (⟨i, .run script, s⟩ :: ms) = history j ms := fun j =>
    history_cons_run
  have hcurrent : ∀ {ls x}, s.IsCurrent r ms ls key x →
      s.IsCurrent r (⟨i, .run script, s⟩ :: ms) ls key x := by
    simp only [Session.IsCurrent, hhistory, imp_self, implies_true]
  refine ⟨fun e he => hcurrent (hf.entry e he), fun j new ls before heq => ?_⟩
  rw [hhistory] at heq
  have hreads := hf.reading j new ls before heq
  exact ⟨hcurrent hreads.isCurrent, hreads.source, hreads.lookup⟩

/-- An action that begins an epoch leaves no readers behind. -/
theorem of_epoch (h : Turn r ms i a answer s s' reg reg')
    (hepoch : reg'.cache.epoch = reg.cache.epoch + 1)
    (hentry : ∀ e, reg'.cache.entries.get? key = some e →
      e.resolved = s'.answered key reg'.layers) : Agrees s' r (⟨i, .act a, s⟩ :: ms) key reg' := by
  refine ⟨fun e he => .inl (hentry e he), fun j new ls before heq => ?_⟩
  have hle := h.le_of_reading heq
  rw [hepoch] at hle
  exact absurd hle (Nat.not_succ_le_self _)

/-- The key, or all that is cached, is evicted. -/
theorem of_invalidate {k : Option String} {u : Unit} (hk : k = none ∨ k = some key)
    (h : Turn r ms i (.registry r (.invalidate k)) u s s' reg reg') :
    Agrees s' r (⟨i, .act (.registry r (.invalidate k)), s⟩ :: ms) key reg' := by
  have htake := h.take_registry
  rcases hk with rfl | rfl
  · cases htake
    exact of_epoch h rfl fun e he => absurd (Cache.get?_invalidate_none.symm.trans he) (by simp)
  · cases htake
    exact of_epoch h rfl fun e he => absurd rfl (Cache.get?_invalidate_some.1 he).2

/-- A refresh evicts what is not recorded, and what is recorded is what the sources answer. -/
theorem of_evictStale {view : View} {stale : List String}
    (h : Turn r ms i (.registry r (.evictStale view)) stale s s' reg reg')
    (htells : ∀ l ∈ s.layersOf r, s.Tells l key) :
    Agrees s' r (⟨i, .act (.registry r (.evictStale view)), s⟩ :: ms) key reg' := by
  obtain ⟨ls, hold, rfl, -⟩ := h.lawful
  obtain rfl := h.layers_of_hold hold
  rw [Session.layersOf_eq h.before] at htells
  obtain ⟨reg₁, reg₂, -, -, hs'⟩ := Session.exists_registry_take h.take
  have hanswered : s'.answered key reg.layers = s.answered key reg.layers :=
    Session.answered_congr fun l _ => by rw [hs', Session.answer_setRegistry]
  have htake := h.take_registry
  cases htake
  refine of_epoch h rfl fun e he => ?_
  rw [hanswered, Session.answered_eq_recorded htells]
  exact (Cache.get?_evictStale.1 he).2

/-- A registry that is new has cached nothing, and nobody has read of it. -/
theorem of_new {tasks : List (Task Unit)} (hsound : Sound ms ⟨s, tasks⟩)
    (htake : s.take a = some (answer, s')) (hnone : s.registries[r]? = none)
    (hreg : s'.registries[r]? = some reg) : Agrees s' r (⟨i, .act a, s⟩ :: ms) key reg := by
  obtain ⟨ha, rfl⟩ := Session.eq_empty_of_take htake hnone hreg
  refine ⟨fun e he => (by cases he), fun j new ls before heq => ?_⟩
  have hmem : (⟨.registry r .epoch, (0 : Nat)⟩ : Fact) ∈ history j (⟨i, .act a, s⟩ :: ms) := by
    rw [heq]
    exact List.mem_append_right _ (List.mem_cons_of_mem _ List.mem_cons_self)
  rcases mem_history_cons htake hmem with ⟨-, hfact⟩ | hmem
  · exact absurd (congrArg Fact.action hfact).symm (ha _)
  · obtain ⟨reg₁, hreg₁, -⟩ := hsound.epoch_le j r _ hmem
    rw [hnone] at hreg₁
    cases hreg₁

end Agrees

/-! ### Sources that change in refreshes -/

/-- What happens to a key in the sources of a registry at a moment, after which there is another
session. What they answer changes only while a refresh is under way that has yet to evict; when one
evicts, it has recorded what they answer; and what is recorded in a layer that is put in is what its
source answers. -/
structure InOrder (r : RegistryId) (key : String) (ms : List Moment) (e : Moment) (s' : Session) :
    Prop where
  answers : s'.AnswersAs e.session r key ∨ ∃ j, isRenewing r (history j ms) = true
  evicts : ∀ view, e.step = .act (.registry r (.evictStale view)) →
    ∀ l ∈ e.session.layersOf r, e.session.Tells l key
  publishes : ∀ new, e.step = .act (.registry r (.setLayers new)) →
    ∀ l ∈ new, l ∉ e.session.layersOf r → e.session.Tells l key

/-- In a part of a run that leads to a session a key is in order at every moment. -/
def Orderly (r : RegistryId) (key : String) (earlier : List Moment) : List Moment → Session → Prop
  | [], _ => True
  | e :: part, s' => InOrder r key (part ++ earlier) e s' ∧ Orderly r key earlier part e.session

/-- After these moments nothing is cached of a key that sources have not answered since: nobody has
resolved a key of the registry yet that was not cached, or at the last moment the key was evicted, or
a refresh evicted that has recorded what the sources answer. -/
def ClearsUp (r : RegistryId) (key : String) (ms : List Moment) : Prop :=
  (∀ e ∈ ms, e.step ≠ .act (.registry r .epoch)) ∨ ∃ e before, ms = e :: before ∧
    ((∃ k, (k = none ∨ k = some key) ∧ e.step = .act (.registry r (.invalidate k))) ∨
      ∃ view, e.step = .act (.registry r (.evictStale view)) ∧
        ∀ l ∈ e.session.layersOf r, e.session.Tells l key)

/-- What is cached of a key can be relied on in a part of a run that leads to a session: the key was
cleared up before the part, and has been in order since. -/
def Reliable (r : RegistryId) (key : String) (earlier part : List Moment) (s' : Session) : Prop :=
  ∃ first last, earlier = last ++ first ∧ ClearsUp r key first ∧ Orderly r key first (part ++ last) s'

theorem Orderly.before {m m' : Machine Unit} {earlier first last : List Moment}
    (h : Orderly r key earlier (last ++ first) m'.session) (hrun : m.Run last m') :
    Orderly r key earlier first m.session := by
  induction hrun with
  | start => exact h
  | step _ _ _ ih => exact ih h.2

theorem Orderly.after {earlier first last : List Moment}
    (h : Orderly r key earlier (last ++ first) s') : Orderly r key (first ++ earlier) last s' := by
  induction last generalizing s' with
  | nil => trivial
  | cons e last ih => exact ⟨by rw [← List.append_assoc]; exact h.1, ih h.2⟩

namespace Machine

variable {m m' : Machine Unit} {part : List Moment}

/-- What a registry has cached of a key agrees with what its sources answer, or a refresh is under way
that has yet to evict. -/
def InStep (r : RegistryId) (key : String) (ms : List Moment) (m : Machine Unit) : Prop :=
  (∃ j, isRenewing r (history j ms) = true) ∨
    ∀ reg, m.session.registries[r]? = some reg → Agrees m.session r ms key reg

/-- A refresh that has yet to evict is under way until it evicts. -/
theorem Sectioned.isRenewing_act {tasks : List (Task Unit)} (h : Sectioned ms ⟨s, tasks⟩)
    (hlaw : sections.lawful (history i ms) a) (htake : s.take a = some (answer, s'))
    (ha : ∀ view, a ≠ .registry r (.evictStale view)) (hj : isRenewing r (history j ms) = true) :
    isRenewing r (history j (⟨i, .act a, s⟩ :: ms)) = true := by
  rw [history_cons htake]
  split
  · rename_i hij
    subst hij
    have hopen := h.ready i r hj
    rw [isRenewing_cons]
    cases a with
    | registry r' b =>
      by_cases hr : r' = r
      · subst hr
        cases b with
        | beginChange => exact absurd (hlaw.2.symm.trans hopen) Bool.false_ne_true
        | endChange => exact absurd (hlaw.2.symm.trans hj) Bool.false_ne_true
        | evictStale view => exact absurd rfl (ha view)
        | _ => exact hj
      · cases b with
        | beginChange | evictStale => simpa [Fact.renewing, hr] using hj
        | _ => exact hj
    | _ => exact hj
  · exact hj

theorem InStep.step {step : TaskStep} (h : InStep r key ms m) (hsectioned : Sectioned ms m)
    (hpend : (m.tasks[i]?).bind Task.pending? = some step) (hadv : m.advance i = some m')
    (hin : InOrder r key ms ⟨i, step, m.session⟩ m'.session) :
    InStep r key (⟨i, step, m.session⟩ :: ms) m' := by
  obtain ⟨s, tasks⟩ := m
  rcases advance_cases hpend hadv with ⟨a, answer, next, s', ht, rfl, htake, rfl⟩ |
    ⟨script, next, ht, rfl, rfl⟩
  · have hsound := hsectioned.sound
    cases hreg : s.registries[r]? with
    | none => exact .inr fun reg' hreg' => .of_new hsound htake hreg hreg'
    | some reg =>
      obtain ⟨reg', hturn⟩ := exists_turn hsound ht htake hreg
      have hagrees : ∀ {ms}, Agrees s' r ms key reg' → ∀ reg₁, s'.registries[r]? = some reg₁ →
          Agrees s' r ms key reg₁ := fun hf reg₁ hreg₁ => by
        rwa [← Option.some.inj (hturn.after.symm.trans hreg₁)]
      by_cases hevict : ∃ view, a = .registry r (.evictStale view)
      · obtain ⟨view, rfl⟩ := hevict
        exact .inr (hagrees (.of_evictStale hturn (hin.evicts view rfl)))
      · push Not at hevict
        have hrenewing : (∃ j, isRenewing r (history j ms) = true) →
            InStep r key (⟨i, .act a, s⟩ :: ms) ⟨s', tasks.set i (next answer)⟩ := fun ⟨j, hj⟩ =>
          .inl ⟨j, hsectioned.isRenewing_act (hsectioned.abides.lawful ht) htake hevict hj⟩
        rcases h with hj | hf
        · exact hrenewing hj
        · rcases hin.answers with hsame | hj
          · exact .inr (hagrees ((hf reg hreg).act hturn hsame fun new heq =>
              hin.publishes new (by rw [heq])))
          · exact hrenewing hj
  · simp only [InStep, history_cons_run]
    exact h.imp_right fun hf reg hreg => (hf reg hreg).run script

theorem InStep.run_append (h : InStep r key ms m) (hsectioned : Sectioned ms m) (hrun : m.Run part m')
    (horderly : Orderly r key ms part m'.session) : InStep r key (part ++ ms) m' := by
  induction hrun with
  | start => exact h
  | step hrun hpend hadv ih =>
    exact (ih horderly.2).step (hsectioned.run_append hrun) hpend hadv horderly.1

/-- What a task has done it has done at some moment. -/
theorem exists_moment {f : Fact} (h : f ∈ history i ms) : ∃ e ∈ ms, e.step = .act f.action := by
  obtain ⟨e, he, hfact⟩ := List.mem_filterMap.1 h
  refine ⟨e, List.mem_of_mem_filter he, ?_⟩
  rw [Moment.fact?] at hfact
  split at hfact
  · obtain ⟨_, -, rfl⟩ := Option.map_eq_some_iff.1 hfact
    assumption
  · cases hfact

/-- Who reads layers has asked for the epoch before. -/
theorem exists_epoch {new before : History} {n : Nat} (h : history i ms =
      new ++ ⟨.registry r .layers, ls⟩ :: ⟨.registry r .epoch, n⟩ :: before) :
    ∃ e ∈ ms, e.step = .act (.registry r .epoch) :=
  exists_moment (f := ⟨.registry r .epoch, n⟩) <| by
    rw [h]
    exact List.mem_append_right _ (List.mem_cons_of_mem _ List.mem_cons_self)

section Start

variable {scripts : List Script}

/-- Nothing is cached in a registry of which nobody has asked for the epoch. -/
theorem get?_eq_none_of_run (hs : ∀ reg ∈ s.registries, reg.IsNumbered)
    (hempty : ∀ reg ∈ s.registries, reg.cache.entries = .empty)
    (hrun : Machine.Run ⟨s, scripts.map Script.task⟩ ms m)
    (hepoch : ∀ e ∈ ms, e.step ≠ .act (.registry r .epoch)) {reg : Registry}
    (hreg : m.session.registries[r]? = some reg) : reg.cache.entries.get? key = none := by
  induction hrun generalizing reg with
  | start =>
    rw [hempty reg (List.mem_of_getElem? hreg)]
    rfl
  | @step ms m₁ m₂ i step hrun hpend hadv ih =>
    obtain ⟨-, hepoch'⟩ := List.forall_mem_cons.1 hepoch
    have hsound := sound_run hs hrun
    obtain ⟨s₁, tasks⟩ := m₁
    rcases advance_cases hpend hadv with ⟨a, answer, next, s', ht, rfl, htake, rfl⟩ |
      ⟨script, next, ht, rfl, rfl⟩
    · cases hreg₁ : s₁.registries[r]? with
      | none =>
        obtain ⟨-, rfl⟩ := Session.eq_empty_of_take htake hreg₁ hreg
        rfl
      | some reg₁ =>
        obtain ⟨reg₂, hturn⟩ := exists_turn hsound ht htake hreg₁
        obtain rfl := Option.some.inj (hturn.after.symm.trans hreg)
        have hnone := ih hepoch' hreg₁
        rcases hturn.cases with ⟨-, -, hcache⟩ | ⟨b, y, heq, hask⟩
        · rw [hcache]
          exact hnone
        · cases heq
          have hfill : ∀ k x n, b ≠ .fill k x n := by
            rintro k x n rfl
            obtain ⟨new, ls, before, heq, -⟩ := hturn.lawful
            obtain ⟨e, he, hstep⟩ := exists_epoch heq
            exact hepoch' e he hstep
          obtain ⟨-, hentries⟩ := Registry.cache_take hfill hask
          cases he : reg₂.cache.entries.get? key with
          | none => rfl
          | some e =>
            rw [hentries key e he] at hnone
            cases hnone
    · exact ih hepoch' hreg

theorem inStep_of_clearsUp (hs : ∀ reg ∈ s.registries, reg.IsNumbered)
    (hempty : ∀ reg ∈ s.registries, reg.cache.entries = .empty)
    (hrun : Machine.Run ⟨s, scripts.map Script.task⟩ ms m) (h : ClearsUp r key ms) :
    InStep r key ms m := by
  rcases h with hepoch | ⟨e, before, rfl, h⟩
  · refine .inr fun reg hreg => ⟨fun e he => ?_, fun j new ls before heq => ?_⟩
    · rw [get?_eq_none_of_run hs hempty hrun hepoch hreg] at he
      cases he
    · obtain ⟨e, he, hstep⟩ := exists_epoch heq
      exact absurd hstep (hepoch e he)
  cases hrun with
  | @step _ m₁ m₂ i step hrun hpend hadv =>
    have hsound := sound_run hs hrun
    obtain ⟨s₁, tasks⟩ := m₁
    rcases advance_cases hpend hadv with ⟨a, answer, next, s', ht, rfl, htake, rfl⟩ |
      ⟨script, next, ht, rfl, rfl⟩
    · have hagrees : ∀ b, a = .registry r b → ∃ reg reg', Turn r before i a answer s₁ s' reg reg' := by
        rintro b rfl
        obtain ⟨reg, -, hreg, -⟩ := Session.exists_registry_take htake
        exact ⟨reg, exists_turn hsound ht htake hreg⟩
      rcases h with ⟨k, hk, heq⟩ | ⟨view, heq, htells⟩
      · cases heq
        obtain ⟨reg, reg', hturn⟩ := hagrees _ rfl
        refine .inr fun reg₁ hreg₁ => ?_
        rw [← Option.some.inj (hturn.after.symm.trans hreg₁)]
        exact .of_invalidate hk hturn
      · cases heq
        obtain ⟨reg, reg', hturn⟩ := hagrees _ rfl
        refine .inr fun reg₁ hreg₁ => ?_
        rw [← Option.some.inj (hturn.after.symm.trans hreg₁)]
        exact .of_evictStale hturn htells
    · rcases h with ⟨k, -, heq⟩ | ⟨view, heq, -⟩ <;> cases heq

end Start

end Machine

end Strata
