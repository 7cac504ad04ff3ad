import Strata.Proofs.Callbacks
import Strata.Proofs.Interference
import Strata.Proofs.Reading

/-!
Reading a key that is not in the cache. The layers are asked in order up to the first one that has a
value; a layer that fails counts as one without a value, and its failure is observed
(`Consultation`). This is so whatever else happens in the meantime. If nobody else changes the
registry the result is put into the cache unless a layer has failed on the way, also if it is that
there is no value. From then on it is read from there until it is evicted (`Session.Rests`).

Main statement: `read_of_uncached`.
-/

namespace Strata

open Session RegistryId Machine Strata.Task

variable {E : Session → Session → Prop} {S : ScriptRun} {s s₁ s' : Session} {r : RegistryId}
  {reg reg' : Registry} {i : Nat} {key : String} {ms own first : List Moment} {l : Layer}
  {ls : List Layer}

namespace Machine

/-- The sources that are asked for a key, with what they answer, the last one first. -/
def lookups (ms : List Moment) : List (SourceId × String × Except Failure (Option String)) :=
  ms.filterMap fun m => match m.step with
    | .act (.lookup n key) => some (n, key, (m.session.lookup n key).1.1)
    | _ => none

/-- The failures that are observed, the last one first. -/
def observations (ms : List Moment) : List (Circumstance × Failure) :=
  ms.filterMap fun m => match m.step with
    | .act (.observe c e) => some (c, e)
    | _ => none

theorem lookups_append (ms ms' : List Moment) : lookups (ms ++ ms') = lookups ms ++ lookups ms' :=
  List.filterMap_append

theorem observations_append (ms ms' : List Moment) :
    observations (ms ++ ms') = observations ms ++ observations ms' :=
  List.filterMap_append

end Machine

/-! ### Consulting the layers -/

/-- A layer and what its source has answered when it was asked for a key. -/
abbrev LayerReply := Layer × Except Failure (Option String)

namespace LayerReply

/-- What a key resolves to by a reply. A failure counts as no value. -/
def resolved (x : LayerReply) : Option Resolved :=
  x.2.toOption.join.map fun value => ⟨value, x.1.name⟩

/-- The failure that a reply is, as it is observed. -/
def failure? (key : String) (x : LayerReply) : Option (Circumstance × Failure) :=
  match x.2 with
  | .ok _ => none
  | .error e => some (.lookup x.1.name key, e)

/-- Whether a reply is a failure. -/
def isFailure (x : LayerReply) : Bool := !x.2.isOk

end LayerReply

/-- Layers are asked in order, each of them once, up to the first one that has a value. The failures
that are met are observed in order, and no others. -/
structure Consultation (key : String) (ls : List Layer) (ms : List Moment)
    (replies : List LayerReply) : Prop where
  order : replies.map (·.1) <+: ls
  silent : ∀ x ∈ replies.dropLast, x.resolved = none
  all : (∀ x ∈ replies, x.resolved = none) → replies.map (·.1) = ls
  asked : (lookups ms).reverse = replies.map fun x => (x.1.source, key, x.2)
  observed : (observations ms).reverse = replies.filterMap (·.failure? key)

namespace Consultation

variable {replies : List LayerReply}

theorem nil : Consultation key [] [] [] :=
  ⟨List.prefix_rfl, fun _ hx => absurd hx List.not_mem_nil, fun _ => rfl, rfl, rfl⟩

/-- A layer that has a value is the last one that is asked. -/
theorem of_value {value : String} (ls : List Layer)
    (hlookups : lookups ms = [(l.source, key, .ok (some value))]) (hquiet : observations ms = []) :
    Consultation key (l :: ls) ms [(l, .ok (some value))] := by
  refine ⟨⟨ls, rfl⟩, fun _ hx => absurd hx List.not_mem_nil, fun h => ?_, ?_, ?_⟩
  · cases h _ List.mem_cons_self
  · rw [hlookups]
    rfl
  · rw [hquiet]
    rfl

/-- After a layer without a value the next one is asked. -/
theorem cons {a : Except Failure (Option String)} (h : Consultation key ls ms replies)
    (ha : LayerReply.resolved (l, a) = none) (hlookups : lookups first = [(l.source, key, a)])
    (hobserved : observations first = (LayerReply.failure? key (l, a)).toList) :
    Consultation key (l :: ls) (ms ++ first) ((l, a) :: replies) := by
  refine ⟨(List.prefix_cons_inj l).2 h.order, ?_, fun hnone => ?_, ?_, ?_⟩
  · intro x hx
    cases replies with
    | nil => exact absurd hx List.not_mem_nil
    | cons y replies =>
      rw [List.dropLast_cons_cons] at hx
      rcases List.mem_cons.1 hx with rfl | hx
      · exact ha
      · exact h.silent x hx
  · rw [List.map_cons, h.all fun x hx => hnone x (List.mem_cons_of_mem _ hx)]
  · rw [lookups_append, hlookups, List.reverse_append, h.asked]
    rfl
  · rw [observations_append, hobserved, List.reverse_append, h.observed, List.filterMap_cons]
    cases LayerReply.failure? key (l, a) <;> rfl

/-- Moments at which nobody is asked and nothing is observed do not count. -/
theorem append {before after : List Moment} (h : Consultation key ls ms replies)
    (hbefore : lookups before = [] ∧ observations before = [])
    (hafter : lookups after = [] ∧ observations after = []) :
    Consultation key ls (after ++ (ms ++ before)) replies := by
  refine ⟨h.order, h.silent, h.all, ?_, ?_⟩
  · rw [lookups_append, lookups_append, hbefore.1, hafter.1, List.append_nil, List.nil_append,
      h.asked]
  · rw [observations_append, observations_append, hbefore.2, hafter.2, List.append_nil,
      List.nil_append, h.observed]

/-- If there are layers one of them is asked. -/
theorem lookups_ne_nil (h : Consultation key ls ms replies) (hls : ls ≠ []) : lookups ms ≠ [] := by
  intro hms
  have hasked := h.asked
  rw [hms, List.reverse_nil] at hasked
  obtain rfl := List.map_eq_nil_iff.1 hasked.symm
  exact hls (h.all fun _ hx => absurd hx List.not_mem_nil).symm

end Consultation

/-- A relation between sessions that what others do keeps to, and asking sources as well. -/
structure Lenient (E : Session → Session → Prop) : Prop where
  refl : ∀ s, E s s
  trans : ∀ s s₁ s₂, E s s₁ → E s₁ s₂ → E s s₂
  outward : ∀ {a : Action} {answer : a.Answer} {s s' : Session}, a.isOutward = true →
    s.take a = some (answer, s') → E s s'

theorem lenient_true : Lenient fun _ _ => True :=
  ⟨fun _ => trivial, fun _ _ _ _ _ => trivial, fun _ _ => trivial⟩

theorem lenient_keeps (r : RegistryId) : Lenient (Keeps r) :=
  ⟨fun _ => .inl rfl, fun _ _ _ => Keeps.trans, fun ha htake => keeps_take htake (by
    rw [registryOf?_outward ha]
    nofun)⟩

namespace Lenient

variable (hE : Lenient E)
include hE

theorem amid : Outward fun α t => ∀ s own (a : α) s', Amid E i t s own a s' → E s s' where
  done := fun a s own b s' h => (amid_done.1 h).2.2
  bind := fun ht hf s own b s' h => by
    obtain ⟨a, s₁, own₁, own₂, h₁, h₂, -⟩ := exists_of_amid_bind hE.refl h
    exact hE.trans _ _ _ (ht _ _ _ _ h₁) (hf a _ _ _ _ h₂)
  act := fun a ha s own x s' h => by
    obtain ⟨s₁, s₂, h₁, htake, h₂, -⟩ := amid_act.1 h
    exact hE.trans _ _ _ h₁ (hE.trans _ _ _ (hE.outward ha htake) h₂)
  run := fun script s own u s' h => by
    rw [run] at h
    split at h
    · exact (amid_done.1 h).2.2
    · cases h with
      | run h₁ hdone => exact hE.trans _ _ _ h₁ (amid_done.1 hdone).2.2

/-- A source is asked once. -/
theorem own_of_lookUp {n : SourceId} {a : Except Failure (Option String)}
    (h : Amid E i (lookUp n key) s own a s') :
    lookups own = [(n, key, a)] ∧ observations own = [] := by
  obtain ⟨x, s₁, own₁, own₂, hact, hrest, rfl⟩ := exists_of_amid_bind hE.refl h
  obtain ⟨s₂, s₃, -, htake, -, rfl⟩ := amid_act.1 hact
  obtain rfl : (s₂.lookup n key).1 = x := congrArg Prod.fst (Option.some.inj htake)
  obtain ⟨u, s₄, own₃, own₄, hrun, hdone, rfl⟩ := exists_of_amid_bind hE.refl hrest
  obtain rfl := own_of_amid_run hrun
  obtain ⟨rfl, rfl, -⟩ := amid_done.1 hdone
  exact ⟨rfl, rfl⟩

/-- What layers resolve a key to, and whether one of them has failed on the way. -/
theorem exists_consultation : ∀ {ls : List Layer} {s s' : Session} {own : List Moment}
    {x : Option Resolved × Bool}, Amid E i (consult key ls) s own x s' →
    ∃ replies, Consultation key ls own replies ∧
      x = (replies.findSome? LayerReply.resolved, replies.any LayerReply.isFailure)
  | [], s, s', own, x, h => by
    obtain ⟨rfl, rfl, -⟩ := amid_done.1 h
    exact ⟨[], .nil, rfl⟩
  | l :: ls, s, s', own, x, h => by
    obtain ⟨a, s₁, own₁, own₂, hlook, hrest, rfl⟩ := exists_of_amid_bind hE.refl h
    obtain ⟨hlookups, hquiet⟩ := hE.own_of_lookUp hlook
    rcases a with e | _ | value
    · obtain ⟨u, s₂, own₃, own₄, hobs, hnext, rfl⟩ := exists_of_amid_bind hE.refl hrest
      obtain ⟨_, _, -, -, -, rfl⟩ := amid_act.1 hobs
      obtain ⟨⟨y, d⟩, s₃, own₅, own₆, hconsult, hdone, rfl⟩ := exists_of_amid_bind hE.refl hnext
      obtain ⟨rfl, rfl, -⟩ := amid_done.1 hdone
      obtain ⟨replies, hreplies, heq⟩ := exists_consultation hconsult
      obtain ⟨rfl, -⟩ := Prod.mk.inj heq
      refine ⟨(l, .error e) :: replies, ?_, rfl⟩
      rw [List.nil_append, List.append_assoc]
      refine hreplies.cons rfl ?_ ?_
      · rw [lookups_append, hlookups]
        rfl
      · rw [observations_append, hquiet]
        rfl
    · obtain ⟨replies, hreplies, rfl⟩ := exists_consultation hrest
      exact ⟨(l, .ok none) :: replies, hreplies.cons rfl hlookups hquiet, rfl⟩
    · obtain ⟨rfl, rfl, -⟩ := amid_done.1 hrest
      exact ⟨[(l, .ok (some value))], .of_value ls hlookups hquiet, rfl⟩

end Lenient

/-! ### Reading a key -/

/-- How a key is read: its entry is there; or a layer fails, and the result is not put into the
cache; or no layer fails, and it is. -/
inductive ReadsBy (E : Session → Session → Prop) (i : Nat) (r : RegistryId) (key : String)
    (s : Session) (own : List Moment) (x : Reading) (s' : Session) : Prop where
  | cached {s₁ : Session} {reg : Registry} {e : CacheEntry} : E s s₁ →
    s₁.registries[r]? = some reg → reg.cache.entries.get? key = some e →
    own = [⟨i, .act (.registry r (.cached key)), s₁⟩] → x = Cache.hit e →
    ReadsBy E i r key s own x s'
  | degraded {s₁ : Session} {reg : Registry} {replies : List LayerReply} : E s s₁ →
    s₁.registries[r]? = some reg → ⟨i, .act (.registry r .layers), s₁⟩ ∈ own →
    Consultation key reg.layers own replies → replies.any LayerReply.isFailure = true →
    x = ⟨replies.findSome? LayerReply.resolved, none⟩ → E s s' → ReadsBy E i r key s own x s'
  | filled {s₁ s₂ s₃ : Session} {reg₁ reg₂ reg₃ : Registry} {replies : List LayerReply}
    {y : Option Resolved} : E s s₁ → s₁.registries[r]? = some reg₁ →
    ⟨i, .act (.registry r .layers), s₁⟩ ∈ own → Consultation key reg₁.layers own replies →
    replies.any LayerReply.isFailure = false → y = replies.findSome? LayerReply.resolved →
    E s s₂ → s₂.registries[r]? = some reg₂ → E s s₃ → s₃.registries[r]? = some reg₃ →
    ⟨i, .act (.registry r (.fill key y reg₂.cache.epoch)), s₃⟩ ∈ own →
    x = (reg₃.cache.fill key y reg₂.cache.epoch).1 →
    E (s₃.setRegistry r { reg₃ with cache := (reg₃.cache.fill key y reg₂.cache.epoch).2 }) s' →
    ReadsBy E i r key s own x s'

/-- A registry is asked for something that it only tells. -/
theorem Lenient.exists_of_ask (hE : Lenient E) {b : RegistryAction} {x : b.Answer}
    (hb : ∀ {reg reg' : Registry} {x : b.Answer}, reg.take b = some (x, reg') → reg' = reg)
    (h : Amid E i (ask r b) s own x s') : ∃ s₁ reg, E s s₁ ∧ s₁.registries[r]? = some reg ∧
      reg.take b = some (x, reg) ∧ E s s' ∧ own = [⟨i, .act (.registry r b), s₁⟩] := by
  obtain ⟨s₁, reg, reg', h₁, hreg, htake, h', rfl⟩ := amid_ask.1 h
  obtain rfl := hb htake
  rw [setRegistry_self hreg] at h'
  exact ⟨s₁, reg', h₁, hreg, htake, hE.trans _ _ _ h₁ h', rfl⟩

/-- A key is read in one of these ways. -/
theorem Lenient.readsBy (hE : Lenient E) (hkey : key ≠ "") {x : Reading}
    (h : Amid E i (r.read key) s own x s') : ReadsBy E i r key s own x s' := by
  rw [RegistryId.read, if_neg (by simpa using hkey)] at h
  obtain ⟨hit, s₁, own₁, own₂, hcached, hrest, rfl⟩ := exists_of_amid_bind hE.refl h
  obtain ⟨s₀, reg, h₀, hreg, htake, h₁, rfl⟩ := hE.exists_of_ask (fun h => by cases h; rfl) hcached
  cases htake
  cases hentry : reg.cache.entries.get? key with
  | some e =>
    rw [Cache.get?, hentry] at hrest
    obtain ⟨rfl, rfl, -⟩ := amid_done.1 hrest
    exact .cached h₀ hreg hentry rfl rfl
  | none =>
    rw [Cache.get?, hentry] at hrest
    -- the epoch and the layers are read, and then the layers are asked
    obtain ⟨epoch, s₂, own₃, own₄, hepoch, hrest, rfl⟩ := exists_of_amid_bind hE.refl hrest
    obtain ⟨s₃, reg₂, h₃, hreg₂, htake, h₂, rfl⟩ :=
      hE.exists_of_ask (fun h => by cases h; rfl) hepoch
    cases htake
    obtain ⟨layers, s₄, own₅, own₆, hlayers, hrest, rfl⟩ := exists_of_amid_bind hE.refl hrest
    obtain ⟨s₅, reg₁, h₅, hreg₁, htake, h₄, rfl⟩ :=
      hE.exists_of_ask (fun h => by cases h; rfl) hlayers
    cases htake
    have h₂ := hE.trans _ _ _ h₁ h₂
    have h₄ := hE.trans _ _ _ h₂ h₄
    obtain ⟨⟨y, d⟩, s₆, own₇, own₈, hconsult, hrest, rfl⟩ := exists_of_amid_bind hE.refl hrest
    have h₆ := hE.trans _ _ _ h₄ (hE.amid.consult key _ _ _ _ _ hconsult)
    obtain ⟨replies, hreplies, heq⟩ := hE.exists_consultation hconsult
    obtain ⟨hy, hd⟩ := Prod.mk.inj heq
    cases d with
    | true =>
      obtain ⟨rfl, rfl, h'⟩ := amid_done.1 hrest
      refine .degraded (hE.trans _ _ _ h₂ h₅) hreg₁ (by simp) ?_ hd.symm (by rw [hy])
        (hE.trans _ _ _ h₆ h')
      simp only [List.append_assoc]
      exact hreplies.append ⟨rfl, rfl⟩ ⟨rfl, rfl⟩
    | false =>
      obtain ⟨s₇, reg₃, reg', h₇, hreg₃, htake, h', rfl⟩ := amid_ask.1 hrest
      cases htake
      refine .filled (hE.trans _ _ _ h₂ h₅) hreg₁ (by simp) ?_ hd.symm hy
        (hE.trans _ _ _ h₁ h₃) hreg₂ (hE.trans _ _ _ h₆ h₇) hreg₃ (by simp) rfl h'
      simp only [List.append_assoc]
      exact hreplies.append ⟨rfl, rfl⟩ ⟨rfl, rfl⟩

/-! ### The entry of a key -/

/-- Whether an action evicts the entry of a key that resolves to something. -/
def RegistryAction.evicts (key : String) (x : Option Resolved) : RegistryAction → Bool
  | .invalidate none => true
  | .invalidate (some k) => k = key
  | .evictChanged updates => updates.any fun u => u.1 = key && u.2 ≠ x
  | .evictStale view => view.resolve key ≠ x
  | _ => false

/-- At a moment the entry of a key that resolves to something is evicted from the cache of a
registry. -/
def Machine.Moment.Evicts (r : RegistryId) (key : String) (x : Option Resolved) (m : Moment) :
    Prop :=
  ∃ b, m.step = .act (.registry r b) ∧ b.evicts key x = true

/-- There is an entry of a key in the cache of a registry. -/
def Session.HasEntry (r : RegistryId) (key : String) (e : CacheEntry) (s : Session) : Prop :=
  ∃ reg, s.registries[r]? = some reg ∧ reg.cache.entries.get? key = some e

/-- An entry stands in the cache until it is evicted, whatever tasks do. As long as it is there,
reading the key takes one step, in which nobody is asked, and gives the entry. -/
def Session.Rests (r : RegistryId) (key : String) (e : CacheEntry) (s : Session) : Prop :=
  ∀ (tasks : List (Task Unit)) ms m, Machine.Run ⟨s, tasks⟩ ms m →
    (∀ x ∈ ms, ¬ x.Evicts r key e.resolved) → ∀ S own x s', Runs S (r.read key) m.session own x s' ↔
      own = [⟨0, .act (.registry r (.cached key)), m.session⟩] ∧ x = Cache.hit e ∧ s' = m.session

variable {e : CacheEntry}

theorem Registry.entry_take {b : RegistryAction} {answer : b.Answer}
    (htake : reg.take b = some (answer, reg')) (hb : b.evicts key e.resolved = false)
    (he : reg.cache.entries.get? key = some e) : reg'.cache.entries.get? key = some e := by
  cases b with
  | lock =>
    simp only [Registry.take] at htake
    split at htake <;> cases htake
    exact he
  | fill k x epoch =>
    cases htake
    exact Cache.get?_fill_of_some he
  | invalidate k =>
    cases htake
    cases k with
    | none => cases hb
    | some k =>
      exact Cache.get?_invalidate_some.2 ⟨he, fun heq => by simp [RegistryAction.evicts, heq] at hb⟩
  | evictChanged updates =>
    cases htake
    refine Cache.get?_evictChanged.2 ⟨he, fun u hu hkey => ?_⟩
    by_contra hne
    simp only [RegistryAction.evicts, List.any_eq_false] at hb
    exact hb u hu (by simp [hkey, hne])
  | evictStale view =>
    cases htake
    exact Cache.get?_evictStale.2 ⟨he, (not_not.1 (of_decide_eq_false hb)).symm⟩
  | _ =>
    cases htake
    exact he

theorem hasEntry_take {a : Action} {answer : a.Answer} (htake : s.take a = some (answer, s'))
    (ha : ¬ (⟨i, .act a, s₁⟩ : Moment).Evicts r key e.resolved) (h : s.HasEntry r key e) :
    s'.HasEntry r key e := by
  obtain ⟨reg, hreg, he⟩ := h
  by_cases hr : ∃ r₁ b, a = .registry r₁ b
  · obtain ⟨r₁, b, rfl⟩ := hr
    obtain ⟨reg₁, reg', hreg₁, hb, rfl⟩ := exists_registry_take htake
    by_cases hr₁ : r = r₁
    · subst hr₁
      cases hreg.symm.trans hreg₁
      refine ⟨reg', registries_setRegistry hreg reg', Registry.entry_take hb ?_ he⟩
      exact Bool.eq_false_iff.2 fun hevicts => ha ⟨b, rfl, hevicts⟩
    · exact ⟨reg, (registries_setRegistry_of_ne hr₁).trans hreg, he⟩
  · push Not at hr
    obtain ⟨listeners, hreg'⟩ := (sameRegistries_take hr htake).kept r reg hreg
    exact ⟨_, hreg', he⟩

theorem hasEntry_run {tasks : List (Task Unit)} {m : Machine Unit}
    (hrun : Machine.Run ⟨s, tasks⟩ ms m) (hms : ∀ x ∈ ms, ¬ x.Evicts r key e.resolved)
    (h : s.HasEntry r key e) : m.session.HasEntry r key e := by
  induction hrun with
  | start => exact h
  | @step ms m₁ m₂ j step _ hpend hadv ih =>
    have ih := ih fun x hx => hms x (List.mem_cons_of_mem _ hx)
    obtain ⟨s₁, tasks₁⟩ := m₁
    rcases advance_cases hpend hadv with ⟨a, answer, next, s₂, -, rfl, htake, rfl⟩ |
      ⟨script, next, -, rfl, rfl⟩
    · exact hasEntry_take htake (hms _ List.mem_cons_self) ih
    · exact ih

/-- What stands in the cache is read from there. -/
theorem runs_read_of_hasEntry (hkey : key ≠ "") (h : s.HasEntry r key e) {x : Reading} :
    Runs S (r.read key) s own x s' ↔
      own = [⟨0, .act (.registry r (.cached key)), s⟩] ∧ x = Cache.hit e ∧ s' = s := by
  obtain ⟨reg, hreg, he⟩ := h
  have htake : reg.take (.cached key) = some (some (Cache.hit e), reg) := by
    rw [Registry.take, Cache.get?, he, Option.map_some]
  rw [RegistryId.read, if_neg (by simpa using hkey)]
  constructor
  · intro h
    obtain ⟨hit, s₁, own₁, own₂, hcached, hrest, rfl⟩ := runs_bind.1 h
    obtain ⟨reg₁, reg', hreg₁, htake', rfl, rfl⟩ := runs_ask.1 hcached
    cases hreg.symm.trans hreg₁
    cases htake.symm.trans htake'
    obtain ⟨rfl, rfl, rfl⟩ := runs_done.1 hrest
    exact ⟨rfl, rfl, setRegistry_self hreg⟩
  · rintro ⟨rfl, rfl, rfl⟩
    have hcached : Runs S (ask r (.cached key)) s' _ _ s' :=
      runs_ask.2 ⟨reg, reg, hreg, htake, (setRegistry_self hreg).symm, rfl⟩
    exact runs_bind.2 ⟨_, s', _, [], hcached, .done _ _, rfl⟩

theorem rests_of_hasEntry (hkey : key ≠ "") (h : s.HasEntry r key e) : s.Rests r key e :=
  fun _ _ _ hrun hms _ _ _ _ => runs_read_of_hasEntry hkey (hasEntry_run hrun hms h)

/-! ### Reading comes to an end -/

namespace Lenient

variable (hE : Lenient E)
include hE

theorem exists_lookUp (i : Nat) (n : SourceId) (key : String) (s : Session) :
    ∃ a own s', Amid E i (lookUp n key) s own a s' := by
  have hact : Amid E i (act (.lookup n key)) s _ (s.lookup n key).1 (s.lookup n key).2 :=
    amid_act.2 ⟨s, _, hE.refl s, rfl, hE.refl _, rfl⟩
  have hrun : ∀ script s, Amid E i (run script) s [] () s := by
    intro script s
    rw [run]
    split
    · exact .done () (hE.refl s)
    · exact .run (hE.refl s) (.done () (hE.refl s))
  exact ⟨_, _, _, hact.bind hE.trans ((hrun _ _).bind hE.trans (.done _ (hE.refl _)))⟩

/-- Whatever sources answer, consulting comes to an end. -/
theorem exists_consult (i : Nat) (key : String) : ∀ (ls : List Layer) (s : Session),
    ∃ x own s', Amid E i (consult key ls) s own x s'
  | [], s => ⟨_, _, s, .done _ (hE.refl s)⟩
  | l :: ls, s => by
    obtain ⟨a, own, s₁, hlook⟩ := hE.exists_lookUp i l.source key s
    rcases a with e | _ | value
    · have hobs : Amid E i (act (.observe (.lookup l.name key) e)) s₁ _ () _ :=
        amid_act.2 ⟨s₁, _, hE.refl _, rfl, hE.refl _, rfl⟩
      obtain ⟨x, own', s', hrest⟩ := exists_consult i key ls _
      exact ⟨_, _, s', hlook.bind hE.trans
        (hobs.bind hE.trans (hrest.bind hE.trans (.done _ (hE.refl _))))⟩
    · obtain ⟨x, own', s', hrest⟩ := exists_consult i key ls s₁
      exact ⟨x, _, s', hlook.bind hE.trans hrest⟩
    · exact ⟨_, _, s₁, hlook.bind hE.trans (.done _ (hE.refl _))⟩

end Lenient

/-- If nobody else changes the registry a key can be read. -/
theorem exists_amid_read (i : Nat) (key : String) (hreg : s.registries[r]? = some reg) :
    ∃ x own s', Amid (Keeps r) i (r.read key) s own x s' := by
  have hE := lenient_keeps r
  have hask : ∀ {s : Session} {b : RegistryAction} {x : b.Answer} {reg reg' : Registry},
      s.registries[r]? = some reg → reg.take b = some (x, reg') →
      Amid (Keeps r) i (ask r b) s _ x (s.setRegistry r reg') := fun {s} _ _ _ _ hreg htake =>
    amid_ask.2 ⟨s, _, _, hE.refl s, hreg, htake, hE.refl _, rfl⟩
  simp only [RegistryId.read]
  split
  · exact ⟨_, _, s, .done _ (hE.refl s)⟩
  have hself := setRegistry_self hreg
  have hcached := hask hreg (b := .cached key) rfl
  rw [hself] at hcached
  cases hentry : reg.cache.get? key with
  | some x =>
    rw [hentry] at hcached
    exact ⟨x, _, s, hcached.bind hE.trans (.done _ (hE.refl s))⟩
  | none =>
    rw [hentry] at hcached
    have hepoch := hask hreg (b := .epoch) rfl
    have hlayers := hask hreg (b := .layers) rfl
    rw [hself] at hepoch hlayers
    obtain ⟨⟨y, d⟩, own, s₁, hconsult⟩ := hE.exists_consult i key reg.layers s
    have hreg₁ := (hE.amid.consult key _ _ _ _ _ hconsult).registry hreg
    suffices h : ∃ x own s', Amid (Keeps r) i (if d = true then .done ⟨y, none⟩
        else ask r (.fill key y reg.cache.epoch)) s₁ own x s' by
      obtain ⟨x, own', s', h⟩ := h
      exact ⟨x, _, s', hcached.bind hE.trans (hepoch.bind hE.trans (hlayers.bind hE.trans
        (hconsult.bind hE.trans h)))⟩
    split
    · exact ⟨_, _, s₁, .done _ (hE.refl _)⟩
    · exact ⟨_, _, _, hask hreg₁ rfl⟩

/-- If nobody else changes the registry the layers are asked for a key that is not in the cache. -/
theorem exists_consultation_of_keeps (hkey : key ≠ "") (hreg : s.registries[r]? = some reg)
    (hentry : reg.cache.entries.get? key = none) {x : Reading}
    (h : Amid (Keeps r) i (r.read key) s own x s') :
    ∃ replies, Consultation key reg.layers own replies := by
  cases (lenient_keeps r).readsBy hkey h with
  | cached h₁ hreg₁ he _ _ =>
    cases hreg₁.symm.trans (h₁.registry hreg)
    cases hentry.symm.trans he
  | degraded h₁ hreg₁ _ hreplies _ _ _ | filled h₁ hreg₁ _ hreplies _ _ _ _ _ _ _ _ _ =>
    cases hreg₁.symm.trans (h₁.registry hreg)
    exact ⟨_, hreplies⟩

/-- Reading a key that is not in the cache. Whatever else happens, the layers that stand are asked
in order up to the first one that has a value, and those that fail are observed. This value is what
the key resolves to, unless the key has come into the cache in the meantime. If nobody else changes
the registry the result is put into the cache if no layer has failed, and is read from there until
it is evicted; otherwise the registry stays as it is, and layers are asked again the next time. -/
theorem read_of_uncached (hkey : key ≠ "") :
    (∀ {i : Nat} {s s' : Session} {own : List Moment} {x : Reading},
      Amid (fun _ _ => True) i (r.read key) s own x s' →
      (∀ m ∈ own, m.step = .act (.registry r (.cached key)) → ∀ e, ¬ m.session.HasEntry r key e) →
      ∃ s₁ reg replies, ⟨i, .act (.registry r .layers), s₁⟩ ∈ own ∧
        s₁.registries[r]? = some reg ∧ Consultation key reg.layers own replies ∧
        (x.resolved = replies.findSome? LayerReply.resolved ∨
          ∃ m ∈ own, ∃ e, m.session.HasEntry r key e ∧ x = Cache.hit e)) ∧
    ∀ {i : Nat} {s : Session} {reg : Registry}, s.registries[r]? = some reg →
      reg.cache.entries.get? key = none →
      (∃ x own s', Amid (Keeps r) i (r.read key) s own x s') ∧
      ∀ {s' : Session} {own : List Moment} {x : Reading},
        Amid (Keeps r) i (r.read key) s own x s' → ∃ replies,
          Consultation key reg.layers own replies ∧
          x.resolved = replies.findSome? LayerReply.resolved ∧
          (replies.any LayerReply.isFailure = false → ∃ e, x = Cache.hit e ∧ s'.Rests r key e ∧
            e.generation = reg.cache.nextGeneration ∧
            s'.registries[r]? = some { reg with cache := { reg.cache with
              entries := reg.cache.entries.insert key e
              nextGeneration := reg.cache.nextGeneration + 1 } }) ∧
          (replies.any LayerReply.isFailure = true → x.generation = none ∧
            s'.registries[r]? = some reg ∧
            ∀ {j : Nat} {s'' : Session} {own' : List Moment} {x' : Reading},
              Amid (Keeps r) j (r.read key) s' own' x' s'' → lookups own' ≠ []) := by
  refine ⟨fun {i s s' own x} h hlacks => ?_, fun {i s reg} hreg hentry =>
    ⟨exists_amid_read i key hreg, fun {s' own x} h => ?_⟩⟩
  · cases lenient_true.readsBy hkey h with
    | cached _ hreg he hown hx =>
      rw [hown] at hlacks
      exact absurd ⟨_, hreg, he⟩ (hlacks _ List.mem_cons_self rfl _)
    | degraded _ hreg hmem hreplies _ hx _ =>
      exact ⟨_, _, _, hmem, hreg, hreplies, .inl (by rw [hx])⟩
    | @filled s₁ s₂ s₃ reg₁ reg₂ reg₃ replies y _ hreg hmem hreplies _ hy _ _ _ hreg₃ hfill hx _ =>
      refine ⟨_, _, _, hmem, hreg, hreplies, ?_⟩
      cases he : reg₃.cache.entries.get? key with
      | none => exact .inl (by rw [hx, Cache.resolved_fill he, hy])
      | some e => exact .inr ⟨_, hfill, e, ⟨reg₃, hreg₃, he⟩, by rw [hx, Cache.fill, he]⟩
  · have hE := lenient_keeps r
    cases hE.readsBy hkey h with
    | cached h₁ hreg₁ he _ _ =>
      cases hreg₁.symm.trans (h₁.registry hreg)
      cases hentry.symm.trans he
    | degraded h₁ hreg₁ _ hreplies hfails hx h' =>
      cases hreg₁.symm.trans (h₁.registry hreg)
      have hreg' := h'.registry hreg
      refine ⟨_, hreplies, by rw [hx], fun hok => ?_, fun _ => ⟨by rw [hx], hreg', ?_⟩⟩
      · rw [hok] at hfails
        cases hfails
      · intro j s'' own' x' hagain
        obtain ⟨replies', hreplies'⟩ := exists_consultation_of_keeps hkey hreg' hentry hagain
        refine hreplies'.lookups_ne_nil fun hlayers => ?_
        have horder := hreplies.order
        rw [hlayers, List.prefix_nil, List.map_eq_nil_iff] at horder
        rw [horder] at hfails
        cases hfails
    | @filled s₁ s₂ s₃ reg₁ reg₂ reg₃ replies y h₁ hreg₁ _ hreplies hok hy h₂ hreg₂ h₃ hreg₃ _ hx
        h' =>
      cases hreg₁.symm.trans (h₁.registry hreg)
      cases hreg₂.symm.trans (h₂.registry hreg)
      cases hreg₃.symm.trans (h₃.registry hreg)
      rw [Cache.fill_of_none hentry] at hx h'
      have hreg' := h'.registry (registries_setRegistry hreg₃ _)
      refine ⟨_, hreplies, by rw [hx]; exact hy, fun _ => ⟨⟨y, _⟩, hx, ?_, rfl, hreg'⟩,
        fun hfails => ?_⟩
      · exact rests_of_hasEntry hkey ⟨_, hreg', by rw [Table.get?_insert, if_pos rfl]⟩
      · rw [hok] at hfails
        cases hfails

/-- A source that fails and sets a property whenever it is asked, behind a map and in front of
another one. -/
def patchySession : Session where
  sources := [
    .builtin (.map { name := "b", isMutable := true, values := .ofList [("k", "2")] }),
    .scripted { id := "a", name := "a", lookupFails := true,
                onLookup := ⟨[.deed (.setProperty "p" "1")], 9⟩ },
    .builtin (.map { name := "c", isMutable := true, values := .ofList [("k", "3"), ("n", "3")] })]
  registries := [{
    layers := [⟨0, "b", true, 0, 0, .empty⟩, ⟨1, "a", true, 0, 1, .empty⟩,
      ⟨2, "c", true, 0, 2, .empty⟩]
    nextSeq := 3 }]

/-- The first source has a value for one key, so that it does not matter that the second one fails;
for another key it does. -/
theorem read_of_uncached_of_patchy : ∃ ms₁ s₁ ms₂ s₂ own replies,
    Runs (Aloof 0 50) (RegistryId.read 0 "k") patchySession ms₁ ⟨some ⟨"2", "b"⟩, some 1⟩ s₁ ∧
    s₁.Rests 0 "k" ⟨some ⟨"2", "b"⟩, 1⟩ ∧
    Runs (Aloof 0 50) (RegistryId.read 0 "n") s₁ ms₂ ⟨some ⟨"3", "c"⟩, none⟩ s₂ ∧
    own.Sublist ms₂ ∧ Consultation "n" patchySession.registry.layers own replies ∧
    replies.any LayerReply.isFailure = true ∧
    s₂.registries[0]? = s₁.registries[0]? := by
  obtain ⟨x, hx⟩ : ∃ x, x = Machine.follow ⟨patchySession, [RegistryId.read 0 "k"]⟩ []
    (List.replicate 50 0) := ⟨_, rfl⟩
  obtain ⟨y, hy⟩ : ∃ y, y = Machine.follow ⟨x.2.session, [RegistryId.read 0 "n"]⟩ []
    (List.replicate 50 0) := ⟨_, rfl⟩
  have hread : (x.2.tasks[0]?).bind Task.result? = some ⟨some ⟨"2", "b"⟩, some 1⟩ := by
    rw [hx]
    decide +kernel
  have hread' : (y.2.tasks[0]?).bind Task.result? = some ⟨some ⟨"3", "c"⟩, none⟩ := by
    rw [hy, hx]
    decide +kernel
  have houtside : OnlyOutside x.1 ∧ OnlyOutside y.1 := by
    rw [hy, hx]
    decide +kernel
  have hruns : Runs (Aloof 0 50) _ _ _ _ _ := aloof_of_outside (runs_of_follow hx hread) houtside.1
  have hruns' : Runs (Aloof 0 50) _ _ _ _ _ :=
    aloof_of_outside (runs_of_follow hy hread') houtside.2
  have hrefl : ∀ s, Keeps 0 s s := (lenient_keeps 0).refl
  obtain ⟨own, hown, -⟩ := amid_of_runs hrefl (fun _ _ _ _ => keeps_aloof) hruns
  obtain ⟨own', hown', hsub⟩ := amid_of_runs hrefl (fun _ _ _ _ => keeps_aloof) hruns'
  -- the first reading puts an entry into the cache, since it has a generation
  obtain ⟨replies, -, -, hfilled, hdegraded⟩ :=
    ((read_of_uncached (r := 0) (by decide : "k" ≠ "")).2 (by rfl) (by rfl)).2 hown
  cases hfails : replies.any LayerReply.isFailure with
  | true => cases (hdegraded hfails).1
  | false =>
    obtain ⟨⟨y, g⟩, he, hrests, -, hreg⟩ := hfilled hfails
    cases he
    -- the second one does not, since it has none
    obtain ⟨replies', hreplies', -, hfilled', hdegraded'⟩ :=
      ((read_of_uncached (r := 0) (by decide : "n" ≠ "")).2 hreg (by rfl)).2 hown'
    cases hfails' : replies'.any LayerReply.isFailure with
    | false =>
      obtain ⟨e, he, -⟩ := hfilled' hfails'
      cases congrArg Reading.generation he
    | true =>
      obtain ⟨-, hreg', -⟩ := hdegraded' hfails'
      exact ⟨_, _, _, _, own', replies', hruns, hrests, hruns', hsub, hreplies', hfails',
        hreg'.trans hreg.symm⟩

end Strata
