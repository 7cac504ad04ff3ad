import Mathlib.Data.List.Destutter
import Strata.Proofs.Callbacks
import Strata.Proofs.Detection

/-!
Chains of changes of a registry. Each change begins with what keys resolved to through the recorded
snapshots when the one before ended, and calls the listeners of all keys that resolve differently
after it (`Chronicle`).

Main statements: a listener that is there all the time is told the successive values of its key
(`Chronicle.calls_eq`). A part of a run makes up a chronicle from its beginning, and one for each
listener from the moment at which it subscribes (`Chronicled`); such parts put together are such a
part (`Chronicled.trans`), and so is what ends no change and calls nobody (`Chronicled.of_lull`,
`chronicled_take`).
-/

namespace Strata

open Session RegistryId Machine Strata.Task

variable {S : ScriptRun} {s s₁ s' σ : Session} {r : RegistryId} {reg reg' : Registry} {k n : Nat}
  {key : String} {ms ms' : List Moment} {changes : List Change}

/-! ### What is recorded -/

namespace Session

/-- What a key resolves to through the recorded snapshots of a registry. -/
def recordedValue (s : Session) (r : RegistryId) (key : String) : Option Resolved :=
  (View.recorded (s.registryAt r).layers).resolve key

theorem resolution_eq_recordedValue (hreg : s.registries[r]? = some reg) (key : String) :
    s.resolution r key = some (s.recordedValue r key) := by
  rw [resolution_of_registry hreg, recordedValue, registryAt_eq hreg]

theorem listens_iff : s.Listens n r key ↔ (key, n) ∈ (s.registryAt r).listeners := by
  constructor
  · rintro ⟨reg, hreg, hmem⟩
    rwa [registryAt_eq hreg]
  · intro h
    cases hreg : s.registries[r]? with
    | some reg => exact ⟨reg, hreg, by rwa [registryAt_eq hreg] at h⟩
    | none =>
      rw [registryAt, hreg] at h
      exact absurd h List.not_mem_nil

end Session

/-- What is to be told of a change of a registry: all keys that resolve differently through the
recorded snapshots than before, in increasing order of their bytes, each with what it resolves to
now. -/
structure IsNews (changes : List Change) (r : RegistryId) (s s' : Session) : Prop where
  mem : ∀ key x, (key, x) ∈ changes ↔
    s.recordedValue r key ≠ s'.recordedValue r key ∧ s'.recordedValue r key = x
  ascending : changes.Pairwise fun c c' => utf8 c.1 < utf8 c'.1

theorem IsDifference.isNews (h : IsDifference changes r s s') (hreg : s.registries[r]? = some reg)
    (hreg' : s'.registries[r]? = some reg') : IsNews changes r s s' := by
  refine ⟨fun key x => ?_, h.ascending⟩
  rw [h.mem, resolution_eq_recordedValue hreg, resolution_eq_recordedValue hreg']
  simp only [ne_eq, Option.some.injEq]

theorem IsNews.congr (h : IsNews changes r s s')
    (heq : ∀ key, σ.recordedValue r key = s'.recordedValue r key) : IsNews changes r s σ := by
  refine ⟨fun key x => ?_, h.ascending⟩
  rw [h.mem, heq]

/-! ### Chronicles -/

namespace Machine

/-- The sessions in which changes of a registry end, the last one first. -/
def changesEnded (r : RegistryId) (ms : List Moment) : List Session :=
  ms.filterMap fun m => match m.step with
    | .act (.registry r' .endChange) => if r' = r then some m.session else none
    | _ => none

/-- The calls of those that listen to a registry in the end, the last one first. -/
def callsTo (r : RegistryId) (s : Session) (ms : List Moment) : List (Nat × Option Resolved) :=
  (deliveries ms).filter fun d => (s.registryAt r).listeners.any fun l => l.2 == d.1

/-- What a listener is told, the last first. -/
def callsOf (n : Nat) (ms : List Moment) : List (Option Resolved) :=
  ((deliveries ms).filter (·.1 == n)).map (·.2)

/-- The moment at which a listener of a key is added. -/
def Moment.Enlists (m : Moment) (n : Nat) (r : RegistryId) (key : String) : Prop :=
  ∃ (a : Action) (answer : a.Answer) (s : Session), m.step = .act a ∧
    m.session.take a = some (answer, s) ∧ ¬ m.session.Listens n r key ∧ s.Listens n r key

theorem changesEnded_append (r : RegistryId) (ms ms' : List Moment) :
    changesEnded r (ms ++ ms') = changesEnded r ms ++ changesEnded r ms' :=
  List.filterMap_append

theorem changesEnded_act {a : Action} (ha : a ≠ .registry r .endChange) (i : Nat) (s : Session) :
    changesEnded r [⟨i, .act a, s⟩] = [] := by
  rw [changesEnded, List.filterMap_cons_none, List.filterMap_nil]
  cases a with
  | registry r' b =>
    cases b with
    | endChange => exact if_neg fun heq => ha (by rw [heq])
    | _ => rfl
  | _ => rfl

theorem changesEnded_of_untouched (h : Untouched r ms) : changesEnded r ms = [] := by
  refine List.filterMap_eq_nil_iff.2 fun m hm => ?_
  split
  · rename_i r' heq
    refine if_neg fun hr => h m hm ?_
    rw [Moment.registryOf?, heq, hr]
  · rfl

theorem exists_moment_of_changesEnded (h : σ ∈ changesEnded r ms) : ∃ m ∈ ms, m.session = σ := by
  obtain ⟨m, hm, heq⟩ := List.mem_filterMap.1 h
  refine ⟨m, hm, ?_⟩
  split at heq
  · split at heq <;> cases heq
    rfl
  · cases heq

theorem callsTo_append (r : RegistryId) (s : Session) (ms ms' : List Moment) :
    callsTo r s (ms ++ ms') = callsTo r s ms ++ callsTo r s ms' := by
  rw [callsTo, deliveries_append, List.filter_append, callsTo, callsTo]

theorem any_listeners : ((s.registryAt r).listeners.any fun l => l.2 == n) = true ↔
    ∃ key, s.Listens n r key := by
  simp only [List.any_eq_true, beq_iff_eq, listens_iff, Prod.exists, exists_eq_right]

end Machine

/-- The calls of the listeners of keys that have changed: key by key, and for one key in the order
in which they have subscribed. -/
def Session.callsFor (s : Session) (r : RegistryId) (changes : List Change) :
    List (Nat × Option Resolved) :=
  changes.flatMap fun c => ((s.registryAt r).listenersOf c.1).map fun n => (n, c.2)

/-- A chain of changes of a registry, by the sessions in which they end, and the calls that are
made. Between two changes all keys resolve as before. -/
inductive Chronicle (r : RegistryId) :
    Session → List Session → List (Nat × Option Resolved) → Session → Prop
  | nil {s s' : Session} : (∀ key, s'.recordedValue r key = s.recordedValue r key) →
    Chronicle r s [] [] s'
  | cons {s σ s' : Session} {σs : List Session} {changes : List Change}
    {calls : List (Nat × Option Resolved)} : IsNews changes r s σ → Chronicle r σ σs calls s' →
    Chronicle r s (σ :: σs) (σ.callsFor r changes ++ calls) s'

namespace Chronicle

variable {σs σs' : List Session} {calls calls' : List (Nat × Option Resolved)}

/-- What matters of the first session is what keys resolve to. -/
theorem congr_left (h : Chronicle r s σs calls s')
    (heq : ∀ key, s₁.recordedValue r key = s.recordedValue r key) :
    Chronicle r s₁ σs calls s' := by
  cases h with
  | nil h => exact .nil fun key => (h key).trans (heq key).symm
  | cons hnews h =>
    refine .cons ⟨fun key x => ?_, hnews.ascending⟩ h
    rw [hnews.mem, heq]

theorem append (h : Chronicle r s σs calls s₁) (h' : Chronicle r s₁ σs' calls' s') :
    Chronicle r s (σs ++ σs') (calls ++ calls') s' := by
  induction h with
  | nil heq => exact h'.congr_left fun key => (heq key).symm
  | cons hnews _ ih =>
    rw [List.append_assoc]
    exact .cons hnews (ih h')

end Chronicle

/-! ### What one listener is told -/

/-- A listener of a changed key is called once, and nobody else is. -/
theorem filter_callsFor (hn : s.Listens n r key)
    (hnodup : ((s.registryAt r).listeners.map (·.2)).Nodup) (changes : List Change) :
    ((s.callsFor r changes).filter (·.1 == n)).map (·.2) =
      (changes.filter (·.1 == key)).map (·.2) := by
  rw [listens_iff] at hn
  have hkeys : ∀ key', n ∈ (s.registryAt r).listenersOf key' → key' = key := fun key' hmem =>
    congrArg Prod.fst (List.inj_on_of_nodup_map hnodup (Registry.mem_listenersOf.1 hmem) hn rfl)
  have honce : ((s.registryAt r).listenersOf key).filter (· == n) = [n] := by
    have hcount : ((s.registryAt r).listenersOf key).count n = 1 :=
      List.count_eq_one_of_mem (hnodup.sublist (List.filter_sublist.map _))
        (Registry.mem_listenersOf.2 hn)
    rw [List.filter_beq, hcount, List.replicate_one]
  induction changes with
  | nil => rfl
  | cons c changes ih =>
    have hcons : s.callsFor r (c :: changes) =
        ((s.registryAt r).listenersOf c.1).map (fun n => (n, c.2)) ++ s.callsFor r changes := rfl
    rw [hcons, List.filter_append, List.map_append, ih, List.filter_map, List.map_map,
      List.filter_cons]
    simp only [Function.comp_def]
    by_cases hc : c.1 = key
    · rw [if_pos (by simpa using hc), hc, honce]
      rfl
    · have hnone : ((s.registryAt r).listenersOf c.1).filter (· == n) = [] := by
        refine List.filter_eq_nil_iff.2 fun n' hn' heq => hc (hkeys c.1 ?_)
        rwa [← beq_iff_eq.1 heq]
      rw [if_neg (by simpa using hc), hnone]
      rfl

/-- A key is told of once if it has changed, and otherwise not at all. -/
theorem IsNews.filter_eq (h : IsNews changes r s s') (key : String) :
    (changes.filter (·.1 == key)).map (·.2) =
      if s.recordedValue r key ≠ s'.recordedValue r key then [s'.recordedValue r key] else [] := by
  have hmem : ∀ c, c ∈ changes.filter (·.1 == key) ↔ c = (key, s'.recordedValue r key) ∧
      s.recordedValue r key ≠ s'.recordedValue r key := by
    rintro ⟨key', x⟩
    rw [List.mem_filter, h.mem, beq_iff_eq, Prod.mk.injEq]
    constructor
    · rintro ⟨⟨hne, rfl⟩, rfl⟩
      exact ⟨⟨rfl, rfl⟩, hne⟩
    · rintro ⟨⟨rfl, rfl⟩, hne⟩
      exact ⟨⟨hne, rfl⟩, rfl⟩
  have hnodup : (changes.filter (·.1 == key)).Nodup :=
    (h.ascending.imp fun hlt heq => by
      rw [heq] at hlt
      exact List.lt_irrefl _ hlt).sublist List.filter_sublist
  split
  · rename_i hne
    have hone : changes.filter (·.1 == key) = [(key, s'.recordedValue r key)] := by
      refine List.perm_singleton.1 ((List.perm_ext_iff_of_nodup hnodup (List.nodup_singleton _)).2
        fun c => ?_)
      rw [hmem, List.mem_singleton, and_iff_left hne]
    rw [hone]
    rfl
  · rename_i heq
    rw [List.eq_nil_iff_forall_not_mem.2 fun c hc => heq ((hmem c).1 hc).2, List.map_nil]

/-- A listener that is there all the time is told the successive values of its key. -/
theorem Chronicle.calls_eq {σs : List Session} {calls : List (Nat × Option Resolved)}
    (h : Chronicle r s σs calls s') (hn : ∀ σ ∈ σs, σ.Listens n r key)
    (hnodup : ∀ σ ∈ σs, ((σ.registryAt r).listeners.map (·.2)).Nodup) :
    s.recordedValue r key :: (calls.filter (·.1 == n)).map (·.2) =
      (s.recordedValue r key :: σs.map (·.recordedValue r key)).destutter (· ≠ ·) := by
  induction h with
  | nil => rfl
  | @cons s σ s' σs changes calls hnews _ ih =>
    have ih := ih (fun σ' h => hn σ' (List.mem_cons_of_mem _ h))
      fun σ' h => hnodup σ' (List.mem_cons_of_mem _ h)
    rw [List.filter_append, List.map_append,
      filter_callsFor (hn σ List.mem_cons_self) (hnodup σ List.mem_cons_self), hnews.filter_eq,
      List.map_cons, List.destutter_cons_cons]
    rw [List.destutter_cons'] at ih
    by_cases heq : s.recordedValue r key = σ.recordedValue r key
    · rw [if_neg (not_not.2 heq), if_neg (not_not.2 heq), heq]
      exact ih
    · rw [if_pos heq, if_pos heq, ← ih]
      rfl

/-! ### Parts of a run without changes -/

/-- A part of a run in which no change of a registry ends and none of its listeners is called, and
which keeps something of the registry. -/
structure Lull {β : Type} (f : Registry → β) (r : RegistryId) (s : Session) (ms : List Moment)
    (s' : Session) : Prop where
  aside : Aside r s ms s'
  ended : changesEnded r ms = []
  kept : f (s'.registryAt r) = f (s.registryAt r)

section Lull

variable {α β : Type} {f : Registry → β}

theorem composable_lull (f : Registry → β) (r : RegistryId) : Composable (Lull f r) := by
  refine ⟨fun s => ⟨(composable_aside r).nil s, rfl, rfl⟩,
    fun script s => ⟨(composable_aside r).run script s, rfl, rfl⟩, fun h h' => ?_⟩
  refine ⟨h.aside.trans h'.aside, ?_, h'.kept.trans h.kept⟩
  rw [changesEnded_append, h'.ended, h.ended, List.append_nil]

theorem lull_of_untouched {t : Task α} {a : α} (h : Runs (ScriptRuns k) t s ms a s')
    (hms : Untouched r ms) (haside : Aside r s ms s') : Lull f r s ms s' :=
  ⟨haside, changesEnded_of_untouched hms, by rw [(keeps_of_untouched h hms).registryAt]⟩

theorem lull_aloof {script : Script} (h : Aloof r k script s ms s') : Lull f r s ms s' :=
  ⟨aside_of_aloof k script s ms s' h, changesEnded_of_untouched h.2,
    by rw [(keeps_aloof h).registryAt]⟩

theorem outward_lull (f : Registry → β) (r : RegistryId) (k : Nat) :
    Outward fun _ t => Always (Aloof r k) (Lull f r) t :=
  { sequential_always (composable_lull f r) with
    act := fun a ha => by
      have hne : ∀ b : Action, b.isOutward = false → a ≠ b := by
        rintro b hb rfl
        rw [ha] at hb
        cases hb
      refine always_act fun s _ s' htake => ⟨?_, changesEnded_act (hne _ rfl) 0 s, ?_⟩
      · exact aside_act (S := Aloof r k) (fun n x => hne _ rfl) _ _ _ _ (runs_act.2 ⟨htake, rfl⟩)
      · have hkeeps : Keeps r s s' := keeps_take htake (by rw [registryOf?_outward ha]; nofun)
        rw [hkeeps.registryAt]
    run := fun _ => always_run (composable_lull f r) fun _ _ _ => lull_aloof }

/-- An action on a registry that keeps something of it. -/
theorem lull_ask {b : RegistryAction} (hb : b ≠ .endChange)
    (hf : ∀ reg reg' x, Registry.take b reg = some (x, reg') → f reg' = f reg) :
    Always S (Lull f r) (ask r b) := by
  intro s ms x s' h
  refine ⟨aside_ask r b _ _ _ _ h, ?_, ?_⟩
  · obtain ⟨reg, reg', -, -, -, rfl⟩ := runs_ask.1 h
    exact changesEnded_act (fun heq => hb (by cases heq; rfl)) 0 s
  · obtain ⟨reg, reg', hreg, htake, rfl, -⟩ := runs_ask.1 h
    rw [registryAt_eq hreg, registryAt_eq (registries_setRegistry hreg reg'), hf _ _ _ htake]

/-- The layers of a registry and its listeners. -/
def Registry.roll (reg : Registry) : List Layer × List (String × Nat) := (reg.layers, reg.listeners)

theorem lull_ask_roll (b : RegistryAction) (hb : b ≠ .endChange) (hset : ∀ ls, b ≠ .setLayers ls)
    (hrecord : ∀ seq t, b ≠ .record seq t) : Always S (Lull Registry.roll r) (ask r b) :=
  lull_ask hb fun _ _ _ htake =>
    Prod.ext (Registry.layers_take hset hrecord htake) (listeners_take htake)

theorem lull_read (key : String) : Always (Aloof r k) (Lull Registry.roll r) (r.read key) := by
  refine (outward_lull _ r k).read (fun b hb => ?_) key
  have hne : ∀ c : RegistryAction, (Action.registry r c).isGentle = false → b ≠ c := by
    rintro c hc rfl
    rw [hb] at hc
    cases hc
  exact lull_ask_roll b (hne _ rfl) (fun _ => hne _ rfl) fun _ _ => hne _ rfl

theorem Lull.recordedValue (h : Lull Registry.roll r s ms s') (key : String) :
    s'.recordedValue r key = s.recordedValue r key := by
  rw [Session.recordedValue, (Prod.mk.inj h.kept).1, Session.recordedValue]

end Lull

/-! ### Chronicles of runs -/

/-- Listeners stay listeners. -/
structure Attends (s : Session) (ms : List Moment) (s' : Session) : Prop where
  after : ∀ n r key, s.Listens n r key → s'.Listens n r key
  during : ∀ m ∈ ms, ∀ n r key, s.Listens n r key → m.session.Listens n r key

theorem composable_attends : Composable Attends := by
  refine ⟨fun s => ⟨fun _ _ _ hn => hn, fun _ hm => absurd hm List.not_mem_nil⟩,
    fun script s => ⟨fun _ _ _ hn => hn, ?_⟩,
    fun h h' => ⟨fun n r key hn => h'.after n r key (h.after n r key hn), fun m hm => ?_⟩⟩
  · intro m hm
    rw [List.mem_singleton.1 hm]
    exact fun _ _ _ hn => hn
  · rcases List.mem_append.1 hm with hm | hm
    · exact fun n r key hn => h'.during m hm n r key (h.after n r key hn)
    · exact h.during m hm

theorem attends_take {a : Action} {answer : a.Answer} (htake : s.take a = some (answer, s')) :
    Attends s [⟨0, .act a, s⟩] s' := by
  refine ⟨fun _ _ _ => listens_take htake, fun m hm => ?_⟩
  rw [List.mem_singleton.1 hm]
  exact fun _ _ _ hn => hn

theorem attends_of_runs {α : Type} {t : Task α} {a : α} (h : Runs (ScriptRuns k) t s ms a s') :
    Attends s ms s' :=
  always_of_take composable_attends attends_take k t s ms a s' h

/-- The part of a run during which a listener is there begins where the run does if it listens by
then, and otherwise at the moment at which it is added. -/
inductive Joins (n : Nat) (r : RegistryId) (key : String) (s : Session) :
    List Moment → Session → Prop
  | listening : s.Listens n r key → Joins n r key s [] s
  | enlisted {m : Moment} {earlier : List Moment} : m.Enlists n r key →
    Joins n r key s (m :: earlier) m.session

/-- The part of a run during which a listener is there, as far as a registry is concerned. -/
structure Heard (n : Nat) (r : RegistryId) (key : String) (s : Session) (ms : List Moment)
    (s' : Session) (part earlier : List Moment) (σ : Session) : Prop where
  split : ms = part ++ earlier
  joins : Joins n r key s earlier σ
  before : ∀ d ∈ deliveries earlier, d.1 ≠ n
  attended : ∀ σ' ∈ changesEnded r part, σ'.Listens n r key
  chronicle : Chronicle r σ (changesEnded r part).reverse (callsTo r s' part).reverse s'

/-- A part of a run that makes up a chronicle, as a whole and for each listener that is there in the
end. -/
structure Chronicled (r : RegistryId) (s : Session) (ms : List Moment) (s' : Session) : Prop where
  settled : Settled s ms s'
  attends : Attends s ms s'
  chronicle : Chronicle r s (changesEnded r ms).reverse (callsTo r s' ms).reverse s'
  heard : ∀ n key, s'.Listens n r key → ∃ part earlier σ, Heard n r key s ms s' part earlier σ

/-- A listener that has been called keeps listening to the same registry. -/
theorem callsTo_eq_of_settled (h : Settled s ms s₁)
    (hafter : ∀ n r key, s₁.Listens n r key → s'.Listens n r key) (hs' : s'.IsOrderly)
    {part : List Moment} (hpart : ∀ d ∈ deliveries part, d ∈ deliveries ms) :
    callsTo r s' part = callsTo r s₁ part := by
  refine List.filter_congr fun d hd => Bool.eq_iff_iff.2 ?_
  rw [any_listeners, any_listeners]
  constructor
  · rintro ⟨key, hn⟩
    obtain ⟨r₁, key₁, hn₁⟩ := h.told.called d (hpart d hd)
    obtain ⟨rfl, -⟩ := hs'.listener_unique _ r₁ r key₁ key (hafter _ _ _ hn₁) hn
    exact ⟨key₁, hn₁⟩
  · rintro ⟨key, hn⟩
    exact ⟨key, hafter _ _ _ hn⟩

theorem callsTo_eq_nil_of_aside (h : Aside r s ms s₁)
    (hafter : ∀ n r key, s₁.Listens n r key → s'.Listens n r key) (hs' : s'.IsOrderly) :
    callsTo r s' ms = [] := by
  refine List.filter_eq_nil_iff.2 fun d hd => ?_
  rw [any_listeners]
  rintro ⟨key, hn⟩
  obtain ⟨r₁, key₁, hne, hn₁⟩ := h.elsewhere d hd
  exact hne (hs'.listener_unique _ r₁ r key₁ key (hafter _ _ _ hn₁) hn).1

/-- A listener that is there from the beginning hears all of a chronicle. -/
theorem Heard.of_listens (hn : s.Listens n r key) (hattends : Attends s ms s')
    (h : Chronicle r s (changesEnded r ms).reverse (callsTo r s' ms).reverse s') :
    Heard n r key s ms s' ms [] s := by
  refine ⟨(List.append_nil ms).symm, .listening hn, fun _ hd => absurd hd List.not_mem_nil,
    fun σ' hσ' => ?_, h⟩
  obtain ⟨m, hm, rfl⟩ := exists_moment_of_changesEnded hσ'
  exact hattends.during m hm n r key hn

namespace Chronicled

theorem chronicle_append (h : Settled s ms s₁) (h' : Chronicled r s₁ ms' s') {part : List Moment}
    (hpart : ∀ d ∈ deliveries part, d ∈ deliveries ms)
    (hchronicle : Chronicle r σ (changesEnded r part).reverse (callsTo r s₁ part).reverse s₁) :
    Chronicle r σ (changesEnded r (ms' ++ part)).reverse
      (callsTo r s' (ms' ++ part)).reverse s' := by
  rw [changesEnded_append, callsTo_append, List.reverse_append, List.reverse_append,
    callsTo_eq_of_settled h h'.attends.after h'.settled.told.orderly hpart]
  exact hchronicle.append h'.chronicle

theorem trans (h : Chronicled r s ms s₁) (h' : Chronicled r s₁ ms' s') (hs : s.IsOrderly) :
    Chronicled r s (ms' ++ ms) s' := by
  have hsettled := composable_settled.append (fun _ => h.settled) (fun _ => h'.settled) hs
  have hattends := composable_attends.append h.attends h'.attends
  refine ⟨hsettled, hattends, chronicle_append h.settled h' (fun _ hd => hd) h.chronicle,
    fun n key hn => ?_⟩
  by_cases hn₁ : s₁.Listens n r key
  · obtain ⟨part, earlier, σ, rfl, hjoins, hbefore, hattended, hchronicle⟩ := h.heard n key hn₁
    refine ⟨ms' ++ part, earlier, σ, (List.append_assoc ..).symm, hjoins, hbefore,
      fun σ' hσ' => ?_, chronicle_append h.settled h' (fun d hd => ?_) hchronicle⟩
    · rw [changesEnded_append, List.mem_append] at hσ'
      rcases hσ' with hσ' | hσ'
      · obtain ⟨m, hm, rfl⟩ := exists_moment_of_changesEnded hσ'
        exact h'.attends.during m hm n r key hn₁
      · exact hattended σ' hσ'
    · rw [deliveries_append]
      exact List.mem_append_left _ hd
  · obtain ⟨part, earlier, σ, rfl, hjoins, hbefore, hattended, hchronicle⟩ := h'.heard n key hn
    cases hjoins with
    | listening h => exact absurd h hn₁
    | @enlisted m earlier henlists =>
      refine ⟨part, m :: earlier ++ ms, _, by rw [List.append_assoc], .enlisted henlists,
        fun d hd => ?_, hattended, hchronicle⟩
      rw [deliveries_append, List.mem_append] at hd
      rcases hd with hd | hd
      · exact hbefore d hd
      · rintro rfl
        obtain ⟨r₁, key₁, hd₁⟩ := h.settled.told.called d hd
        obtain ⟨rfl, rfl⟩ := h'.settled.told.orderly.listener_unique _ r₁ r key₁ key
          (h'.attends.after _ _ _ hd₁) hn
        exact hn₁ hd₁

/-- Where no change of the registry ends and none of its listeners is called, nothing is told. -/
theorem of_lull (hsettled : Settled s ms s') (hattends : Attends s ms s')
    (h : Lull Registry.roll r s ms s') : Chronicled r s ms s' := by
  have hchronicle : Chronicle r s (changesEnded r ms).reverse (callsTo r s' ms).reverse s' := by
    rw [h.ended, callsTo_eq_nil_of_aside h.aside (fun _ _ _ hn => hn) hsettled.told.orderly]
    exact .nil h.recordedValue
  refine ⟨hsettled, hattends, hchronicle, fun n key hn => ⟨ms, [], s, ?_⟩⟩
  refine .of_listens ?_ hattends hchronicle
  rw [listens_iff, ← (Prod.mk.inj h.kept).2]
  exact listens_iff.1 hn

end Chronicled

theorem composable_chronicled (r : RegistryId) :
    Composable fun s ms s' => s.IsOrderly → Chronicled r s ms s' := by
  refine ⟨fun s hs => ?_, fun script s hs => ?_, fun h h' hs => ?_⟩
  · exact .of_lull (composable_settled.nil s hs) (composable_attends.nil s)
      ((composable_lull _ r).nil s)
  · exact .of_lull (composable_settled.run script s hs) (composable_attends.run script s)
      ((composable_lull _ r).run script s)
  · exact (h hs).trans (h' (h hs).settled.told.orderly) hs

/-! ### Actions -/

/-- Actions that change no layers. -/
theorem layers_take_mild {a : Action} {answer : a.Answer} (ha : a.isMild = true)
    (htake : s.take a = some (answer, s')) :
    (s'.registryAt r).layers = (s.registryAt r).layers := by
  by_cases hr : (⟨0, .act a, s⟩ : Moment).registryOf? = some r
  · rcases take_cases htake with ⟨hsame, -⟩ | ⟨r₁, b, reg, reg', x, rfl, hreg, hb, rfl⟩ |
      ⟨rfl, -⟩ | ⟨r₁, key, l, hr₁, rfl⟩
    · rw [registryAt, hsame, registryAt]
    · cases hr
      rw [registryAt_eq (registries_setRegistry hreg reg'), registryAt_eq hreg,
        (Registry.take_mild ha hb).1]
    · cases hr
    · rw [registryAt, registries_addListener, registryAt]
      cases s.registries[r]? with
      | none => rfl
      | some reg =>
        rw [Option.map_some, Option.getD_some, Option.getD_some]
        split <;> rfl
  · rw [(keeps_take htake hr).registryAt]

/-- An action that changes no layers and ends no change. It may add a listener. -/
theorem chronicled_take {a : Action} {answer : a.Answer} (ha : a.isMild = true)
    (hend : a ≠ .registry r .endChange) (hs : s.IsOrderly)
    (htake : s.take a = some (answer, s')) : Chronicled r s [⟨0, .act a, s⟩] s' := by
  have hattends := attends_take htake
  have hquiet : deliveries [⟨0, .act a, s⟩] = [] := deliveries_act fun n x heq => by
    rw [heq] at ha
    cases ha
  have hstill : ∀ key, s'.recordedValue r key = s.recordedValue r key := fun key => by
    rw [recordedValue, layers_take_mild ha htake, recordedValue]
  have hchronicle : Chronicle r s (changesEnded r [⟨0, .act a, s⟩]).reverse
      (callsTo r s' [⟨0, .act a, s⟩]).reverse s' := by
    rw [changesEnded_act hend, callsTo, hquiet]
    exact .nil hstill
  refine ⟨settled_act ha htake hs, hattends, hchronicle, fun n key hn => ?_⟩
  by_cases hn₀ : s.Listens n r key
  · exact ⟨_, [], s, .of_listens hn₀ hattends hchronicle⟩
  · refine ⟨[], [⟨0, .act a, s⟩], s, rfl, .enlisted ⟨a, answer, s', rfl, htake, hn₀, hn⟩, ?_,
      fun _ hσ => absurd hσ List.not_mem_nil, .nil hstill⟩
    rw [hquiet]
    exact fun _ hd => absurd hd List.not_mem_nil

end Strata
