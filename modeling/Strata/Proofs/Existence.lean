import Strata.Proofs.Disciplines
import Strata.Proofs.Freshness

/-!
Sources that are asked for snapshots are there. A task learns the numbers of sources when it looks
up an id, when it makes a source and when it reads layers, and asks only sources whose numbers it
has learned (`governs_existing`). Sources never go (`length_sources_take`), so whoever takes turns,
no snapshot is asked of a number that has yet to be given (`Peopled.run`).
-/

namespace Strata

open Machine RegistryId

variable {α β : Type} {k k' i : Nat} {n : SourceId} {r : RegistryId} {a : Action}
  {s s' : Session} {known : List Binding}

/-! ### What tasks know of sources -/

/-- The sources that a fact tells of have numbers below a bound. -/
def Fact.Names (k : Nat) : Fact → Prop
  | ⟨.source _, x⟩ => ∀ n, x = some n → n < k
  | ⟨.build .., x⟩ => ∀ n, x = .ok n → n < k
  | ⟨.create _, x⟩ => ∀ n, x = .ok n → n < k
  | ⟨.registry _ .layers, ls⟩ => ∀ l ∈ ls, l.source < k
  | _ => True

/-- Only sources below a bound are asked for snapshots, or are those of layers that are published.
The bound never gets less. -/
def existing : Discipline Nat where
  lawful k a := (∀ n, a = .snapshot n → n < k) ∧
    ∀ r new, a = .registry r (.setLayers new) → ∀ l ∈ new, l.source < k
  after k f k' := k ≤ k' ∧ f.Names k'
  ready _ := True
  grown k k' := k ≤ k'

theorem passes_existing : existing.Passes :=
  ⟨fun k _ => Nat.le_refl k, fun _ _ _ _ => trivial, fun _ _ _ => Nat.le_trans⟩

/-- Where there are so many sources, a task asks only sources that are there. -/
def AsksAmong (k : Nat) (t : Task α) : Prop := Heeds existing t k fun _ k' => k ≤ k'

theorem asksAmong_done (a : α) : AsksAmong k (.done a : Task α) := Nat.le_refl k

theorem AsksAmong.bind {t : Task α} {f : α → Task β} (ht : AsksAmong k t)
    (hf : ∀ a k', k ≤ k' → AsksAmong k' (f a)) : AsksAmong k (t.bind f) :=
  Heeds.andThen ht fun a k' hk => (hf a k' hk).mono fun _ _ => Nat.le_trans hk

/-- An action, and what follows on what it tells of sources. -/
theorem asksAmong_act_bind {f : a.Answer → Task β} (ha : existing.lawful k a)
    (hf : ∀ answer k', k ≤ k' → Fact.Names k' ⟨a, answer⟩ → AsksAmong k' (f answer)) :
    AsksAmong k ((act a).bind f) :=
  ⟨ha, fun answer k' ⟨hk, hnames⟩ =>
    (hf answer k' hk hnames).mono fun _ _ => Nat.le_trans hk⟩

theorem asksAmong_act (ha : existing.lawful k a) : AsksAmong k (act a) :=
  ⟨ha, fun _ _ h => h.1⟩

theorem asksAmong_run (script : Script) : AsksAmong k (run script) :=
  passes_existing.run script k trivial

/-- A task may be carried out where there are more sources. -/
theorem Heeds.of_le {t : Task α} (hk : k ≤ k') (ht : Heeds existing t k fun _ _ => True) :
    Heeds existing t k' fun _ _ => True := by
  cases t with
  | done a => trivial
  | step step next =>
    cases step with
    | act a =>
      obtain ⟨⟨hsnapshot, hset⟩, hnext⟩ := ht
      refine ⟨⟨fun n heq => Nat.lt_of_lt_of_le (hsnapshot n heq) hk,
        fun r new heq l hl => Nat.lt_of_lt_of_le (hset r new heq l hl) hk⟩, ?_⟩
      exact fun answer k'' ⟨hk', hnames⟩ => hnext answer k'' ⟨Nat.le_trans hk hk', hnames⟩
    | run script => exact ⟨trivial, fun k'' hk' => ht.2 k'' (Nat.le_trans hk hk')⟩

/-! ### What commands are made of -/

/-- Actions that neither ask for a snapshot nor publish layers. -/
def Action.isIdle : Action → Bool
  | .snapshot _ | .registry _ (.setLayers _) => false
  | _ => true

theorem lawful_of_isIdle (ha : a.isIdle = true) : existing.lawful k a := by
  refine ⟨fun n heq => ?_, fun r new heq => ?_⟩ <;> (subst heq; cases ha)

theorem governs_of_isIdle (ha : a.isIdle = true) : existing.Governs (act a) :=
  fun _ _ => asksAmong_act (lawful_of_isIdle ha)

theorem sequential_existing : Sequential fun _ t => existing.Governs t := passes_existing.sequential

theorem governs_consult (key : String) : ∀ ls : List Layer, existing.Governs (consult key ls)
  | [] => sequential_existing.done _
  | l :: ls => by
    refine sequential_existing.bind (sequential_existing.bind (governs_of_isIdle rfl) fun _ =>
      sequential_existing.bind (passes_existing.run _) fun _ => sequential_existing.done _) ?_
    rintro (e | _ | value)
    · exact sequential_existing.bind (governs_of_isIdle rfl) fun _ =>
        sequential_existing.bind (governs_consult key ls) fun _ => sequential_existing.done _
    · exact governs_consult key ls
    · exact sequential_existing.done _

theorem governs_reading (r : RegistryId) (key : String) : existing.Governs (r.read key) := by
  rw [RegistryId.read]
  split
  · exact sequential_existing.done _
  · refine sequential_existing.bind (governs_of_isIdle rfl) ?_
    rintro (_ | reading)
    · refine sequential_existing.bind (governs_of_isIdle rfl) fun epoch =>
        sequential_existing.bind (governs_of_isIdle rfl) fun ls =>
          sequential_existing.bind (governs_consult key ls) ?_
      rintro ⟨x, isDegraded⟩
      cases isDegraded with
      | true => exact sequential_existing.done _
      | false => exact governs_of_isIdle rfl
    · exact sequential_existing.done _

theorem governs_notify (r : RegistryId) (changes : List Change) :
    existing.Governs (r.notify changes) :=
  sequential_existing.forAll fun _ _ => sequential_existing.bind (governs_of_isIdle rfl) fun _ =>
    sequential_existing.forAll fun _ _ =>
      sequential_existing.bind (governs_of_isIdle rfl) fun script => passes_existing.run script

/-! ### Operations -/

theorem asksAmong_ask {b : RegistryAction} (hb : (Action.registry r b).isIdle = true) :
    AsksAmong k (ask r b) :=
  asksAmong_act (lawful_of_isIdle hb)

theorem asksAmong_takeSnapshot (hn : n < k) : AsksAmong k (takeSnapshot n) := by
  refine asksAmong_act_bind ⟨fun m heq => ?_, nofun⟩ fun _ _ _ _ =>
    (asksAmong_run _).bind fun _ _ _ => asksAmong_done _
  cases heq
  exact hn

theorem asksAmong_takeSnapshots : ∀ {ls : List Layer} {k : Nat}, (∀ l ∈ ls, l.source < k) →
    AsksAmong k (takeSnapshots ls)
  | [], _, _ => asksAmong_done _
  | l :: ls, k, hls => by
    obtain ⟨hl, hls⟩ := List.forall_mem_cons.1 hls
    rw [takeSnapshots_cons]
    split
    · refine AsksAmong.bind ?_ fun _ k' hk => (asksAmong_takeSnapshots fun l' hl' =>
        Nat.lt_of_lt_of_le (hls l' hl') hk).bind fun _ _ _ => asksAmong_done _
      refine (asksAmong_takeSnapshot hl).bind ?_
      rintro (e | t) k' -
      · exact (asksAmong_act (lawful_of_isIdle rfl)).bind fun _ _ _ => asksAmong_done _
      · exact asksAmong_done _
    · exact asksAmong_takeSnapshots hls

theorem governs_recording (r : RegistryId) (taken : List (Layer × Option Snapshot)) :
    existing.Governs (r.record taken) := by
  refine sequential_existing.forAll fun t _ => ?_
  cases t.2 with
  | none => exact sequential_existing.done _
  | some s => exact governs_of_isIdle rfl

/-- A refresh asks the sources of the layers that it has read. -/
theorem governs_refresh (r : RegistryId) : existing.Governs r.refresh := by
  rw [refresh_eq]
  refine sequential_existing.bind (fun k _ => ?_) fun x =>
    sequential_existing.bind (governs_notify r x.2) fun _ => sequential_existing.done _
  refine (asksAmong_ask rfl).bind fun _ _ _ => (asksAmong_ask rfl).bind fun _ _ _ =>
    AsksAmong.bind ?_ fun _ _ _ => (asksAmong_ask rfl).bind fun _ _ _ =>
      (asksAmong_ask rfl).bind fun _ _ _ => asksAmong_done _
  refine asksAmong_act_bind (lawful_of_isIdle rfl) fun ls k' _ hls => ?_
  refine (asksAmong_takeSnapshots hls).bind fun taken _ _ =>
    AsksAmong.bind (governs_recording r taken _ trivial) fun _ _ _ =>
      (asksAmong_ask rfl).bind fun _ _ _ => asksAmong_done _

theorem asksAmong_evictFor (keys : List String) (view : View) (isComplete : Bool) :
    AsksAmong k (r.evictFor keys view isComplete) := by
  refine AsksAmong.bind ?_ fun _ _ _ => ?_
  · split
    · exact asksAmong_done _
    · exact asksAmong_ask rfl
  · split
    · exact asksAmong_done _
    · exact asksAmong_ask rfl

theorem asksAmong_insertLayer {old : List Layer} (hn : n < k) (hold : ∀ l ∈ old, l.source < k)
    (name : String) (isMutable : Bool) (priority : Int) :
    AsksAmong k (r.insertLayer old n name isMutable priority) := by
  rw [insertLayer_eq]
  refine AsksAmong.bind ((asksAmong_takeSnapshot hn).bind ?_) fun x k₁ hk₁ =>
    (asksAmong_ask rfl).bind fun seq k₂ hk₂ => asksAmong_act_bind ⟨nofun, ?_⟩ fun _ _ _ _ =>
      (asksAmong_evictFor _ _ _).bind fun _ _ _ => asksAmong_done _
  · rintro (e | t) k' -
    · exact (asksAmong_act (lawful_of_isIdle rfl)).bind fun _ _ _ => asksAmong_done _
    · exact asksAmong_done _
  · rintro _ new ⟨⟩ l hl
    have hk := Nat.le_trans hk₁ hk₂
    rcases Layer.mem_insert.1 hl with rfl | hl
    · exact Nat.lt_of_lt_of_le hn hk
    · exact Nat.lt_of_lt_of_le (hold l hl) hk

/-- A registration asks the source that it is for. -/
theorem asksAmong_register (hn : n < k) (r : RegistryId) (priority : Int) :
    AsksAmong k (r.register n priority) := by
  rw [register_eq]
  refine AsksAmong.bind ?_ fun x k' _ => ?_
  · refine (asksAmong_act (lawful_of_isIdle rfl)).bind fun ⟨name, isMutable⟩ k₁ hk₁ =>
      (asksAmong_ask rfl).bind fun _ k₂ hk₂ => asksAmong_act_bind (lawful_of_isIdle rfl)
        fun old k₃ hk₃ hold => ?_
    split
    · exact (asksAmong_act (lawful_of_isIdle rfl)).bind fun _ _ _ =>
        (asksAmong_ask rfl).bind fun _ _ _ => asksAmong_done _
    · refine (asksAmong_ask rfl).bind fun _ k₄ hk₄ => AsksAmong.bind ?_ fun _ _ _ =>
        (asksAmong_ask rfl).bind fun _ _ _ => (asksAmong_ask rfl).bind fun _ _ _ =>
          asksAmong_done _
      have hk := Nat.le_trans hk₁ (Nat.le_trans hk₂ (Nat.le_trans hk₃ hk₄))
      exact asksAmong_insertLayer (Nat.lt_of_lt_of_le hn hk)
        (fun l hl => Nat.lt_of_lt_of_le (hold l hl) hk₄) _ _ _
  · cases x with
    | error e => exact asksAmong_done _
    | ok changes =>
      exact AsksAmong.bind (governs_notify r changes k' trivial) fun _ _ _ => asksAmong_done _

/-! ### Commands -/

theorem course_existing : Course fun _ _ t => existing.Governs t := by
  have hpassive : ∀ a : Action, a.isPassive = true → existing.Governs (act a) := by
    intro a ha
    refine governs_of_isIdle ?_
    cases a with
    | registry r b => cases b <;> first | rfl | cases ha
    | snapshot => cases ha
    | _ => rfl
  exact
    { sequential := fun _ => sequential_existing
      passive := fun a ha _ => hpassive a ha
      withBinding := sequential_existing.withBinding hpassive
      read := governs_reading
      bindingRead := fun b _ =>
        sequential_existing.bindingRead hpassive (governs_reading b.registry b.key)
      invalidate := fun r key => governs_of_isIdle rfl
      refresh := governs_refresh }

theorem asksAmong_registerCurrent (hn : n < k) (priority : Int) (outcome : Outcome) :
    AsksAmong k (Command.registerCurrent n priority outcome) :=
  (asksAmong_act (lawful_of_isIdle rfl)).bind fun r _ hk =>
    (asksAmong_register (Nat.lt_of_lt_of_le hn hk) r priority).bind fun _ _ _ => asksAmong_done _

theorem asksAmong_withSource {id : String} {f : SourceId → Task Outcome}
    (hf : ∀ n k', n < k' → AsksAmong k' (f n)) : AsksAmong k (Command.withSource id f) := by
  refine asksAmong_act_bind (lawful_of_isIdle rfl) ?_
  rintro (_ | n) k' - hn
  · exact asksAmong_done _
  · exact hf n k' (hn n rfl)

theorem asksAmong_makeSource (id : String) (order : SourceOrder Command) (priority : Option Int) :
    AsksAmong k (Command.makeSource id order priority) := by
  refine asksAmong_act_bind (lawful_of_isIdle rfl) ?_
  rintro (e | n) k₁ - hn
  · exact asksAmong_done _
  · refine (asksAmong_act (lawful_of_isIdle rfl)).bind fun ⟨name, isMutable⟩ k₂ hk => ?_
    cases priority with
    | none => exact asksAmong_done _
    | some priority =>
      exact asksAmong_registerCurrent (Nat.lt_of_lt_of_le (hn n rfl) hk) priority _

theorem governs_addLayers (r : RegistryId) : ∀ ls : List Config.Layer,
    existing.Governs (r.addLayers ls)
  | [] => sequential_existing.done _
  | l :: ls => fun k _ => by
    refine asksAmong_act_bind (lawful_of_isIdle rfl) ?_
    rintro (e | n) k₁ - hn
    · exact asksAmong_done _
    · refine (asksAmong_register (hn n rfl) r l.priority).bind ?_
      rintro (e | u) k₂ -
      · exact asksAmong_done _
      · exact governs_addLayers r ls k₂ trivial

theorem governs_replaceRegistry (form : Config.Notation) (text : String) :
    existing.Governs (Command.replaceRegistry form text) := by
  rw [Command.replaceRegistry]
  split
  · exact sequential_existing.done _
  · refine sequential_existing.bind ?_ ?_
    · rw [RegistryId.build]
      split
      · exact sequential_existing.done _
      · refine sequential_existing.bind (governs_of_isIdle rfl) fun r =>
          sequential_existing.bind (governs_addLayers r _) ?_
        rintro (e | u) <;> exact sequential_existing.done _
    · rintro (e | r)
      · exact sequential_existing.done _
      · exact sequential_existing.bind (governs_of_isIdle rfl) fun _ => sequential_existing.done _

/-- All scripts ask only sources that are there. -/
theorem governs_existing (script : Script) : existing.Governs script.task := by
  refine course_existing.script [] fun c _ => course_existing.task [] (fun hown => ?_) ?_
  · cases c with
    | deed d => exact governs_of_isIdle rfl
    | make id order priority => exact fun k _ => asksAmong_makeSource id order priority
    | snapshot id =>
      exact fun k _ => asksAmong_withSource fun n k' hn =>
        (asksAmong_takeSnapshot hn).bind fun _ _ _ => asksAmong_done _
    | register id priority =>
      exact fun k _ => asksAmong_withSource fun n k' hn => asksAmong_registerCurrent hn priority _
    | configure form text => exact governs_replaceRegistry form text
    | _ => simp [Command.isOwn] at hown
  · exact fun id key _ n => sequential_existing.bind (governs_of_isIdle rfl) fun _ =>
      sequential_existing.bind (passes_existing.run _) fun _ => sequential_existing.done _

/-! ### Sessions -/

namespace Session

/-- The sources of all layers are there. -/
def IsStaffed (s : Session) : Prop := ∀ r, ∀ l ∈ s.layersOf r, l.source < s.sources.length

/-- Sources never go. -/
theorem length_sources_take {answer : a.Answer} (h : s.take a = some (answer, s')) :
    s.sources.length ≤ s'.sources.length := by
  have hdata : ∀ {s'}, SameButData s s' → s.sources.length ≤ s'.sources.length := fun hsame => by
    have hlength := congrArg List.length hsame.nature
    rw [List.length_map, List.length_map] at hlength
    exact Nat.le_of_eq hlength.symm
  cases a with
  | registry r b =>
    obtain ⟨reg, reg', -, -, rfl⟩ := exists_registry_take h
    exact Nat.le_refl _
  | lookup n key =>
    have hsame := sameButData_lookup s n key
    rw [Option.some.inj h] at hsame
    exact hdata hsame
  | snapshot n =>
    have hsame := sameButData_snapshot s n
    rw [Option.some.inj h] at hsame
    exact hdata hsame
  | build id order =>
    have hsources := (sameBase_build s id order).sources
    simp only [take] at h
    rcases hb : s.build id order with ⟨e | p, s₀⟩ <;> rw [hb] at h hsources <;> cases h
    · exact Nat.le_of_eq (congrArg List.length hsources).symm
    · rw [← show s₀.sources = s.sources from hsources, addSource, List.length_append]
      exact Nat.le_add_right _ _
  | create t =>
    simp only [take] at h
    split at h <;> cases h
    · exact Nat.le_refl _
    · rw [List.length_append]
      exact Nat.le_add_right _ _
  | deliver n x =>
    simp only [take, Option.some.injEq, deliver] at h
    split at h <;> (cases h; exact Nat.le_refl _)
  | deed d =>
    obtain rfl : (s.carryOut d).2 = s' := congrArg Prod.snd (Option.some.inj h)
    cases hquiet : d.isQuiet with
    | true => exact Nat.le_of_eq (congrArg List.length (sameBase_carryOut hquiet).sources).symm
    | false =>
      by_cases hwrites : d.isWriting = true
      · rcases exists_setSource_carryOut (s := s) hwrites with heq | ⟨n, p, p', -, -, heq⟩
        · exact Nat.le_of_eq (by rw [heq])
        · exact Nat.le_of_eq (by rw [heq, setSource, List.length_set])
      · cases d with
        | subscribe => exact Nat.le_refl _
        | follow id =>
          simp only [carryOut, follow]
          split <;> exact Nat.le_refl _
        | put | remove | extend | script => exact absurd rfl hwrites
        | _ => cases hquiet
  | addRegistry | use =>
    cases h
    exact Nat.le_refl _
  | _ => exact Nat.le_of_eq (congrArg List.length (sameBase_passive rfl h).sources).symm

/-- What tells of sources tells of sources that are there. -/
theorem names_take {answer : a.Answer} (hs : s.IsStaffed) (h : s.take a = some (answer, s')) :
    Fact.Names s'.sources.length ⟨a, answer⟩ := by
  cases a with
  | registry r b =>
    obtain ⟨reg, reg', hreg, hask, rfl⟩ := exists_registry_take h
    cases b with
    | layers =>
      cases hask
      have hlayers := hs r
      rw [layersOf_eq hreg] at hlayers
      exact hlayers
    | _ => trivial
  | source id =>
    cases h
    intro n hn
    obtain ⟨⟨_, p⟩, hp, rfl⟩ := Option.map_eq_some_iff.1 hn
    exact (List.getElem?_eq_some_iff.1 (sources_of_source? hp)).1
  | build id order =>
    simp only [take] at h
    rcases hb : s.build id order with ⟨e | p, s₀⟩ <;> rw [hb] at h <;> cases h
    · rintro n ⟨⟩
    · rintro n ⟨⟩
      rw [addSource, List.length_append]
      exact Nat.lt_succ_self _
  | create t =>
    simp only [take] at h
    split at h <;> cases h
    · rintro n ⟨⟩
    · rintro n ⟨⟩
      rw [List.length_append]
      exact Nat.lt_succ_self _
  | _ => trivial

/-- Layers that are published bring the only sources that layers did not have before. -/
theorem IsStaffed.take {answer : a.Answer} (hs : s.IsStaffed)
    (hlawful : existing.lawful s.sources.length a) (h : s.take a = some (answer, s')) :
    s'.IsStaffed := by
  intro r l hl
  refine Nat.lt_of_lt_of_le ?_ (length_sources_take h)
  by_cases hset : ∃ new, a = .registry r (.setLayers new)
  · obtain ⟨new, rfl⟩ := hset
    obtain ⟨reg, reg', hreg, hask, rfl⟩ := exists_registry_take h
    cases hask
    rw [layersOf_eq (registries_setRegistry hreg _)] at hl
    exact hlawful.2 r new rfl l hl
  · push Not at hset
    have hmem := List.mem_map_of_mem (f := Layer.source) hl
    rw [map_layersOf_take (fun _ _ => rfl) hset h] at hmem
    obtain ⟨l', hl', heq⟩ := List.mem_map.1 hmem
    rw [← heq]
    exact hs r l' hl'

end Session

/-! ### Runs -/

namespace Machine

variable {ms : List Moment} {m m' : Machine Unit}

/-- The sources of all layers are there, and tasks ask only sources that are there. -/
structure Peopled (m : Machine Unit) : Prop where
  session : m.session.IsStaffed
  tasks : ∀ t ∈ m.tasks, Heeds existing t m.session.sources.length fun _ _ => True

theorem Peopled.of_scripts {scripts : List Script} (hs : s.IsStaffed) :
    Peopled ⟨s, scripts.map Script.task⟩ := by
  refine ⟨hs, fun t ht => ?_⟩
  obtain ⟨script, -, rfl⟩ := List.mem_map.1 ht
  exact (governs_existing script _ trivial).mono fun _ _ _ => trivial

/-- What one step asks for a snapshot is there. -/
theorem Peopled.step {step : TaskStep} (h : m.Peopled)
    (hpend : (m.tasks[i]?).bind Task.pending? = some step) (hadv : m.advance i = some m') :
    m'.Peopled ∧ ∀ n, step = .act (.snapshot n) → n < m.session.sources.length := by
  obtain ⟨s, tasks⟩ := m
  rcases advance_cases hpend hadv with ⟨a, answer, next, s', ht, rfl, htake, rfl⟩ |
    ⟨script, next, ht, rfl, rfl⟩
  · obtain ⟨hlawful, hnext⟩ := h.tasks _ (List.mem_of_getElem? ht)
    have hle := Session.length_sources_take htake
    refine ⟨⟨h.session.take hlawful htake, fun u hu => ?_⟩, ?_⟩
    · rcases List.mem_or_eq_of_mem_set hu with hu | rfl
      · exact (h.tasks u hu).of_le hle
      · exact hnext answer _ ⟨hle, Session.names_take h.session htake⟩
    · rintro n ⟨⟩
      exact hlawful.1 n rfl
  · -- The script comes in front of what the task does next.
    refine ⟨⟨h.session, fun u hu => ?_⟩, nofun⟩
    rcases List.mem_or_eq_of_mem_set hu with hu | rfl
    · exact h.tasks u hu
    · exact (governs_existing script _ trivial).andThen fun _ k hk =>
        (h.tasks _ (List.mem_of_getElem? ht)).2 k hk

/-- Whoever takes turns, the sources that are asked for snapshots are there. -/
theorem Peopled.run (h : m.Peopled) (hrun : m.Run ms m') :
    m'.Peopled ∧ ∀ e ∈ ms, ∀ n, e.step = .act (.snapshot n) → n < e.session.sources.length := by
  induction hrun with
  | start => exact ⟨h, fun _ he => absurd he List.not_mem_nil⟩
  | step _ hpend hadv ih =>
    obtain ⟨hpeopled, hasked⟩ := ih
    obtain ⟨hpeopled', hstep⟩ := hpeopled.step hpend hadv
    exact ⟨hpeopled', List.forall_mem_cons.2 ⟨hstep, hasked⟩⟩

end Machine

end Strata
