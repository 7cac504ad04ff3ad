import Strata.Proofs.Existence
import Strata.Proofs.Sections

/-!
Where the recorded snapshots of layers come from. What is recorded of a layer was entered by a task
that had asked the source of the layer for a snapshot, when it put the layer in or renewed it; it is
what the source answered then, or the source failed and the layer was just put in (`explained_run`).
A source that has answered goes on holding its answer until it is written to or a snapshot of it
brings other data (`contents_of_leads`). So a layer whose source answers otherwise than recorded
failed when it was put in, or its source has changed since (`cause_of_lookup`).
-/

namespace Strata

open Machine

variable {s s₁ s' : Session} {i : Nat} {n : SourceId} {r : RegistryId} {l : Layer}
  {t : Snapshot} {ms ms' : List Moment} {a : Action} {answer : a.Answer}

/-! ### How the data of sources change -/

/-- At a moment a source comes to hold other data: it is written to, or a snapshot of it succeeds
and brings them. -/
inductive Machine.Moment.Alters (n : SourceId) : Moment → Prop
  | deed {i : Nat} {s : Session} {d : Deed Command} :
    (s.carryOut d).2.contents n ≠ s.contents n → Alters n ⟨i, .act (.deed d), s⟩
  | snapshot {i : Nat} {s : Session} {t : Snapshot} :
    (s.snapshot n).1.1 = .ok t → s.contents n ≠ some t → Alters n ⟨i, .act (.snapshot n), s⟩

/-- Actions that are not deeds and ask no source for data. -/
def Action.keepsData : Action → Bool
  | .deed _ | .lookup .. | .snapshot _ => false
  | _ => true

namespace Session

theorem properties_build (s : Session) (id : String) (order : SourceOrder Command) :
    (s.build id order).2.host.properties = s.host.properties := by
  cases order <;> simp only [build] <;> repeat' split
  all_goals rfl

/-- Only deeds and asking sources change what a source that is there holds. -/
theorem contents_take (ha : a.keepsData = true) (h : s.take a = some (answer, s'))
    (hn : n < s.sources.length) : s'.contents n = s.contents n := by
  cases a with
  | deed | lookup | snapshot => cases ha
  | registry r b =>
    obtain ⟨reg, reg', -, -, rfl⟩ := exists_registry_take h
    rfl
  | build id order =>
    have hsources := (sameBase_build s id order).sources
    have hproperties := s.properties_build id order
    simp only [take] at h
    rcases hb : s.build id order with ⟨e | p, s₀⟩ <;> rw [hb] at h hsources hproperties <;> cases h
    · exact contents_eq_of_properties (congrArg (·[n]?) hsources) hproperties
    · refine contents_eq_of_properties ?_ hproperties
      have hsources : s₀.sources = s.sources := hsources
      rw [addSource, List.getElem?_append_left (hsources ▸ hn), hsources]
  | create t =>
    simp only [take] at h
    split at h <;> cases h
    · rfl
    · exact contents_eq_of_properties (List.getElem?_append_left hn) rfl
  | deliver m x =>
    simp only [take, Option.some.injEq, deliver] at h
    split at h <;> (cases h; rfl)
  | beginRefresh x =>
    cases x with
    | scheduler m | watch m =>
      simp only [take, Option.some.injEq, beginRefresh] at h
      split at h
      · cases h
        rfl
      · split at h <;> (cases h; rfl)
  | endRefresh x =>
    cases h
    cases x <;> rfl
  | _ =>
    cases h
    rfl

/-- A source keeps its data at a moment unless they are altered. -/
theorem contents_or_alters (hn : n < s.sources.length) (ht : s.contents n = some t)
    (h : s.take a = some (answer, s')) :
    s'.contents n = some t ∨ Moment.Alters n ⟨i, .act a, s⟩ := by
  cases a with
  | deed d =>
    obtain rfl : (s.carryOut d).2 = s' := congrArg Prod.snd (Option.some.inj h)
    by_cases hsame : (s.carryOut d).2.contents n = s.contents n
    · exact .inl (hsame.trans ht)
    · exact .inr (.deed hsame)
  | lookup m key =>
    obtain rfl : (s.lookup m key).2 = s' := congrArg Prod.snd (Option.some.inj h)
    exact .inl (contents_lookup ht)
  | snapshot m =>
    obtain rfl : (s.snapshot m).2 = s' := congrArg Prod.snd (Option.some.inj h)
    by_cases hm : n = m
    · subst hm
      cases hx : (s.snapshot n).1.1 with
      | error e => exact .inl ((contents_snapshot_error hx).trans ht)
      | ok t' =>
        by_cases heq : s.contents n = some t'
        · exact .inl ((contents_snapshot_ok hx).trans (heq.symm.trans ht))
        · exact .inr (.snapshot hx heq)
    · exact .inl ((contents_snapshot_of_ne hm).trans ht)
  | _ => exact .inl ((contents_take rfl h hn).trans ht)

end Session

/-! ### Moments that follow on each other -/

/-- Moments lead from a session to another one. -/
inductive Leads (s : Session) : List Moment → Session → Prop
  | start : Leads s [] s
  | act {ms : List Moment} {s₁ s₂ : Session} {i : Nat} {a : Action} {answer : a.Answer} :
    Leads s ms s₁ → s₁.take a = some (answer, s₂) → Leads s (⟨i, .act a, s₁⟩ :: ms) s₂
  | run {ms : List Moment} {s₁ : Session} {i : Nat} {script : Script} :
    Leads s ms s₁ → Leads s (⟨i, .run script, s₁⟩ :: ms) s₁

theorem Leads.trans (h : Leads s ms s₁) (h' : Leads s₁ ms' s') : Leads s (ms' ++ ms) s' := by
  induction h' with
  | start => exact h
  | act _ htake ih => exact .act ih htake
  | run _ ih => exact .run ih

theorem Machine.Run.leads {m m' : Machine Unit} (hrun : m.Run ms m') :
    Leads m.session ms m'.session := by
  induction hrun with
  | start => exact .start
  | @step _ m₁ _ _ _ _ hpend hadv ih =>
    obtain ⟨s, tasks⟩ := m₁
    rcases advance_cases hpend hadv with ⟨a, answer, next, s', -, rfl, htake, rfl⟩ |
      ⟨script, next, -, rfl, rfl⟩
    · exact .act ih htake
    · exact .run ih

/-- An action in the midst of moments is taken, and what comes later follows on it. -/
theorem Leads.after (h : Leads s (ms' ++ ⟨i, .act a, s₁⟩ :: ms) s') :
    ∃ answer s₂, s₁.take a = some (answer, s₂) ∧ Leads s₂ ms' s' := by
  induction ms' generalizing s' with
  | nil =>
    cases h with
    | act _ htake => exact ⟨_, _, htake, .start⟩
  | cons e ms' ih =>
    cases h with
    | act h htake =>
      obtain ⟨answer, s₂, htake₁, hlater⟩ := ih h
      exact ⟨answer, s₂, htake₁, .act hlater htake⟩
    | run h =>
      obtain ⟨answer, s₂, htake₁, hlater⟩ := ih h
      exact ⟨answer, s₂, htake₁, .run hlater⟩

/-- A source that is there keeps its data unless they are altered at some moment. -/
theorem contents_of_leads (h : Leads s ms s') (hn : n < s.sources.length)
    (ht : s.contents n = some t) : n < s'.sources.length ∧
      (s'.contents n = some t ∨ ∃ c ∈ ms, c.Alters n) := by
  induction h with
  | start => exact ⟨hn, .inl ht⟩
  | act _ htake ih =>
    obtain ⟨hn₁, hkept⟩ := ih
    refine ⟨Nat.lt_of_lt_of_le hn₁ (Session.length_sources_take htake), ?_⟩
    rcases hkept with ht₁ | ⟨c, hc, halters⟩
    · exact (Session.contents_or_alters hn₁ ht₁ htake).imp_right fun halters =>
        ⟨_, List.mem_cons_self, halters⟩
    · exact .inr ⟨c, List.mem_cons_of_mem _ hc, halters⟩
  | run _ ih =>
    exact ⟨ih.1, ih.2.imp_right fun ⟨c, hc, halters⟩ => ⟨c, List.mem_cons_of_mem _ hc, halters⟩⟩

/-! ### How layers are recorded -/

namespace Machine

/-- At a moment a layer is put among those of a registry. -/
def Moment.PutsIn (r : RegistryId) (l : Layer) (e : Moment) : Prop :=
  ∃ new, e.step = .act (.registry r (.setLayers new)) ∧ l ∈ new ∧ l ∉ e.session.layersOf r

/-- At a moment there is recorded of a layer what is recorded of it. -/
def Moment.Renews (r : RegistryId) (l : Layer) (e : Moment) : Prop :=
  e.step = .act (.registry r (.record l.seq l.recorded))

/-- A task asks the source of a layer for a snapshot. Then, without having locked the registry
again, it puts the layer in or renews it; and nothing is recorded of the layer later on. -/
structure Entered (r : RegistryId) (l : Layer) (asked : Moment) (between : List Moment) (e : Moment)
    (later : List Moment) : Prop where
  asks : asked.step = .act (.snapshot l.source)
  source : l.source < asked.session.sources.length
  task : e.task = asked.task
  enters : e.PutsIn r l ∨ e.Renews r l
  locked : ∀ c ∈ between, c.task = asked.task → c.step ≠ .act (.registry r .lock)
  last : ∀ c ∈ later, ∀ t, c.step ≠ .act (.registry r (.record l.seq t))

/-- A layer is recorded as its source answered when it was asked, or the source failed and the layer
was just put in. -/
def Explained (r : RegistryId) (l : Layer) (past : List Moment) : Prop :=
  ∃ later e between asked before, past = later ++ e :: (between ++ asked :: before) ∧
    Entered r l asked between e later ∧
    ((asked.session.snapshot l.source).1.1 = .ok l.recorded ∨
      e.PutsIn r l ∧ ∃ error, (asked.session.snapshot l.source).1.1 = .error error)

/-- The source of a layer failed when the layer was put in, and nothing has been recorded of the
layer since. -/
def FailedFirst (r : RegistryId) (l : Layer) (past : List Moment) : Prop :=
  ∃ later e between asked before error, past = later ++ e :: (between ++ asked :: before) ∧
    Entered r l asked between e later ∧ e.PutsIn r l ∧
    (asked.session.snapshot l.source).1.1 = .error error

/-- The source of a layer has come to hold other data since it answered what is recorded of the
layer. -/
def Outdated (r : RegistryId) (l : Layer) (past : List Moment) : Prop :=
  ∃ later e between asked before, past = later ++ e :: (between ++ asked :: before) ∧
    Entered r l asked between e later ∧ (asked.session.snapshot l.source).1.1 = .ok l.recorded ∧
    ∃ c ∈ later ++ e :: between, c.Alters l.source

theorem Explained.cons {c : Moment} {past : List Moment} (h : Explained r l past)
    (hc : ∀ t, c.step ≠ .act (.registry r (.record l.seq t))) : Explained r l (c :: past) := by
  obtain ⟨later, e, between, asked, before, rfl, hentered, hanswer⟩ := h
  exact ⟨c :: later, e, between, asked, before, rfl,
    { hentered with last := List.forall_mem_cons.2 ⟨hc, hentered.last⟩ }, hanswer⟩

/-- A task was answered when it asked a source for a snapshot, and it has not locked a registry
since. -/
def HasAsked (r : RegistryId) (i : Nat) (n : SourceId) (x : Except Failure Snapshot)
    (ms : List Moment) : Prop :=
  ∃ between asked before, ms = between ++ asked :: before ∧ asked.task = i ∧
    asked.step = .act (.snapshot n) ∧ (asked.session.snapshot n).1.1 = x ∧
    ∀ c ∈ between, c.task = i → c.step ≠ .act (.registry r .lock)

theorem HasAsked.cons {x : Except Failure Snapshot} {c : Moment} (h : HasAsked r i n x ms)
    (hc : c.task = i → c.step ≠ .act (.registry r .lock)) : HasAsked r i n x (c :: ms) := by
  obtain ⟨between, asked, before, rfl, htask, hstep, hx, hlocked⟩ := h
  exact ⟨c :: between, asked, before, rfl, htask, hstep, hx, List.forall_mem_cons.2 ⟨hc, hlocked⟩⟩

/-- What a task was answered since it locked a registry, it was answered at a moment since then. -/
theorem hasAsked_of_since {m₀ m : Machine Unit} {x : Except Failure Snapshot} {script : Script}
    (hrun : m₀.Run ms m) (h : (⟨.snapshot n, (x, script)⟩ : Fact) ∈ since r (history i ms)) :
    HasAsked r i n x ms := by
  induction hrun with
  | start => exact absurd h List.not_mem_nil
  | @step ms m₁ m₂ j step _ hpend hadv ih =>
    obtain ⟨s, tasks⟩ := m₁
    rcases advance_cases hpend hadv with ⟨a, answer, next, s', -, rfl, htake, rfl⟩ |
      ⟨script', next, -, rfl, rfl⟩
    -- Only what the task does itself can be what it was answered, or the lock.
    · by_cases hj : j = i
      · subst hj
        rw [history_cons_act htake, since] at h
        split at h
        · exact absurd h List.not_mem_nil
        · rename_i hlock
          rcases List.mem_cons.1 h with hfact | h
          · cases hfact
            exact ⟨[], _, ms, rfl, rfl, rfl, congrArg (·.1.1) (Option.some.inj htake), by simp⟩
          · refine (ih h).cons fun _ heq => hlock ?_
            cases heq
            simp [Fact.isLock]
      · rw [history_cons_of_ne hj] at h
        exact (ih h).cons fun heq => absurd heq hj
    · rw [history_cons_run] at h
      exact (ih h).cons fun _ heq => by cases heq

section Step

variable {m₀ : Machine Unit} {tasks : List (Task Unit)} {earlier : List Moment}

/-- What a task enters of a layer is what it was answered when it asked the source of the layer,
which was there. -/
theorem exists_entered {m : Machine Unit} {x : Except Failure Snapshot} {script : Script}
    (hpeopled : m₀.Peopled) (hrun : m₀.Run ms m)
    (h : (⟨.snapshot l.source, (x, script)⟩ : Fact) ∈ since r (history i ms)) {step : TaskStep}
    (henters : Moment.PutsIn r l ⟨i, step, s⟩ ∨ Moment.Renews r l ⟨i, step, s⟩) :
    ∃ between asked before, ms = between ++ asked :: before ∧
      Entered r l asked between ⟨i, step, s⟩ [] ∧ (asked.session.snapshot l.source).1.1 = x := by
  obtain ⟨between, asked, before, rfl, rfl, hstep, hx, hlocked⟩ := hasAsked_of_since hrun h
  have hmem : asked ∈ between ++ asked :: before := List.mem_append_right _ List.mem_cons_self
  have hthere := (hpeopled.run hrun).2 asked hmem l.source hstep
  exact ⟨between, asked, before, rfl, ⟨hstep, hthere, rfl, henters, hlocked, by simp⟩, hx⟩

/-- A layer that is put in is recorded as its source answered, or its source failed. -/
theorem explained_of_putsIn (hpeopled : m₀.Peopled) (hrun : m₀.Run ms ⟨s, tasks⟩)
    (hsnapped : Snapped r (history i ms) l) {step : TaskStep}
    (hput : Moment.PutsIn r l ⟨i, step, s⟩) :
    Explained r l (⟨i, step, s⟩ :: (ms ++ earlier)) := by
  obtain ⟨x, script, hfact, hx⟩ := hsnapped
  obtain ⟨between, asked, before, rfl, hentered, rfl⟩ :=
    exists_entered hpeopled hrun hfact (.inl hput)
  refine ⟨[], _, between, asked, before ++ earlier, by simp, hentered, ?_⟩
  cases hanswer : (asked.session.snapshot l.source).1.1 with
  | error e => exact .inr ⟨hput, e, rfl⟩
  | ok t => exact .inl (by rw [hx t hanswer])

/-- A layer that is renewed is recorded as its source answered. -/
theorem explained_of_renews (hpeopled : m₀.Peopled) (hrun : m₀.Run ms ⟨s, tasks⟩)
    (htaken : Taken r (history i ms) l (some l.recorded)) {step : TaskStep}
    (hrenews : Moment.Renews r l ⟨i, step, s⟩) :
    Explained r l (⟨i, step, s⟩ :: (ms ++ earlier)) := by
  obtain ⟨x, script, hfact, hx⟩ := htaken
  obtain ⟨between, asked, before, rfl, hentered, rfl⟩ :=
    exists_entered hpeopled hrun hfact (.inr hrenews)
  refine ⟨[], _, between, asked, before ++ earlier, by simp, hentered, .inl ?_⟩
  cases hanswer : (asked.session.snapshot l.source).1.1 with
  | error e =>
    rw [hanswer] at hx
    cases hx
  | ok t =>
    rw [hanswer] at hx
    rw [← show t = l.recorded from Option.some.inj hx]

/-- When layers are published, one of them is new, and what is recorded of it is explained. -/
theorem explained_setLayers (hpeopled : m₀.Peopled) (hrun : m₀.Run ms ⟨s, tasks⟩)
    {new : List Layer} {u : Unit} {reg reg' : Registry}
    (hturn : Turn r ms i (.registry r (.setLayers new)) u s s' reg reg')
    (hs : ∀ l ∈ reg.layers, Explained r l (ms ++ earlier)) :
    ∀ l ∈ reg'.layers,
      Explained r l (⟨i, .act (.registry r (.setLayers new)), s⟩ :: (ms ++ earlier)) := by
  intro l hl
  obtain ⟨l₀, ls, hold, rfl, hnew, -, hsnapped⟩ := hturn.lawful
  obtain rfl := hturn.layers_of_hold hold
  cases hturn.take_registry
  rcases Layer.mem_insert.1 hl with rfl | hl
  · refine explained_of_putsIn hpeopled hrun hsnapped
      ⟨_, rfl, Layer.mem_insert.2 (.inl rfl), ?_⟩
    -- Its number is above those of the layers that were there, so it is none of them.
    rw [Session.layersOf_eq hturn.before]
    exact fun hmem => Nat.lt_irrefl _ (hnew l hmem).2
  · exact (hs l hl).cons fun _ heq => by cases heq

/-- When a snapshot is recorded, what is recorded of the layer is explained anew. -/
theorem explained_record (hpeopled : m₀.Peopled) (hrun : m₀.Run ms ⟨s, tasks⟩)
    (hsound : Sound ms ⟨s, tasks⟩) {seq : Nat} {t : Snapshot} {u : Unit} {reg reg' : Registry}
    (hturn : Turn r ms i (.registry r (.record seq t)) u s s' reg reg')
    (hs : ∀ l ∈ reg.layers, Explained r l (ms ++ earlier)) :
    ∀ l ∈ reg'.layers,
      Explained r l (⟨i, .act (.registry r (.record seq t)), s⟩ :: (ms ++ earlier)) := by
  intro l hl
  obtain ⟨l₁, ls, hold, hl₁, rfl, -, htaken⟩ := hturn.lawful
  obtain rfl := hturn.layers_of_hold hold
  cases hturn.take_registry
  obtain ⟨l₀, hl₀, rfl⟩ := List.mem_map.1 hl
  by_cases hseq : l₀.seq = l₁.seq
  · -- The layer is found by its number, which no other layer has.
    have hnumbered := hsound.numbered reg (List.mem_of_getElem? hturn.before)
    obtain rfl := List.inj_on_of_nodup_map hnumbered.seqs hl₀ hl₁ hseq
    rw [if_pos rfl]
    exact explained_of_renews hpeopled hrun htaken rfl
  · rw [if_neg hseq]
    refine (hs l₀ hl₀).cons fun t' heq => hseq ?_
    simp only [TaskStep.act.injEq, Action.registry.injEq, RegistryAction.record.injEq] at heq
    exact heq.2.1.symm

/-- What is recorded of layers goes on being explained. -/
theorem explained_act (hpeopled : m₀.Peopled) (hrun : m₀.Run ms ⟨s, tasks⟩)
    (hsound : Sound ms ⟨s, tasks⟩) {next : a.Answer → Task Unit}
    (ht : tasks[i]? = some (.step (.act a) next)) (htake : s.take a = some (answer, s'))
    (hs : ∀ l ∈ s.layersOf r, Explained r l (ms ++ earlier)) :
    ∀ l ∈ s'.layersOf r, Explained r l (⟨i, .act a, s⟩ :: (ms ++ earlier)) := by
  cases hreg : s.registries[r]? with
  | none =>
    rw [Session.layersOf]
    cases hreg' : s'.registries[r]? with
    | none => exact fun l hl => absurd hl List.not_mem_nil
    | some reg' =>
      obtain ⟨-, rfl⟩ := Session.eq_empty_of_take htake hreg hreg'
      exact fun l hl => absurd hl List.not_mem_nil
  | some reg =>
    obtain ⟨reg', hturn⟩ := exists_turn hsound ht htake hreg
    rw [Session.layersOf_eq hturn.after]
    rw [Session.layersOf_eq hreg] at hs
    by_cases hset : ∃ new, a = .registry r (.setLayers new)
    · obtain ⟨_, rfl⟩ := hset
      exact explained_setLayers hpeopled hrun hturn hs
    by_cases hrecord : ∃ seq t, a = .registry r (.record seq t)
    · obtain ⟨_, _, rfl⟩ := hrecord
      exact explained_record hpeopled hrun hsound hturn hs
    push Not at hset hrecord
    have hsame : reg'.layers = reg.layers := by
      rcases hturn.cases with ⟨-, hlayers, -⟩ | ⟨b, x, heq, hask⟩
      · exact hlayers
      · cases heq
        exact Registry.layers_take (fun new heq => hset new (by rw [heq]))
          (fun seq t heq => hrecord seq t (by rw [heq])) hask
    rw [hsame]
    refine fun l hl => (hs l hl).cons fun t heq => ?_
    cases heq
    exact hrecord _ _ rfl

/-- How the layers of registries are recorded is explained, whoever takes turns. -/
theorem explained_run {m : Machine Unit} (hsound : Sound [] m₀) (hpeopled : m₀.Peopled)
    (hs : ∀ r, ∀ l ∈ m₀.session.layersOf r, Explained r l earlier) (hrun : m₀.Run ms m) :
    ∀ r, ∀ l ∈ m.session.layersOf r, Explained r l (ms ++ earlier) := by
  induction hrun with
  | start => exact hs
  | @step ms m₁ m₂ i step hrun hpend hadv ih =>
    have hsound₁ := hsound.run_append hrun
    rw [List.append_nil] at hsound₁
    obtain ⟨s, tasks⟩ := m₁
    intro r
    rcases advance_cases hpend hadv with ⟨a, answer, next, s', ht, rfl, htake, rfl⟩ |
      ⟨script, next, -, rfl, rfl⟩
    · exact explained_act hpeopled hrun hsound₁ ht htake (ih r)
    · exact fun l hl => (ih r l hl).cons fun _ heq => by cases heq

end Step

/-! ### Layers whose sources answer otherwise -/

/-- A layer that is explained, and whose source answers otherwise than recorded, failed when it
was put in, or its source has come to hold other data since. -/
theorem cause_of_lookup {key : String} {past : List Moment} (hpast : Leads s past s')
    (hs' : s'.IsPlain) (hl : Explained r l past)
    (hlookup : (s'.lookup l.source key).1.1 ≠ .ok (l.recorded.get? key)) :
    FailedFirst r l past ∨ Outdated r l past := by
  obtain ⟨later, e, between, asked, before, rfl, hentered, hok | ⟨hput, error, herror⟩⟩ := hl
  · obtain ⟨j, step, s₁⟩ := asked
    obtain rfl := hentered.asks
    have hpast' := hpast
    rw [← List.cons_append, ← List.append_assoc] at hpast'
    obtain ⟨answer, s₂, htake, hlater⟩ := hpast'.after
    obtain rfl : (s₁.snapshot l.source).2 = s₂ := congrArg Prod.snd (Option.some.inj htake)
    -- From what was asked on the source holds what it has answered, unless its data are altered.
    have hlength := Nat.lt_of_lt_of_le hentered.source (Session.length_sources_take htake)
    have hkept := contents_of_leads hlater hlength (Session.contents_snapshot_ok hok)
    rcases hkept.2 with hsame | halters
    · refine absurd ?_ hlookup
      rw [Session.lookup_of_contents hs'.isBuiltin hsame]
    · exact .inr ⟨later, e, between, _, before, rfl, hentered, hok, halters⟩
  · exact .inl ⟨later, e, between, asked, before, error, rfl, hentered, hput, herror⟩

end Machine

end Strata
