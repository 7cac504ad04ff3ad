import Strata.Proofs.Bytes
import Strata.Proofs.Disciplines
import Strata.Proofs.Telling

/-!
What is told of a change is what it changes. A refresh and a registration look only at keys in which
the snapshots of single layers differ, and no other key can resolve differently. Main statement: in
every run of scripts, what a refresh reports and what either of them calls listeners for are the
keys that resolve differently through the recorded snapshots when the registry is given back than
they did when it was locked (`difference_of_change`).
-/

namespace Strata

open Machine RegistryId Session

variable {α : Type} {i : Nat} {r : RegistryId} {ls : List Layer}

/-! ### Differences of views -/

/-- Changes are told of in increasing order of the bytes of their keys, no key twice. -/
theorem ascending_changesBetween (keys : Keys) (old new : View) :
    (changesBetween keys old new).Pairwise fun c c' => utf8 c.1 < utf8 c'.1 := by
  rw [changesBetween, List.pairwise_filterMap]
  refine (List.pairwise_map.2 keys.ascending).imp fun {k k'} hlt c hc c' hc' => ?_
  split at hc <;> cases hc
  split at hc' <;> cases hc'
  exact utf8_lt_of_lt hlt

/-- What is told of a change of a registry: all keys that resolve differently through the recorded
snapshots after it, in increasing order of their bytes, each with what it resolves to then. -/
structure IsDifference (changes : List Change) (r : RegistryId) (s s' : Session) : Prop where
  mem : ∀ key x, (key, x) ∈ changes ↔
    s.resolution r key ≠ s'.resolution r key ∧ s'.resolution r key = some x
  ascending : changes.Pairwise fun c c' => utf8 c.1 < utf8 c'.1

/-- The layers of a registry. -/
def Session.HasLayers (s : Session) (r : RegistryId) (ls : List Layer) : Prop :=
  ∃ reg, s.registries[r]? = some reg ∧ reg.layers = ls

theorem Session.HasLayers.resolution {s : Session} (h : s.HasLayers r ls) (key : String) :
    s.resolution r key = some ((View.recorded ls).resolve key) := by
  obtain ⟨reg, hreg, rfl⟩ := h
  exact resolution_of_registry hreg

theorem isDifference_of {s s' : Session} {new : List Layer} {keys : Keys}
    (h : s.HasLayers r ls) (h' : s'.HasLayers r new)
    (hkeys : ∀ key, (View.recorded ls).resolve key ≠ (View.recorded new).resolve key →
      (key, (View.recorded new).resolve key) ∈
        changesBetween keys (View.recorded ls) (View.recorded new)) :
    IsDifference (changesBetween keys (View.recorded ls) (View.recorded new)) r s s' := by
  refine ⟨fun key x => ?_, ascending_changesBetween _ _ _⟩
  rw [h.resolution, h'.resolution, Ne, Option.some.injEq, Option.some.injEq]
  constructor
  · intro hmem
    obtain ⟨-, hne, rfl⟩ := mem_changesBetween.1 hmem
    exact ⟨hne, rfl⟩
  · rintro ⟨hne, rfl⟩
    exact hkeys key hne

/-! ### Layers that nobody else changes -/

namespace Machine

variable {ms part before after : List Moment} {m m₁ m₂ m' : Machine Unit}

/-- What is known of the layers of a registry is true. -/
theorem Sound.hasLayers_of_hold (h : Sound ms m) (hheld : hold r (history i ms) = some (some ls)) :
    m.session.HasLayers r ls := by
  obtain ⟨reg, hreg, -, hls⟩ := h.held i r _ hheld
  exact ⟨reg, hreg, hls ls rfl⟩

/-- A registry that a task has locked keeps its layers while that task does nothing. -/
theorem Sound.hasLayers_of_idle (h : Sound ms m) (hrun : m.Run part m') (hidle : Idle i part)
    {x : Option (List Layer)} (hheld : hold r (history i ms) = some x)
    (hls : m.session.HasLayers r ls) : m'.session.HasLayers r ls := by
  induction hrun with
  | start => exact hls
  | @step part m₁ m₂ j step hrun hpend hadv ih =>
    have hidle' : Idle i part := fun e he => hidle e (List.mem_cons_of_mem _ he)
    obtain ⟨reg, hreg, hlayers⟩ := ih hidle'
    have hj : j ≠ i := hidle _ List.mem_cons_self
    have hsound := h.run_append hrun
    rw [← hidle'.history_append ms] at hheld
    obtain ⟨s, tasks⟩ := m₁
    rcases advance_cases hpend hadv with ⟨a, answer, next, s', ht, rfl, htake, rfl⟩ |
      ⟨script, next, -, -, rfl⟩
    · by_cases ha : ∀ r b, a ≠ .registry r b
      · obtain ⟨listeners, hreg'⟩ := (sameRegistries_take ha htake).kept r reg hreg
        exact ⟨_, hreg', hlayers⟩
      · push Not at ha
        obtain ⟨r', b, rfl⟩ := ha
        obtain ⟨reg₁, reg₂, hreg₁, hask, rfl⟩ := exists_registry_take htake
        by_cases hr : r = r'
        · subst hr
          obtain rfl := Option.some.inj (hreg₁.symm.trans hreg)
          have hkeeps := hsound.keepsLayers_of_ne (hsound.contract ht).1 hj hreg hask hheld
          exact ⟨reg₂, registries_setRegistry hreg reg₂,
            (Registry.take_keepsLayers hkeeps hask).1.trans hlayers⟩
        · exact ⟨reg, (registries_setRegistry_of_ne hr).trans hreg, hlayers⟩
    · exact ⟨reg, hreg, hlayers⟩

/-- Most actions on a registry change no layers. -/
theorem Takes.hasLayers {b : RegistryAction} {x : b.Answer}
    (h : m.Takes i (.registry r b) x before after m₁ m₂ m') (hset : ∀ ls, b ≠ .setLayers ls)
    (hrecord : ∀ seq t, b ≠ .record seq t) (hls : m₁.session.HasLayers r ls) :
    m₂.session.HasLayers r ls := by
  obtain ⟨reg, hreg, hlayers⟩ := hls
  obtain ⟨reg₁, reg₂, hreg₁, hask, hs⟩ := exists_registry_take h.take
  obtain rfl := Option.some.inj (hreg₁.symm.trans hreg)
  rw [hs]
  exact ⟨reg₂, registries_setRegistry hreg₁ reg₂,
    (Registry.layers_take hset hrecord hask).trans hlayers⟩

/-- After an action on a registry that a task has locked by then, the layers stay as they are. -/
theorem Takes.hasLayers_after {b : RegistryAction} {x : b.Answer} {y : Option (List Layer)}
    (ht : m.Takes i (.registry r b) x before after m₁ m₂ m') (h : Sound ms m)
    (hset : ∀ ls, b ≠ .setLayers ls) (hrecord : ∀ seq t, b ≠ .record seq t)
    (hheld : hold r (⟨.registry r b, x⟩ :: history i ms) = some y)
    (hls : m₁.session.HasLayers r ls) : m'.session.HasLayers r ls := by
  have hsound := (h.run_append ht.waits).run_append ht.step
  refine hsound.hasLayers_of_idle ht.rests ht.idle_after (x := y) ?_
    (ht.hasLayers hset hrecord hls)
  rw [List.cons_append, List.nil_append, history_cons_act ht.take, ht.idle_before.history_append]
  exact hheld

/-- A task locks a registry. -/
theorem carried_lock {u : Unit} (h : Sound ms m) (hc : m.Carries i (ask r .lock) part u m') :
    ∃ waiting resting σ ls, part = resting ++ ⟨i, .act (.registry r .lock), σ⟩ :: waiting ∧
      Idle i waiting ∧ σ.HasLayers r ls ∧ m'.session.HasLayers r ls ∧
      hold r (history i (part ++ ms)) = some none := by
  obtain ⟨before, after, m₁, m₂, rfl, ht⟩ := carries_act hc
  obtain ⟨reg, -, hreg, -⟩ := exists_registry_take ht.take
  have hheld : hold r (⟨.registry r .lock, u⟩ :: history i ms) = some none := by
    rw [hold_cons, know_self]
    rfl
  exact ⟨before, after, m₁.session, reg.layers, rfl, ht.idle_before, ⟨reg, hreg, rfl⟩,
    ht.hasLayers_after h (fun _ heq => by cases heq) (fun _ _ heq => by cases heq) hheld
      ⟨reg, hreg, rfl⟩, by rw [ht.history_eq, hheld]⟩

/-- A task that has locked a registry takes an action on it. -/
theorem carried_ask {b : RegistryAction} {x : b.Answer} {y : Option (List Layer)}
    (h : Sound ms m) (hb : b.keepsLayers = true) (hheld : hold r (history i ms) = some y)
    (hls : m.session.HasLayers r ls) (hc : m.Carries i (ask r b) part x m') :
    (∃ reg reg' : Registry, reg.layers = ls ∧ reg.IsNumbered ∧ reg.take b = some (x, reg')) ∧
      m'.session.HasLayers r ls ∧ hold r (history i (part ++ ms)) = b.know x (some y) ∧
      IsClear (history i (part ++ ms)) := by
  obtain ⟨before, after, m₁, m₂, rfl, ht⟩ := carries_act hc
  obtain ⟨reg, hreg, hlayers⟩ := h.hasLayers_of_idle ht.waits ht.idle_before hheld hls
  obtain ⟨reg₁, reg', hreg₁, hask, -⟩ := exists_registry_take ht.take
  obtain rfl := Option.some.inj (hreg₁.symm.trans hreg)
  have hnumbered := (h.run_append ht.waits).numbered reg₁ (List.mem_of_getElem? hreg)
  have hknow : hold r (⟨.registry r b, x⟩ :: history i ms) = b.know x (some y) := by
    rw [hold_cons, know_self, hheld]
  obtain ⟨z, hz⟩ : ∃ z, b.know x (some y) = some z := by
    cases b with
    | unlock => cases hb
    | _ => exact ⟨_, rfl⟩
  have hne : ∀ c : RegistryAction, c.keepsLayers = false → b ≠ c := by
    rintro c hc rfl
    rw [hc] at hb
    cases hb
  refine ⟨⟨reg₁, reg', hlayers, hnumbered, hask⟩, ?_, by rw [ht.history_eq, hknow], ?_⟩
  · exact ht.hasLayers_after h (fun _ => hne _ rfl) (fun _ _ => hne _ rfl) (hknow.trans hz)
      ⟨reg₁, hreg, hlayers⟩
  · rw [ht.history_eq]
    refine isClear_cons fun _ new heq => hne (.setLayers new) rfl ?_
    cases heq
    rfl

/-- A task ends a change and gives the registry back. -/
theorem carried_end {c d : α} (h : Sound ms m) (hheld : hold r (history i ms) = some (some ls))
    (hc : m.Carries i ((ask r .endChange).bind fun _ => (ask r .unlock).bind fun _ => .done c)
      part d m') : d = c ∧ ∃ within resting σ',
      part = resting ++ ⟨i, .act (.registry r .unlock), σ'⟩ :: within ∧ Idle i resting ∧
      σ'.HasLayers r ls := by
  obtain ⟨_, m₁, p, q, rfl, hend, hc⟩ := carries_bind hc
  obtain ⟨_, rfl, hunlock⟩ := carries_map hc
  obtain ⟨before, after, n₁, n₂, rfl, ht⟩ := carries_act hend
  obtain ⟨before', after', n₁', n₂', rfl, ht'⟩ := carries_act hunlock
  refine ⟨rfl, before' ++ (after ++ ⟨i, .act (.registry r .endChange), n₁.session⟩ :: before),
    after', n₁'.session, by simp, ht'.idle_after, ?_⟩
  have hsound := (h.run_append hend.run).run_append ht'.waits
  refine hsound.hasLayers_of_hold (i := i) ?_
  rw [ht'.idle_before.history_append, ht.history_eq ms, hold_cons, know_self]
  exact hheld

/-! ### Changes -/

/-- In a part of a run a task changes a registry: it does nothing to registries before it locks that
one, and nothing at all after it has given it back. What is told of the change is the difference
between the two sessions. -/
def Tells (i : Nat) (r : RegistryId) (changes : List Change) (part : List Moment) : Prop :=
  ∃ waiting within resting σ σ', part = resting ++ ⟨i, .act (.registry r .unlock), σ'⟩ ::
      (within ++ ⟨i, .act (.registry r .lock), σ⟩ :: waiting) ∧
    (∀ e ∈ waiting, e.task = i → ∀ r' b, e.step ≠ .act (.registry r' b)) ∧ Idle i resting ∧
    IsDifference changes r σ σ'

/-- What is told of a refresh, and what it reports, are the keys that it changes. -/
theorem Sound.tells_renewal {x : RefreshReport × List Change} (h : Sound ms m)
    (hc : m.Carries i r.renewal part x m') :
    x.1.changed = x.2.map (·.1) ∧ Tells i r x.2 part := by
  obtain ⟨_, m₁, p₁, q₁, rfl, hlock, hc⟩ := carries_bind hc
  obtain ⟨_, m₂, p₂, q₂, rfl, hbegin, hc⟩ := carries_bind hc
  obtain ⟨y, m₄, p₄, q₄, rfl, hrenew, hend⟩ := carries_bind hc
  obtain ⟨ls, m₃, p₃, q₃, rfl, hlayers, hfrom⟩ := carries_bind hrenew
  obtain ⟨waiting, after, σ, ls₀, rfl, hwaiting, hσ, hls₁, hheld₁⟩ := carried_lock h hlock
  have h₁ := h.run_append hlock.run
  obtain ⟨-, hls₂, hheld₂, -⟩ := carried_ask h₁ rfl hheld₁ hls₁ hbegin
  have h₂ := h₁.run_append hbegin.run
  obtain ⟨⟨reg, _, rfl, hnumbered, hask⟩, -, hheld₃, hclear⟩ :=
    carried_ask h₂ rfl hheld₂ hls₂ hlayers
  cases hask
  have h₃ := h₂.run_append hlayers.run
  obtain ⟨-, taken, hmap, hheld, hchanged, hchanges⟩ :=
    h₃.carried hfrom (obeys_renewFrom hclear hheld₃ hnumbered.seqs)
  obtain ⟨heq, within, resting, σ', rfl, hresting, hσ'⟩ :=
    carried_end (h₃.run_append hfrom.run) hheld hend
  have huniq : ∀ l ∈ reg.layers, ∀ t ∈ taken, t.1.seq = l.seq → t.1 = l := by
    intro l hl t ht hseq
    have htl : t.1 ∈ reg.layers.filter (·.isMutable) := by
      rw [← hmap]
      exact List.mem_map_of_mem ht
    exact List.inj_on_of_nodup_map hnumbered.seqs (List.mem_filter.1 htl).1 hl hseq
  rw [heq]
  refine ⟨hchanged, waiting, within ++ (q₃ ++ (p₃ ++ (p₂ ++ after))), resting, σ, σ', by simp,
    fun e he hi => absurd hi (hwaiting e he), hresting, ?_⟩
  rw [hchanges]
  exact isDifference_of hσ hσ' fun key hne => View.mem_changes_of_recordAll huniq hne

/-- What is told of a registration are the keys that it changes. -/
theorem Sound.tells_registration {n : SourceId} {priority : Int} {changes : List Change}
    (h : Sound ms m) (hc : m.Carries i (r.registration n priority) part (.ok changes) m') :
    Tells i r changes part := by
  obtain ⟨⟨name, isMutable⟩, m₀, p₀, q₀, rfl, hdescribe, hc⟩ := carries_bind hc
  obtain ⟨_, m₁, p₁, q₁, rfl, hlock, hc⟩ := carries_bind hc
  obtain ⟨old, m₂, p₂, q₂, rfl, hlayers, hc⟩ := carries_bind hc
  obtain ⟨before₀, after₀, n₀, n₀', rfl, ht₀⟩ := carries_act hdescribe
  have h₀ := h.run_append hdescribe.run
  obtain ⟨waiting, after, σ, ls₀, rfl, hwaiting, hσ, hls₁, hheld₁⟩ := carried_lock h₀ hlock
  have h₁ := h₀.run_append hlock.run
  obtain ⟨⟨reg, _, rfl, -, hask⟩, hls₂, hheld₂, -⟩ := carried_ask h₁ rfl hheld₁ hls₁ hlayers
  cases hask
  have h₂ := h₁.run_append hlayers.run
  split at hc
  · -- the name is taken, and the registration fails
    obtain ⟨_, m₃, p₃, q₃, rfl, -, hc⟩ := carries_bind hc
    obtain ⟨_, heq, -⟩ := carries_map hc
    cases heq
  · rename_i hnew
    obtain ⟨_, m₃, p₃, q₃, rfl, hbegin, hc⟩ := carries_bind hc
    obtain ⟨changes', m₄, p₄, q₄, rfl, hinsert, hend⟩ := carries_bind hc
    obtain ⟨-, -, hheld₃, hclear⟩ := carried_ask h₂ rfl hheld₂ hls₂ hbegin
    have h₃ := h₂.run_append hbegin.run
    have hnames : ∀ l ∈ reg.layers, l.name ≠ name := by simpa using hnew
    have hobeys := obeys_insertLayer n isMutable priority ((Grown.refl hclear).within hheld₃)
      hheld₃ hnames
    obtain ⟨-, l, hheld, hchanges⟩ := h₃.carried hinsert hobeys
    obtain ⟨heq, within, resting, σ', rfl, hresting, hσ'⟩ :=
      carried_end (h₃.run_append hinsert.run) hheld hend
    cases heq
    refine ⟨waiting ++ (after₀ ++ ⟨i, .act (.describe n), n₀.session⟩ :: before₀),
      within ++ (p₄ ++ (p₃ ++ (p₂ ++ after))), resting, σ, σ', by simp, ?_, hresting, ?_⟩
    · intro e he hi r' b
      rcases List.mem_append.1 he with he | he
      · exact absurd hi (hwaiting e he)
      rcases List.mem_append.1 he with he | he
      · exact absurd hi (ht₀.idle_after e he)
      rcases List.mem_cons.1 he with rfl | he
      · exact fun heq => by cases heq
      · exact absurd hi (ht₀.idle_before e he)
    · rw [hchanges]
      exact isDifference_of hσ hσ' fun key hne => View.mem_changes_of_insert hne

/-! ### Refreshes and registrations -/

/-- A refresh changes the registry and then calls listeners. -/
theorem carries_refresh {report : RefreshReport} (hc : m.Carries i r.refresh part report m') :
    ∃ x m₁ changing notifying, part = notifying ++ changing ∧ report = x.1 ∧
      m.Carries i r.renewal changing x m₁ ∧ m₁.Carries i (r.notify x.2) notifying () m' := by
  rw [refresh_eq] at hc
  obtain ⟨x, m₁, p, q, rfl, hrenewal, hc⟩ := carries_bind hc
  obtain ⟨_, heq, hnotify⟩ := carries_map hc
  exact ⟨x, m₁, p, q, rfl, heq, hrenewal, hnotify⟩

/-- A registration that succeeds changes the registry and then calls listeners. -/
theorem carries_register {n : SourceId} {priority : Int}
    (hc : m.Carries i (r.register n priority) part (.ok ()) m') :
    ∃ changes m₁ changing notifying, part = notifying ++ changing ∧
      m.Carries i (r.registration n priority) changing (.ok changes) m₁ ∧
      m₁.Carries i (r.notify changes) notifying () m' := by
  rw [register_eq] at hc
  obtain ⟨y, m₁, p, q, rfl, hregistration, hc⟩ := carries_bind hc
  cases y with
  | error e =>
    obtain ⟨heq, -⟩ := hc.becomes.of_done
    cases heq
  | ok changes =>
    obtain ⟨_, -, hnotify⟩ := carries_map hc
    exact ⟨changes, m₁, p, q, rfl, hregistration, hnotify⟩

/-- A registration that fails does so before it changes anything. -/
theorem carries_register_error {n : SourceId} {priority : Int} {e : Failure}
    (hc : m.Carries i (r.register n priority) part (.error e) m') :
    m.Carries i (r.registration n priority) part (.error e) m' := by
  rw [register_eq] at hc
  obtain ⟨y, m₁, p, q, rfl, hregistration, hc⟩ := carries_bind hc
  cases y with
  | error e' =>
    obtain ⟨heq, hidle⟩ := hc.becomes.of_done
    cases heq
    exact hregistration.wait hc.run hidle
  | ok changes =>
    obtain ⟨_, heq, -⟩ := carries_map hc
    cases heq

/-- In a part of a run a task changes a registry, tells what it has changed, and then calls the
listeners of those keys. -/
def Announces (m : Machine Unit) (i : Nat) (r : RegistryId) (changes : List Change)
    (part : List Moment) (m' : Machine Unit) : Prop :=
  ∃ m₁ changing notifying, part = notifying ++ changing ∧ m.Run changing m₁ ∧
    Tells i r changes changing ∧ m₁.Carries i (r.notify changes) notifying () m'

theorem Sound.announces_refresh {report : RefreshReport} (h : Sound ms m)
    (hc : m.Carries i r.refresh part report m') :
    ∃ changes, report.changed = changes.map (·.1) ∧ m.Announces i r changes part m' := by
  obtain ⟨x, m₁, changing, notifying, rfl, rfl, hrenewal, hnotify⟩ := carries_refresh hc
  obtain ⟨hchanged, htells⟩ := h.tells_renewal hrenewal
  exact ⟨x.2, hchanged, m₁, changing, notifying, rfl, hrenewal.run, htells, hnotify⟩

theorem Sound.announces_register {n : SourceId} {priority : Int} (h : Sound ms m)
    (hc : m.Carries i (r.register n priority) part (.ok ()) m') :
    ∃ changes, m.Announces i r changes part m' := by
  obtain ⟨changes, m₁, changing, notifying, rfl, hregistration, hnotify⟩ := carries_register hc
  exact ⟨changes, m₁, changing, notifying, rfl, hregistration.run,
    h.tells_registration hregistration, hnotify⟩

end Machine

/-- Tasks that run scripts take turns in any order, one action at a time. Whenever one of them has
refreshed a registry or registered a source, whichever sources have failed and whatever snapshots
were taken, it has told exactly of the keys that resolve differently through the recorded snapshots
when it gives the registry back than they did when it locked it: the report of a refresh has these
keys, and their listeners are called with what they resolve to. -/
theorem difference_of_change {s : Session} {scripts : List Script} {earlier part : List Moment}
    {m m' : Machine Unit} {i : Nat} {r : RegistryId} (hs : ∀ reg ∈ s.registries, reg.IsNumbered)
    (hrun : Machine.Run ⟨s, scripts.map Script.task⟩ earlier m) :
    (∀ report, m.Carries i r.refresh part report m' → ∃ changes,
      report.changed = changes.map (·.1) ∧ m.Announces i r changes part m') ∧
    (∀ n priority, m.Carries i (r.register n priority) part (.ok ()) m' → ∃ changes,
      m.Announces i r changes part m') :=
  ⟨fun _ hc => (sound_run hs hrun).announces_refresh hc,
    fun _ _ hc => (sound_run hs hrun).announces_register hc⟩

/-- A map that was written to since its snapshot was recorded, and one that is not registered. -/
def twoSources : Session where
  sources := [
    .builtin (.map { name := "a", isMutable := true, values := .ofList [("k", "2"), ("n", "1")] }),
    .builtin (.map { name := "b", isMutable := true, values := .ofList [("n", "1")] })]
  registries := [{
    layers := [⟨0, "a", true, 0, 0, .ofList [("k", "1"), ("n", "1")]⟩]
    nextSeq := 1 }]
  ids := { sources := .ofList [("a", 0), ("b", 1)] }

/-- A task that registers the second map in front of the first one, and a task that refreshes. -/
def registerAndRefresh : List Script := [⟨"x", [.register "b" (-1)]⟩, ⟨"y", [.refresh]⟩]

/-- A key is told of if another source provides the same value, and if its value is another one. -/
theorem difference_of_change_of_maps : ∃ earlier part m m' earlier' part' m₁ m₁' report changes
    changes',
    Machine.Run ⟨twoSources, registerAndRefresh.map Script.task⟩ earlier m ∧
    m.Carries 0 (RegistryId.register 0 1 (-1)) part (.ok ()) m' ∧
    m.Announces 0 0 changes part m' ∧
    Machine.Run ⟨twoSources, registerAndRefresh.map Script.task⟩ earlier' m₁ ∧
    m₁.Carries 1 (RegistryId.refresh 0) part' report m₁' ∧ report.changed = ["k"] ∧
    report.changed = changes'.map (·.1) ∧ m₁.Announces 1 0 changes' part' m₁' := by
  let start : Machine Unit := ⟨twoSources, registerAndRefresh.map Script.task⟩
  let finish (owner name : String) (o : Outcome) : Task Unit := act (.finished owner name o)
  let x := start.follow [] [0, 0]
  let y := x.2.follow [] (List.replicate 11 0)
  let z := start.follow [] [1]
  let w := z.2.follow [] (List.replicate 9 1)
  have hx : start.Run x.1 x.2 := Machine.run_follow _ .start
  have hy : x.2.Run y.1 y.2 := Machine.run_follow _ .start
  have hz : start.Run z.1 z.2 := Machine.run_follow _ .start
  have hw : z.2.Run w.1 w.2 := Machine.run_follow _ .start
  have hx₀ : x.2.tasks[0]? = some ((((RegistryId.register 0 1 (-1)).bind fun y =>
      .done (.ofExcept (fun _ => .nothing) y)).bind (finish "x" "register")).bind
        fun _ => .done ()) := rfl
  have hz₁ : z.2.tasks[1]? = some ((((RegistryId.refresh 0).bind fun report =>
      .done (.report report)).bind (finish "y" "refresh")).bind fun _ => .done ()) := rfl
  rw [Program.bind_assoc, Program.bind_assoc] at hx₀ hz₁
  have hregistered : (((RegistryId.register 0 1 (-1)).after 0 y.1).bind Task.result?).map
      (·.toOption) = some (some ()) := by decide +kernel
  have hrefreshed : (((RegistryId.refresh 0).after 1 w.1).bind Task.result?).map (·.changed) =
      some ["k"] := by decide +kernel
  obtain ⟨result, hresult, hok⟩ := Option.map_eq_some_iff.1 hregistered
  obtain ⟨report, hreport, hchanged⟩ := Option.map_eq_some_iff.1 hrefreshed
  obtain rfl : result = .ok () := by
    cases result with
    | error e => cases hok
    | ok u => rfl
  have hnumbered : ∀ reg ∈ start.session.registries, reg.IsNumbered := by
    intro reg hreg
    rw [List.mem_singleton.1 hreg]
    exact ⟨by simp, by simp, by simp⟩
  have hregister := hy.carries hx₀ hresult
  have hrefresh := hw.carries hz₁ hreport
  obtain ⟨changes, hannounces⟩ := (difference_of_change hnumbered hx).2 _ _ hregister
  obtain ⟨changes', hchanged', hannounces'⟩ := (difference_of_change hnumbered hz).1 _ hrefresh
  exact ⟨_, _, _, _, _, _, _, _, report, changes, changes', hx, hregister, hannounces, hz,
    hrefresh, hchanged, hchanged', hannounces'⟩

end Strata
